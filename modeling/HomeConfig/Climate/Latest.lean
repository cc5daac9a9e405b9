import HomeConfig.Climate.Nodes

/-! Whether the controller shows the latest reading. -/
namespace Climate

open Arduino MySensors Dht

namespace Carrier

variable {σ ι : Type} (c : Carrier σ ι)

/-- After a valid reading the last message sent for the child carries it. -/
def ShowsLatest (s : Session σ) (i : ι) (t : Session σ) : Prop :=
  ∀ r, c.valid s.node i = some r →
    ∃ m, t.log.getLast? = some m ∧ m.getFloat = .ofBits (c.convert r)

/-- The first valid reading is not zero. -/
def StartsNonzero (s : Session σ) (i : ι) (_ : Session σ) : Prop :=
  s.values = [] → ∀ r, c.valid s.node i = some r → Single.ofBits r ≠ .finite 0

/-- Before the first valid reading nothing was sent, and afterwards the last message
carries the remembered reading. -/
structure Shown (s : Session σ) : Prop where
  remembers : c.Remembers s
  nothing : s.values = [] → s.log = []
  last : s.values ≠ [] → ∃ m, s.log.getLast? = some m ∧
    m.getFloat = .ofBits (c.convert (c.channel s.node).last)

variable {c} {s t : Session σ} {i : ι} {r : BitVec 32}

theorem shown_start : c.Shown c.start :=
  ⟨remembers_start, fun _ => rfl, fun h => absurd rfl h⟩

theorem shown_session (hs : c.Shown s) (hr : c.ShowsLatest s i t) (ht : c.session s i = some t) :
    c.Shown t := by
  refine ⟨remembers_session hs.remembers ht, ?_, ?_⟩
  · intro hnil
    cases h : c.valid s.node i with
    | none =>
      obtain ⟨hlog, hvalues, -, -⟩ := session_of_unread hs.remembers h ht
      rw [hlog]
      exact hs.nothing (hvalues ▸ hnil)
    | some r =>
      rw [(session_of_valid hs.remembers h ht).1] at hnil
      cases hnil
  · intro hne
    cases h : c.valid s.node i with
    | none =>
      obtain ⟨hlog, hvalues, -, hchannel⟩ := session_of_unread hs.remembers h ht
      rw [hlog, hchannel]
      exact hs.last (hvalues ▸ hne)
    | some r =>
      obtain ⟨m, hm, hvalue⟩ := hr r h
      refine ⟨m, hm, hvalue.trans (c.convert_congr _ _ ?_)⟩
      -- the reading is the remembered one, sent or not
      have hlast := (remembers_session hs.remembers ht).last
      rw [(session_of_valid hs.remembers h ht).1] at hlast
      exact hlast.symm

/-- A first reading that is sent is not zero: it differs from the memory. -/
theorem startsNonzero_of_due (hs : c.Remembers s) (h : c.valid s.node i = some r)
    (hdue : Due s r) : c.StartsNonzero s i t := by
  intro hnil r' hr'
  obtain rfl := Option.some.inj (h.symm.trans hr')
  have hnone : s.attempts = [] := by
    apply List.eq_nil_of_length_eq_zero
    rw [hs.aligned, hnil, List.length_nil]
  rcases hdue with hdue | hdue
  · rwa [hnil] at hdue
  · rw [hnone] at hdue
    cases hdue

/-- An unchanged reading is shown when an earlier one was. -/
theorem showsLatest_iff_of_same (hs : c.Shown s) (h : c.valid s.node i = some r)
    (hsame : Single.ofBits r = previous s.values) (hlog : t.log = s.log) :
    c.ShowsLatest s i t ↔ c.StartsNonzero s i t := by
  constructor
  · intro hshows hnil
    obtain ⟨m, hm, -⟩ := hshows r h
    rw [hlog, hs.nothing hnil] at hm
    cases hm
  · intro hstart r' hr'
    obtain rfl := Option.some.inj (h.symm.trans hr')
    have hne : s.values ≠ [] := by
      intro hnil
      refine hstart hnil r h ?_
      rw [hsame, hnil]
      rfl
    obtain ⟨m, hm, hvalue⟩ := hs.last hne
    refine ⟨m, by rw [hlog, hm], hvalue.trans (c.convert_congr _ _ ?_)⟩
    rw [hs.remembers.last, hsame]

theorem showsLatest_iff (hs : c.Shown s) (ht : c.session s i = some t) :
    c.ShowsLatest s i t ↔ c.StartsNonzero s i t := by
  cases h : c.valid s.node i with
  | none =>
    refine iff_of_true ?_ ?_
    · intro r hr
      rw [h] at hr
      cases hr
    · intro _ r hr
      rw [h] at hr
      cases hr
  | some r =>
    obtain ⟨-, hpolled⟩ := session_of_valid hs.remembers h ht
    cases hpolled with
    | sent m hdue hm hlog hattempts hchannel =>
      refine iff_of_true ?_ (startsNonzero_of_due hs.remembers h hdue)
      intro r' hr'
      obtain rfl := Option.some.inj (h.symm.trans hr')
      exact ⟨m, by rw [hlog, List.getLast?_concat], hm⟩
    | counted hdue hlog hattempts hchannel =>
      exact showsLatest_iff_of_same hs h (not_not.mp (not_or.mp hdue).1) hlog

theorem everyStep_showsLatest_iff (is : List ι) :
    Machine.EveryStep c.session c.ShowsLatest c.start is ↔
      Machine.EveryStep c.session c.StartsNonzero c.start is :=
  Machine.everyStep_congr (fun _ _ _ hs hr ht => shown_session hs hr ht)
    (fun _ _ _ hs ht => showsLatest_iff hs ht) shown_start

end Carrier

/-- In both sketches and for both quantities a run shows every valid reading exactly when
its first one is not zero. -/
theorem latest_shown_iff (nodeId : Byte) (metric : Bool) (q : Quantity) :
    (∀ es, Machine.EveryStep (garage nodeId metric q).session (garage nodeId metric q).ShowsLatest
        (garage nodeId metric q).start es ↔
      Machine.EveryStep (garage nodeId metric q).session (garage nodeId metric q).StartsNonzero
        (garage nodeId metric q).start es) ∧
    ∀ rs, Machine.EveryStep (roof nodeId metric q).session (roof nodeId metric q).ShowsLatest
        (roof nodeId metric q).start rs ↔
      Machine.EveryStep (roof nodeId metric q).session (roof nodeId metric q).StartsNonzero
        (roof nodeId metric q).start rs :=
  ⟨fun _ => Carrier.everyStep_showsLatest_iff _, fun _ => Carrier.everyStep_showsLatest_iff _⟩

/-- A first temperature of zero degrees is never sent. -/
theorem zero_not_shown :
    ¬ Machine.EveryStep (roof 42#8 true .temperature).session
        (roof 42#8 true .temperature).ShowsLatest (roof 42#8 true .temperature).start
        [⟨0#32, 0x42480000#32⟩] ∧
    ¬ Machine.EveryStep (garage 42#8 true .temperature).session
        (garage 42#8 true .temperature).ShowsLatest (garage 42#8 true .temperature).start
        [.loop ⟨0#32, 0x42480000#32, 1000⟩, .loop ⟨0#32, 0x42480000#32, 1000⟩] := by
  have hzero : Single.ofBits 0#32 = .finite 0 := by decide +kernel
  have hnan : Single.ofBits 0#32 ≠ .nan := by
    rw [hzero]
    decide
  rw [Carrier.everyStep_showsLatest_iff, Carrier.everyStep_showsLatest_iff]
  constructor
  · intro h
    obtain ⟨h, -⟩ := h _ rfl
    exact h rfl 0#32 (Carrier.valid_eq_some.mpr ⟨rfl, hnan⟩) hzero
  · intro h
    obtain ⟨-, h⟩ := h _ rfl
    obtain ⟨h, -⟩ := h _ rfl
    exact h rfl 0#32 (Carrier.valid_eq_some.mpr ⟨rfl, hnan⟩) hzero

end Climate
