import HomeConfig.Climate.Nodes

/-! How soon an unchanged reading is sent again. -/
namespace Climate

open Arduino MySensors Dht

/-! ### Readings and whether they were sent, as long as no refresh is late -/

/-- Zeros that were never sent; a value that was sent when it was new, with fewer than ten
repetitions; or zeros that were first sent as the eleventh. -/
inductive Recent : List Single → List Bool → Prop where
  | silent {k : ℕ} (hk : k ≤ 10) : Recent (List.replicate k (.finite 0)) (List.replicate k false)
  | changed {k : ℕ} {v : Single} {earlier : List Single} {before : List Bool} (hk : k ≤ 9)
      (hv : previous earlier ≠ v) :
      Recent (List.replicate (k + 1) v ++ earlier) (List.replicate k false ++ true :: before)
  | forced {k : ℕ} (hk : k ≤ 9) :
      Recent (List.replicate (k + 11) (.finite 0))
        (List.replicate k false ++ true :: List.replicate 10 false)

/-- A send is followed by ten valid readings without one. -/
def Overdue (attempts : List Bool) : Prop :=
  ∃ before, attempts = List.replicate forceUpdateNReads.toNat false ++ true :: before

/-- The ten valid readings before show the same value, and not only as the zeros since
power-up. -/
def Stale (values : List Single) (v : Single) : Prop :=
  ∃ earlier, values = List.replicate 10 v ++ earlier ∧
    ¬ (v = .finite 0 ∧ ∃ k < 10, earlier = List.replicate k (.finite 0))

variable {values : List Single} {attempts before : List Bool} {v : Single} {k : ℕ}

theorem unsent_replicate : unsent (List.replicate k false) = k := by
  simp [unsent]

theorem unsent_append : unsent (List.replicate k false ++ true :: before) = k := by
  rw [unsent, List.takeWhile_append_of_pos (by simp)]
  simp

theorem previous_replicate : previous (List.replicate k (.finite 0)) = .finite 0 := by
  cases k <;> rfl

theorem previous_append {earlier : List Single} :
    previous (List.replicate (k + 1) v ++ earlier) = v := rfl

theorem overdue_append_iff : Overdue (List.replicate k false ++ true :: before) ↔ k = 10 := by
  constructor
  · rintro ⟨before', h⟩
    have hk := congrArg unsent h
    rw [unsent_append, unsent_append] at hk
    exact hk
  · rintro rfl
    exact ⟨before, rfl⟩

theorem not_overdue_replicate : ¬ Overdue (List.replicate k false) := by
  rintro ⟨before, h⟩
  have hmem : true ∈ List.replicate k false := by
    rw [h]
    simp
  cases List.eq_of_mem_replicate hmem

theorem not_overdue_of_sent : ¬ Overdue (true :: attempts) := by
  rw [← List.nil_append (true :: attempts), ← List.replicate_zero (a := false), overdue_append_iff]
  decide

/-! Which repetitions of a value are stale, in each of the three forms. -/

theorem not_stale_silent (hk : k ≤ 9) : ¬ Stale (List.replicate k (.finite 0)) v := by
  rintro ⟨earlier, h, -⟩
  have hlen := congrArg List.length h
  simp at hlen
  omega

theorem stale_changed_iff {earlier : List Single} (hk : k ≤ 9) (hv : previous earlier ≠ v) :
    Stale (List.replicate (k + 1) v ++ earlier) v ↔ k + 1 = 10 := by
  constructor
  · rintro ⟨earlier', h, -⟩
    by_contra hk10
    -- a shorter repetition ends in another value
    obtain ⟨j, hj⟩ : ∃ j, 10 = (k + 1) + (j + 1) := ⟨8 - k, by omega⟩
    have hten : List.replicate 10 v = List.replicate (k + 1) v ++ List.replicate (j + 1) v := by
      rw [hj, List.replicate_add]
    rw [hten, List.append_assoc] at h
    have hearlier := List.append_cancel_left h
    rw [hearlier] at hv
    exact hv previous_append
  · intro hk10
    rw [hk10]
    refine ⟨earlier, rfl, ?_⟩
    rintro ⟨rfl, j, -, rfl⟩
    exact hv previous_replicate

theorem stale_forced_iff (hk : k ≤ 9) :
    Stale (List.replicate (k + 11) (.finite 0)) (.finite 0) ↔ k + 1 = 10 := by
  have hsplit : List.replicate (k + 11) (Single.finite 0) =
      List.replicate 10 (.finite 0) ++ List.replicate (k + 1) (.finite 0) := by
    rw [← List.replicate_add]
    congr 1
    omega
  constructor
  · rintro ⟨earlier, h, hzero⟩
    by_contra hk10
    have hearlier := List.append_cancel_left (hsplit.symm.trans h)
    exact hzero ⟨rfl, k + 1, by omega, hearlier.symm⟩
  · intro hk10
    refine ⟨_, hsplit, ?_⟩
    rintro ⟨-, j, hj, h⟩
    have hlen := congrArg List.length h
    simp at hlen
    omega

namespace Recent

theorem not_overdue (h : Recent values attempts) : ¬ Overdue attempts := by
  cases h with
  | silent hk => exact not_overdue_replicate
  | changed hk hv =>
    rw [overdue_append_iff]
    omega
  | forced hk =>
    rw [overdue_append_iff]
    omega

/-- A new value, or the eleventh zero, is sent. -/
theorem sent (h : Recent values attempts) (hdue : v ≠ previous values ∨ unsent attempts = 10) :
    Recent (v :: values) (true :: attempts) := by
  by_cases hv : previous values = v
  · have hten : unsent attempts = 10 := hdue.resolve_left fun hne => hne hv.symm
    cases h with
    | silent hk =>
      rw [unsent_replicate] at hten
      subst hten
      obtain rfl : Single.finite 0 = v := by rwa [previous_replicate] at hv
      exact .forced (k := 0) (by omega)
    | changed hk hv' =>
      rw [unsent_append] at hten
      omega
    | forced hk =>
      rw [unsent_append] at hten
      omega
  · exact .changed (k := 0) (by omega) hv

/-- An unchanged value counts until a refresh is late. -/
theorem counted (h : Recent values attempts) (hv : v = previous values)
    (hn : unsent attempts ≠ 10) (hon : ¬ Overdue (false :: attempts)) :
    Recent (v :: values) (false :: attempts) := by
  subst hv
  cases h with
  | @silent k hk =>
    rw [unsent_replicate] at hn
    rw [previous_replicate]
    exact .silent (k := k + 1) (by omega)
  | @changed k v earlier before hk hv' =>
    rw [previous_append]
    have hk' : k + 1 ≠ 10 := by
      intro h
      exact hon (overdue_append_iff.mpr h)
    exact .changed (k := k + 1) (by omega) hv'
  | @forced k hk =>
    rw [previous_replicate]
    have hk' : k + 1 ≠ 10 := by
      intro h
      exact hon (overdue_append_iff.mpr h)
    exact .forced (k := k + 1) (by omega)

theorem not_stale_of_due (h : Recent values attempts)
    (hdue : v ≠ previous values ∨ unsent attempts = 10) : ¬ Stale values v := by
  rintro ⟨earlier, rfl, hzero⟩
  have hten : unsent attempts = 10 := hdue.resolve_left fun hne => hne rfl
  generalize hvalues : List.replicate 10 v ++ earlier = values at h
  cases h with
  | @silent k hk =>
    rw [unsent_replicate] at hten
    subst hten
    have happend := hvalues.trans (List.append_nil _).symm
    obtain ⟨hv, hearlier⟩ := List.append_inj happend (by simp)
    exact hzero ⟨List.replicate_right_injective (by decide) hv, 0, by omega, hearlier⟩
  | changed hk hv' =>
    rw [unsent_append] at hten
    omega
  | forced hk =>
    rw [unsent_append] at hten
    omega

/-- The tenth repetition is the one that is late. -/
theorem overdue_counted_iff (h : Recent values attempts) (hv : v = previous values)
    (hn : unsent attempts ≠ 10) : Overdue (false :: attempts) ↔ Stale values v := by
  subst hv
  cases h with
  | @silent k hk =>
    rw [unsent_replicate] at hn
    exact iff_of_false (not_overdue_replicate (k := k + 1)) (not_stale_silent (by omega))
  | @changed k v earlier before hk hv' =>
    have hiff : Overdue (false :: (List.replicate k false ++ true :: before)) ↔ k + 1 = 10 :=
      overdue_append_iff (k := k + 1)
    rw [previous_append, hiff, stale_changed_iff hk hv']
  | @forced k hk =>
    have hiff : Overdue (false :: (List.replicate k false ++ true :: List.replicate 10 false)) ↔
        k + 1 = 10 := overdue_append_iff (k := k + 1)
    rw [previous_replicate, hiff, stale_forced_iff hk]

end Recent

/-! ### Runs of the sketches -/

namespace Carrier

variable {σ ι : Type} (c : Carrier σ ι)

/-- The counter stays in its range, so that its end is noticed, and after a send the next
one comes with the tenth valid reading at the latest. Nothing is said about the time that this
takes: in the roof node the interval between two readings has overflowed. -/
structure Refreshed (s : Session σ) (i : ι) (t : Session σ) : Prop where
  counter : (c.channel t.node).nNoUpdates ≤ forceUpdateNReads
  interval : ¬ Overdue t.attempts

/-- A valid reading is not the eleventh of the same value. -/
def Varied (s : Session σ) (i : ι) (_ : Session σ) : Prop :=
  ∀ r, c.valid s.node i = some r → ¬ Stale s.values (.ofBits r)

structure OnSchedule (s : Session σ) : Prop where
  remembers : c.Remembers s
  recent : Recent s.values s.attempts

variable {c} {s t : Session σ} {i : ι}

theorem onSchedule_start : c.OnSchedule c.start :=
  ⟨remembers_start, .silent (k := 0) (by omega)⟩

theorem counter_le (hs : c.Remembers s) : (c.channel s.node).nNoUpdates ≤ forceUpdateNReads := by
  rw [BitVec.le_def, hs.counter]
  exact hs.counter_le

theorem onSchedule_session (hs : c.OnSchedule s) (hr : c.Refreshed s i t)
    (ht : c.session s i = some t) : c.OnSchedule t := by
  refine ⟨remembers_session hs.remembers ht, ?_⟩
  cases h : c.valid s.node i with
  | none =>
    obtain ⟨-, hvalues, hattempts, -⟩ := session_of_unread hs.remembers h ht
    rw [hvalues, hattempts]
    exact hs.recent
  | some r =>
    obtain ⟨hvalues, hpolled⟩ := session_of_valid hs.remembers h ht
    have hon := hr.interval
    rw [hvalues]
    cases hpolled with
    | sent m hdue hm hlog hattempts hchannel =>
      rw [hattempts]
      exact hs.recent.sent hdue
    | counted hdue hlog hattempts hchannel =>
      obtain ⟨hsame, hten⟩ := not_or.mp hdue
      rw [hattempts] at hon ⊢
      exact hs.recent.counted (not_not.mp hsame) hten hon

theorem refreshed_iff (hs : c.OnSchedule s) (ht : c.session s i = some t) :
    c.Refreshed s i t ↔ c.Varied s i t := by
  have hcounter := counter_le (remembers_session hs.remembers ht)
  have hrefreshed : c.Refreshed s i t ↔ ¬ Overdue t.attempts :=
    ⟨fun h => h.interval, fun h => ⟨hcounter, h⟩⟩
  rw [hrefreshed]
  cases h : c.valid s.node i with
  | none =>
    refine iff_of_true ?_ ?_
    · rw [(session_of_unread hs.remembers h ht).attempts]
      exact hs.recent.not_overdue
    · intro r hr
      rw [h] at hr
      cases hr
  | some r =>
    have hvaried : c.Varied s i t ↔ ¬ Stale s.values (.ofBits r) := by
      simp only [Varied, h, Option.some.injEq, forall_eq']
    rw [hvaried]
    cases (session_of_valid hs.remembers h ht).2 with
    | sent m hdue hm hlog hattempts hchannel =>
      rw [hattempts]
      exact iff_of_true not_overdue_of_sent (hs.recent.not_stale_of_due hdue)
    | counted hdue hlog hattempts hchannel =>
      obtain ⟨hsame, hten⟩ := not_or.mp hdue
      rw [hattempts, hs.recent.overdue_counted_iff (not_not.mp hsame) hten]

theorem everyStep_refreshed_iff (is : List ι) :
    Machine.EveryStep c.session c.Refreshed c.start is ↔
      Machine.EveryStep c.session c.Varied c.start is :=
  Machine.everyStep_congr (fun _ _ _ hs hr ht => onSchedule_session hs hr ht)
    (fun _ _ _ hs ht => refreshed_iff hs ht) onSchedule_start

end Carrier

/-- In both sketches and for both quantities the refresh is in time over a run exactly
when no eleven valid readings in a row are equal; the zeros after power-up may be twenty. -/
theorem refreshed_iff_varied (nodeId : Byte) (metric : Bool) (q : Quantity) :
    (∀ es, Machine.EveryStep (garage nodeId metric q).session (garage nodeId metric q).Refreshed
        (garage nodeId metric q).start es ↔
      Machine.EveryStep (garage nodeId metric q).session (garage nodeId metric q).Varied
        (garage nodeId metric q).start es) ∧
    ∀ rs, Machine.EveryStep (roof nodeId metric q).session (roof nodeId metric q).Refreshed
        (roof nodeId metric q).start rs ↔
      Machine.EveryStep (roof nodeId metric q).session (roof nodeId metric q).Varied
        (roof nodeId metric q).start rs :=
  ⟨fun _ => Carrier.everyStep_refreshed_iff _, fun _ => Carrier.everyStep_refreshed_iff _⟩

/-- Twenty degrees. -/
def twenty : RoofClimate.Readings := ⟨0x41a00000#32, 0x42480000#32⟩

/-- The same temperature, read eleven times, is sent once. -/
theorem refresh_late :
    ¬ Machine.EveryStep (roof 42#8 true .temperature).session
        (roof 42#8 true .temperature).Refreshed (roof 42#8 true .temperature).start
        (List.replicate 11 twenty) := by
  intro h
  have hsplit : List.replicate 11 twenty = List.replicate 10 twenty ++ [twenty] := rfl
  rw [hsplit] at h
  have hlast := Machine.everyStep_append h rfl
  obtain ⟨hr, -⟩ := hlast _ rfl
  exact hr.interval ⟨[], by decide +kernel⟩

end Climate
