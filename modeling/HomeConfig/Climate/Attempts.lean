import HomeConfig.Climate.Nodes

/-! Sends that fail: the sketches drop the result of `send`, so it decides nothing. -/
namespace Climate

open Arduino MySensors Dht

variable {attempts : List Bool} {k : ℕ}

theorem replicate_prefix_iff : List.replicate k false <+: attempts ↔ k ≤ unsent attempts := by
  induction attempts generalizing k with
  | nil => cases k <;> simp [unsent, List.replicate_succ]
  | cons attempted attempts ih =>
    cases k with
    | zero => simp
    | succ k =>
      rw [List.replicate_succ, List.cons_prefix_cons]
      cases attempted with
      | true => simp [unsent]
      | false =>
        rw [Carrier.unsent_counted, ih]
        simp

/-- The session, the reading that was sent successfully last, and whether the last send
failed. The node knows neither. -/
structure Radio (σ : Type) where
  session : Session σ
  delivered : Option Single
  failed : Bool

namespace Carrier

variable {σ ι : Type} (c : Carrier σ ι)

def powerUp : Radio σ := ⟨c.start, none, false⟩

/-- One step, in which `send` returns the given result for the child if it is called. -/
def radio (d : Radio σ) (e : ι × Bool) : Option (Radio σ) :=
  (c.session d.session e.1).map fun t =>
    if c.reports d.session.node e.1 = [] then { d with session := t }
    else
      { session := t
        delivered :=
          if e.2 then (c.valid d.session.node e.1).map Single.ofBits else d.delivered
        failed := !e.2 }

/-- A valid reading is sent again when the last send failed or another value was delivered. -/
structure Retried (d : Radio σ) (e : ι × Bool) (_ : Radio σ) : Prop where
  failed : ∀ r, c.valid d.session.node e.1 = some r → d.failed = true →
    c.reports d.session.node e.1 ≠ []
  delivered : ∀ r v, c.valid d.session.node e.1 = some r → d.delivered = some v →
    Single.ofBits r ≠ v → c.reports d.session.node e.1 ≠ []

/-- Whatever was delivered, a valid reading is sent when it differs from the one before or
the ten before were not sent, and then it is the value of the message. -/
structure Attempted (d : Radio σ) (e : ι × Bool) (d' : Radio σ) : Prop where
  due : ∀ r, c.valid d.session.node e.1 = some r →
    (c.reports d.session.node e.1 ≠ [] ↔ Single.ofBits r ≠ previous d.session.values ∨
      List.replicate 10 false <+: d.session.attempts)
  value : ∀ r, c.valid d.session.node e.1 = some r → ∀ m ∈ c.reports d.session.node e.1,
    m.getFloat = .ofBits (c.convert r)
  again : ¬ List.replicate 11 false <+: d'.session.attempts

variable {c} {d d' : Radio σ} {e : ι × Bool} {s : Session σ} {i : ι} {r : BitVec 32}

theorem session_of_radio (h : c.radio d e = some d') :
    c.session d.session e.1 = some d'.session := by
  obtain ⟨t, ht, rfl⟩ := Option.map_eq_some_iff.mp h
  split <;> exact ht

/-- What a step sends for the child. -/
theorem reports_of_valid (hs : c.Remembers s) (h : c.valid s.node i = some r) :
    (Due s r ∧ ∃ m, c.reports s.node i = [m] ∧ m.getFloat = .ofBits (c.convert r)) ∨
      (¬ Due s r ∧ c.reports s.node i = []) := by
  cases (session_of_valid hs h rfl).2 with
  | sent m hdue hm hlog hattempts hchannel =>
    exact .inl ⟨hdue, m, List.append_cancel_left hlog, hm⟩
  | counted hdue hlog hattempts hchannel =>
    exact .inr ⟨hdue, List.append_right_eq_self.mp hlog⟩

theorem due_iff_prefix (hs : c.Remembers s) :
    Due s r ↔ Single.ofBits r ≠ previous s.values ∨ List.replicate 10 false <+: s.attempts := by
  have hle := hs.counter_le
  rw [Due, replicate_prefix_iff]
  constructor
  · rintro (h | h)
    · exact .inl h
    · exact .inr h.ge
  · rintro (h | h)
    · exact .inl h
    · exact .inr (le_antisymm hle h)

theorem attempted_radio (hs : c.Remembers d.session) (ht : c.radio d e = some d') :
    c.Attempted d e d' := by
  constructor
  · intro r hr
    rw [← due_iff_prefix hs]
    obtain ⟨hdue, m, hm, -⟩ | ⟨hdue, hnone⟩ := reports_of_valid hs hr
    · exact iff_of_true (by simp [hm]) hdue
    · exact iff_of_false (not_not.mpr hnone) hdue
  · intro r hr m hm
    obtain ⟨-, m', hm', hvalue⟩ | ⟨-, hnone⟩ := reports_of_valid hs hr
    · rw [hm', List.mem_singleton] at hm
      rwa [hm]
    · rw [hnone] at hm
      cases hm
  · have hle := (remembers_session hs (session_of_radio ht)).counter_le
    rw [replicate_prefix_iff]
    omega

theorem everyStep_attempted (es : List (ι × Bool)) :
    Machine.EveryStep c.radio c.Attempted c.powerUp es := by
  apply Machine.everyStep_of_invariant (I := fun d => c.Remembers d.session)
  · intro d e d' hs ht
    exact remembers_session hs (session_of_radio ht)
  · intro d e d' hs ht
    exact attempted_radio hs ht
  · exact remembers_start

end Carrier

/-- What is sent depends on the readings alone, in both sketches, for both quantities and
for every pattern of failed sends. -/
theorem attempts_ignore_failures (nodeId : Byte) (metric : Bool) (q : Quantity) :
    (∀ es, Machine.EveryStep (garage nodeId metric q).radio (garage nodeId metric q).Attempted
        (garage nodeId metric q).powerUp es) ∧
    ∀ es, Machine.EveryStep (roof nodeId metric q).radio (roof nodeId metric q).Attempted
        (roof nodeId metric q).powerUp es :=
  ⟨fun _ => Carrier.everyStep_attempted _, fun _ => Carrier.everyStep_attempted _⟩

/-- Twenty degrees: the send fails, and the same reading is not sent again. -/
theorem failed_send_not_retried :
    ¬ Machine.EveryStep (roof 42#8 true .temperature).radio
        (roof 42#8 true .temperature).Retried (roof 42#8 true .temperature).powerUp
        [(⟨0x41a00000#32, 0x42480000#32⟩, false), (⟨0x41a00000#32, 0x42480000#32⟩, true)] := by
  intro h
  obtain ⟨-, h⟩ := h _ rfl
  obtain ⟨h, -⟩ := h _ rfl
  have hnan : Single.ofBits 0x41a00000#32 ≠ .nan := by decide +kernel
  exact h.failed 0x41a00000#32 (Carrier.valid_eq_some.mpr ⟨rfl, hnan⟩) (by decide +kernel)
    (by decide +kernel)

end Climate
