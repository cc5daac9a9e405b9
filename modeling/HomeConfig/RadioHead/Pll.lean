import HomeConfig.RadioHead.Driver

/-! The phase locked loop follows the bits of a sender whose clock is not quite its own. -/
namespace RadioHead

/-- A bit on the line and the number of samples that the receiver takes of it. -/
abbrev Timed := Bool × ℕ

def line (bits : List Timed) : List Bool := bits.flatMap fun b => List.replicate b.2 b.1

/-- Each bit lasts eight samples, except that one may be a sample short or long once
`owed` changes of the line have passed, and then three between any two of them. -/
def Paced (owed : ℕ) (last : Bool) : List Timed → Prop
  | [] => True
  | (b, n) :: rest =>
    let owed := if b = last then owed else owed - 1
    n = 8 ∧ Paced owed b rest ∨ owed = 0 ∧ (n = 7 ∨ n = 9) ∧ Paced 3 b rest

instance decidablePaced : ∀ owed last timed, Decidable (Paced owed last timed)
  | _, _, [] => .isTrue trivial
  | owed, last, (b, n) :: rest =>
    have := decidablePaced (if b = last then owed else owed - 1) b rest
    have := decidablePaced 3 b rest
    inferInstanceAs (Decidable (n = 8 ∧ Paced (if b = last then owed else owed - 1) b rest ∨
      (if b = last then owed else owed - 1) = 0 ∧ (n = 7 ∨ n = 9) ∧ Paced 3 b rest))

theorem paced_eight {bs : List Bool} {owed : ℕ} {last : Bool} :
    Paced owed last (bs.map fun b => (b, 8)) := by
  induction bs generalizing owed last with
  | nil => trivial
  | cons b bs ih => exact .inl ⟨rfl, ih⟩

namespace Pll

variable {p q : Pll} {b b' : Bool} {i n r e : ℕ} {xs ys outs pending : List Bool}

/-- What one sample does: the ramp moves on, and a bit is declared when it comes to its end. -/
theorem sample_cases (p : Pll) (b : Bool) : ∃ inc, 11 ≤ inc ∧ inc ≤ 29 ∧
    (p.ramp + inc < 160 ∧
        p.sample b = (⟨b, if b then p.integrator + 1 else p.integrator, p.ramp + inc⟩, none) ∨
      160 ≤ p.ramp + inc ∧ p.sample b = (⟨b, 0, p.ramp + inc - 160⟩,
        some (decide (5 ≤ if b then p.integrator + 1 else p.integrator)))) := by
  obtain ⟨inc, hinc⟩ : ∃ inc, inc = if b ≠ p.lastSample then
      if p.ramp < rampTransition then rampIncRetard else rampIncAdvance else rampInc := ⟨_, rfl⟩
  have hbounds : 11 ≤ inc ∧ inc ≤ 29 := by
    simp only [rampTransition, rampIncRetard, rampIncAdvance, rampInc] at hinc
    grind
  refine ⟨inc, hbounds.1, hbounds.2, ?_⟩
  unfold sample
  rw [← hinc]
  by_cases hend : p.ramp + inc ≥ rxRampLen
  · exact .inr ⟨hend, if_pos hend⟩
  · exact .inl ⟨Nat.lt_of_not_le hend, if_neg hend⟩

/-- The bits that are declared in a row of samples. -/
def samples (p : Pll) : List Bool → Pll × List Bool
  | [] => (p, [])
  | x :: xs =>
    ((samples (p.sample x).1 xs).1, (p.sample x).2.toList ++ (samples (p.sample x).1 xs).2)

theorem samples_append : p.samples (xs ++ ys) =
    (((p.samples xs).1.samples ys).1, (p.samples xs).2 ++ ((p.samples xs).1.samples ys).2) := by
  induction xs generalizing p with
  | nil => simp [samples]
  | cons x xs ih =>
    rw [List.cons_append, samples, ih, samples, List.append_assoc]

theorem sample_hold_below (h : r + 20 < 160) :
    sample ⟨b, i, r⟩ b = (⟨b, if b then i + 1 else i, r + 20⟩, none) := by
  simp [sample, rampInc, rxRampLen]
  omega

theorem sample_hold_past (h : 160 ≤ r + 20) : sample ⟨b, i, r⟩ b =
    (⟨b, 0, r + 20 - 160⟩, some (decide (5 ≤ if b then i + 1 else i))) := by
  simp [sample, rampInc, rxRampLen, h]

/-- Equal samples that do not reach the end of the ramp. -/
theorem samples_below (h : r + 20 * n < 160) : samples ⟨b, i, r⟩ (List.replicate n b) =
    (⟨b, if b then i + n else i, r + 20 * n⟩, []) := by
  induction n generalizing i r with
  | zero => cases b <;> rfl
  | succ n ih =>
    rw [List.replicate_succ, samples, sample_hold_below (by omega)]
    dsimp only
    rw [ih (by omega)]
    cases b <;> simp <;> omega

/-- Equal samples that pass the end of the ramp once: those after it are left in the integrator. -/
theorem samples_past (hr : r < 160) (hl : 160 ≤ r + 20 * n) (hu : r + 20 * n < 320) :
    samples ⟨b, i, r⟩ (List.replicate n b) =
      (⟨b, if b then (r + 20 * n - 160) / 20 else 0, r + 20 * n - 160⟩,
        [decide (5 ≤ if b then i + (n - (r + 20 * n - 160) / 20) else i)]) := by
  induction n generalizing i r with
  | zero => omega
  | succ n ih =>
    rw [List.replicate_succ, samples]
    by_cases h : r + 20 < 160
    · rw [sample_hold_below h]
      dsimp only
      rw [ih h (by omega) (by omega)]
      have hramp : r + 20 + 20 * n - 160 = r + 20 * (n + 1) - 160 := by omega
      have hcount : i + 1 + (n - (r + 20 * (n + 1) - 160) / 20) =
          i + (n + 1 - (r + 20 * (n + 1) - 160) / 20) := by omega
      rw [hramp]
      cases b
      · simp
      · simp [hcount]
    · rw [sample_hold_past (by omega)]
      dsimp only
      rw [samples_below (by omega)]
      have hramp : r + 20 - 160 + 20 * n = r + 20 * (n + 1) - 160 := by omega
      have hrest : (r + 20 * (n + 1) - 160) / 20 = n := by omega
      have hone : n + 1 - n = 1 := by omega
      rw [hramp, hrest, hone]
      cases b <;> simp

/-- The loop runs within `e` of the line: a ramp that has just begun, or one that is about to
end and whose bit is still to be declared. -/
def Tracked (e : ℕ) (p : Pll) (pending : List Bool) : Prop :=
  p.ramp ≤ e ∧ p.integrator ≤ (if p.lastSample then p.ramp / 20 else 0) ∧ pending = [] ∨
  159 ≤ p.ramp + e ∧ p.ramp < 160 ∧
    (if p.lastSample then 5 ≤ p.integrator else p.integrator = 0) ∧
    pending = [p.lastSample]

instance : Decidable (Tracked e p pending) := inferInstanceAs (Decidable (_ ∨ _))

theorem sample_change_below (h : r < 80) :
    sample ⟨!b, i, r⟩ b = (⟨b, if b then i + 1 else i, r + 11⟩, none) := by
  have hramp : ¬ 160 ≤ r + 11 := by omega
  cases b <;> simp [sample, rampTransition, rampIncRetard, rxRampLen, h, hramp]

theorem sample_change_late (hl : 80 ≤ r) (hu : r + 29 < 160) :
    sample ⟨!b, i, r⟩ b = (⟨b, if b then i + 1 else i, r + 29⟩, none) := by
  have hramp : ¬ r < 80 := by omega
  have hend : ¬ 160 ≤ r + 29 := by omega
  cases b <;> simp [sample, rampTransition, rampIncAdvance, rxRampLen, hramp, hend]

theorem sample_change_past (h : 131 ≤ r) : sample ⟨!b, i, r⟩ b =
    (⟨b, 0, r + 29 - 160⟩, some (decide (5 ≤ if b then i + 1 else i))) := by
  have hramp : ¬ r < 80 := by omega
  have hend : 160 ≤ r + 29 := by omega
  cases b <;> simp [sample, rampTransition, rampIncAdvance, rxRampLen, hramp, hend]

/-- What is left of the slack after a bit. -/
def settle (e : ℕ) (changed : Bool) : ℕ := if changed then max 8 (e - 9) else e

/-- The lengths that a bit may have, and the slack behind it. -/
def Allowed (e n e' : ℕ) : Prop := n = 8 ∧ e ≤ e' ∨ (n = 7 ∨ n = 9) ∧ e ≤ 8 ∧ 28 ≤ e'

/-- No bit is lost or declared twice: what was pending and the new bit are declared
in their order or still pending. -/
def Follows (e : ℕ) (pending : List Bool) (b : Bool) (result : Pll × List Bool) : Prop :=
  ∃ pending', Tracked e result.1 pending' ∧ pending ++ [b] = result.2 ++ pending'

/-- Behind a ramp that has begun: the bit stays pending, or it is declared. -/
theorem follows_below (hl : 159 ≤ r + 20 * n + e) (hu : r + 20 * n < 160)
    (hi : if b then 5 ≤ i + n else i = 0) :
    Follows e [] b (samples ⟨b, i, r⟩ (List.replicate n b)) := by
  rw [samples_below hu]
  refine ⟨[b], .inr ⟨hl, hu, ?_, rfl⟩, rfl⟩
  cases b <;> simpa using hi

theorem follows_past (hr : r < 160) (hl : 160 ≤ r + 20 * n) (hu : r + 20 * n < 320)
    (he : r + 20 * n ≤ 160 + e)
    (hi : if b then 5 ≤ i + (n - (r + 20 * n - 160) / 20) else i < 5) :
    Follows e [] b (samples ⟨b, i, r⟩ (List.replicate n b)) := by
  rw [samples_past hr hl hu]
  refine ⟨[], .inl ⟨?_, ?_, rfl⟩, ?_⟩
  · dsimp only
    omega
  · cases b <;> simp
  · cases b
    · simpa using hi
    · simpa using hi

/-- The samples that declare the pending bit, and those behind them. -/
theorem follows_pending {last : Bool} (hxs : p.samples xs = (q, [last]))
    (h : Follows e [] b (q.samples ys)) : Follows e [last] b (p.samples (xs ++ ys)) := by
  obtain ⟨pending', ht, hb⟩ := h
  rw [samples_append, hxs]
  exact ⟨pending', ht, congrArg (last :: ·) hb⟩

section Bit

variable {e' : ℕ} (he : e ≤ 59)
include he

theorem follows_begun_hold (hr : r ≤ e) (hi : i ≤ if b then r / 20 else 0) (hn : Allowed e n e') :
    Follows e' [] b (samples ⟨b, i, r⟩ (List.replicate n b)) := by
  have hcount : if b then True else i = 0 := by cases b <;> simp_all
  rcases hn with ⟨rfl, hslack⟩ | ⟨rfl | rfl, hslack, hwide⟩
  · refine follows_past (by omega) (by omega) (by omega) (by omega) ?_
    cases b <;> simp at hcount ⊢ <;> omega
  · refine follows_below (by omega) (by omega) ?_
    cases b
    · simpa using hcount
    · simp only [if_true]
      omega
  · refine follows_past (by omega) (by omega) (by omega) (by omega) ?_
    cases b <;> simp at hcount ⊢ <;> omega

theorem follows_begun_change (hr : r ≤ e) (hi : i ≤ if b then 0 else r / 20)
    (hn : Allowed (settle e true) n e') :
    Follows e' [] b (samples ⟨!b, i, r⟩ (List.replicate n b)) := by
  have hsettle : settle e true = max 8 (e - 9) := rfl
  rw [hsettle] at hn
  have hfirst : ∀ k, samples ⟨!b, i, r⟩ (List.replicate (k + 1) b) =
      samples ⟨b, if b then i + 1 else i, r + 11⟩ (List.replicate k b) := by
    intro k
    rw [List.replicate_succ, samples, sample_change_below (by omega)]
    simp
  rcases hn with ⟨rfl, hslack⟩ | ⟨rfl | rfl, hslack, hwide⟩
  · rw [hfirst]
    by_cases hcross : r < 9
    · refine follows_below (by omega) (by omega) ?_
      cases b with
      | false =>
        simp at hi ⊢
        omega
      | true => simp at hi ⊢
    · refine follows_past (by omega) (by omega) (by omega) (by omega) ?_
      cases b <;> simp at hi ⊢ <;> omega
  · rw [hfirst]
    refine follows_below (by omega) (by omega) ?_
    cases b with
    | false =>
      simp at hi ⊢
      omega
    | true => simp at hi ⊢
  · rw [hfirst]
    refine follows_past (by omega) (by omega) (by omega) (by omega) ?_
    cases b <;> simp at hi ⊢ <;> omega

theorem follows_ending_hold (hl : 159 ≤ r + e) (hu : r < 160) (hi : if b then 5 ≤ i else i = 0)
    (hn : Allowed e n e') : Follows e' [b] b (samples ⟨b, i, r⟩ (List.replicate n b)) := by
  -- the end of the ramp is at most three samples away
  have hdeclared : samples ⟨b, i, r⟩ (List.replicate 3 b) =
      (⟨b, if b then (r - 100) / 20 else 0, r - 100⟩, [b]) := by
    have hramp : r + 20 * 3 - 160 = r - 100 := by omega
    rw [samples_past hu (by omega) (by omega), hramp]
    cases b <;> simp at hi ⊢ <;> omega
  have hsplit : ∀ k, List.replicate (3 + k) b = List.replicate 3 b ++ List.replicate k b :=
    fun k => List.replicate_add ..
  rcases hn with ⟨rfl, hslack⟩ | ⟨rfl | rfl, hslack, hwide⟩
  · rw [hsplit 5]
    refine follows_pending hdeclared (follows_below (by omega) (by omega) ?_)
    cases b <;> simp
  · rw [hsplit 4]
    refine follows_pending hdeclared (follows_below (by omega) (by omega) ?_)
    cases b <;> simp
    omega
  · rw [hsplit 6]
    refine follows_pending hdeclared (follows_past (by omega) (by omega) (by omega) (by omega) ?_)
    cases b <;> simp
    omega

theorem follows_ending_change (hl : 159 ≤ r + e) (hu : r < 160)
    (hi : if b then i = 0 else 5 ≤ i) (hn : Allowed (settle e true) n e') :
    Follows e' [!b] b (samples ⟨!b, i, r⟩ (List.replicate n b)) := by
  have hsettle : settle e true = max 8 (e - 9) := rfl
  rw [hsettle] at hn
  have hsplit : ∀ k, List.replicate (1 + k) b = [b] ++ List.replicate k b :=
    fun k => List.replicate_add ..
  by_cases hramp : r < 131
  · -- still far off: the slack shrinks by a whole step
    have hfirst : samples ⟨!b, i, r⟩ (List.replicate 8 b) =
        samples ⟨b, if b then i + 1 else i, r + 29⟩ (List.replicate 7 b) := by
      rw [hsplit 7, List.singleton_append, samples, sample_change_late (by omega) (by omega)]
      simp
    rcases hn with ⟨rfl, hslack⟩ | ⟨-, hslack, -⟩
    · rw [hfirst, samples_past (by omega) (by omega) (by omega)]
      refine ⟨[b], .inr ⟨?_, ?_, ?_, rfl⟩, ?_⟩
      · dsimp only
        omega
      · dsimp only
        omega
      · cases b <;> simp
        omega
      · cases b <;> simp at hi ⊢ <;> omega
    · omega
  · have hdeclared : samples ⟨!b, i, r⟩ [b] = (⟨b, 0, r - 131⟩, [!b]) := by
      have hnext : r + 29 - 160 = r - 131 := by omega
      rw [samples, sample_change_past (by omega), hnext]
      cases b <;> simp [samples] at hi ⊢ <;> omega
    rcases hn with ⟨rfl, hslack⟩ | ⟨rfl | rfl, hslack, hwide⟩
    · rw [hsplit 7]
      by_cases hcross : r + 9 < 160
      · refine follows_pending hdeclared (follows_below (by omega) (by omega) ?_)
        cases b <;> simp
      · refine follows_pending hdeclared
          (follows_past (by omega) (by omega) (by omega) (by omega) ?_)
        cases b <;> simp
        omega
    · rw [hsplit 6]
      refine follows_pending hdeclared (follows_below (by omega) (by omega) ?_)
      cases b <;> simp
    · rw [hsplit 8]
      refine follows_pending hdeclared
        (follows_past (by omega) (by omega) (by omega) (by omega) ?_)
      cases b <;> simp
      omega

/-- The step lemma: one bit of the line, however long it may be. -/
theorem Tracked.follows (h : Tracked e p pending)
    (hn : Allowed (settle e (b != p.lastSample)) n e') :
    Follows e' pending b (p.samples (List.replicate n b)) := by
  obtain ⟨last, i, r⟩ := p
  by_cases hb : last = b
  · subst hb
    rw [bne_self_eq_false] at hn
    rcases h with ⟨hr, hi, rfl⟩ | ⟨hl, hu, hi, rfl⟩
    · exact follows_begun_hold he hr hi hn
    · exact follows_ending_hold he hl hu hi hn
  · obtain rfl : last = !b := by cases last <;> cases b <;> simp_all
    have hchanged : (b != !b) = true := by cases b <;> rfl
    rw [hchanged] at hn
    rcases h with ⟨hr, hi, rfl⟩ | ⟨hl, hu, hi, rfl⟩
    · refine follows_begun_change he hr ?_ hn
      cases b <;> simpa using hi
    · refine follows_ending_change he hl hu ?_ hn
      cases b <;> simpa using hi

end Bit

theorem lastSample_sample (p : Pll) (b : Bool) : (p.sample b).1.lastSample = b := by
  obtain ⟨inc, -, -, ⟨-, h⟩ | ⟨-, h⟩⟩ := sample_cases p b <;> rw [h]

theorem lastSample_samples (hn : 0 < n) : (p.samples (List.replicate n b)).1.lastSample = b := by
  induction n generalizing p with
  | zero => omega
  | succ n ih =>
    rw [List.replicate_succ, samples]
    cases n with
    | zero => exact lastSample_sample p b
    | succ n => exact ih (by omega)

/-- The run lemma: on any paced line the bits come out as they went in. -/
theorem Tracked.run {o : ℕ} {timed : List Timed} (h : Tracked (8 + 9 * o) p pending) (ho : o ≤ 5)
    (hp : Paced o p.lastSample timed) : ∃ o' ≤ 5, ∃ pending',
      Tracked (8 + 9 * o') (p.samples (line timed)).1 pending' ∧
      pending ++ timed.map Prod.fst = (p.samples (line timed)).2 ++ pending' := by
  induction timed generalizing p pending o with
  | nil => exact ⟨o, ho, pending, h, by simp [line, samples]⟩
  | cons t rest ih =>
    obtain ⟨b, n⟩ := t
    have hstep : ∀ o' ≤ 5, 0 < n → Allowed (settle (8 + 9 * o) (b != p.lastSample)) n (8 + 9 * o') →
        Paced o' b rest → ∃ o'' ≤ 5, ∃ pending',
          Tracked (8 + 9 * o'') (p.samples (line ((b, n) :: rest))).1 pending' ∧
          pending ++ ((b, n) :: rest).map Prod.fst =
            (p.samples (line ((b, n) :: rest))).2 ++ pending' := by
      intro o' ho' hn hallowed hrest
      obtain ⟨pending₁, ht₁, hb₁⟩ := h.follows (by omega) hallowed
      have hlast : (p.samples (List.replicate n b)).1.lastSample = b := lastSample_samples hn
      obtain ⟨o'', ho'', pending₂, ht₂, hb₂⟩ := ih ht₁ ho' (by rwa [hlast])
      have hline : line ((b, n) :: rest) = List.replicate n b ++ line rest := rfl
      refine ⟨o'', ho'', pending₂, by rwa [hline, samples_append], ?_⟩
      rw [hline, samples_append, List.append_assoc, ← hb₂, ← List.append_assoc, ← hb₁]
      simp
    have hsettle : settle (8 + 9 * o) (b != p.lastSample) =
        8 + 9 * if b = p.lastSample then o else o - 1 := by
      by_cases hb : b = p.lastSample
      · simp [settle, hb]
      · simp only [settle, bne_iff_ne, ne_eq, hb, not_false_eq_true, if_true, if_false]
        omega
    rw [hsettle] at hstep
    rcases hp with ⟨rfl, hrest⟩ | ⟨howed, hn, hrest⟩
    · refine hstep _ ?_ (by omega) (.inl ⟨rfl, le_rfl⟩) hrest
      split <;> omega
    · rw [howed] at hstep
      exact hstep 3 (by omega) (by omega) (.inr ⟨hn, by omega, by omega⟩) hrest

/-! ### Silence -/

/-- The ramp stays below its end. -/
theorem ramp_sample_lt (h : p.ramp < 160) : (p.sample b).1.ramp < 160 := by
  obtain ⟨inc, -, hinc, ⟨hend, hs⟩ | ⟨hend, hs⟩⟩ := sample_cases p b
  · rw [hs]
    exact hend
  · rw [hs]
    dsimp only
    omega

theorem sample_eq_some (h : (p.sample b).2 = some b') :
    (p.sample b).1.integrator = 0 ∧
      b' = decide (5 ≤ if b then p.integrator + 1 else p.integrator) := by
  obtain ⟨inc, -, -, ⟨-, hs⟩ | ⟨-, hs⟩⟩ := sample_cases p b
  · rw [hs] at h
    cases h
  · rw [hs] at h ⊢
    exact ⟨rfl, (Option.some.inj h).symm⟩

theorem sample_eq_none (h : (p.sample b).2 = none) :
    (p.sample b).1.integrator = if b then p.integrator + 1 else p.integrator := by
  obtain ⟨inc, -, -, ⟨-, hs⟩ | ⟨-, hs⟩⟩ := sample_cases p b
  · rw [hs]
  · rw [hs] at h
    cases h

/-- Too few high samples for a bit. -/
theorem samples_calm (hr : p.ramp < 160) (hi : p.integrator + xs.count true ≤ 4) :
    (∃ k, (p.samples xs).2 = List.replicate k false) ∧ (p.samples xs).1.ramp < 160 ∧
      (p.samples xs).1.integrator ≤ 4 := by
  induction xs generalizing p with
  | nil => exact ⟨⟨0, rfl⟩, hr, by simpa [samples] using hi⟩
  | cons x xs ih =>
    have hcount : (if x then p.integrator + 1 else p.integrator) + xs.count true ≤ 4 := by
      cases x <;> simp at hi ⊢ <;> omega
    cases hx : (p.sample x).2 with
    | none =>
      obtain ⟨⟨k, hk⟩, hrest⟩ := ih (p := (p.sample x).1) (ramp_sample_lt hr)
        (by rwa [sample_eq_none hx])
      exact ⟨⟨k, by rw [samples, hx, hk]; rfl⟩, hrest⟩
    | some bit =>
      obtain ⟨hzero, hbit⟩ := sample_eq_some hx
      obtain ⟨⟨k, hk⟩, hrest⟩ := ih (p := (p.sample x).1) (ramp_sample_lt hr)
        (by rw [hzero]; omega)
      have hfalse : bit = false := by
        rw [hbit, decide_eq_false_iff_not]
        omega
      exact ⟨⟨k + 1, by rw [samples, hx, hk, hfalse]; rfl⟩, hrest⟩

/-- A quiet line turns the ramp evenly. -/
theorem samples_quiet (hr : r < 160) : ∃ k,
    (samples ⟨false, i, r⟩ (List.replicate n false)).1.lastSample = false ∧
    (samples ⟨false, i, r⟩ (List.replicate n false)).1.ramp + 160 * k = r + 20 * n ∧
    (samples ⟨false, i, r⟩ (List.replicate n false)).2.length = k ∧
    (i = 0 ∨ 0 < k → (samples ⟨false, i, r⟩ (List.replicate n false)).1.integrator = 0) := by
  induction n generalizing i r with
  | zero => exact ⟨0, rfl, rfl, rfl, by simp [samples]⟩
  | succ n ih =>
    rw [List.replicate_succ, samples]
    by_cases h : r + 20 < 160
    · rw [sample_hold_below h]
      obtain ⟨k, hlast, hramp, hlen, hint⟩ := ih (i := i) h
      exact ⟨k, hlast, by simp only [Bool.false_eq_true, if_false]; omega, by simpa using hlen, hint⟩
    · rw [sample_hold_past (by omega)]
      obtain ⟨k, hlast, hramp, hlen, hint⟩ := ih (i := 0) (r := r + 20 - 160) (by omega)
      refine ⟨k + 1, hlast, by dsimp only; omega, by simpa using hlen, ?_⟩
      intro _
      exact hint (.inl rfl)

theorem eq_of_lastSample (h : q.lastSample = b) : q = ⟨b, q.integrator, q.ramp⟩ := by
  obtain ⟨last, i, r⟩ := q
  simpa using h

/-- Twelve bit times of silence push twelve zeros out of the loop. -/
theorem samples_silence (hr : p.ramp < 160) (hi : p.integrator ≤ 4) (hn : 97 ≤ n) :
    ∃ k r, 12 ≤ k ∧ r < 160 ∧
      p.samples (List.replicate n false) = (⟨false, 0, r⟩, List.replicate k false) := by
  obtain ⟨m, rfl⟩ : ∃ m, n = m + 1 := ⟨n - 1, by omega⟩
  obtain ⟨⟨k, hk⟩, hlt, -⟩ := @samples_calm p (List.replicate (m + 1) false) hr
    (by simpa [List.count_replicate] using hi)
  have hfirst : (p.sample false).1.ramp + 160 * (p.sample false).2.toList.length ≥ p.ramp + 11 := by
    obtain ⟨inc, hinc, -, ⟨-, hs⟩ | ⟨-, hs⟩⟩ := sample_cases p false
    · rw [hs]
      simp only [Option.toList_none, List.length_nil]
      omega
    · rw [hs]
      simp only [Option.toList_some, List.length_singleton]
      omega
  have hstate := eq_of_lastSample (lastSample_sample p false)
  obtain ⟨j, hlast, hramp, hlen, hint⟩ := samples_quiet (i := (p.sample false).1.integrator) (n := m)
    (ramp_sample_lt (b := false) hr)
  rw [← hstate] at hlast hramp hlen hint
  have hruns : p.samples (List.replicate (m + 1) false) =
      ((((p.sample false).1).samples (List.replicate m false)).1,
        (p.sample false).2.toList ++ (((p.sample false).1).samples (List.replicate m false)).2) := rfl
  rw [hruns] at hk hlt ⊢
  have hlength : (p.sample false).2.toList.length + j = k := by
    have hcount := congrArg List.length hk
    simpa [hlen] using hcount
  have hone : (p.sample false).2.toList.length ≤ 1 := by
    cases (p.sample false).2 <;> simp
  refine ⟨k, _, ?_, hlt, ?_⟩
  · dsimp only at hlt
    omega
  · refine Prod.ext ?_ hk
    have hzero := hint (.inr (by dsimp only at hlt; omega))
    have hfinal := eq_of_lastSample hlast
    rwa [hzero] at hfinal

/-! ### Locking on -/

/-- The first bits of the preamble. -/
def opening : List Timed := [(false, 8), (true, 8), (false, 8), (true, 8)]

/-- What can come out for them: behind a zero that the silence may leave, the first one
can be missed. -/
def leads : List (List Bool) :=
  [[false, true, false, true], [false, false, true, false, true],
   [false, false, false, false, true]]

/-- From any phase, these bits bring the loop close enough to the line. -/
theorem samples_opening (hr : r < 160) : ∃ pending,
    Tracked (8 + 9 * 5) (samples ⟨false, 0, r⟩ (line opening)).1 pending ∧
      (samples ⟨false, 0, r⟩ (line opening)).2 ++ pending ∈ leads := by
  have hall : ∀ r < 160, ∃ pending ∈ [[], [true]],
      Tracked (8 + 9 * 5) (samples ⟨false, 0, r⟩ (line opening)).1 pending ∧
        (samples ⟨false, 0, r⟩ (line opening)).2 ++ pending ∈ leads := by decide +kernel
  obtain ⟨pending, -, h⟩ := hall r hr
  exact ⟨pending, h⟩

/-! ### The sample that declares a bit -/

theorem samples_split {rest : List Bool} (h : (p.samples xs).2 = outs ++ b :: rest) :
    ∃ ys x zs, xs = ys ++ x :: zs ∧ (p.samples ys).2 = outs ∧
      ((p.samples ys).1.sample x).2 = some b ∧ (((p.samples ys).1.sample x).1.samples zs).2 = rest := by
  induction xs generalizing p outs with
  | nil => simp [samples] at h
  | cons x xs ih =>
    rw [samples] at h
    cases hx : (p.sample x).2 with
    | none =>
      rw [hx] at h
      obtain ⟨ys, y, zs, rfl, hys, hy, hzs⟩ := ih h
      exact ⟨x :: ys, y, zs, rfl, by rw [samples, hx, hys]; rfl, hy, hzs⟩
    | some bit =>
      rw [hx] at h
      cases outs with
      | nil =>
        obtain ⟨rfl, hrest⟩ := List.cons.inj h
        exact ⟨[], x, xs, rfl, rfl, hx, hrest⟩
      | cons out outs =>
        obtain ⟨rfl, hrest⟩ := List.cons.inj h
        obtain ⟨ys, y, zs, rfl, hys, hy, hzs⟩ := ih hrest
        exact ⟨x :: ys, y, zs, rfl, by rw [samples, hx, hys]; rfl, hy, hzs⟩

/-- Without a declared bit the integrator counts the high samples. -/
theorem integrator_samples (h : (p.samples xs).2 = []) :
    (p.samples xs).1.integrator = p.integrator + xs.count true := by
  induction xs generalizing p with
  | nil => rfl
  | cons x xs ih =>
    rw [samples, List.append_eq_nil_iff, Option.toList_eq_nil_iff] at h
    rw [samples, ih h.2, sample_eq_none h.1]
    cases x <;> simp
    omega

end Pll

end RadioHead
