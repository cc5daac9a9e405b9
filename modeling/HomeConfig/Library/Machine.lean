import Mathlib.Data.List.Basic

/-! Finite runs of a deterministic machine whose actions may be disabled. -/
namespace Machine

variable {σ α : Type*} {step : σ → α → Option σ} {s t : σ} {a : α} {as bs : List α}

/-- Execute the actions in order; a disabled action makes the whole run undefined. -/
def run (step : σ → α → Option σ) : σ → List α → Option σ
  | s, [] => some s
  | s, a :: as => (step s a).bind fun t => run step t as

/-- The relation `R` between source, action and destination holds at every step
that the machine takes while it executes the actions. -/
def EveryStep (step : σ → α → Option σ) (R : σ → α → σ → Prop) : σ → List α → Prop
  | _, [] => True
  | s, a :: as => ∀ t, step s a = some t → R s a t ∧ EveryStep step R t as

instance EveryStep.decidable {R : σ → α → σ → Prop} [∀ s a t, Decidable (R s a t)] :
    ∀ (s : σ) (as : List α), Decidable (EveryStep step R s as)
  | _, [] => .isTrue trivial
  | s, a :: as =>
    match h : step s a with
    | none => .isTrue fun t ht => by simp [h] at ht
    | some t =>
      have : Decidable (EveryStep step R t as) := EveryStep.decidable t as
      decidable_of_iff (R s a t ∧ EveryStep step R t as) (by simp [EveryStep, h])

/-- The states that a run of the machine reaches from `s`. -/
def Reachable (step : σ → α → Option σ) (s t : σ) : Prop :=
  ∃ as, run step s as = some t

@[simp] theorem run_nil : run step s [] = some s := rfl

theorem run_cons : run step s (a :: as) = (step s a).bind fun t => run step t as := rfl

theorem run_cons_eq_some :
    run step s (a :: as) = some t ↔ ∃ u, step s a = some u ∧ run step u as = some t := by
  simp [run_cons, Option.bind_eq_some_iff]

/-- A step lemma lifts to runs. -/
theorem invariant_run {I : σ → Prop} (hI : ∀ s a t, I s → step s a = some t → I t)
    (hs : I s) (h : run step s as = some t) : I t := by
  induction as generalizing s with
  | nil => simpa using Option.some.inj h ▸ hs
  | cons a as ih =>
    obtain ⟨u, hu, ht⟩ := run_cons_eq_some.mp h
    exact ih (hI s a u hs hu) ht

theorem invariant_reachable {I : σ → Prop} (hI : ∀ s a t, I s → step s a = some t → I t)
    (hs : I s) (h : Reachable step s t) : I t := by
  obtain ⟨as, h⟩ := h
  exact invariant_run hI hs h

/-- A step lemma that needs a condition on the steps lifts to the runs whose
steps all meet it. -/
theorem invariant_of_everyStep {I : σ → Prop} {C : σ → α → σ → Prop}
    (hI : ∀ s a t, I s → C s a t → step s a = some t → I t)
    (hs : I s) (hC : EveryStep step C s as) (h : run step s as = some t) : I t := by
  induction as generalizing s with
  | nil => simpa using Option.some.inj h ▸ hs
  | cons a as ih =>
    obtain ⟨u, hu, ht⟩ := run_cons_eq_some.mp h
    obtain ⟨hc, hC⟩ := hC u hu
    exact ih (hI s a u hs hc hu) hC ht

/-- Conditions that agree on single steps agree on runs, also under an invariant that
only the steps that meet them preserve. -/
theorem everyStep_congr {I : σ → Prop} {R R' : σ → α → σ → Prop}
    (hI : ∀ s a t, I s → R s a t → step s a = some t → I t)
    (hR : ∀ s a t, I s → step s a = some t → (R s a t ↔ R' s a t)) (hs : I s) :
    EveryStep step R s as ↔ EveryStep step R' s as := by
  induction as generalizing s with
  | nil => rfl
  | cons a as ih =>
    constructor
    · intro h t ht
      obtain ⟨hr, h⟩ := h t ht
      exact ⟨(hR s a t hs ht).mp hr, (ih (hI s a t hs hr ht)).mp h⟩
    · intro h t ht
      obtain ⟨hr', h⟩ := h t ht
      have hr : R s a t := (hR s a t hs ht).mpr hr'
      exact ⟨hr, (ih (hI s a t hs hr ht)).mpr h⟩

/-- A relation that an invariant entails at each step holds at every step. -/
theorem everyStep_of_invariant {I : σ → Prop} {R : σ → α → σ → Prop}
    (hI : ∀ s a t, I s → step s a = some t → I t)
    (hR : ∀ s a t, I s → step s a = some t → R s a t) (hs : I s) : EveryStep step R s as := by
  induction as generalizing s with
  | nil => trivial
  | cons a as ih =>
    intro t ht
    exact ⟨hR s a t hs ht, ih (hI s a t hs ht)⟩

/-- What holds at every step holds at the steps after a run. -/
theorem everyStep_append {R : σ → α → σ → Prop} (h : EveryStep step R s (as ++ bs))
    (hrun : run step s as = some t) : EveryStep step R t bs := by
  induction as generalizing s with
  | nil => exact Option.some.inj hrun ▸ h
  | cons a as ih =>
    obtain ⟨u, hu, hrun⟩ := run_cons_eq_some.mp hrun
    exact ih (h u hu).2 hrun

theorem everyStep_and {R R' : σ → α → σ → Prop} :
    EveryStep step (fun s a t => R s a t ∧ R' s a t) s as ↔
      EveryStep step R s as ∧ EveryStep step R' s as := by
  induction as generalizing s with
  | nil => simp [EveryStep]
  | cons a as ih =>
    simp only [EveryStep, ih]
    constructor
    · intro h
      exact ⟨fun t ht => ⟨(h t ht).1.1, (h t ht).2.1⟩, fun t ht => ⟨(h t ht).1.2, (h t ht).2.2⟩⟩
    · rintro ⟨h, h'⟩ t ht
      exact ⟨⟨(h t ht).1, (h' t ht).1⟩, (h t ht).2, (h' t ht).2⟩

end Machine
