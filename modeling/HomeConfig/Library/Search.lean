import Mathlib.Data.List.Basic

/-! The first element of a list that a test accepts. The test may depend on the position of
the element, and it may fail. -/
namespace Search

variable {α ε : Type}

def first (test : ℕ → α → Except ε Bool) : List α → Except ε (Option α)
  | [] => .ok none
  | x :: xs => do
    if ← test 0 x then return some x
    else first (fun n => test (n + 1)) xs

/-- `x` at position `i` is accepted, and what stands before it is rejected. -/
structure First (accept reject : ℕ → α → Prop) (xs : List α) (i : ℕ) (x : α) : Prop where
  here : xs[i]? = some x
  accepted : accept i x
  rejected : ∀ j < i, ∀ y, xs[j]? = some y → reject j y

def Exhausted (reject : ℕ → α → Prop) (xs : List α) : Prop :=
  ∀ j y, xs[j]? = some y → reject j y

variable {accept reject : ℕ → α → Prop} {x y : α} {xs : List α} {i : ℕ}

theorem not_first_nil : ¬ First accept reject [] i x := fun h => by simpa using h.here

theorem first_zero : First accept reject (x :: xs) 0 y ↔ x = y ∧ accept 0 x := by
  constructor
  · intro h
    have hxy : x = y := by simpa using h.here
    subst hxy
    exact ⟨rfl, h.accepted⟩
  · rintro ⟨rfl, h⟩
    exact ⟨rfl, h, fun j hj => absurd hj (Nat.not_lt_zero j)⟩

theorem first_succ : First accept reject (x :: xs) (i + 1) y ↔
    reject 0 x ∧ First (fun n => accept (n + 1)) (fun n => reject (n + 1)) xs i y := by
  constructor
  · intro h
    refine ⟨h.rejected 0 (Nat.succ_pos i) x rfl, ⟨by simpa using h.here, h.accepted, ?_⟩⟩
    intro j hj z hz
    exact h.rejected (j + 1) (Nat.succ_lt_succ hj) z (by simpa using hz)
  · rintro ⟨hx, h⟩
    refine ⟨by simpa using h.here, h.accepted, fun j hj z hz => ?_⟩
    cases j with
    | zero =>
      have hxz : x = z := by simpa using hz
      exact hxz ▸ hx
    | succ j => exact h.rejected j (Nat.lt_of_succ_lt_succ hj) z (by simpa using hz)

theorem exists_first_cons : (∃ i, First accept reject (x :: xs) i y) ↔
    (x = y ∧ accept 0 x) ∨
      (reject 0 x ∧ ∃ i, First (fun n => accept (n + 1)) (fun n => reject (n + 1)) xs i y) := by
  constructor
  · rintro ⟨i, h⟩
    cases i with
    | zero => exact .inl (first_zero.1 h)
    | succ i => exact .inr ⟨(first_succ.1 h).1, i, (first_succ.1 h).2⟩
  · rintro (h | ⟨hx, i, h⟩)
    · exact ⟨0, first_zero.2 h⟩
    · exact ⟨i + 1, first_succ.2 ⟨hx, h⟩⟩

theorem exhausted_nil : Exhausted reject ([] : List α) := fun j y h => by simp at h

theorem exhausted_cons : Exhausted reject (x :: xs) ↔
    reject 0 x ∧ Exhausted (fun n => reject (n + 1)) xs := by
  constructor
  · intro h
    exact ⟨h 0 x rfl, fun j y hy => h (j + 1) y (by simpa using hy)⟩
  · rintro ⟨hx, h⟩ j y hy
    cases j with
    | zero =>
      have hxy : x = y := by simpa using hy
      exact hxy ▸ hx
    | succ j => exact h j y (by simpa using hy)

theorem first_map {β : Type} {f : β → α} {ys : List β} :
    First accept reject (ys.map f) i x ↔ ∃ y, f y = x ∧
      First (fun n y => accept n (f y)) (fun n y => reject n (f y)) ys i y := by
  constructor
  · intro h
    obtain ⟨y, hy, rfl⟩ : ∃ y, ys[i]? = some y ∧ f y = x := by simpa using h.here
    exact ⟨y, rfl, hy, h.accepted, fun j hj z hz => h.rejected j hj (f z) (by simp [hz])⟩
  · rintro ⟨y, rfl, h⟩
    refine ⟨by simp [h.here], h.accepted, fun j hj z hz => ?_⟩
    obtain ⟨w, hw, rfl⟩ : ∃ w, ys[j]? = some w ∧ f w = z := by simpa using hz
    exact h.rejected j hj w hw

theorem exhausted_const {p : α → Prop} : Exhausted (fun _ => p) xs ↔ ∀ x ∈ xs, p x := by
  constructor
  · intro h x hx
    obtain ⟨j, hj⟩ := List.mem_iff_getElem?.1 hx
    exact h j x hj
  · intro h j y hy
    exact h y (List.mem_of_getElem? hy)

theorem First.mem (h : First accept reject xs i x) : x ∈ xs := List.mem_of_getElem? h.here

theorem First.imp {accept' reject' : ℕ → α → Prop} (h : First accept reject xs i x)
    (haccept : ∀ n, ∀ y ∈ xs, accept n y → accept' n y)
    (hreject : ∀ n, ∀ y ∈ xs, reject n y → reject' n y) : First accept' reject' xs i x :=
  ⟨h.here, haccept i x h.mem h.accepted, fun j hj y hy =>
    hreject j y (List.mem_of_getElem? hy) (h.rejected j hj y hy)⟩

theorem Exhausted.imp {reject' : ℕ → α → Prop} (h : Exhausted reject xs)
    (hreject : ∀ n, ∀ y ∈ xs, reject n y → reject' n y) : Exhausted reject' xs :=
  fun j y hy => hreject j y (List.mem_of_getElem? hy) (h j y hy)

theorem exhausted_map {β : Type} {f : β → α} {ys : List β} :
    Exhausted reject (ys.map f) ↔ Exhausted (fun n y => reject n (f y)) ys := by
  simp [Exhausted]

/-- A test that never fails finds an element or goes through the list. -/
theorem first_or_exhausted (accept : ℕ → α → Prop) (xs : List α) :
    (∃ i x, First accept (fun n y => ¬ accept n y) xs i x) ∨
      Exhausted (fun n y => ¬ accept n y) xs := by
  induction xs generalizing accept with
  | nil => exact .inr exhausted_nil
  | cons x xs ih =>
    by_cases hx : accept 0 x
    · exact .inl ⟨0, x, first_zero.2 ⟨rfl, hx⟩⟩
    · rcases ih (fun n => accept (n + 1)) with ⟨i, y, h⟩ | h
      · exact .inl ⟨i + 1, y, first_succ.2 ⟨hx, h⟩⟩
      · exact .inr (exhausted_cons.2 ⟨hx, h⟩)

/-! ### What the search returns -/

variable {test : ℕ → α → Except ε Bool}

theorem first_eq_some : first test xs = .ok (some y) ↔
    ∃ i, First (fun n z => test n z = .ok true) (fun n z => test n z = .ok false) xs i y := by
  induction xs generalizing test with
  | nil => simp [first, not_first_nil]
  | cons x xs ih =>
    rw [exists_first_cons, ← ih]
    rcases htest : test 0 x with e | b
    · simp [first, htest, bind, Except.bind]
    · cases b <;> simp [first, htest, bind, Except.bind, pure, Except.pure]

theorem first_eq_none : first test xs = .ok none ↔
    Exhausted (fun n z => test n z = .ok false) xs := by
  induction xs generalizing test with
  | nil => simp [first, exhausted_nil]
  | cons x xs ih =>
    rw [exhausted_cons, ← ih]
    rcases htest : test 0 x with e | b
    · simp [first, htest, bind, Except.bind]
    · cases b <;> simp [first, htest, bind, Except.bind, pure, Except.pure]

/-- The search returns when it finds an element before the test fails, and when the test
rejects them all. -/
theorem first_returns_iff : (∃ result, first test xs = .ok result) ↔
    (∃ i y, First (fun n z => test n z = .ok true) (fun n z => test n z = .ok false) xs i y) ∨
      Exhausted (fun n z => test n z = .ok false) xs := by
  constructor
  · rintro ⟨_ | y, h⟩
    · exact .inr (first_eq_none.1 h)
    · obtain ⟨i, hi⟩ := first_eq_some.1 h
      exact .inl ⟨i, y, hi⟩
  · rintro (⟨i, y, h⟩ | h)
    · exact ⟨some y, first_eq_some.2 ⟨i, h⟩⟩
    · exact ⟨none, first_eq_none.2 h⟩

end Search
