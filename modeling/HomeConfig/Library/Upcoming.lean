import HomeConfig.Library.Search
import Mathlib.Order.Lattice
import Mathlib.Order.Monotone.Basic
import Mathlib.Data.List.Pairwise

/-! The next event of a list that is looked through while the clock goes on: `clock n` is the
time at which the event at position `n` is looked at. -/
namespace Upcoming

variable {α τ : Type} [LinearOrder τ] {time : α → τ} {wanted : α → Prop} {clock : ℕ → τ}
  {events : List α} {e : α} {i : ℕ}

def Ahead (time : α → τ) (wanted : α → Prop) (clock : ℕ → τ) (n : ℕ) (e : α) : Prop :=
  clock n < time e ∧ wanted e

theorem not_ahead {n : ℕ} : ¬ Ahead time wanted clock n e ↔ (wanted e → time e ≤ clock n) := by
  unfold Ahead
  rw [and_comm, not_and, not_lt]

/-- The first event that is ahead of the clock. -/
def Next (time : α → τ) (wanted : α → Prop) (clock : ℕ → τ) (events : List α) (i : ℕ) (e : α) :
    Prop :=
  Search.First (Ahead time wanted clock) (fun n e => ¬ Ahead time wanted clock n e) events i e

def Missed (time : α → τ) (wanted : α → Prop) (clock : ℕ → τ) (events : List α) : Prop :=
  Search.Exhausted (fun n e => ¬ Ahead time wanted clock n e) events

theorem Next.ahead (h : Next time wanted clock events i e) : clock i < time e ∧ wanted e :=
  h.accepted

/-- Of a list in order of time, nothing before the next event was ahead of the clock when it was looked
at, or is so now. -/
theorem Next.earlier_past (h : Next time wanted clock events i e) (hclock : Monotone clock)
    (horder : events.Pairwise fun e f => time e ≤ time f) {j : ℕ} {f : α} (hj : events[j]? = some f)
    (hwanted : wanted f) (hlt : time f < time e) : time f ≤ clock j ∧ time f ≤ clock i := by
  rcases lt_trichotomy j i with hji | rfl | hij
  · have hpast : time f ≤ clock j := not_ahead.1 (h.rejected j hji f hj) hwanted
    exact ⟨hpast, hpast.trans (hclock hji.le)⟩
  · obtain rfl : e = f := Option.some.inj (h.here.symm.trans hj)
    exact absurd hlt (lt_irrefl _)
  · obtain ⟨hi', hei⟩ := List.getElem?_eq_some_iff.1 h.here
    obtain ⟨hj', hfj⟩ := List.getElem?_eq_some_iff.1 hj
    have hle : time events[i] ≤ time events[j] := List.pairwise_iff_getElem.1 horder i j hi' hj' hij
    rw [hei, hfj] at hle
    exact absurd hlt hle.not_gt

theorem Missed.past (h : Missed time wanted clock events) {f : α} (hf : events[i]? = some f)
    (hwanted : wanted f) : time f ≤ clock i :=
  not_ahead.1 (h i f hf) hwanted

/-- An event that lies behind all readings of the clock is not missed. -/
theorem not_missed {deadline : τ} (hclock : ∀ n < events.length, clock n < deadline)
    (hlate : ∃ f ∈ events, wanted f ∧ deadline ≤ time f) : ¬ Missed time wanted clock events := by
  intro h
  obtain ⟨f, hf, hwanted, hle⟩ := hlate
  obtain ⟨j, hj⟩ := List.mem_iff_getElem?.1 hf
  obtain ⟨hj', -⟩ := List.getElem?_eq_some_iff.1 hj
  exact absurd (hle.trans (h.past hj hwanted)) (hclock j hj').not_ge

end Upcoming
