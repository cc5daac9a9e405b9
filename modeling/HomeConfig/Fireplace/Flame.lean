import Mathlib.Algebra.Group.Nat.Even
import Mathlib.Data.List.Chain
import Mathlib.Data.List.Induction
import Mathlib.Data.Nat.Cast.Basic
import Mathlib.Order.Lattice

/-! The fireplace's flame sensor: what it publishes of a signal behind a debounced pin. -/
namespace Fireplace

/-- The lines that `flame.py` prints. -/
inductive Line where
  | on
  | off
deriving DecidableEq, Repr

variable {τ : Type*} [LinearOrder τ] [AddMonoidWithOne τ]

/-- The window of `add_event_detect`, in milliseconds. -/
def bouncetime : τ := 300

/-- The pin, the time of the last edge for which the callback ran, and the output. -/
structure Script (τ : Type*) where
  level : Bool
  ran : Option τ
  lines : List Line
deriving DecidableEq

/-- The script up to its infinite loop. -/
def start (level : Bool) : Script τ := ⟨level, none, [.off]⟩

def callback (s : Script τ) : Script τ :=
  { s with lines := s.lines ++ [if s.level then .on else .off] }

/-- Whether an edge at the given time runs the callback. -/
def Detected (ran : Option τ) (time : τ) : Prop := ∀ last ∈ ran, last + bouncetime ≤ time

instance (ran : Option τ) (time : τ) : Decidable (Detected ran time) :=
  match ran with
  | none => .isTrue fun _ h => by cases h
  | some last => decidable_of_iff (last + bouncetime ≤ time) (by simp [Detected])

/-- The level changes. -/
def edge (s : Script τ) (time : τ) : Script τ :=
  let s := { s with level := !s.level }
  if Detected s.ran time then { callback s with ran := some time } else s

/-- The script after the changes at these times. -/
def after (level : Bool) (times : List τ) : Script τ := times.foldl edge (start level)

/-- `mosquitto_pub -r -l` retains each line in place of the one before. -/
def retained (s : Script τ) : Option Line := s.lines.getLast?

/-- The retained line is ON exactly while the level is HIGH. -/
def Published (s : Script τ) : Prop := retained s = some .on ↔ s.level = true

/-- The time of the last detected edge, and how many edges were not detected after it. -/
def undetected (times : List τ) : Option τ × ℕ :=
  times.foldl (fun p time => if Detected p.1 time then (some time, 0) else (p.1, p.2 + 1)) (none, 0)

/-- What the script has printed last, in terms of the edges since. -/
structure Follows (level : Bool) (times : List τ) (s : Script τ) : Prop where
  ran : s.ran = (undetected times).1
  silent : times = [] → s.level = level ∧ retained s = some .off
  printed : times ≠ [] → (retained s = some .on ↔ (s.level = true ↔ Even (undetected times).2))

variable {level : Bool} {times : List τ} {time : τ} {s : Script τ}

theorem after_concat : after level (times ++ [time]) = edge (after level times) time := by
  simp [after]

theorem undetected_concat : undetected (times ++ [time]) =
    if Detected (undetected times).1 time then (some time, 0)
    else ((undetected times).1, (undetected times).2 + 1) := by
  rw [undetected, List.foldl_append]
  rfl

theorem edge_of_detected (h : Detected s.ran time) :
    edge s time = { callback { s with level := !s.level } with ran := some time } := by
  simp only [edge, if_pos h]

theorem edge_of_not_detected (h : ¬ Detected s.ran time) :
    edge s time = { s with level := !s.level } := by
  simp only [edge, if_neg h]

/-- The first edge is always detected. -/
theorem detected_of_first (h : times = []) : Detected (undetected times).1 time := by
  subst h
  intro last hlast
  cases hlast

theorem follows_after : Follows level times (after level times) := by
  induction times using List.reverseRecOn with
  | nil => exact ⟨rfl, fun _ => ⟨rfl, rfl⟩, fun h => absurd rfl h⟩
  | append_singleton times time ih =>
    rw [after_concat]
    by_cases hd : Detected (undetected times).1 time
    · have hedge := edge_of_detected (s := after level times) (ih.ran ▸ hd)
      rw [hedge]
      refine ⟨?_, fun h => absurd h (by simp), fun _ => ?_⟩
      · rw [undetected_concat, if_pos hd]
      · rw [undetected_concat, if_pos hd]
        cases (after level times).level <;> simp [retained, callback]
    · have hne : times ≠ [] := fun h => hd (detected_of_first h)
      have hedge := edge_of_not_detected (s := after level times) (ih.ran ▸ hd)
      have hprinted := ih.printed hne
      rw [hedge]
      refine ⟨?_, fun h => absurd h (by simp), fun _ => ?_⟩
      · rw [undetected_concat, if_neg hd]
        exact ih.ran
      · rw [undetected_concat, if_neg hd]
        have hsame : retained { after level times with level := !(after level times).level } =
            retained (after level times) := rfl
        rw [hsame, hprinted, Nat.even_add_one]
        cases (after level times).level <;> simp

/-- The state that is published, once the signal has settled, is the true one exactly when
an even number of changes went undetected after the last callback; with no change at all,
when the level was LOW from the start. -/
theorem published_iff (level : Bool) (times : List τ) :
    Published (after level times) ↔
      (times = [] → level = false) ∧ (times ≠ [] → Even (undetected times).2) := by
  have h : Follows level times (after level times) := follows_after
  unfold Published
  rcases eq_or_ne times [] with hnil | hne
  · obtain ⟨hlevel, hretained⟩ := h.silent hnil
    rw [hlevel, hretained]
    cases level <;> simp [hnil]
  · rw [h.printed hne]
    cases (after level times).level <;> simp [hne]

/-- Changes that keep the window apart are all detected. -/
theorem undetected_of_spaced (h : times.IsChain fun before time => before + bouncetime ≤ time) :
    undetected times = (times.getLast?, 0) := by
  induction times using List.reverseRecOn with
  | nil => rfl
  | append_singleton times time ih =>
    obtain ⟨hbefore, -, hlast⟩ := List.isChain_append.mp h
    have hd : Detected (undetected times).1 time := by
      intro last hmem
      rw [ih hbefore] at hmem
      exact hlast last hmem time rfl
    rw [undetected_concat, if_pos hd, List.getLast?_concat]

/-- A signal with such changes, and at least one, is published. -/
theorem published_of_spaced (h : times.IsChain fun before time => before + bouncetime ≤ time)
    (hne : times ≠ []) : Published (after level times) := by
  have hfollows : Follows level times (after level times) := follows_after
  have hundetected := undetected_of_spaced h
  unfold Published
  rw [hfollows.printed hne, hundetected]
  simp

/-- A pin that is HIGH from the start, and a flame that goes out a tenth of a second after
it was seen. -/
theorem flame_missed :
    ¬ Published (after (τ := ℕ) true []) ∧ ¬ Published (after (τ := ℕ) false [1000, 1100]) := by
  constructor
  · intro h
    cases h.mpr rfl
  · intro h
    cases h.mp (by decide)

end Fireplace
