import HomeConfig.Library.Single

/-! The `int` of the AVR boards and its conversions from and to `float`. -/
namespace Arduino

/-- A sixteen bit `int`. -/
@[ext] structure AvrInt where
  val : ℤ
  lower : -32768 ≤ val
  upper : val ≤ 32767
deriving DecidableEq

namespace AvrInt

variable {n : AvrInt}

def zero : AvrInt := ⟨0, by decide, by decide⟩

/-- Every `int` is a `float`. -/
def toSingle (n : AvrInt) : Single := .ofRat n.val

theorem abs_val_lt : |n.val| < 2 ^ 24 := by
  have hl := n.lower
  have hu := n.upper
  rw [abs_lt]
  constructor <;> omega

theorem toSingle_eq : n.toSingle = .finite n.val := Single.ofRat_intCast abs_val_lt

end AvrInt

/-- Rounding towards zero. -/
def truncate (q : ℚ) : ℤ := if 0 ≤ q then ⌊q⌋ else ⌈q⌉

@[simp] theorem truncate_intCast (n : ℤ) : truncate n = n := by
  unfold truncate
  split <;> simp

/-- A conversion from `float` to `int`. The language only defines it for values whose
truncation fits; what a compiler makes of the others is open. -/
structure FloatToInt where
  toInt : Single → AvrInt
  toInt_finite : ∀ q, -32768 ≤ truncate q → truncate q ≤ 32767 →
    (toInt (.finite q)).val = truncate q

namespace FloatToInt

variable {c : FloatToInt} {n : AvrInt} {x : Single}

theorem toInt_intCast {m : ℤ} (hl : -32768 ≤ m) (hu : m ≤ 32767) :
    (c.toInt (.finite m)).val = m := by
  have h := c.toInt_finite (m : ℚ)
  simp only [truncate_intCast] at h
  exact h hl hu

@[simp] theorem toInt_toSingle : c.toInt n.toSingle = n := by
  rw [AvrInt.toSingle_eq]
  exact AvrInt.ext (toInt_intCast n.lower n.upper)

/-- The conversion is exact for the integers that fit, and for nothing else. -/
theorem toSingle_toInt_iff : (c.toInt x).toSingle = x ↔
    ∃ m : ℤ, -32768 ≤ m ∧ m ≤ 32767 ∧ x = .finite m := by
  constructor
  · intro h
    refine ⟨(c.toInt x).val, (c.toInt x).lower, (c.toInt x).upper, ?_⟩
    rw [← AvrInt.toSingle_eq, h]
  · rintro ⟨m, hl, hu, rfl⟩
    rw [AvrInt.toSingle_eq, toInt_intCast hl hu]

/-- Zero for the values that do not fit. -/
def orZero : FloatToInt where
  toInt
    | .finite q =>
      if h : -32768 ≤ truncate q ∧ truncate q ≤ 32767 then ⟨truncate q, h.1, h.2⟩ else .zero
    | _ => .zero
  toInt_finite := by
    intro q hl hu
    simp [hl, hu]

end FloatToInt

end Arduino
