import HomeConfig.Arduino.CString

/-! The Arduino `String` object: bytes with a length, handled by C string functions that
stop at a NUL. -/
namespace Arduino

/-- An `int` as the 16-bit `unsigned int` of an argument. -/
def unsignedInt (n : ℤ) : ℕ := (BitVec.ofInt 16 n).toNat

/-- `String::indexOf`, which is `strchr`. -/
def indexOf (s : List Byte) (c : Byte) : ℤ :=
  if c ∈ cString s then (cString s).idxOf c else -1

/-- `String::substring`: reversed bounds are swapped and the end is clamped. -/
def substring (s : List Byte) (left right : ℕ) : List Byte :=
  let first := min left right
  let last := max left right
  if s.length ≤ first then [] else cString ((s.take last).drop first)

/-- `String::operator[]`. -/
def charAt (s : List Byte) (index : ℕ) : Byte := s.getD index 0#8

def toFloat (s : List Byte) : Single := atof (cString s)

/-- The bytes that `String::toCharArray` writes: `strncpy` pads what it does not find, and
the last byte is the terminator. -/
def toCharArray (s : List Byte) (bufsize : ℕ) : List Byte :=
  if bufsize = 0 then []
  else
    let n := min (bufsize - 1) s.length
    let copied := cString (s.take n)
    copied ++ List.replicate (n - copied.length) 0#8 ++ [0#8]

variable {s before : List Byte} {c : Byte} {n : ℕ}

theorem unsignedInt_natCast (h : n < 2 ^ 16) : unsignedInt n = n := by
  rw [unsignedInt, BitVec.ofInt_natCast, BitVec.toNat_ofNat, Nat.mod_eq_of_lt h]

theorem unsignedInt_neg_one : unsignedInt (-1) = 65535 := by decide

/-! ### Finding a separator -/

theorem indexOf_of_not_mem (h : c ∉ cString s) : indexOf s c = -1 := if_neg h

theorem indexOf_append (after : List Byte) (hc : c ≠ 0#8) (hnul : 0#8 ∉ before)
    (hbefore : c ∉ before) : indexOf (before ++ c :: after) c = before.length := by
  have hshown : cString (before ++ c :: after) = before ++ c :: cString after := by
    rw [cString_append hnul, cString, List.takeWhile_cons_of_pos (by simpa using hc)]
    rfl
  rw [indexOf, hshown, if_pos (by simp), List.idxOf_append_of_notMem hbefore,
    List.idxOf_cons_self, Nat.add_zero]

/-! ### Substrings -/

theorem substring_of_le {left right : ℕ} (h : left ≤ right) :
    substring s left right = cString ((s.take right).drop left) := by
  simp only [substring, min_eq_left h, max_eq_right h]
  split
  · rename_i hlen
    have hnil : (s.take right).drop left = [] := by
      apply List.drop_eq_nil_of_le
      exact (List.length_take_le' _ _).trans hlen
    rw [hnil]
    rfl
  · rfl

theorem nul_not_mem_substring (s : List Byte) (left right : ℕ) : 0#8 ∉ substring s left right := by
  simp only [substring]
  split
  · exact List.not_mem_nil
  · exact nul_not_mem_cString _

theorem substring_append (before middle after : List Byte) :
    substring (before ++ (middle ++ after)) before.length (before.length + middle.length) =
      cString middle := by
  rw [substring_of_le (Nat.le_add_right _ _), ← List.append_assoc, ← List.length_append,
    List.take_left, List.drop_left]

theorem substring_to_end (before after : List Byte) {right : ℕ}
    (h : (before ++ after).length ≤ right) :
    substring (before ++ after) before.length right = cString after := by
  have hle : before.length ≤ right := by
    rw [List.length_append] at h
    omega
  rw [substring_of_le hle, List.take_of_length_le h, List.drop_left]

/-- The copy of all but the last character. -/
theorem toCharArray_length {c : Byte} (h : 0#8 ∉ s) :
    toCharArray (s ++ [c]) (s ++ [c]).length = s ++ [0#8] := by
  have hn : min ((s ++ [c]).length - 1) (s ++ [c]).length = s.length := by simp
  simp only [toCharArray, hn, List.take_left, cString_eq_self h]
  simp

theorem length_toCharArray_le (s : List Byte) (bufsize : ℕ) :
    (toCharArray s bufsize).length ≤ bufsize := by
  rw [toCharArray]
  split
  · exact Nat.zero_le _
  · have hcopied : (cString (s.take (min (bufsize - 1) s.length))).length ≤
        min (bufsize - 1) s.length :=
      (List.takeWhile_prefix _).length_le.trans (List.length_take_le _ _)
    simp only [List.length_append, List.length_replicate, List.length_singleton]
    omega

end Arduino
