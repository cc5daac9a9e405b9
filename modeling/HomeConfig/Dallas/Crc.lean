import HomeConfig.Dallas.Search

/-! The check byte behind addresses and scratchpads. -/
namespace Dallas

open Arduino ShiftRegister

variable {crc : Byte} {xs ys : List Byte}

def dscrcTable : List ℕ :=
  [0, 94, 188, 226, 97, 63, 221, 131, 194, 156, 126, 32, 163, 253, 31, 65,
   157, 195, 33, 127, 252, 162, 64, 30, 95, 1, 227, 189, 62, 96, 130, 220,
   35, 125, 159, 193, 66, 28, 254, 160, 225, 191, 93, 3, 128, 222, 60, 98,
   190, 224, 2, 92, 223, 129, 99, 61, 124, 34, 192, 158, 29, 67, 161, 255,
   70, 24, 250, 164, 39, 121, 155, 197, 132, 218, 56, 102, 229, 187, 89, 7,
   219, 133, 103, 57, 186, 228, 6, 88, 25, 71, 165, 251, 120, 38, 196, 154,
   101, 59, 217, 135, 4, 90, 184, 230, 167, 249, 27, 69, 198, 152, 122, 36,
   248, 166, 68, 26, 153, 199, 37, 123, 58, 100, 134, 216, 91, 5, 231, 185,
   140, 210, 48, 110, 237, 179, 81, 15, 78, 16, 242, 172, 47, 113, 147, 205,
   17, 79, 173, 243, 112, 46, 204, 146, 211, 141, 111, 49, 178, 236, 14, 80,
   175, 241, 19, 77, 206, 144, 114, 44, 109, 51, 209, 143, 12, 82, 176, 238,
   50, 108, 142, 208, 83, 13, 239, 177, 240, 174, 76, 18, 145, 207, 45, 115,
   202, 148, 118, 40, 171, 245, 23, 73, 8, 86, 180, 234, 105, 55, 213, 139,
   87, 9, 235, 181, 54, 104, 138, 212, 149, 203, 41, 119, 244, 170, 72, 22,
   233, 183, 85, 11, 136, 214, 52, 106, 43, 117, 151, 201, 74, 20, 246, 168,
   116, 42, 200, 150, 21, 75, 169, 247, 182, 232, 10, 84, 215, 137, 107, 53]

/-- `crc8`. -/
def crc8 (bytes : List Byte) : Byte :=
  bytes.foldl (fun crc x => BitVec.ofNat 8 (dscrcTable.getD (crc ^^^ x).toNat 0)) 0#8

/-- The polynomial of the check, lowest power in the highest bit. -/
def crc8Poly : Byte := 0x8c#8

theorem crc8Poly_proper : Proper crc8Poly := by
  constructor <;> decide

theorem crc8Poly_odd : parity (bits 8 crc8Poly) = true := by decide

/-- In an address or a scratchpad the register does not come back to one between two bits. -/
theorem crc8Poly_period : ∀ j < 72, feed crc8Poly crc8Poly (List.replicate j false) ≠ 1 := by
  decide +kernel

/-- The table holds what eight shifts make of each byte. -/
theorem dscrcTable_eq_feed (x : Byte) : BitVec.ofNat 8 (dscrcTable.getD x.toNat 0) =
    feed crc8Poly x (List.replicate 8 false) := by
  have hall : ∀ n < 256, BitVec.ofNat 8 (dscrcTable.getD n 0) =
      feed crc8Poly (BitVec.ofNat 8 n) (List.replicate 8 false) := by decide +kernel
  have h := hall x.toNat x.isLt
  rwa [BitVec.ofNat_toNat, BitVec.setWidth_eq] at h

theorem crc8_eq_feed : crc8 xs = feed crc8Poly 0#8 (xs.flatMap (bits 8)) := by
  have hall : ∀ crc : Byte, xs.foldl (fun crc x => BitVec.ofNat 8 (dscrcTable.getD (crc ^^^ x).toNat 0)) crc =
      feed crc8Poly crc (xs.flatMap (bits 8)) := by
    induction xs with
    | nil => intro crc; rfl
    | cons x xs ih =>
      intro crc
      rw [List.foldl_cons, ih, List.flatMap_cons, feed_append, dscrcTable_eq_feed, feed_bits,
        BitVec.ushiftRight_eq_zero (le_refl 8), BitVec.xor_zero]
  exact hall 0#8

/-- The last byte of a record is the check of the others if the register runs empty over it. -/
theorem crc8_eq_iff {x : Byte} : crc8 xs = x ↔ crc8 (xs ++ [x]) = 0#8 := by
  have hlast : crc8 (xs ++ [x]) = feed crc8Poly (crc8 xs ^^^ x) (List.replicate 8 false) := by
    rw [crc8_eq_feed, List.flatMap_append, feed_append, ← crc8_eq_feed, List.flatMap_singleton,
      feed_bits, BitVec.ushiftRight_eq_zero (le_refl 8), BitVec.xor_zero]
  have hzero : (0#8 : Byte) = feed crc8Poly 0 (List.replicate 8 false) := (feed_zero 8).symm
  rw [hlast]
  constructor
  · intro h
    rw [h, BitVec.xor_self]
    exact hzero.symm
  · intro h
    rw [hzero] at h
    exact BitVec.xor_eq_zero_iff.mp (feed_injective crc8Poly_proper h)

/-- The bytes end with the right check: the register runs empty over them. -/
def Checked (bytes : List Byte) : Prop := feed crc8Poly 0#8 (bytes.flatMap (bits 8)) = 0#8

instance (bytes : List Byte) : Decidable (Checked bytes) := inferInstanceAs (Decidable (_ = _))

/-- A record of `k` bytes and their check. -/
theorem eq_take_append {k : ℕ} (hlen : xs.length = k + 1) : xs = xs.take k ++ [xs.getD k 0#8] := by
  have hlast : xs.drop k = [xs.getD k 0#8] := by
    rw [List.drop_eq_getElem_cons (by omega), List.drop_of_length_le (by omega),
      List.getD_eq_getElem _ _ (by omega)]
  rw [← hlast, List.take_append_drop]

theorem crc8_take_iff {k : ℕ} (hlen : xs.length = k + 1) :
    crc8 (xs.take k) = xs.getD k 0#8 ↔ Checked xs := by
  rw [crc8_eq_iff, ← eq_take_append hlen, crc8_eq_feed]
  rfl

/-- Nine bytes near to others with the right check have it only if they are the same. -/
theorem eq_of_crc8 {x y : Byte} (h : Near 8 ((xs ++ [x]).flatMap (bits 8)) ((ys ++ [y]).flatMap (bits 8)))
    (hlen : xs.length ≤ 8) (hx : crc8 xs = x) (hy : crc8 ys = y) : xs ++ [x] = ys ++ [y] := by
  rw [crc8_eq_iff, crc8_eq_feed] at hx hy
  refine flatMap_bits_injective (Nat.succ_pos 7)
    (h.eq_of_feed crc8Poly_proper crc8Poly_odd crc8Poly_period ?_ (hx.trans hy.symm))
  rw [length_flatMap_bits, List.length_append, List.length_singleton]
  omega

end Dallas
