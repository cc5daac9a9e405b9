import HomeConfig.Library.Single
import Mathlib.Data.BitVec
import Mathlib.Data.List.TakeWhile

/-! C strings and the conversions of the C and Arduino libraries that the sketches use. -/
namespace Arduino

/-- One `char`: eight bits on every board here. -/
abbrev Byte := BitVec 8

def charByte (c : Char) : Byte := BitVec.ofNat 8 c.toNat

/-- The bytes of a string literal, without the terminator. -/
def ascii (s : String) : List Byte := s.toList.map charByte

/-- What a `char *` shows of a buffer: the bytes before the first NUL. -/
def cString (buffer : List Byte) : List Byte := buffer.takeWhile (· != 0#8)

def isSpace (c : Byte) : Bool := c == 32#8 || (9#8 ≤ c && c ≤ 13#8)

def isDigit (c : Byte) : Bool := 48#8 ≤ c && c ≤ 57#8

def toLower (c : Byte) : Byte := if 65#8 ≤ c && c ≤ 90#8 then c + 32#8 else c

/-- `String::trim`. -/
def trim (s : List Byte) : List Byte :=
  ((s.dropWhile isSpace).reverse.dropWhile isSpace).reverse

/-- `String::equalsIgnoreCase`. -/
def equalsIgnoreCase (s t : List Byte) : Bool := s.map toLower == t.map toLower

/-- An optional sign, and what follows it. -/
def takeSign (s : List Byte) : Bool × List Byte :=
  if s.head? = some 45#8 then (true, s.tail)
  else if s.head? = some 43#8 then (false, s.tail)
  else (false, s)

/-- The digit a byte stands for in `strtol`, if any. -/
def digitValue (c : Byte) : Option ℕ :=
  if isDigit c then some (c.toNat - 48)
  else if 97#8 ≤ toLower c && toLower c ≤ 122#8 then some ((toLower c).toNat - 87)
  else none

def digitsValue (base : ℕ) (s : List Byte) : ℕ :=
  s.foldl (fun n c => base * n + (digitValue c).getD 0) 0

def applySign (negative : Bool) (n : ℤ) : ℤ := if negative then -n else n

def atoi (s : List Byte) : ℤ :=
  let (negative, r) := takeSign (s.dropWhile isSpace)
  applySign negative (digitsValue 10 (r.takeWhile isDigit))

def decimal (n : ℕ) : List Byte := (Nat.toDigits 10 n).map charByte

/-- `itoa(value, buffer, 10)`. -/
def itoa (n : ℤ) : List Byte := if n < 0 then 45#8 :: decimal n.natAbs else decimal n.natAbs

/-- The decimal exponent at the start of the string; zero when there is none. -/
def readExponent (s : List Byte) : ℤ :=
  if s.head? = some 101#8 ∨ s.head? = some 69#8 then
    let (negative, r) := takeSign s.tail
    applySign negative (digitsValue 10 (r.takeWhile isDigit))
  else 0

/-- `atof` with the single precision `double` of the AVR boards. -/
def atof (s : List Byte) : Single :=
  let (negative, r) := takeSign (s.dropWhile isSpace)
  if (r.take 3).map toLower = ascii "nan" then .nan
  else if (r.take 3).map toLower = ascii "inf" then .infinite negative
  else
    let whole := r.takeWhile isDigit
    let r := r.dropWhile isDigit
    let point := r.head? == some 46#8
    let fraction := if point then r.tail.takeWhile isDigit else []
    let r := if point then r.tail.dropWhile isDigit else r
    let magnitude : ℚ :=
      digitsValue 10 (whole ++ fraction) * 10 ^ (readExponent r - fraction.length)
    .ofRat (if negative then -magnitude else magnitude)

def padLeft (width : ℕ) (fill : Byte) (s : List Byte) : List Byte :=
  List.replicate (width - s.length) fill ++ s

/-- `dtostrf`: decimal notation with `precision` digits after the point. -/
def dtostrf (v : Single) (width precision : ℕ) : List Byte :=
  padLeft width 32#8 <|
    match v with
    | .nan => ascii "nan"
    | .infinite negative => (if negative then [45#8] else []) ++ ascii "inf"
    | .finite q =>
      let scaled := ⌊|q| * 10 ^ precision + 1 / 2⌋.natAbs
      let fraction := padLeft precision 48#8 (decimal (scaled % 10 ^ precision))
      (if q < 0 then [45#8] else []) ++ decimal (scaled / 10 ^ precision) ++
        (if precision = 0 then [] else 46#8 :: fraction)

def longMax : ℤ := 2 ^ 31 - 1

def longMin : ℤ := -2 ^ 31

/-- `strtol` without an end pointer: a prefix that is a number decides, the rest is
ignored, and values outside `long` saturate. -/
def strtol (s : List Byte) (base : ℕ) : ℤ :=
  let (negative, r) := takeSign (s.dropWhile isSpace)
  let isDigitOf (c : Byte) : Bool := (digitValue c).any (· < base)
  let r := match r with
    | z :: x :: d :: rest =>
      if base = 16 ∧ z = 48#8 ∧ toLower x = 120#8 ∧ isDigitOf d then d :: rest else r
    | _ => r
  max longMin (min longMax (applySign negative (digitsValue base (r.takeWhile isDigitOf))))

/-- One call of `strtok`: the next token and the position kept for the following
call, or nothing when only delimiters are left. -/
def strtok (delimiters s : List Byte) : Option (List Byte × List Byte) :=
  let r := s.dropWhile (delimiters.contains ·)
  if r = [] then none
  else some (r.takeWhile (!delimiters.contains ·), (r.dropWhile (!delimiters.contains ·)).tail)

theorem cString_append_nul (s : List Byte) : cString (s ++ [0#8]) = cString s := by
  induction s with
  | nil => rfl
  | cons c s ih =>
    simp only [cString, List.cons_append, List.takeWhile_cons] at ih ⊢
    rw [ih]

theorem nul_not_mem_cString (s : List Byte) : 0#8 ∉ cString s := by
  intro h
  have hc := List.mem_takeWhile_imp h
  simp at hc

/-- Text in front of the first NUL is kept. -/
theorem cString_append {s : List Byte} (h : 0#8 ∉ s) (rest : List Byte) :
    cString (s ++ rest) = s ++ cString rest := by
  apply List.takeWhile_append_of_pos
  intro c hc
  have hne : c ≠ 0#8 := fun h0 => h (h0 ▸ hc)
  simpa using hne

theorem cString_eq_self {s : List Byte} (h : 0#8 ∉ s) : cString s = s := by
  rw [← List.append_nil s, cString_append h]
  rfl

theorem cString_terminated {s : List Byte} (h : 0#8 ∉ s) (rest : List Byte) :
    cString (s ++ 0#8 :: rest) = s := by
  rw [cString_append h]
  exact List.append_nil s

theorem mem_cString_cons {c p : Byte} {s : List Byte} :
    c ∈ cString (p :: s) ↔ p ≠ 0#8 ∧ (c = p ∨ c ∈ cString s) := by
  by_cases hp : p = 0#8
  · simp [cString, hp]
  · simp [cString, hp]

/-- A buffer is what it shows, or that followed by a NUL. -/
theorem eq_cString_append (s : List Byte) :
    s = cString s ∨ ∃ rest, s = cString s ++ 0#8 :: rest := by
  have hsplit : cString s ++ s.dropWhile (· != 0#8) = s := List.takeWhile_append_dropWhile
  cases hrest : s.dropWhile (· != 0#8) with
  | nil =>
    rw [hrest, List.append_nil] at hsplit
    exact .inl hsplit.symm
  | cons c rest =>
    have hc : c = 0#8 := by
      have hhead := List.head_dropWhile_not (· != 0#8) (l := s) (by simp [hrest])
      simpa [hrest] using hhead
    rw [hrest, hc] at hsplit
    exact .inr ⟨rest, hsplit.symm⟩

/-! ### Decimal integers -/

theorem charByte_toNat {c : Char} (hc : c.isDigit) : (charByte c).toNat = c.toNat := by
  have hb : c.toNat ≤ 57 := by
    simp only [Char.isDigit, Bool.and_eq_true, decide_eq_true_eq] at hc
    exact hc.2
  simp only [charByte, BitVec.toNat_ofNat]
  exact Nat.mod_eq_of_lt (by omega)

theorem isDigit_charByte {c : Char} (hc : c.isDigit) : isDigit (charByte c) := by
  have hn := charByte_toNat hc
  simp only [Char.isDigit, Bool.and_eq_true, decide_eq_true_eq] at hc
  have hl : 48 ≤ c.toNat := hc.1
  have hu : c.toNat ≤ 57 := hc.2
  simp only [isDigit, Bool.and_eq_true, decide_eq_true_eq, BitVec.le_def]
  exact ⟨by simpa [hn] using hl, by simpa [hn] using hu⟩

theorem isDigit_of_mem_decimal {n : ℕ} {c : Byte} (h : c ∈ decimal n) : isDigit c := by
  obtain ⟨d, hd, rfl⟩ := List.mem_map.mp h
  exact isDigit_charByte (Nat.isDigit_of_mem_toDigits (by norm_num) (by norm_num) hd)

theorem decimal_ne_nil (n : ℕ) : decimal n ≠ [] := by simp [decimal]

theorem digitsValue_decimal (n : ℕ) : digitsValue 10 (decimal n) = n := by
  have hdigit : ∀ c ∈ Nat.toDigits 10 n, (digitValue (charByte c)).getD 0 = c.toNat - '0'.toNat := by
    intro c hc
    have hc := Nat.isDigit_of_mem_toDigits (by norm_num) (by norm_num) hc
    simp [digitValue, isDigit_charByte hc, charByte_toNat hc]
  conv_rhs => rw [← Nat.ofDigitChars_ten_toDigits (n := n), Nat.ofDigitChars_eq_foldl]
  rw [digitsValue, decimal, List.foldl_map]
  exact List.foldl_ext _ _ _ fun n c hc => by rw [hdigit c hc]

theorem takeWhile_isDigit_decimal (n : ℕ) : (decimal n).takeWhile isDigit = decimal n :=
  List.takeWhile_eq_self_iff.mpr fun _ hc => isDigit_of_mem_decimal hc

theorem dropWhile_isDigit_decimal (n : ℕ) : (decimal n).dropWhile isDigit = [] :=
  List.dropWhile_eq_nil_iff.mpr fun _ hc => isDigit_of_mem_decimal hc

theorem decimal_eq_cons (n : ℕ) : ∃ d ds, decimal n = d :: ds ∧ isDigit d := by
  cases h : decimal n with
  | nil => exact (decimal_ne_nil n h).elim
  | cons d ds => exact ⟨d, ds, rfl, isDigit_of_mem_decimal (n := n) (by simp [h])⟩

/-- A digit is neither blank, sign nor letter. -/
theorem isDigit_cases {c : Byte} (h : isDigit c) :
    isSpace c = false ∧ c ≠ 45#8 ∧ c ≠ 43#8 ∧ toLower c = c ∧
      c ≠ 110#8 ∧ c ≠ 105#8 ∧ c ≠ 0#8 := by
  revert c
  decide

theorem dropWhile_isSpace_itoa (n : ℤ) : (itoa n).dropWhile isSpace = itoa n := by
  unfold itoa
  split
  · rfl
  · obtain ⟨d, ds, hd, hdigit⟩ := decimal_eq_cons n.natAbs
    simp [hd, (isDigit_cases hdigit).1]

theorem takeSign_itoa (n : ℤ) : takeSign (itoa n) = (decide (n < 0), decimal n.natAbs) := by
  unfold itoa
  split <;> rename_i hn
  · simp [takeSign, hn]
  · obtain ⟨d, ds, hd, hdigit⟩ := decimal_eq_cons n.natAbs
    obtain ⟨-, hminus, hplus, -⟩ := isDigit_cases hdigit
    simp [takeSign, hd, hminus, hplus, hn]

theorem decimal_not_word (n : ℕ) :
    ((decimal n).take 3).map toLower ≠ ascii "nan" ∧
      ((decimal n).take 3).map toLower ≠ ascii "inf" := by
  obtain ⟨d, ds, hd, hdigit⟩ := decimal_eq_cons n
  obtain ⟨-, -, -, hlower, hn, hi, -⟩ := isDigit_cases hdigit
  have hnan : ascii "nan" = [110#8, 97#8, 110#8] := by decide
  have hinf : ascii "inf" = [105#8, 110#8, 102#8] := by decide
  simp [hd, hnan, hinf, hlower, hn, hi]

/-- The sign that was taken off is put back. -/
theorem applySign_natAbs (n : ℤ) : applySign (decide (n < 0)) n.natAbs = n := by
  unfold applySign
  rcases lt_or_ge n 0 with h | h
  · simp only [h, decide_true, if_true]
    omega
  · simp only [h.not_gt, decide_false, Bool.false_eq_true, if_false]
    omega

theorem applySign_cast (negative : Bool) (n : ℕ) :
    (if negative then -(n : ℚ) else n) = (applySign negative n : ℤ) := by
  cases negative <;> simp [applySign]

theorem length_decimal_le {n k : ℕ} (hk : 0 < k) (hn : n < 10 ^ k) : (decimal n).length ≤ k := by
  rw [decimal, List.length_map]
  exact (Nat.length_toDigits_le_iff (by norm_num) hk).mpr hn

theorem length_padLeft_le {k width : ℕ} {fill : Byte} {text : List Byte} (hw : width ≤ k)
    (h : text.length ≤ k) : (padLeft width fill text).length ≤ k := by
  rw [padLeft, List.length_append, List.length_replicate]
  omega

theorem itoa_natCast (n : ℕ) : itoa n = decimal n := if_neg (Int.natCast_nonneg n).not_gt

theorem length_itoa_le {n : ℤ} {k : ℕ} (hk : 0 < k) (hn : n.natAbs < 10 ^ k) :
    (itoa n).length ≤ k + 1 := by
  have hd : (decimal n.natAbs).length ≤ k := length_decimal_le hk hn
  unfold itoa
  split
  · simpa using hd
  · omega

/-- The digits in front of the point, with a sign and one digit more from rounding, the point and the
digits behind it. -/
theorem length_dtostrf_le {v : Single} {width precision k : ℕ} (hk : 0 < k)
    (hwidth : width ≤ k + precision + 3) (h : ∀ q, v = .finite q → |q| < 10 ^ k) :
    (dtostrf v width precision).length ≤ k + precision + 3 := by
  refine length_padLeft_le hwidth ?_
  cases v with
  | nan =>
    have hnan : (ascii "nan").length = 3 := by decide
    dsimp only
    omega
  | infinite negative =>
    have hinf : ((if negative then [45#8] else []) ++ ascii "inf" : List Byte).length ≤ 4 := by
      cases negative <;> decide
    dsimp only
    omega
  | finite q =>
    have hone : (1 : ℚ) ≤ 10 ^ precision := one_le_pow₀ (by norm_num)
    have hfloor : ⌊|q| * 10 ^ precision + 1 / 2⌋ < (10 ^ (k + 1) * 10 ^ precision : ℕ) := by
      rw [Int.floor_lt]
      have hscaled : |q| * 10 ^ precision ≤ 10 ^ k * 10 ^ precision :=
        mul_le_mul_of_nonneg_right (h q rfl).le (by positivity)
      have hmore : (1 : ℚ) ≤ 10 ^ k * 10 ^ precision := one_le_mul_of_one_le_of_one_le (one_le_pow₀ (by norm_num)) hone
      push_cast
      rw [pow_succ]
      linarith
    have hpos : 0 ≤ ⌊|q| * 10 ^ precision + 1 / 2⌋ := Int.floor_nonneg.mpr (by positivity)
    have hscaled : ⌊|q| * 10 ^ precision + 1 / 2⌋.natAbs / 10 ^ precision < 10 ^ (k + 1) :=
      Nat.div_lt_of_lt_mul (by rw [Nat.mul_comm]; omega)
    have hwhole := length_decimal_le k.succ_pos hscaled
    have hsign : (if q < 0 then [45#8] else []).length ≤ 1 := by split <;> simp
    have hfraction : (if precision = 0 then [] else 46#8 :: padLeft precision 48#8
        (decimal (⌊|q| * 10 ^ precision + 1 / 2⌋.natAbs % 10 ^ precision))).length ≤ precision + 1 := by
      split
      · exact Nat.zero_le _
      · rename_i hprecision
        exact Nat.succ_le_succ (length_padLeft_le le_rfl (length_decimal_le
          (Nat.pos_of_ne_zero hprecision) (Nat.mod_lt _ (by positivity))))
    dsimp only
    rw [List.length_append, List.length_append]
    omega

theorem nul_not_mem_itoa (n : ℤ) : 0#8 ∉ itoa n := by
  have hd : 0#8 ∉ decimal n.natAbs := fun h => absurd (isDigit_of_mem_decimal h) (by decide)
  unfold itoa
  split
  · intro h
    rcases List.mem_cons.mp h with h | h
    · exact absurd h (by decide)
    · exact hd h
  · exact hd

theorem atoi_itoa (n : ℤ) : atoi (itoa n) = n := by
  unfold atoi
  rw [dropWhile_isSpace_itoa, takeSign_itoa]
  dsimp only
  rw [takeWhile_isDigit_decimal, digitsValue_decimal, applySign_natAbs]

/-- A rendered integer is read back exactly. -/
theorem atof_itoa {n : ℤ} (hn : |n| < 2 ^ 24) : atof (itoa n) = .finite n := by
  obtain ⟨hnan, hinf⟩ := decimal_not_word n.natAbs
  have hmagnitude : (digitsValue 10 (decimal n.natAbs ++ []) : ℚ) *
      10 ^ (readExponent [] - ([] : List Byte).length) = n.natAbs := by
    simp [digitsValue_decimal, readExponent]
  simp only [atof, dropWhile_isSpace_itoa, takeSign_itoa, if_neg hnan, if_neg hinf,
    takeWhile_isDigit_decimal, dropWhile_isDigit_decimal]
  have hpoint : (([] : List Byte).head? == some 46#8) = false := rfl
  simp only [hpoint, Bool.false_eq_true, if_false, hmagnitude]
  rw [applySign_cast, applySign_natAbs, Single.ofRat_intCast hn]

theorem itoa_inj {n m : ℤ} (hn : |n| < 2 ^ 24) (hm : |m| < 2 ^ 24) : itoa n = itoa m ↔ n = m := by
  constructor
  · intro h
    have hread : Single.finite n = Single.finite m := by rw [← atof_itoa hn, ← atof_itoa hm, h]
    exact_mod_cast Single.finite.inj hread
  · rintro rfl
    rfl

/-! ### Tokens -/

theorem strtok_separator {delimiters s : List Byte} {d : Byte} (hd : d ∈ delimiters) :
    strtok delimiters (d :: s) = strtok delimiters s := by
  simp [strtok, hd]

/-- A word up to the next delimiter is the token. -/
theorem strtok_word {delimiters w rest : List Byte} (hne : w ≠ [])
    (hw : ∀ c ∈ w, c ∉ delimiters) (hrest : ∀ d ∈ rest.head?, d ∈ delimiters) :
    strtok delimiters (w ++ rest) = some (w, rest.tail) := by
  have hdrop : (w ++ rest).dropWhile (delimiters.contains ·) = w ++ rest := by
    cases w with
    | nil => exact (hne rfl).elim
    | cons c w => simp [hw c (by simp)]
  have htake : (w ++ rest).takeWhile (!delimiters.contains ·) = w := by
    rw [List.takeWhile_append_of_pos (by simpa using hw)]
    cases rest with
    | nil => simp
    | cons d rest => simp [hrest d rfl]
  have hafter : (w ++ rest).dropWhile (!delimiters.contains ·) = rest := by
    rw [List.dropWhile_append_of_pos (by simpa using hw)]
    cases rest with
    | nil => rfl
    | cons d rest => simp [hrest d rfl]
  simp only [strtok, hdrop, htake, hafter, List.append_eq_nil_iff, hne, false_and, if_false]

end Arduino
