import HomeConfig.RadioHead.Pll

/-! From bits to frames: the search for the start symbol, the bytes behind it, and the
buffer that they fill. -/
namespace RadioHead

open Arduino ShiftRegister

namespace Driver

variable {d : Driver} {header : Header} {data frame bytes : List Byte} {x : Byte} {b : Bool}
  {w v : BitVec 16} {k : ℕ} {as bs : List Bool}

/-! ### What a sender puts on the line -/

/-- The two bytes of the check. -/
def check (bytes : List Byte) : List Byte :=
  [(~~~ccitt bytes).setWidth 8, (~~~ccitt bytes >>> 8).setWidth 8]

def frameOf (header : Header) (data : List Byte) : List Byte :=
  content header data ++ check (content header data)

/-- Symbols go out with their lowest bit first. -/
def byteBits (x : Byte) : List Bool := (encode x).flatMap (bits 6)

def preambleBits : List Bool := preamble.flatMap (bits 6)

def messageBits (header : Header) (data : List Byte) : List Bool :=
  preambleBits ++ (frameOf header data).flatMap byteBits

theorem length_frameOf : (frameOf header data).length = data.length + 7 := by
  simp [frameOf, content, check]

theorem ccitt_frameOf : ccitt (frameOf header data) = 0xf0b8#16 := ccitt_residue

/-- The four symbols of the check are those of its two bytes. -/
theorem checkSymbols_eq (crc : BitVec 16) :
    checkSymbols crc = (encode (crc.setWidth 8)) ++ encode ((crc >>> 8).setWidth 8) := by
  have hhigh : ∀ k : ℕ, ((crc >>> (k + 4)) &&& 0xf#16).toNat = ((crc >>> k).setWidth 8 >>> 4).toNat := by
    intro k
    have hlt := crc.isLt
    simp only [BitVec.toNat_and, BitVec.toNat_ushiftRight, BitVec.toNat_setWidth,
      Nat.shiftRight_eq_div_pow, BitVec.toNat_ofNat]
    rw [show 15 % 2 ^ 16 = 2 ^ 4 - 1 from rfl, Nat.and_two_pow_sub_one_eq_mod, Nat.pow_add,
      ← Nat.div_div_eq_div_mul]
    omega
  have hlow : ∀ k : ℕ, ((crc >>> k) &&& 0xf#16).toNat = ((crc >>> k).setWidth 8 &&& 0xf#8).toNat := by
    intro k
    simp only [BitVec.toNat_and, BitVec.toNat_ushiftRight, BitVec.toNat_setWidth, BitVec.toNat_ofNat]
    rw [show 15 % 2 ^ 16 = 2 ^ 4 - 1 from rfl, show 15 % 2 ^ 8 = 2 ^ 4 - 1 from rfl,
      Nat.and_two_pow_sub_one_eq_mod, Nat.and_two_pow_sub_one_eq_mod]
    omega
  have h0 := hhigh 0
  have h0' := hlow 0
  have h8 := hhigh 8
  have h8' := hlow 8
  simp only [BitVec.ushiftRight_zero, Nat.zero_add] at h0 h0'
  simp only [checkSymbols, encode, h0, h0', h8, h8', List.cons_append, List.nil_append]

/-- The message area holds the symbols of the frame. -/
theorem messageArea_eq : messageArea header data = (frameOf header data).flatMap encode := by
  simp [messageArea, frameOf, check, checkSymbols_eq]

theorem bits_messageArea :
    (preamble ++ messageArea header data).flatMap (bits 6) = messageBits header data := by
  rw [List.flatMap_append, messageArea_eq, List.flatMap_assoc]
  rfl

/-! ### The window of the last twelve bits -/

/-- The bits shifted in one after the other. -/
def window (w : BitVec 16) (bs : List Bool) : BitVec 16 := bs.foldl shiftBit w

theorem window_cons : window w (b :: bs) = window (shiftBit w b) bs := rfl

theorem shiftBit_or : shiftBit (v ||| w) b = (v >>> 1) ||| shiftBit w b := by
  cases b <;> simp [shiftBit, BitVec.ushiftRight_or_distrib, BitVec.or_assoc]

theorem window_or : window (v ||| w) bs = (v >>> bs.length) ||| window w bs := by
  induction bs generalizing v w with
  | nil => simp [window]
  | cons b bs ih =>
    rw [window_cons, shiftBit_or, ih, ← BitVec.shiftRight_add, List.length_cons, Nat.add_comm,
      window_cons]

theorem toNat_shiftBit_lt (hw : w.toNat < 2 ^ 12) : (shiftBit w b).toNat < 2 ^ 12 := by
  have hhalf : (w >>> 1).toNat < 2 ^ 12 := by
    rw [BitVec.toNat_ushiftRight, Nat.shiftRight_eq_div_pow]
    omega
  cases b with
  | false => exact hhalf
  | true =>
    simp only [shiftBit, if_true, BitVec.toNat_or]
    exact Nat.or_lt_two_pow hhalf (by decide)

theorem toNat_window_lt (hw : w.toNat < 2 ^ 12) : (window w bs).toNat < 2 ^ 12 := by
  induction bs generalizing w with
  | nil => exact hw
  | cons b bs ih => exact ih (toNat_shiftBit_lt hw)

/-- Twelve bits push the former ones out. -/
theorem window_twelve (hw : w.toNat < 2 ^ 12) (hbs : 12 ≤ bs.length) : window w bs = window 0 bs := by
  have hgone : w >>> bs.length = 0 := by
    apply BitVec.eq_of_toNat_eq
    rw [BitVec.toNat_ushiftRight, Nat.shiftRight_eq_div_pow]
    have hpow : 2 ^ 12 ≤ 2 ^ bs.length := Nat.pow_le_pow_right (by decide) hbs
    rw [Nat.div_eq_of_lt (by omega)]
    rfl
  have h := @window_or 0 w bs
  rw [hgone] at h
  simpa using h

theorem window_zeros : window 0 (List.replicate k false) = 0 := by
  induction k with
  | zero => rfl
  | succ k ih =>
    have hzero : shiftBit 0 false = 0 := by decide
    rw [List.replicate_succ, window_cons, hzero, ih]

theorem length_byteBits : (byteBits x).length = 12 := by simp [byteBits, encode]

theorem decode_window (hw : w.toNat < 2 ^ 12) : decode (window w (byteBits x)) = x := by
  have hall : ∀ n < 256, decode (window 0 (byteBits (BitVec.ofNat 8 n))) = BitVec.ofNat 8 n := by
    decide +kernel
  have h := hall x.toNat x.isLt
  rw [BitVec.ofNat_toNat, BitVec.setWidth_eq] at h
  rw [window_twelve hw length_byteBits.ge, h]

/-! ### Runs over bits -/

def takeBits (d : Driver) (bs : List Bool) : Driver := bs.foldl takeBit d

theorem takeBits_cons : d.takeBits (b :: bs) = (d.takeBit b).takeBits bs := rfl

theorem takeBits_append : d.takeBits (as ++ bs) = (d.takeBits as).takeBits bs := List.foldl_append

/-- Until the start symbol has come in, only the window changes. -/
def StartFree (w : BitVec 16) : List Bool → Prop
  | [] => True
  | b :: bs => shiftBit w b ≠ startSymbol ∧ StartFree (shiftBit w b) bs

instance StartFree.decidable : ∀ (w : BitVec 16) (bs : List Bool), Decidable (StartFree w bs)
  | _, [] => .isTrue trivial
  | w, b :: bs =>
    have : Decidable (StartFree (shiftBit w b) bs) := StartFree.decidable _ bs
    inferInstanceAs (Decidable (_ ∧ _))

theorem takeBits_search (hd : d.rxActive = false) (hbs : StartFree d.rxBits bs) :
    d.takeBits bs = { d with rxBits := window d.rxBits bs } := by
  induction bs generalizing d with
  | nil => rfl
  | cons b bs ih =>
    obtain ⟨hb, hbs⟩ := hbs
    have hstep : d.takeBit b = { d with rxBits := shiftBit d.rxBits b } := by
      simp [takeBit, hd, hb]
    rw [takeBits_cons, hstep, ih (d := { d with rxBits := shiftBit d.rxBits b }) hd hbs]
    rfl

theorem takeBit_start (hd : d.rxActive = false) (hb : shiftBit d.rxBits b = startSymbol) :
    d.takeBit b =
      { d with rxBits := startSymbol, rxActive := true, rxBitCount := 0, rxBufLen := 0 } := by
  simp [takeBit, hd, hb]

/-- Inside a message, fewer than twelve bits only fill the window. -/
theorem takeBits_collect (hd : d.rxActive = true) (hbs : d.rxBitCount + bs.length < 12) :
    d.takeBits bs =
      { d with rxBits := window d.rxBits bs, rxBitCount := d.rxBitCount + bs.length } := by
  induction bs generalizing d with
  | nil => rfl
  | cons b bs ih =>
    rw [List.length_cons] at hbs
    have hstep : d.takeBit b =
        { d with rxBits := shiftBit d.rxBits b, rxBitCount := d.rxBitCount + 1 } := by
      simp only [takeBit, hd, if_true, ge_iff_le]
      rw [if_neg (by omega)]
    have hrest := ih (d := { d with rxBits := shiftBit d.rxBits b, rxBitCount := d.rxBitCount + 1 })
      hd (by dsimp only; omega)
    rw [takeBits_cons, hstep, hrest, List.length_cons, Nat.add_comm bs.length, ← Nat.add_assoc]
    rfl

/-- The twelfth bit completes a byte. -/
theorem takeBits_byte (hd : d.rxActive = true) (hcount : d.rxBitCount = 0)
    (hw : d.rxBits.toNat < 2 ^ 12) : d.takeBits (byteBits x) =
      takeByte { d with rxBits := window d.rxBits (byteBits x), rxBitCount := 12 } x := by
  obtain ⟨init, last, hsplit⟩ : ∃ init last, byteBits x = init ++ [last] := by
    have hne : byteBits x ≠ [] := by
      intro h
      have hlen := length_byteBits (x := x)
      rw [h] at hlen
      cases hlen
    exact ⟨_, _, (List.dropLast_append_getLast hne).symm⟩
  have hlen : init.length = 11 := by
    have h := length_byteBits (x := x)
    rw [hsplit] at h
    simpa using h
  have hwindow : window d.rxBits (byteBits x) = shiftBit (window d.rxBits init) last := by
    rw [hsplit, window, List.foldl_append]
    rfl
  have hdecode : decode (shiftBit (window d.rxBits init) last) = x := by
    rw [← hwindow, decode_window hw]
  rw [hwindow, hsplit, takeBits_append, takeBits_collect hd (by omega), hcount, hlen]
  rw [takeBits_cons]
  simp [takeBit, takeBits, hd, hdecode]

/-! ### The buffer -/

theorem takeByte_first (hlen : d.rxBufLen = 0) (hl : 7 ≤ x.toNat) (hu : x.toNat ≤ maxPayloadLen) :
    d.takeByte x =
      { d with rxCount := x, rxBuf := d.rxBuf.set 0 x, rxBufLen := 1, rxBitCount := 0 } := by
  have hsensible : ¬ (x.toNat < 7 ∨ x.toNat > maxPayloadLen) := by omega
  have hmore : ¬ 1 ≥ x.toNat := by omega
  simp only [takeByte, hlen, if_true, hsensible, and_false, if_false, Nat.zero_add, hmore]

theorem takeByte_next (hpos : 0 < d.rxBufLen) (hmore : d.rxBufLen + 1 < d.rxCount.toNat) :
    d.takeByte x =
      { d with rxBuf := d.rxBuf.set d.rxBufLen x, rxBufLen := d.rxBufLen + 1, rxBitCount := 0 } := by
  have hne : ¬ d.rxBufLen = 0 := by omega
  have hlast : ¬ d.rxBufLen + 1 ≥ d.rxCount.toNat := by omega
  simp only [takeByte, hne, if_false, false_and, hlast]

theorem takeByte_last (hpos : 0 < d.rxBufLen) (hlast : d.rxBufLen + 1 ≥ d.rxCount.toNat) :
    d.takeByte x =
      { setModeIdle { d with rxBuf := d.rxBuf.set d.rxBufLen x, rxBufLen := d.rxBufLen + 1,
                             rxActive := false, rxBufFull := true } with rxBitCount := 0 } := by
  have hne : ¬ d.rxBufLen = 0 := by omega
  simp only [takeByte, hne, if_false, false_and, hlast, if_true]

theorem take_set_self {buf : List Byte} (hk : k < buf.length) :
    (buf.set k x).take (k + 1) = buf.take k ++ [x] := by
  rw [List.take_add_one, List.take_set_of_le le_rfl, List.getElem?_set_self hk]
  rfl

/-- A frame announces its own length. -/
def Framed (frame : List Byte) : Prop :=
  7 ≤ frame.length ∧ frame.length ≤ maxPayloadLen ∧
    frame.head? = some (BitVec.ofNat 8 frame.length)

theorem framed_frameOf (h : data.length ≤ maxMessageLen) : Framed (frameOf header data) := by
  have hmax : maxMessageLen = 60 := rfl
  have hpayload : maxPayloadLen = 67 := rfl
  refine ⟨?_, ?_, ?_⟩
  · rw [length_frameOf]
    omega
  · rw [length_frameOf]
    omega
  · rw [length_frameOf]
    rfl

/-- The receiver listens: nothing is waiting to be read. -/
structure Open (d : Driver) : Prop where
  mode : d.mode = .rx
  notFull : d.rxBufFull = false
  notValid : d.rxBufValid = false
  window_lt : d.rxBits.toNat < 2 ^ 12
  buf : d.rxBuf.length = maxPayloadLen

/-- The first bytes of a frame have come in. -/
structure Collecting (d : Driver) (frame : List Byte) (k : ℕ) : Prop extends d.Open where
  active : d.rxActive = true
  bitCount : d.rxBitCount = 0
  bufLen : d.rxBufLen = k
  prefix_eq : d.rxBuf.take k = frame.take k
  count : 0 < k → d.rxCount.toNat = frame.length

/-- A whole frame waits to be read. -/
structure Full (d : Driver) (frame : List Byte) : Prop where
  mode : d.mode = .idle
  inactive : d.rxActive = false
  full : d.rxBufFull = true
  notValid : d.rxBufValid = false
  window_lt : d.rxBits.toNat < 2 ^ 12
  buf : d.rxBuf.length = maxPayloadLen
  bufLen : d.rxBufLen = frame.length
  frame_eq : d.rxBuf.take frame.length = frame

/-- The bits of one more byte, short of the last byte. -/
theorem Collecting.byte (h : d.Collecting frame k) (hf : Framed frame) (hk : k + 1 < frame.length)
    (hx : frame[k]? = some x) : (d.takeBits (byteBits x)).Collecting frame (k + 1) := by
  have hwindow : (window d.rxBits (byteBits x)).toNat < 2 ^ 12 := toNat_window_lt h.window_lt
  have hbuf : k < d.rxBuf.length := by
    rw [h.buf]
    have := hf.2.1
    omega
  have hprefix : (d.rxBuf.set k x).take (k + 1) = frame.take (k + 1) := by
    rw [take_set_self hbuf, h.prefix_eq, List.take_add_one, hx]
    rfl
  rw [takeBits_byte h.active h.bitCount h.window_lt]
  cases k with
  | zero =>
    have hcount : x.toNat = frame.length := by
      rw [← List.head?_eq_getElem?, hf.2.2] at hx
      rw [← Option.some.inj hx, BitVec.toNat_ofNat, Nat.mod_eq_of_lt]
      have hmax : maxPayloadLen = 67 := rfl
      have := hf.2.1
      omega
    rw [takeByte_first (d := { d with rxBits := window d.rxBits (byteBits x), rxBitCount := 12 })
      h.bufLen (by rw [hcount]; exact hf.1) (by rw [hcount]; exact hf.2.1)]
    exact ⟨⟨h.mode, h.notFull, h.notValid, hwindow, by simpa using h.buf⟩, h.active, rfl, rfl,
      hprefix, fun _ => hcount⟩
  | succ k =>
    have hcount := h.count (Nat.succ_pos k)
    have hlen := h.bufLen
    rw [takeByte_next (d := { d with rxBits := window d.rxBits (byteBits x), rxBitCount := 12 })
      (by rw [hlen]; omega) (by rw [hlen, hcount]; omega)]
    refine ⟨⟨h.mode, h.notFull, h.notValid, hwindow, by simpa using h.buf⟩, h.active, rfl, ?_, ?_,
      fun _ => hcount⟩
    · exact congrArg (· + 1) hlen
    · rw [← hprefix]
      exact congrArg (fun n => (d.rxBuf.set n x).take (k + 1 + 1)) hlen

/-- The bits of the last byte. -/
theorem Collecting.lastByte (h : d.Collecting frame k) (hf : Framed frame) (hk : k + 1 = frame.length)
    (hx : frame[k]? = some x) : (d.takeBits (byteBits x)).Full frame := by
  have hwindow : (window d.rxBits (byteBits x)).toNat < 2 ^ 12 := toNat_window_lt h.window_lt
  have hseven := hf.1
  have hbuf : k < d.rxBuf.length := by
    rw [h.buf]
    have := hf.2.1
    omega
  have hframe : (d.rxBuf.set k x).take frame.length = frame := by
    rw [← hk, take_set_self hbuf, h.prefix_eq]
    conv_rhs => rw [← List.take_length (l := frame), ← hk, List.take_add_one, hx]
    rfl
  have hcount := h.count (by omega)
  have hlen := h.bufLen
  rw [takeBits_byte h.active h.bitCount h.window_lt,
    takeByte_last (d := { d with rxBits := window d.rxBits (byteBits x), rxBitCount := 12 })
      (by rw [hlen]; omega) (by rw [hlen, hcount]; omega)]
  have hmode : d.mode ≠ .idle := by simp [h.mode]
  rw [setModeIdle, if_pos hmode]
  refine ⟨rfl, rfl, rfl, h.notValid, hwindow, by simpa using h.buf, ?_, ?_⟩
  · rw [← hk]
    exact congrArg (· + 1) hlen
  · rw [← hlen] at hframe
    exact hframe

/-- All bytes but the last. -/
theorem Collecting.allButLast (h : d.Collecting frame k) (hf : Framed frame) {rest : List Byte}
    (hsplit : frame = frame.take k ++ bytes ++ rest) (hk : k + bytes.length < frame.length) :
    (d.takeBits (bytes.flatMap byteBits)).Collecting frame (k + bytes.length) := by
  induction bytes generalizing d k with
  | nil => exact h
  | cons x bytes ih =>
    rw [List.length_cons] at hk
    have hlen : (frame.take k).length = k := by
      rw [List.length_take]
      omega
    have hx : frame[k]? = some x := by
      rw [hsplit, List.append_assoc, List.getElem?_append_right hlen.le, hlen, Nat.sub_self]
      rfl
    have hsplit' : frame = frame.take (k + 1) ++ bytes ++ rest := by
      rw [List.take_add_one, hx, Option.toList_some, List.append_assoc, List.append_assoc,
        List.singleton_append, ← List.cons_append, ← List.append_assoc]
      exact hsplit
    have hnext := ih (h.byte hf (by omega) hx) hsplit' (by omega)
    rw [List.flatMap_cons, takeBits_append, List.length_cons, Nat.add_comm bytes.length,
      ← Nat.add_assoc]
    exact hnext

/-! ### A message after silence -/

/-- Whatever the loop makes of the first bits, the start symbol is found at its place. -/
theorem startFree_preamble : ∀ lead ∈ Pll.leads,
    StartFree 0 (lead ++ (preambleBits.drop 4).dropLast) ∧
      shiftBit (window 0 (lead ++ (preambleBits.drop 4).dropLast)) true = startSymbol := by
  decide +kernel

theorem preambleBits_drop : preambleBits.drop 4 = (preambleBits.drop 4).dropLast ++ [true] := by
  decide +kernel

theorem toNat_startSymbol_lt : startSymbol.toNat < 2 ^ 12 := by decide

theorem Open.preamble {lead : List Bool} (h : d.Open) (hinactive : d.rxActive = false)
    (hw : d.rxBits = 0) (hlead : lead ∈ Pll.leads) :
    (d.takeBits (lead ++ preambleBits.drop 4)).Collecting frame 0 := by
  obtain ⟨hfree, hstart⟩ := startFree_preamble lead hlead
  rw [← hw] at hfree hstart
  rw [preambleBits_drop, ← List.append_assoc, takeBits_append, takeBits_search hinactive hfree,
    takeBits_cons,
    takeBit_start (d := { d with rxBits := window d.rxBits (lead ++ (preambleBits.drop 4).dropLast) })
      hinactive hstart]
  exact ⟨⟨h.mode, h.notFull, h.notValid, toNat_startSymbol_lt, h.buf⟩, rfl, rfl, rfl, rfl,
    fun hpos => absurd hpos (lt_irrefl 0)⟩

/-- The frame is complete with the last bit of the message, and not before. -/
theorem Open.message {lead : List Bool} (h : d.Open) (hinactive : d.rxActive = false)
    (hw : d.rxBits = 0) (hlead : lead ∈ Pll.leads) (hf : Framed frame) :
    ∃ init last, lead ++ preambleBits.drop 4 ++ frame.flatMap byteBits = init ++ [last] ∧
      (d.takeBits init).rxBufFull = false ∧ (d.takeBits (init ++ [last])).Full frame := by
  have hseven := hf.1
  obtain ⟨bytes, x, hframe⟩ : ∃ bytes x, frame = bytes ++ [x] := by
    have hne : frame ≠ [] := by
      rintro rfl
      simp at hseven
    exact ⟨_, _, (List.dropLast_append_getLast hne).symm⟩
  obtain ⟨init, last, hbits⟩ : ∃ init last, byteBits x = init ++ [last] := by
    have hne : byteBits x ≠ [] := by
      intro hnil
      have hlen := length_byteBits (x := x)
      rw [hnil] at hlen
      cases hlen
    exact ⟨_, _, (List.dropLast_append_getLast hne).symm⟩
  have hlen : bytes.length + 1 = frame.length := by rw [hframe, List.length_append]; rfl
  have hx : frame[bytes.length]? = some x := by rw [hframe]; simp
  have hsplit : frame = frame.take 0 ++ bytes ++ [x] := by
    rw [List.take_zero, List.nil_append]
    exact hframe
  have hcollecting := (h.preamble hinactive hw hlead).allButLast hf hsplit (by omega)
  rw [Nat.zero_add] at hcollecting
  have hfull := hcollecting.lastByte hf hlen hx
  refine ⟨lead ++ preambleBits.drop 4 ++ bytes.flatMap byteBits ++ init, last, ?_, ?_, ?_⟩
  · rw [hframe, List.flatMap_append, List.flatMap_singleton, hbits]
    simp only [List.append_assoc]
  · have hcount : init.length = 11 := by
      have h := length_byteBits (x := x)
      rw [hbits] at h
      simpa using h
    rw [takeBits_append, takeBits_append,
      takeBits_collect hcollecting.active (by rw [hcollecting.bitCount, hcount]; decide)]
    exact hcollecting.notFull
  · rw [List.append_assoc, ← hbits, takeBits_append, takeBits_append]
    exact hfull

/-! ### What a bit cannot do -/

/-- The fields that a decoded byte leaves alone, and when the buffer is full. -/
theorem takeByte_frame (d : Driver) (x : Byte) :
    (d.takeByte x).thisAddress = d.thisAddress ∧ (d.takeByte x).promiscuous = d.promiscuous ∧
      (d.takeByte x).rxBufValid = d.rxBufValid ∧ (d.takeByte x).rxBits = d.rxBits ∧
      (d.takeByte x).rxBuf.length = d.rxBuf.length ∧ (d.takeByte x).pll = d.pll ∧
      (d.rxBufFull = true → (d.takeByte x).rxBufFull = true) ∧
      ((d.takeByte x).rxBufFull = false → (d.takeByte x).mode = d.mode) := by
  unfold takeByte setModeIdle
  dsimp only
  repeat' split
  all_goals simp_all

theorem takeBit_frame (d : Driver) (b : Bool) :
    (d.takeBit b).thisAddress = d.thisAddress ∧ (d.takeBit b).promiscuous = d.promiscuous ∧
      (d.takeBit b).rxBufValid = d.rxBufValid ∧ (d.takeBit b).rxBits = shiftBit d.rxBits b ∧
      (d.takeBit b).rxBuf.length = d.rxBuf.length ∧ (d.takeBit b).pll = d.pll ∧
      (d.rxBufFull = true → (d.takeBit b).rxBufFull = true) ∧
      ((d.takeBit b).rxBufFull = false → (d.takeBit b).mode = d.mode) := by
  unfold takeBit
  dsimp only
  split
  · split
    · exact takeByte_frame { d with rxBits := shiftBit d.rxBits b, rxBitCount := d.rxBitCount + 1 } _
    · exact ⟨rfl, rfl, rfl, rfl, rfl, rfl, id, fun _ => rfl⟩
  · split
    · exact ⟨rfl, rfl, rfl, rfl, rfl, rfl, id, fun _ => rfl⟩
    · exact ⟨rfl, rfl, rfl, rfl, rfl, rfl, id, fun _ => rfl⟩

theorem takeBits_full (h : d.rxBufFull = true) : (d.takeBits bs).rxBufFull = true := by
  induction bs generalizing d with
  | nil => exact h
  | cons b bs ih => exact ih ((takeBit_frame d b).2.2.2.2.2.2.1 h)

theorem Open.takeBit (h : d.Open) (hb : (d.takeBit b).rxBufFull = false) : (d.takeBit b).Open := by
  obtain ⟨-, -, hvalid, hbits, hbuf, -, -, hmode⟩ := takeBit_frame d b
  refine ⟨(hmode hb).trans h.mode, hb, hvalid.trans h.notValid, ?_, hbuf.trans h.buf⟩
  rw [hbits]
  exact toNat_shiftBit_lt h.window_lt

/-- The framer does not look at the loop. -/
theorem takeByte_pll (p : Pll) :
    takeByte { d with pll := p } x = { d.takeByte x with pll := p } := by
  unfold takeByte setModeIdle
  dsimp only
  repeat' split
  all_goals simp_all

theorem takeBit_pll (p : Pll) : takeBit { d with pll := p } b = { d.takeBit b with pll := p } := by
  unfold takeBit
  dsimp only
  split
  · split
    · exact takeByte_pll (d := { d with rxBits := shiftBit d.rxBits b, rxBitCount := d.rxBitCount + 1 }) p
    · rfl
  · split
    · rfl
    · rfl

theorem takeBits_pll (p : Pll) :
    takeBits { d with pll := p } bs = { d.takeBits bs with pll := p } := by
  induction bs generalizing d with
  | nil => rfl
  | cons b bs ih => rw [takeBits_cons, takeBit_pll, ih, takeBits_cons]

end Driver

end RadioHead
