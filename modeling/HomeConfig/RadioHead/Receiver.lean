import HomeConfig.RadioHead.Framer

/-! The receiver between its interrupts and the sketch that polls it: whatever comes in, only
frames that pass their check are handed out, and each of them once. -/
namespace RadioHead

open Arduino ShiftRegister

/-- What happens to a receiver: an interrupt with a sample, or a call of `recv`. -/
inductive Event where
  | sample (rxSample : Bool)
  | recv
deriving DecidableEq, Repr

namespace Driver

variable {d : Driver} {frame : List Byte} {x b : Bool} {len : ℕ} {es : List Event}

/-- The receiver and the messages that it has handed out. -/
def exec (len : ℕ) : Driver → List Event → Driver × List (List Byte)
  | d, [] => (d, [])
  | d, .sample x :: es => exec len (d.handleTimerInterrupt x) es
  | d, .recv :: es =>
    ((exec len (d.recv len).1 es).1, (d.recv len).2.toList ++ (exec len (d.recv len).1 es).2)

/-- The four headers behind the length. -/
def headerOf (frame : List Byte) : Header :=
  ⟨frame.getD 1 0#8, frame.getD 2 0#8, frame.getD 3 0#8, frame.getD 4 0#8⟩

def Accepts (d : Driver) (header : Header) : Prop :=
  d.promiscuous = true ∨ header.headerTo = d.thisAddress ∨ header.headerTo = broadcastAddress

instance (d : Driver) (header : Header) : Decidable (d.Accepts header) :=
  inferInstanceAs (Decidable (_ ∨ _))

/-- The message between the headers and the check, as much of it as the caller has room for. -/
def payload (len : ℕ) (frame : List Byte) : List Byte :=
  (frame.drop (headerLen + 1)).take (min len (frame.length - 7))

/-- The check is right and the frame is for this node. -/
def Valid (d : Driver) (frame : List Byte) : Prop :=
  ccitt frame = 0xf0b8#16 ∧ d.Accepts (headerOf frame)

instance (d : Driver) (frame : List Byte) : Decidable (d.Valid frame) :=
  inferInstanceAs (Decidable (_ ∧ _))

theorem Open.recv (h : d.Open) : d.recv len = (d, none) := by
  have havailable : d.available = (d, false) := by
    simp [available, setModeRx, h.mode, h.notFull, h.notValid]
  rw [Driver.recv, havailable]

theorem getD_rxBuf (h : d.Full frame) {i : ℕ} (hi : i < frame.length) :
    d.rxBuf.getD i 0#8 = frame.getD i 0#8 := by
  conv_rhs => rw [← h.frame_eq]
  simp only [List.getD_eq_getElem?_getD, List.getElem?_take_of_lt hi]

/-- What the validation leaves alone. -/
theorem validateRxBuf_frame (d : Driver) : (validateRxBuf d).mode = d.mode ∧
    (validateRxBuf d).thisAddress = d.thisAddress ∧
    (validateRxBuf d).promiscuous = d.promiscuous ∧ (validateRxBuf d).pll = d.pll ∧
    (validateRxBuf d).rxActive = d.rxActive ∧ (validateRxBuf d).rxBits = d.rxBits ∧
    (validateRxBuf d).rxBuf = d.rxBuf ∧ (validateRxBuf d).rxBufLen = d.rxBufLen := by
  unfold validateRxBuf
  dsimp only
  split
  · simp
  · split <;> simp

theorem rxBufValid_validateRxBuf (h : d.rxBufValid = false)
    (hframe : d.rxBuf.take d.rxBufLen = frame) (hheader : headerOf d.rxBuf = headerOf frame) :
    (validateRxBuf d).rxBufValid = decide (d.Valid frame) := by
  unfold validateRxBuf
  rw [hframe]
  split
  · rename_i hcrc
    exact (decide_eq_false fun hv : d.Valid frame => hcrc hv.1).symm
  · rename_i hcrc
    rw [not_not] at hcrc
    dsimp only
    have haccepts : (d.promiscuous = true ∨ d.rxBuf.getD 1 0#8 = d.thisAddress ∨
        d.rxBuf.getD 1 0#8 = broadcastAddress) ↔ d.Valid frame := by
      rw [Valid, and_iff_right hcrc, ← hheader]
      rfl
    by_cases hv : d.Valid frame
    · rw [if_pos (haccepts.mpr hv), decide_eq_true hv]
    · rw [if_neg (mt haccepts.mp hv), decide_eq_false hv]
      exact h

/-- What a call of `recv` makes of a whole frame. -/
theorem Full.recv (len : ℕ) (h : d.Full frame) (hf : Framed frame) :
    (d.recv len).2 = (if d.Valid frame then some (payload len frame) else none) ∧
      (d.recv len).1.Open ∧ (d.recv len).1.rxActive = false ∧ (d.recv len).1.pll = d.pll ∧
      (d.recv len).1.thisAddress = d.thisAddress ∧ (d.recv len).1.promiscuous = d.promiscuous := by
  have hseven := hf.1
  have hmax : frame.length ≤ 67 := hf.2.1
  have hheader : headerOf d.rxBuf = headerOf frame := by
    simp only [headerOf, getD_rxBuf h (show 1 < frame.length by omega),
      getD_rxBuf h (show 2 < frame.length by omega), getD_rxBuf h (show 3 < frame.length by omega),
      getD_rxBuf h (show 4 < frame.length by omega)]
  have hpayload : (d.rxBuf.drop (headerLen + 1)).take (min len (frame.length - 7)) =
      payload len frame := by
    rw [payload]
    conv_rhs => rw [← h.frame_eq]
    rw [List.drop_take, List.take_take, headerLen, List.length_take, h.buf]
    congr 1
    simp only [maxPayloadLen]
    omega
  have hlen : (frame.length + 256 - headerLen - 3) % 256 = frame.length - 7 := by
    simp only [headerLen]
    omega
  obtain ⟨e, he⟩ : ∃ e, e = validateRxBuf d.setModeRx := ⟨_, rfl⟩
  have hrx : d.setModeRx = { d with pttPin := false, txPin := false, mode := .rx } :=
    if_pos (by simp [h.mode])
  obtain ⟨hmode, haddress, hpromiscuous, hpll, hactive, hbits, hbuf, hbufLen⟩ :=
    validateRxBuf_frame d.setModeRx
  have hvalid : e.rxBufValid = decide (d.Valid frame) := by
    rw [he, @rxBufValid_validateRxBuf _ frame]
    · rw [hrx]
      rfl
    · rw [hrx]
      exact h.notValid
    · rw [hrx]
      exact (congrArg (d.rxBuf.take ·) h.bufLen).trans h.frame_eq
    · rw [hrx]
      exact hheader
  rw [← he] at hmode haddress hpromiscuous hpll hactive hbits hbuf hbufLen
  rw [hrx] at hmode haddress hpromiscuous hpll hactive hbits hbuf hbufLen
  have havailable : d.available = ({ e with rxBufFull := false }, e.rxBufValid) := by
    have hfull : d.setModeRx.rxBufFull = true := by
      rw [hrx]
      exact h.full
    simp only [available, h.mode, reduceCtorEq, if_false, hfull, if_true, ← he]
  have hwindow : e.rxBits.toNat < 2 ^ 12 := by
    rw [hbits]
    exact h.window_lt
  have hlength : e.rxBuf.length = maxPayloadLen := by
    rw [hbuf]
    exact h.buf
  by_cases hv : d.Valid frame
  · rw [decide_eq_true hv] at hvalid
    rw [Driver.recv, havailable, hvalid, if_pos hv]
    refine ⟨?_, ⟨hmode, rfl, rfl, hwindow, hlength⟩, hactive.trans h.inactive, hpll, haddress,
      hpromiscuous⟩
    dsimp only
    rw [hbufLen, hbuf]
    dsimp only
    rw [h.bufLen, hlen, hpayload]
  · rw [decide_eq_false hv] at hvalid
    rw [Driver.recv, havailable, hvalid, if_neg hv]
    exact ⟨rfl, ⟨hmode, rfl, rfl, hwindow, hlength⟩, hactive.trans h.inactive, hpll, haddress,
      hpromiscuous⟩

/-! ### Safety -/

/-- Inside a message: the announced length is sensible, and the buffer has room for it. -/
structure Inside (d : Driver) : Prop extends d.Open where
  active : d.rxActive = true
  announced : d.rxBufLen = 0 ∨ d.rxBufLen < d.rxCount.toNat ∧ 7 ≤ d.rxCount.toNat ∧
    d.rxCount.toNat ≤ maxPayloadLen ∧ d.rxBuf.head? = some d.rxCount

structure Receiving (d : Driver) : Prop extends d.Inside where
  bitCount : d.rxBitCount < 12

/-- Initialised, but not asked for a message yet. -/
structure Resting (d : Driver) : Prop where
  mode : d.mode = .idle
  notFull : d.rxBufFull = false
  notValid : d.rxBufValid = false
  inactive : d.rxActive = false
  window_lt : d.rxBits.toNat < 2 ^ 12
  buf : d.rxBuf.length = maxPayloadLen

/-- The invariant of the receiver. -/
structure Sound (d : Driver) : Prop where
  ramp : d.pll.ramp < rxRampLen
  state : d.Resting ∨ d.Open ∧ d.rxActive = false ∨ d.Receiving ∨
    ∃ frame, d.Full frame ∧ Framed frame

theorem Inside.takeByte {x : Byte} (h : d.Inside) :
    (d.takeByte x).Open ∧ (d.takeByte x).rxActive = false ∨ (d.takeByte x).Receiving ∨
      ∃ frame, (d.takeByte x).Full frame ∧ Framed frame := by
  have hmax : maxPayloadLen = 67 := rfl
  have hbuf := h.buf
  by_cases hlen : d.rxBufLen = 0
  · by_cases hsensible : 7 ≤ x.toNat ∧ x.toNat ≤ maxPayloadLen
    · rw [takeByte_first hlen hsensible.1 hsensible.2]
      refine .inr (.inl ⟨⟨⟨h.mode, h.notFull, h.notValid, h.window_lt, by simpa using hbuf⟩,
        h.active, .inr ⟨?_, hsensible.1, hsensible.2, ?_⟩⟩, Nat.succ_pos 11⟩)
      · exact lt_of_lt_of_le (Nat.lt_of_sub_eq_succ rfl) hsensible.1
      · cases hrx : d.rxBuf with
        | nil => simp [hrx, hmax] at hbuf
        | cons y rest => rfl
    · have hdropped : d.takeByte x =
          { d with rxCount := x, rxActive := false, rxBad := d.rxBad + 1#16 } := by
        have hbad : x.toNat < 7 ∨ x.toNat > maxPayloadLen := by omega
        simp only [Driver.takeByte, hlen, if_true, hbad, and_self]
      rw [hdropped]
      exact .inl ⟨⟨h.mode, h.notFull, h.notValid, h.window_lt, hbuf⟩, rfl⟩
  · obtain ⟨hmore, hseven, hle, hhead⟩ := h.announced.resolve_left hlen
    have hhead' : (d.rxBuf.set d.rxBufLen x).head? = some d.rxCount := by
      obtain ⟨n, hn⟩ : ∃ n, d.rxBufLen = n + 1 := ⟨d.rxBufLen - 1, by omega⟩
      rw [hn]
      cases hrx : d.rxBuf with
      | nil => simp [hrx, hmax] at hbuf
      | cons y rest => simpa [hrx] using hhead
    by_cases hlast : d.rxBufLen + 1 < d.rxCount.toNat
    · rw [takeByte_next (by omega) hlast]
      exact .inr (.inl ⟨⟨⟨h.mode, h.notFull, h.notValid, h.window_lt, by simpa using hbuf⟩,
        h.active, .inr ⟨hlast, hseven, hle, hhead'⟩⟩, Nat.succ_pos 11⟩)
    · rw [takeByte_last (by omega) (by omega), setModeIdle, if_pos (by simp [h.mode])]
      have hcount : d.rxBufLen + 1 = d.rxCount.toNat := by omega
      have hlength : ((d.rxBuf.set d.rxBufLen x).take d.rxCount.toNat).length = d.rxCount.toNat := by
        rw [List.length_take, List.length_set, hbuf]
        omega
      refine .inr (.inr ⟨(d.rxBuf.set d.rxBufLen x).take d.rxCount.toNat,
        ⟨rfl, rfl, rfl, h.notValid, h.window_lt, by simpa using hbuf, ?_, ?_⟩, ?_, ?_, ?_⟩)
      · rw [hlength]
        exact hcount
      · rw [hlength]
      · rw [hlength]
        exact hseven
      · rw [hlength]
        exact hle
      · rw [hlength, BitVec.ofNat_toNat, BitVec.setWidth_eq, List.head?_take, if_neg (by omega)]
        exact hhead'

theorem Receiving.takeBit (h : d.Receiving) :
    (d.takeBit b).Open ∧ (d.takeBit b).rxActive = false ∨ (d.takeBit b).Receiving ∨
      ∃ frame, (d.takeBit b).Full frame ∧ Framed frame := by
  have hwindow : (shiftBit d.rxBits b).toNat < 2 ^ 12 := toNat_shiftBit_lt h.window_lt
  by_cases hcount : d.rxBitCount + 1 < 12
  · have hstep : d.takeBit b =
        { d with rxBits := shiftBit d.rxBits b, rxBitCount := d.rxBitCount + 1 } := by
      simp only [Driver.takeBit, h.active, if_true, ge_iff_le, if_neg (Nat.not_le.mpr hcount)]
    rw [hstep]
    exact .inr (.inl ⟨⟨⟨h.mode, h.notFull, h.notValid, hwindow, h.buf⟩, h.active, h.announced⟩,
      hcount⟩)
  · have hstep : d.takeBit b = Driver.takeByte
        { d with rxBits := shiftBit d.rxBits b, rxBitCount := d.rxBitCount + 1 }
        (decode (shiftBit d.rxBits b)) := by
      simp only [Driver.takeBit, h.active, if_true, ge_iff_le, if_pos (Nat.not_lt.mp hcount)]
    rw [hstep]
    exact Inside.takeByte ⟨⟨h.mode, h.notFull, h.notValid, hwindow, h.buf⟩, h.active, h.announced⟩

theorem Open.takeBit_inactive (h : d.Open) (hinactive : d.rxActive = false) :
    (d.takeBit b).Open ∧ (d.takeBit b).rxActive = false ∨ (d.takeBit b).Receiving := by
  have hwindow : (shiftBit d.rxBits b).toNat < 2 ^ 12 := toNat_shiftBit_lt h.window_lt
  by_cases hstart : shiftBit d.rxBits b = startSymbol
  · rw [takeBit_start hinactive hstart]
    exact .inr ⟨⟨⟨h.mode, h.notFull, h.notValid, toNat_startSymbol_lt, h.buf⟩, rfl, .inl rfl⟩,
      Nat.succ_pos 11⟩
  · have hstep : d.takeBit b = { d with rxBits := shiftBit d.rxBits b } := by
      simp [Driver.takeBit, hinactive, hstart]
    rw [hstep]
    exact .inl ⟨⟨h.mode, h.notFull, h.notValid, hwindow, h.buf⟩, hinactive⟩

/-- What an interrupt does to a listening receiver. -/
theorem handleTimerInterrupt_rx (hmode : d.mode = .rx) : d.handleTimerInterrupt x =
    match (d.pll.sample x).2 with
    | none => { d with pll := (d.pll.sample x).1 }
    | some b => { d.takeBit b with pll := (d.pll.sample x).1 } := by
  rw [handleTimerInterrupt, if_pos hmode, receiveTimer]
  rcases hs : d.pll.sample x with ⟨p, _ | b⟩
  · rfl
  · exact takeBit_pll p

theorem handleTimerInterrupt_idle (hmode : d.mode = .idle) : d.handleTimerInterrupt x = d := by
  simp [handleTimerInterrupt, hmode]

/-- The first call of `recv` turns the receiver on. -/
theorem Resting.recv (h : d.Resting) :
    d.recv len = ({ d with pttPin := false, txPin := false, mode := .rx }, none) := by
  have hmode : d.mode ≠ .rx := by simp [h.mode]
  simp only [Driver.recv, available, setModeRx, h.mode, reduceCtorEq, if_false, ne_eq,
    not_false_eq_true, if_true, h.notFull, Bool.false_eq_true, h.notValid]

theorem Sound.interrupt (h : d.Sound) : (d.handleTimerInterrupt x).Sound := by
  have hramp : (d.pll.sample x).1.ramp < rxRampLen := Pll.ramp_sample_lt h.ramp
  rcases h.state with hrest | ⟨hopen, hinactive⟩ | hreceiving | ⟨frame, hfull, hframed⟩
  · rw [handleTimerInterrupt_idle hrest.mode]
    exact h
  · rw [handleTimerInterrupt_rx hopen.mode]
    cases (d.pll.sample x).2 with
    | none =>
      exact ⟨hramp, .inr (.inl ⟨⟨hopen.mode, hopen.notFull, hopen.notValid, hopen.window_lt, hopen.buf⟩,
        hinactive⟩)⟩
    | some b =>
      rcases hopen.takeBit_inactive (b := b) hinactive with ⟨ho, hi⟩ | hr
      · exact ⟨hramp, .inr (.inl ⟨⟨ho.mode, ho.notFull, ho.notValid, ho.window_lt, ho.buf⟩, hi⟩)⟩
      · exact ⟨hramp, .inr (.inr (.inl ⟨⟨⟨hr.mode, hr.notFull, hr.notValid, hr.window_lt, hr.buf⟩,
          hr.active, hr.announced⟩, hr.bitCount⟩))⟩
  · rw [handleTimerInterrupt_rx hreceiving.mode]
    cases (d.pll.sample x).2 with
    | none =>
      exact ⟨hramp, .inr (.inr (.inl ⟨⟨⟨hreceiving.mode, hreceiving.notFull, hreceiving.notValid,
        hreceiving.window_lt, hreceiving.buf⟩, hreceiving.active, hreceiving.announced⟩,
        hreceiving.bitCount⟩))⟩
    | some b =>
      rcases hreceiving.takeBit (b := b) with ⟨ho, hi⟩ | hr | ⟨frame, hf, hframed⟩
      · exact ⟨hramp, .inr (.inl ⟨⟨ho.mode, ho.notFull, ho.notValid, ho.window_lt, ho.buf⟩, hi⟩)⟩
      · exact ⟨hramp, .inr (.inr (.inl ⟨⟨⟨hr.mode, hr.notFull, hr.notValid, hr.window_lt, hr.buf⟩,
          hr.active, hr.announced⟩, hr.bitCount⟩))⟩
      · exact ⟨hramp, .inr (.inr (.inr ⟨frame, ⟨hf.mode, hf.inactive, hf.full, hf.notValid, hf.window_lt,
          hf.buf, hf.bufLen, hf.frame_eq⟩, hframed⟩))⟩
  · rw [handleTimerInterrupt_idle hfull.mode]
    exact h

theorem interrupt_settings (h : d.Sound) :
    (d.handleTimerInterrupt x).thisAddress = d.thisAddress ∧
      (d.handleTimerInterrupt x).promiscuous = d.promiscuous := by
  have hrx : d.mode = .rx → (d.handleTimerInterrupt x).thisAddress = d.thisAddress ∧
      (d.handleTimerInterrupt x).promiscuous = d.promiscuous := by
    intro hmode
    rw [handleTimerInterrupt_rx hmode]
    cases (d.pll.sample x).2 with
    | none => exact ⟨rfl, rfl⟩
    | some b => exact ⟨(takeBit_frame d b).1, (takeBit_frame d b).2.1⟩
  rcases h.state with hrest | ⟨hopen, -⟩ | hreceiving | ⟨frame, hfull, -⟩
  · rw [handleTimerInterrupt_idle hrest.mode]
    exact ⟨rfl, rfl⟩
  · exact hrx hopen.mode
  · exact hrx hreceiving.mode
  · rw [handleTimerInterrupt_idle hfull.mode]
    exact ⟨rfl, rfl⟩

/-- A call of `recv` keeps the invariant and the settings. -/
theorem Sound.recv (len : ℕ) (h : d.Sound) : (d.recv len).1.Sound ∧
    (d.recv len).1.thisAddress = d.thisAddress ∧ (d.recv len).1.promiscuous = d.promiscuous := by
  have hlistening : d.Open → (d.recv len).1.Sound ∧
      (d.recv len).1.thisAddress = d.thisAddress ∧ (d.recv len).1.promiscuous = d.promiscuous := by
    intro hopen
    rw [hopen.recv]
    exact ⟨h, rfl, rfl⟩
  rcases h.state with hrest | ⟨hopen, -⟩ | hreceiving | ⟨frame, hfull, hframed⟩
  · rw [hrest.recv]
    exact ⟨⟨h.ramp, .inr (.inl ⟨⟨rfl, hrest.notFull, hrest.notValid, hrest.window_lt, hrest.buf⟩,
      hrest.inactive⟩)⟩, rfl, rfl⟩
  · exact hlistening hopen
  · exact hlistening hreceiving.toOpen
  · obtain ⟨-, hopen, hinactive, hpll, haddress, hpromiscuous⟩ := hfull.recv len hframed
    exact ⟨⟨by rw [hpll]; exact h.ramp, .inr (.inl ⟨hopen, hinactive⟩)⟩, haddress, hpromiscuous⟩

end Driver

end RadioHead
