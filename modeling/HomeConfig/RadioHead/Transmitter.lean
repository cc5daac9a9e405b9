import HomeConfig.RadioHead.Link

/-! What a sender puts on the line between `send` and the end of its transmission. -/
namespace RadioHead

open Arduino ShiftRegister

namespace Driver

variable {d e : Driver} {data : List Byte} {len n k j : ℕ} {es : List Event}

/-- The level of the line after each of the next interrupts. -/
def levels (d : Driver) : ℕ → List Bool
  | 0 => []
  | n + 1 => (d.handleTimerInterrupt false).txPin :: levels (d.handleTimerInterrupt false) n

def interrupts (d : Driver) : ℕ → Driver
  | 0 => d
  | n + 1 => interrupts (d.handleTimerInterrupt false) n

theorem levels_add : d.levels (n + k) = d.levels n ++ (d.interrupts n).levels k := by
  induction n generalizing d with
  | zero => rw [Nat.zero_add]; rfl
  | succ n ih => rw [Nat.add_right_comm, levels, levels, interrupts, ih, List.cons_append]

theorem interrupts_add : d.interrupts (n + k) = (d.interrupts n).interrupts k := by
  induction n generalizing d with
  | zero => rw [Nat.zero_add]; rfl
  | succ n ih => rw [Nat.add_right_comm, interrupts, interrupts, ih]

/-- A sender in front of the bit `j` of its buffer. -/
structure Sending (d : Driver) (j : ℕ) : Prop where
  mode : d.mode = .tx
  sample : d.txSample = 0
  index : d.txIndex = j / 6
  bit : d.txBit = j % 6

/-- The bit `j` of the transmit buffer. -/
def bufferBit (buf : List Byte) (j : ℕ) : Bool := (buf.getD (j / 6) 0#8).getLsbD (j % 6)

theorem handleTimerInterrupt_tx (h : d.mode = .tx) :
    d.handleTimerInterrupt false = d.transmitTimer := by
  simp [handleTimerInterrupt, h]

/-- Between two bits only the samples are counted. -/
theorem transmitTimer_hold (h : d.txSample ≠ 0) :
    d.transmitTimer = { d with txSample := if d.txSample + 1 > 7 then 0 else d.txSample + 1 } := by
  simp only [transmitTimer, if_neg h]

/-- The level stays for the rest of the bit. -/
theorem levels_hold (hmode : d.mode = .tx) (hpos : 0 < d.txSample) (hn : d.txSample + n = 8) :
    d.levels n = List.replicate n d.txPin ∧
      d.interrupts n = { d with txSample := if n = 0 then d.txSample else 0 } := by
  induction n generalizing d with
  | zero => exact ⟨rfl, rfl⟩
  | succ n ih =>
    have hstep : d.handleTimerInterrupt false =
        { d with txSample := if d.txSample + 1 > 7 then 0 else d.txSample + 1 } := by
      rw [handleTimerInterrupt_tx hmode, transmitTimer_hold (by omega)]
    cases n with
    | zero =>
      have hend : d.txSample + 1 > 7 := by omega
      simp only [levels, interrupts, hstep, if_pos hend]
      exact ⟨rfl, rfl⟩
    | succ n =>
      have hmore : ¬ d.txSample + 1 > 7 := by omega
      rw [if_neg hmore] at hstep
      obtain ⟨hlevels, hend⟩ := ih (d := { d with txSample := d.txSample + 1 }) hmode
        (Nat.succ_pos _) (by dsimp only; omega)
      rw [levels, interrupts, hstep]
      refine ⟨?_, ?_⟩
      · rw [hlevels]
        rfl
      · rw [hend]
        simp

/-- The first sample of a bit puts it on the line. -/
theorem Sending.first (h : d.Sending j) (hj : j < 6 * d.txBufLen) :
    d.handleTimerInterrupt false = { d with txPin := bufferBit d.txBuf j, txIndex := (j + 1) / 6,
                                            txBit := (j + 1) % 6, txSample := 1 } := by
  have hindex : ¬ j / 6 ≥ d.txBufLen := by omega
  rw [handleTimerInterrupt_tx h.mode]
  simp only [transmitTimer, h.sample, h.index, h.bit, if_true, hindex, if_false, writeTx]
  by_cases hlast : j % 6 + 1 ≥ 6
  · have h0 : (j + 1) % 6 = 0 := by omega
    have h1 : (j + 1) / 6 = j / 6 + 1 := by omega
    simp only [if_pos hlast, h0, h1]
    rfl
  · have h0 : (j + 1) % 6 = j % 6 + 1 := by omega
    have h1 : (j + 1) / 6 = j / 6 := by omega
    simp only [if_neg hlast, h0, h1]
    rfl

/-- A bit takes eight samples. -/
theorem Sending.bit_levels (h : d.Sending j) (hj : j < 6 * d.txBufLen) :
    d.levels 8 = List.replicate 8 (bufferBit d.txBuf j) ∧ (d.interrupts 8).Sending (j + 1) ∧
      (d.interrupts 8).txBuf = d.txBuf ∧ (d.interrupts 8).txBufLen = d.txBufLen := by
  have hfirst := h.first hj
  obtain ⟨hlevels, hend⟩ := levels_hold (n := 7) (d := { d with
      txPin := bufferBit d.txBuf j, txIndex := (j + 1) / 6, txBit := (j + 1) % 6, txSample := 1 })
    h.mode Nat.one_pos rfl
  rw [levels, interrupts, hfirst, hlevels, hend]
  exact ⟨rfl, ⟨h.mode, rfl, rfl, rfl⟩, rfl, rfl⟩

/-- The rest of the buffer, bit after bit. -/
theorem Sending.run_levels (h : d.Sending j) (hj : j + n ≤ 6 * d.txBufLen) :
    d.levels (8 * n) = line ((List.range' j n).map fun i => (bufferBit d.txBuf i, 8)) ∧
      (d.interrupts (8 * n)).Sending (j + n) ∧ (d.interrupts (8 * n)).txBuf = d.txBuf ∧
      (d.interrupts (8 * n)).txBufLen = d.txBufLen := by
  induction n generalizing d j with
  | zero => exact ⟨rfl, h, rfl, rfl⟩
  | succ n ih =>
    obtain ⟨hlevels, hnext, hbuf, hlen⟩ := h.bit_levels (by omega)
    obtain ⟨hrest, hend, hendBuf, hendLen⟩ := ih hnext (by rw [hlen]; omega)
    have hcount : 8 * (n + 1) = 8 + 8 * n := by omega
    have hlast : j + 1 + n = j + (n + 1) := by omega
    rw [hbuf] at hrest
    rw [hcount, levels_add, interrupts_add, hlevels, hrest, List.range'_succ, List.map_cons, ← hlast]
    exact ⟨rfl, hend, hendBuf.trans hbuf, hendLen.trans hlen⟩

/-- A sender at rest holds the line low. -/
theorem idle_levels (hmode : d.mode = .idle) (hpin : d.txPin = false) :
    d.levels k = List.replicate k false ∧ d.interrupts k = d := by
  induction k with
  | zero => exact ⟨rfl, rfl⟩
  | succ k ih =>
    rw [levels, interrupts, handleTimerInterrupt_idle hmode, ih.1, ih.2, hpin, List.replicate_succ]
    exact ⟨rfl, rfl⟩

/-- Behind the last bit the sender lets the line go. -/
theorem Sending.end_levels (h : d.Sending j) (hj : 6 * d.txBufLen ≤ j) :
    d.levels (k + 1) = List.replicate (k + 1) false ∧ (d.interrupts (k + 1)).mode = .idle ∧
      (d.interrupts (k + 1)).txPin = false ∧ (d.interrupts (k + 1)).txBuf = d.txBuf := by
  have hindex : d.txIndex ≥ d.txBufLen := by
    rw [h.index]
    omega
  have hstep : (d.handleTimerInterrupt false).mode = .idle ∧
      (d.handleTimerInterrupt false).txPin = false ∧
      (d.handleTimerInterrupt false).txBuf = d.txBuf := by
    rw [handleTimerInterrupt_tx h.mode]
    simp [transmitTimer, h.sample, hindex, setModeIdle, h.mode]
  obtain ⟨hlevels, hsame⟩ := idle_levels (k := k) hstep.1 hstep.2.1
  rw [levels, interrupts, hlevels, hsame, List.replicate_succ]
  exact ⟨congrArg (· :: _) hstep.2.1, hstep⟩

theorem map_bufferBit (buf : List Byte) :
    (List.range' 0 (6 * buf.length)).map (bufferBit buf) = buf.flatMap (bits 6) := by
  induction buf with
  | nil => rfl
  | cons x buf ih =>
    have hcount : 6 * (x :: buf).length = 6 + 6 * buf.length := by
      rw [List.length_cons]
      omega
    have hrest : (List.range' 6 (6 * buf.length)).map (bufferBit (x :: buf)) =
        (List.range' 0 (6 * buf.length)).map (bufferBit buf) := by
      have hshift : List.range' 6 (6 * buf.length) =
          (List.range' 0 (6 * buf.length)).map (6 + ·) := by
        rw [List.map_add_range']
      rw [hshift, List.map_map]
      apply List.map_congr_left
      intro i _
      have h0 : (6 + i) / 6 = i / 6 + 1 := by omega
      have h1 : (6 + i) % 6 = i % 6 := by omega
      simp [bufferBit, h0, h1]
    rw [hcount, ← List.range'_append_1, List.map_append, Nat.zero_add, hrest, ih,
      List.flatMap_cons]
    rfl

theorem bufferBit_take {buf : List Byte} (hj : j < 6 * n) :
    bufferBit (buf.take n) j = bufferBit buf j := by
  have hlt : j / 6 < n := by omega
  simp only [bufferBit, List.getD_eq_getElem?_getD, List.getElem?_take_of_lt hlt]

/-- A driver that can send: the preamble stands in front of its buffer. -/
structure Ready (d : Driver) : Prop where
  mode : d.mode = .idle
  low : d.txPin = false
  preamble_eq : d.txBuf.take preambleLen = preamble
  room : d.txBuf.length = preambleLen + 2 * maxPayloadLen

theorem length_messageArea {header : Header} :
    (messageArea header data).length = 2 * (data.length + 7) := by
  rw [messageArea_eq, ← @length_frameOf header]
  generalize frameOf header data = frame
  induction frame with
  | nil => rfl
  | cons x frame ih =>
    rw [List.flatMap_cons, List.length_append, ih, List.length_cons]
    simp only [encode, List.length_cons, List.length_nil]
    omega

/-- What `send` leaves in the buffer. -/
theorem Ready.send (h : d.Ready) (hdata : data.length ≤ maxMessageLen) :
    ∃ e, d.send data = some e ∧ e.Sending 0 ∧
      e.txBufLen = 2 * (data.length + 7) + preambleLen ∧
      e.txBuf.take e.txBufLen = preamble ++ messageArea d.txHeader data ∧
      e.txBuf.length = preambleLen + 2 * maxPayloadLen := by
  have hlen : (messageArea d.txHeader data).length = 2 * (data.length + 7) := length_messageArea
  refine ⟨_, if_neg (Nat.not_lt.mpr hdata), ?_, ?_, ?_, ?_⟩
  · constructor <;> simp [setModeTx, h.mode]
  · simp [setModeTx, h.mode, hlen]
  · have htake : (preamble ++ messageArea d.txHeader data).length =
        (messageArea d.txHeader data).length + preambleLen := by
      rw [List.length_append, Nat.add_comm]
      rfl
    simp only [setModeTx, h.mode, ne_eq, reduceCtorEq, not_false_eq_true, if_true, h.preamble_eq,
      ← htake]
    rw [List.take_left]
  · have hroom := h.room
    simp only [maxMessageLen, maxPayloadLen, headerLen, preambleLen] at hdata hroom
    simp only [setModeTx, h.mode, ne_eq, reduceCtorEq, not_false_eq_true, if_true,
      List.length_append, List.length_take, List.length_drop, hroom, hlen, preambleLen, maxPayloadLen]
    omega

/-- The line carries the bits of the message, eight samples each, and then nothing; the sender
can send again. -/
theorem Ready.send_levels (h : d.Ready) (hdata : data.length ≤ maxMessageLen) :
    ∃ e, d.send data = some e ∧ ∀ m,
      e.levels (8 * (messageBits d.txHeader data).length + (m + 1)) =
        line ((messageBits d.txHeader data).map fun b => (b, 8)) ++ List.replicate (m + 1) false ∧
      (e.interrupts (8 * (messageBits d.txHeader data).length + (m + 1))).Ready := by
  obtain ⟨e, he, hsending, hlen, hbuf, hroom⟩ := h.send hdata
  refine ⟨e, he, ?_⟩
  intro m
  have hbits : (List.range' 0 (6 * e.txBufLen)).map (bufferBit e.txBuf) =
      messageBits d.txHeader data := by
    have hlength : (e.txBuf.take e.txBufLen).length = e.txBufLen := by
      rw [hbuf, List.length_append, length_messageArea, hlen, Nat.add_comm]
      rfl
    have hmap := map_bufferBit (e.txBuf.take e.txBufLen)
    rw [hlength, hbuf, bits_messageArea] at hmap
    rw [← hmap, ← hbuf]
    apply List.map_congr_left
    intro i hi
    have hi' := (List.mem_range'_1.mp hi).2
    exact (bufferBit_take (by omega)).symm
  have hcount : (messageBits d.txHeader data).length = 6 * e.txBufLen := by
    rw [← hbits, List.length_map, List.length_range']
  have hpreamble : e.txBuf.take preambleLen = preamble := by
    have htake := congrArg (List.take preambleLen) hbuf
    rw [List.take_take, Nat.min_eq_left (by rw [hlen]; exact Nat.le_add_left _ _)] at htake
    rw [htake]
    rfl
  obtain ⟨hlevels, hend, hendBuf, hendLen⟩ := hsending.run_levels (n := 6 * e.txBufLen) (by omega)
  obtain ⟨hquiet, hmode, hpin, htxBuf⟩ := hend.end_levels (k := m) (by rw [hendLen]; omega)
  rw [hcount, levels_add, interrupts_add, hlevels, hquiet, ← hbits, List.map_map]
  refine ⟨rfl, hmode, hpin, ?_, ?_⟩
  · rw [htxBuf, hendBuf]
    exact hpreamble
  · rw [htxBuf, hendBuf]
    exact hroom

/-! ### Two nodes -/

/-- A sender and a receiver with one clock. Before each message the sender holds the line low for
at least 97 samples and behind it for at least eight; the other side may call `recv` whenever it
likes, but once behind each message it has to: a frame that is not fetched deafens the receiver. -/
inductive Exchange : Driver → List Event → List (Header × List Byte) → Prop where
  | nil {d : Driver} : Exchange d [] []
  | message {d e : Driver} {header : Header} {data : List Byte} {n m : ℕ} {es rest : List Event}
      {messages : List (Header × List Byte)} :
      send { d with txHeader := header } data = some e → 97 ≤ n → 8 ≤ m →
      samplesOf es = d.levels n ++ e.levels (8 * (messageBits header data).length + m) →
      Exchange (e.interrupts (8 * (messageBits header data).length + m)) rest messages →
      Exchange d (es ++ .recv :: rest) ((header, data) :: messages)

theorem Exchange.session {messages : List (Header × List Byte)} (h : Exchange d es messages)
    (hd : d.Ready) : Session es messages := by
  induction h with
  | nil => exact .nil
  | @message d e header data n m es rest messages hsend hn hm hsamples _ ih =>
    have hdata : data.length ≤ maxMessageLen := by
      by_contra hlong
      rw [Driver.send, if_pos (by omega)] at hsend
      cases hsend
    have hready : Ready { d with txHeader := header } := ⟨hd.mode, hd.low, hd.preamble_eq, hd.room⟩
    obtain ⟨e', he', hlevels⟩ := hready.send_levels hdata
    obtain rfl : e' = e := Option.some.inj (he'.symm.trans hsend)
    obtain ⟨k, rfl⟩ : ∃ k, m = k + 1 := ⟨m - 1, by omega⟩
    obtain ⟨hline, hagain⟩ := hlevels k
    refine .message ⟨hdata, n, k + 1, (messageBits header data).map fun b => (b, 8), hn, hm,
      paced_eight, ?_, ?_⟩ (ih hagain)
    · rw [List.map_map]
      exact List.map_id _
    · rw [hsamples, (idle_levels hd.mode hd.low).1, hline]

end Driver

end RadioHead
