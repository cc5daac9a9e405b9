import HomeConfig.RadioHead.Link

/-! What the receiver hands out, read off the bits that its loop has declared: whatever comes
in, there is no message without its own stretch of bits. -/
namespace RadioHead

open Arduino ShiftRegister

namespace Driver

variable {d own : Driver} {y : Byte} {b x : Bool} {len : ℕ} {es : List Event}
  {bs body : List Bool} {messages : List (List Byte)}

/-- The bits that the loop declares while the receiver listens. -/
def declared (len : ℕ) : Driver → List Event → List Bool
  | _, [] => []
  | d, .sample x :: es =>
    (if d.mode = .rx then (d.pll.sample x).2.toList else []) ++
      declared len (d.handleTimerInterrupt x) es
  | d, .recv :: es => declared len (d.recv len).1 es

/-- The bytes of a stretch of bits, twelve bits each. -/
def groups (body : List Bool) : List Byte :=
  (List.range (body.length / 12)).map fun i => decode (window 0 ((body.drop (12 * i)).take 12))

/-- The messages that may be read from a stream of bits: each is the payload of a valid frame,
and the frames fill stretches of the stream, one behind the other, each behind a start symbol. -/
inductive Reads (len : ℕ) (own : Driver) : List Bool → List (List Byte) → Prop where
  | nil : Reads len own [] []
  | skip {bs : List Bool} {messages : List (List Byte)} (gap : List Bool) :
      Reads len own bs messages → Reads len own (bs ++ gap) messages
  | read {bs body : List Bool} {messages : List (List Byte)} :
      Reads len own bs messages → window 0 bs = startSymbol →
      body.length = 12 * (groups body).length → Framed (groups body) → own.Valid (groups body) →
      Reads len own (bs ++ body) (messages ++ [payload len (groups body)])

/-- Fewer than twelve bits do not make a byte. -/
theorem groups_concat_of_ne (h : (body.length + 1) % 12 ≠ 0) : groups (body ++ [b]) = groups body := by
  have hlen : (body ++ [b]).length / 12 = body.length / 12 := by
    rw [List.length_append, List.length_singleton]
    omega
  rw [groups, groups, hlen]
  apply List.map_congr_left
  intro i hi
  have hi := List.mem_range.mp hi
  rw [List.drop_append_of_le_length (by omega), List.take_append_of_le_length]
  rw [List.length_drop]
  omega

theorem groups_concat_of_eq (h : (body.length + 1) % 12 = 0) (bs : List Bool) :
    groups (body ++ [b]) = groups body ++ [decode (window 0 (bs ++ (body ++ [b])))] := by
  have hlen : (body ++ [b]).length / 12 = body.length / 12 + 1 := by
    rw [List.length_append, List.length_singleton]
    omega
  rw [groups, hlen, List.range_succ, List.map_append, List.map_singleton]
  congr 1
  · apply List.map_congr_left
    intro i hi
    have hi := List.mem_range.mp hi
    rw [List.drop_append_of_le_length (by omega), List.take_append_of_le_length]
    rw [List.length_drop]
    omega
  · have hlast : ((body ++ [b]).drop (12 * (body.length / 12))).length = 12 := by
      rw [List.length_drop, List.length_append, List.length_singleton]
      omega
    have hsplit : bs ++ (body ++ [b]) = (bs ++ (body ++ [b]).take (12 * (body.length / 12))) ++
        (body ++ [b]).drop (12 * (body.length / 12)) := by
      rw [List.append_assoc, List.take_append_drop]
    have hwindow : window 0 (bs ++ (body ++ [b])) =
        window 0 ((body ++ [b]).drop (12 * (body.length / 12))) := by
      rw [hsplit, window, List.foldl_append]
      exact window_twelve (toNat_window_lt (by decide)) hlast.ge
    rw [hwindow, List.take_of_length_le hlast.le]

/-- Where the receiver stands in the stream. -/
inductive Place (len : ℕ) (own : Driver) (d : Driver) (bs : List Bool)
    (messages : List (List Byte)) : Prop where
  | outside : d.rxActive = false → d.rxBufFull = false → Reads len own bs messages →
      Place len own d bs messages
  | inside {before body : List Bool} : d.Receiving → bs = before ++ body →
      Reads len own before messages → window 0 before = startSymbol →
      body.length = 12 * d.rxBufLen + d.rxBitCount → groups body = d.rxBuf.take d.rxBufLen →
      Place len own d bs messages
  | full {before body : List Bool} : d.rxBufFull = true → bs = before ++ body →
      Reads len own before messages → window 0 before = startSymbol →
      body.length = 12 * d.rxBufLen → groups body = d.rxBuf.take d.rxBufLen →
      Place len own d bs messages

structure Traced (len : ℕ) (own : Driver) (d : Driver) (bs : List Bool)
    (messages : List (List Byte)) : Prop where
  sound : d.Sound
  same : SameNode own d
  window_eq : d.rxBits = window 0 bs
  place : Place len own d bs messages

/-! ### Steps -/

theorem window_concat : window 0 (bs ++ [b]) = shiftBit (window 0 bs) b := by
  rw [window, List.foldl_append]
  rfl

theorem Place.pll (h : Place len own d bs messages) (p : Pll) :
    Place len own { d with pll := p } bs messages := by
  cases h with
  | outside hactive hfull hreads => exact .outside hactive hfull hreads
  | inside hr hbs hreads hstart hlen hgroups =>
    exact .inside ⟨⟨⟨hr.mode, hr.notFull, hr.notValid, hr.window_lt, hr.buf⟩, hr.active,
      hr.announced⟩, hr.bitCount⟩ hbs hreads hstart hlen hgroups
  | full hfull hbs hreads hstart hlen hgroups => exact .full hfull hbs hreads hstart hlen hgroups

/-- What becomes of a decoded byte: it ends the message, or it is the next one in the buffer. -/
theorem Inside.takeByte_buf (h : d.Inside) :
    (d.takeByte y).rxActive = false ∧ (d.takeByte y).rxBufFull = false ∨
    ((d.takeByte y).rxActive = true ∧ (d.takeByte y).rxBitCount = 0 ∨
        (d.takeByte y).rxBufFull = true) ∧
      (d.takeByte y).rxBufLen = d.rxBufLen + 1 ∧
      (d.takeByte y).rxBuf.take (d.rxBufLen + 1) = d.rxBuf.take d.rxBufLen ++ [y] := by
  have hmax : maxPayloadLen = 67 := rfl
  have hbuf := h.buf
  by_cases hlen : d.rxBufLen = 0
  · by_cases hsensible : 7 ≤ y.toNat ∧ y.toNat ≤ maxPayloadLen
    · rw [takeByte_first hlen hsensible.1 hsensible.2]
      refine .inr ⟨.inl ⟨h.active, rfl⟩, by rw [hlen], ?_⟩
      rw [hlen]
      exact take_set_self (by omega)
    · have hbad : y.toNat < 7 ∨ y.toNat > maxPayloadLen := by omega
      refine .inl ?_
      simp only [Driver.takeByte, hlen, if_true, hbad, and_self]
      exact ⟨trivial, h.notFull⟩
  · obtain ⟨hmore, -, hle, -⟩ := h.announced.resolve_left hlen
    have htake : (d.rxBuf.set d.rxBufLen y).take (d.rxBufLen + 1) =
        d.rxBuf.take d.rxBufLen ++ [y] := take_set_self (by omega)
    by_cases hlast : d.rxBufLen + 1 < d.rxCount.toNat
    · rw [takeByte_next (by omega) hlast]
      exact .inr ⟨.inl ⟨h.active, rfl⟩, rfl, htake⟩
    · rw [takeByte_last (by omega) (by omega), setModeIdle, if_pos (by simp [h.mode])]
      exact .inr ⟨.inr rfl, rfl, htake⟩

theorem Place.takeBit_outside (hopen : d.Open) (hwindow : d.rxBits = window 0 bs)
    (hinactive : d.rxActive = false) (hreads : Reads len own bs messages) :
    Place len own (d.takeBit b) (bs ++ [b]) messages := by
  by_cases hstart : shiftBit d.rxBits b = startSymbol
  · rcases hopen.takeBit_inactive (b := b) hinactive with ⟨-, hi⟩ | hr
    · rw [takeBit_start hinactive hstart] at hi
      cases hi
    · refine .inside hr (List.append_nil _).symm (.skip [b] hreads) ?_ ?_ ?_
      · rw [window_concat, ← hwindow, hstart]
      · rw [takeBit_start hinactive hstart]
        rfl
      · rw [takeBit_start hinactive hstart]
        rfl
  · have hstep : d.takeBit b = { d with rxBits := shiftBit d.rxBits b } := by
      simp [takeBit, hinactive, hstart]
    rw [hstep]
    exact .outside hinactive hopen.notFull (.skip [b] hreads)

theorem Place.takeBit_inside {before : List Bool} (hr : d.Receiving)
    (hwindow : d.rxBits = window 0 (before ++ body)) (hreads : Reads len own before messages)
    (hstart : window 0 before = startSymbol)
    (hlen : body.length = 12 * d.rxBufLen + d.rxBitCount)
    (hgroups : groups body = d.rxBuf.take d.rxBufLen) :
    Place len own (d.takeBit b) (before ++ body ++ [b]) messages := by
  have hcount := hr.bitCount
  have hbits : (shiftBit d.rxBits b).toNat < 2 ^ 12 := toNat_shiftBit_lt hr.window_lt
  have hopen' : Open { d with rxBits := shiftBit d.rxBits b, rxBitCount := d.rxBitCount + 1 } :=
    ⟨hr.mode, hr.notFull, hr.notValid, hbits, hr.buf⟩
  rw [List.append_assoc]
  by_cases hlast : d.rxBitCount + 1 < 12
  · have hstep : d.takeBit b =
        { d with rxBits := shiftBit d.rxBits b, rxBitCount := d.rxBitCount + 1 } := by
      simp only [takeBit, hr.active, if_true, ge_iff_le, if_neg (Nat.not_le.mpr hlast)]
    rw [hstep]
    refine @Place.inside _ _ _ _ _ before (body ++ [b])
      ⟨⟨hopen', hr.active, hr.announced⟩, hlast⟩ rfl hreads hstart ?_ ?_
    · rw [List.length_append, hlen, List.length_singleton, Nat.add_assoc]
    · rw [groups_concat_of_ne (by omega)]
      exact hgroups
  · have hstep : d.takeBit b = takeByte
        { d with rxBits := shiftBit d.rxBits b, rxBitCount := d.rxBitCount + 1 }
        (decode (shiftBit d.rxBits b)) := by
      simp only [takeBit, hr.active, if_true, ge_iff_le, if_pos (Nat.not_lt.mp hlast)]
    have hbyte : decode (shiftBit d.rxBits b) = decode (window 0 (before ++ (body ++ [b]))) := by
      rw [hwindow, ← window_concat, List.append_assoc]
    have hnext : groups (body ++ [b]) = d.rxBuf.take d.rxBufLen ++ [decode (shiftBit d.rxBits b)] := by
      rw [groups_concat_of_eq (by omega) before, hgroups, hbyte]
    have hlength : (body ++ [b]).length = 12 * (d.rxBufLen + 1) := by
      rw [List.length_append, hlen, List.length_singleton]
      omega
    have hinside : Inside { d with rxBits := shiftBit d.rxBits b, rxBitCount := d.rxBitCount + 1 } :=
      ⟨hopen', hr.active, hr.announced⟩
    rw [hstep]
    rcases hinside.takeByte_buf (y := decode (shiftBit d.rxBits b)) with
      ⟨hactive, hfull⟩ | ⟨⟨hactive, hzero⟩ | hfull, hbufLen, hbuf⟩
    · exact .outside hactive hfull (.skip (body ++ [b]) hreads)
    · have hreceiving := hinside.takeByte (x := decode (shiftBit d.rxBits b))
      rw [hactive] at hreceiving
      have hr' : Receiving (takeByte { d with rxBits := shiftBit d.rxBits b,
                                              rxBitCount := d.rxBitCount + 1 }
          (decode (shiftBit d.rxBits b))) := by
        rcases hreceiving with ⟨-, hno⟩ | hr' | ⟨frame, hf, -⟩
        · cases hno
        · exact hr'
        · have hno := hf.inactive
          rw [hactive] at hno
          cases hno
      refine .inside hr' rfl hreads hstart ?_ ?_
      · rw [hbufLen, hzero, hlength]
        rfl
      · rw [hbufLen, hnext]
        exact hbuf.symm
    · refine .full hfull rfl hreads hstart ?_ ?_
      · rw [hbufLen, hlength]
      · rw [hbufLen, hnext]
        exact hbuf.symm

theorem rxBits_recv : (d.recv len).1.rxBits = d.rxBits := by
  have hrx : d.setModeRx.rxBits = d.rxBits := by
    rw [setModeRx]
    split <;> rfl
  have havailable : d.available.1.rxBits = d.rxBits := by
    obtain ⟨-, -, -, -, -, hbits, -, -⟩ := validateRxBuf_frame d.setModeRx
    unfold available
    dsimp only
    split_ifs
    · rfl
    · exact hbits.trans hrx
    · exact hrx
  unfold recv
  split
  · rename_i e he
    rw [he] at havailable
    exact havailable
  · rename_i e he
    rw [he] at havailable
    exact havailable

theorem Place.reads (h : Place len own d bs messages) : Reads len own bs messages := by
  cases h with
  | outside _ _ hreads => exact hreads
  | inside _ hbs hreads => exact hbs ▸ .skip _ hreads
  | full _ hbs hreads => exact hbs ▸ .skip _ hreads

/-- A bit goes to the search or to the message, wherever the receiver stands. -/
theorem Place.takeBit (h : Place len own d bs messages) (hopen : d.Open)
    (hwindow : d.rxBits = window 0 bs) : Place len own (d.takeBit b) (bs ++ [b]) messages := by
  cases h with
  | outside hinactive _ hreads => exact takeBit_outside hopen hwindow hinactive hreads
  | inside hr hbs hreads hstart hlen hgroups =>
    rw [hbs] at hwindow ⊢
    exact takeBit_inside hr hwindow hreads hstart hlen hgroups
  | full hfull =>
    have hno := hopen.notFull
    rw [hfull] at hno
    cases hno

/-- An interrupt adds the bits that the loop declares in it. -/
theorem Traced.sample (h : Traced len own d bs messages) :
    Traced len own (d.handleTimerInterrupt x)
      (bs ++ if d.mode = .rx then (d.pll.sample x).2.toList else []) messages := by
  have hsound : (d.handleTimerInterrupt x).Sound := h.sound.interrupt
  have hsame : SameNode own (d.handleTimerInterrupt x) := h.same.trans (interrupt_settings h.sound)
  have hlistening : d.Open → Traced len own (d.handleTimerInterrupt x)
      (bs ++ if d.mode = .rx then (d.pll.sample x).2.toList else []) messages := by
    intro hopen
    have hstep := handleTimerInterrupt_rx (x := x) hopen.mode
    rw [if_pos hopen.mode]
    refine ⟨hsound, hsame, ?_, ?_⟩
    all_goals rw [hstep]
    · cases (d.pll.sample x).2 with
      | none => exact h.window_eq.trans (congrArg _ (List.append_nil bs).symm)
      | some b =>
        rw [Option.toList_some, window_concat, ← h.window_eq]
        exact (takeBit_frame d b).2.2.2.1
    · cases (d.pll.sample x).2 with
      | none =>
        rw [Option.toList_none, List.append_nil]
        exact h.place.pll _
      | some b => exact (h.place.takeBit hopen h.window_eq).pll _
  have hidle : d.mode = .idle → Traced len own (d.handleTimerInterrupt x)
      (bs ++ if d.mode = .rx then (d.pll.sample x).2.toList else []) messages := by
    intro hmode
    rw [handleTimerInterrupt_idle hmode, hmode, if_neg (by decide), List.append_nil]
    exact h
  rcases h.sound.state with hrest | ⟨hopen, -⟩ | hr | ⟨frame, hfull, -⟩
  · exact hidle hrest.mode
  · exact hlistening hopen
  · exact hlistening hr.toOpen
  · exact hidle hfull.mode

/-- A call of `recv` hands out the frame that has come in, if it is a valid one. -/
theorem Traced.recv (h : Traced len own d bs messages) :
    Traced len own (d.recv len).1 bs (messages ++ (d.recv len).2.toList) := by
  obtain ⟨hsound, hsettings⟩ := h.sound.recv len
  have hsame : SameNode own (d.recv len).1 := h.same.trans hsettings
  have hwindow : (d.recv len).1.rxBits = window 0 bs := rxBits_recv.trans h.window_eq
  have hlistening : d.Open →
      Traced len own (d.recv len).1 bs (messages ++ (d.recv len).2.toList) := by
    intro hopen
    rw [hopen.recv, Option.toList_none, List.append_nil]
    exact h
  rcases h.sound.state with hrest | ⟨hopen, -⟩ | hr | ⟨frame, hfull, hframed⟩
  · rw [hrest.recv] at hsound hsame hwindow ⊢
    rw [Option.toList_none, List.append_nil]
    exact ⟨hsound, hsame, hwindow, .outside hrest.inactive hrest.notFull h.place.reads⟩
  · exact hlistening hopen
  · exact hlistening hr.toOpen
  · obtain ⟨hmessage, hopen, hinactive, -⟩ := hfull.recv len hframed
    refine ⟨hsound, hsame, hwindow, .outside hinactive hopen.notFull ?_⟩
    have hvalid : d.Valid frame ↔ own.Valid frame := by
      simp only [Valid, Accepts, h.same.1, h.same.2]
    rw [hmessage, if_congr hvalid rfl rfl]
    cases h.place with
    | outside _ hno =>
      rw [hfull.full] at hno
      cases hno
    | inside hr =>
      have hno := hr.notFull
      rw [hfull.full] at hno
      cases hno
    | @full before body _ hbs hreads hstart hlength hgroups =>
      have hframe : groups body = frame := by
        rw [hgroups, hfull.bufLen, hfull.frame_eq]
      by_cases hv : own.Valid frame
      · rw [if_pos hv, hbs, Option.toList_some, ← hframe]
        rw [hfull.bufLen] at hlength
        refine .read hreads hstart ?_ (hframe ▸ hframed) (hframe ▸ hv)
        rw [hframe]
        exact hlength
      · rw [if_neg hv, hbs, Option.toList_none, List.append_nil]
        exact .skip body hreads

/-! ### Runs -/

theorem Traced.run (h : Traced len own d bs messages) :
    Traced len own (exec len d es).1 (bs ++ declared len d es) (messages ++ (exec len d es).2) := by
  induction es generalizing d bs messages with
  | nil =>
    rw [declared, exec, List.append_nil, List.append_nil]
    exact h
  | cons e es ih =>
    cases e with
    | sample x =>
      rw [declared, exec, ← List.append_assoc]
      exact ih h.sample
    | recv =>
      rw [declared, exec, ← List.append_assoc]
      exact ih h.recv

theorem traced_node (len : ℕ) (address : Byte) (promiscuous : Bool) :
    Traced len (node address promiscuous) (node address promiscuous) [] [] := by
  have hrest := resting_node address promiscuous
  have hramp : (node address promiscuous).pll.ramp < rxRampLen := by
    simp [node, init, setModeIdle, constructed, rxRampLen]
  refine ⟨⟨hramp, .inl hrest⟩, .refl _, ?_, .outside hrest.inactive hrest.notFull .nil⟩
  simp [node, init, setModeIdle, constructed, window]

/-- Whatever samples come in and whenever the sketch polls, a message that is handed out has its
own stretch of bits behind a start symbol, with the right length, check and address. -/
theorem exec_reads_declared (len : ℕ) (address : Byte) (promiscuous : Bool) (es : List Event) :
    Reads len (node address promiscuous) (declared len (node address promiscuous) es)
      (exec len (node address promiscuous) es).2 := by
  have h := @Traced.run _ _ _ es _ _ (traced_node len address promiscuous)
  rw [List.nil_append, List.nil_append] at h
  exact h.place.reads

end Driver

end RadioHead
