import HomeConfig.RadioHead.Receiver

/-! What the receiver makes of a message that reaches it after some silence, at any phase and
from a clock that is not quite its own. -/
namespace RadioHead

open Arduino ShiftRegister

namespace Driver

variable {d : Driver} {frame data : List Byte} {header : Header} {x b : Bool} {len n m high : ℕ}
  {es rest : List Event} {xs ys zs outs : List Bool}

/-- The samples among the events. -/
def samplesOf : List Event → List Bool
  | [] => []
  | .sample x :: es => x :: samplesOf es
  | .recv :: es => samplesOf es

theorem samplesOf_map (xs : List Bool) : samplesOf (xs.map .sample) = xs := by
  induction xs with
  | nil => rfl
  | cons x xs ih => rw [List.map_cons, samplesOf, ih]

/-- Nothing is coming in, and the next `high` high samples are too few for a bit. -/
structure Calm (d : Driver) (high : ℕ) : Prop extends d.Open where
  inactive : d.rxActive = false
  ramp : d.pll.ramp < 160
  few : d.pll.integrator + high ≤ 4

/-- The address and the filter of a node. -/
def SameNode (d e : Driver) : Prop :=
  e.thisAddress = d.thisAddress ∧ e.promiscuous = d.promiscuous

theorem SameNode.refl (d : Driver) : SameNode d d := ⟨rfl, rfl⟩

theorem SameNode.trans {d e f : Driver} (h : SameNode d e) (h' : SameNode e f) : SameNode d f :=
  ⟨h'.1.trans h.1, h'.2.trans h.2⟩

theorem Calm.sound (h : d.Calm high) : d.Sound := ⟨h.ramp, .inr (.inl ⟨h.toOpen, h.inactive⟩)⟩

/-- A zero never completes the start symbol. -/
theorem shiftBit_false_ne {w : BitVec 16} (hw : w.toNat < 2 ^ 12) :
    shiftBit w false ≠ startSymbol := by
  intro h
  have hnat := congrArg BitVec.toNat h
  simp only [shiftBit, Bool.false_eq_true, if_false, BitVec.toNat_ushiftRight,
    Nat.shiftRight_eq_div_pow, startSymbol] at hnat
  have hvalue : (0xb38#16).toNat = 2872 := rfl
  omega

theorem Calm.interrupt (h : d.Calm ((x :: xs).count true)) :
    (d.handleTimerInterrupt x).Calm (xs.count true) := by
  have hfew := h.few
  have hx : (if x then d.pll.integrator + 1 else d.pll.integrator) + xs.count true ≤ 4 := by
    cases x <;> simp at hfew ⊢ <;> omega
  have hramp : (d.pll.sample x).1.ramp < 160 := Pll.ramp_sample_lt h.ramp
  rw [handleTimerInterrupt_rx h.mode]
  cases hs : (d.pll.sample x).2 with
  | none =>
    have hint := Pll.sample_eq_none hs
    exact ⟨⟨h.mode, h.notFull, h.notValid, h.window_lt, h.buf⟩, h.inactive, hramp, by rwa [← hint] at hx⟩
  | some bit =>
    obtain ⟨hzero, hbit⟩ := Pll.sample_eq_some hs
    obtain rfl : bit = false := by
      rw [hbit, decide_eq_false_iff_not]
      omega
    have hstep : d.takeBit false = { d with rxBits := shiftBit d.rxBits false } := by
      simp [takeBit, h.inactive, shiftBit_false_ne h.window_lt]
    dsimp only
    rw [hstep]
    refine ⟨⟨h.mode, h.notFull, h.notValid, toNat_shiftBit_lt h.window_lt, h.buf⟩, h.inactive, hramp,
      ?_⟩
    dsimp only
    rw [hzero]
    omega

/-- Nothing is handed out while nothing comes in. -/
theorem Calm.exec_quiet (len : ℕ) (h : d.Calm ((samplesOf es).count true)) :
    (exec len d es).1.Calm 0 ∧ (exec len d es).2 = [] ∧ SameNode d (exec len d es).1 := by
  induction es generalizing d with
  | nil => exact ⟨h, rfl, .refl d⟩
  | cons e es ih =>
    cases e with
    | sample x =>
      obtain ⟨hcalm, hnone, hsame⟩ := ih h.interrupt
      exact ⟨hcalm, hnone, SameNode.trans (interrupt_settings h.sound) hsame⟩
    | recv =>
      have hrecv : d.recv len = (d, none) := h.recv
      obtain ⟨hcalm, hnone, hsame⟩ := ih (d := d) h
      simp only [Driver.exec, hrecv]
      exact ⟨hcalm, hnone, hsame⟩

/-- A row of samples in which a frame is completed; what comes behind it is quiet. -/
inductive Hears (frame : List Byte) : Driver → List Bool → Prop where
  | complete {d : Driver} {xs : List Bool} : d.Full frame → d.pll.ramp < 160 →
      d.pll.integrator + xs.count true ≤ 4 → Hears frame d xs
  | listen {d : Driver} {x : Bool} {xs : List Bool} : d.Open → d.Sound →
      Hears frame (d.handleTimerInterrupt x) xs → Hears frame d (x :: xs)

/-- However the calls of `recv` fall between the samples, the frame is read once. -/
theorem Hears.exec_read (len : ℕ) (h : Hears frame d xs) (hf : Framed frame) (hes : samplesOf es = xs) :
    (exec len d (es ++ [.recv])).1.Calm 0 ∧
      (exec len d (es ++ [.recv])).2 = (if d.Valid frame then [payload len frame] else []) ∧
      SameNode d (exec len d (es ++ [.recv])).1 := by
  induction es generalizing d xs with
  | nil =>
    cases h with
    | complete hfull hramp hfew =>
      obtain ⟨hmessage, hopen, hinactive, hpll, hsame⟩ := hfull.recv len hf
      refine ⟨⟨hopen, hinactive, ?_, ?_⟩, ?_, hsame⟩
      · rw [← hpll] at hramp
        exact hramp
      · rw [← hpll] at hfew
        exact le_trans (Nat.add_le_add_left (Nat.zero_le _) _) hfew
      · simp only [List.nil_append, Driver.exec, hmessage]
        split <;> rfl
    | listen => cases hes
  | cons e es ih =>
    cases e with
    | sample x =>
      cases h with
      | complete hfull hramp hfew =>
        have hidle : d.handleTimerInterrupt x = d := handleTimerInterrupt_idle hfull.mode
        have hfew' : d.pll.integrator + (samplesOf es).count true ≤ 4 := by
          rw [← hes, samplesOf, List.count_cons] at hfew
          omega
        have hrest := ih (.complete hfull hramp hfew') rfl
        simpa only [List.cons_append, Driver.exec, hidle] using hrest
      | listen hopen hsound hnext =>
        obtain ⟨rfl, htail⟩ := List.cons.inj hes
        obtain ⟨hcalm, hread, hsame⟩ := ih hnext htail
        obtain ⟨haddress, hpromiscuous⟩ := interrupt_settings (x := x) hsound
        have hvalid : (d.handleTimerInterrupt x).Valid frame ↔ d.Valid frame := by
          simp only [Valid, Accepts, haddress, hpromiscuous]
        rw [if_congr hvalid rfl rfl] at hread
        exact ⟨hcalm, hread, SameNode.trans ⟨haddress, hpromiscuous⟩ hsame⟩
    | recv =>
      cases h with
      | complete hfull hramp hfew =>
        obtain ⟨hmessage, hopen, hinactive, hpll, hsame⟩ := hfull.recv len hf
        have hcalm : (d.recv len).1.Calm ((samplesOf (es ++ [.recv])).count true) := by
          have hsamples : samplesOf (es ++ [.recv]) = xs := by
            rw [← hes]
            clear ih hes
            induction es with
            | nil => rfl
            | cons e es ih => cases e <;> simp_all [samplesOf]
          rw [hsamples]
          exact ⟨hopen, hinactive, by rwa [hpll], by rwa [hpll]⟩
        obtain ⟨hend, hnone, hsame'⟩ := hcalm.exec_quiet len
        simp only [List.cons_append, Driver.exec]
        refine ⟨hend, ?_, SameNode.trans hsame hsame'⟩
        rw [hnone, hmessage]
        split <;> rfl
      | listen hopen hsound hnext =>
        have hrecv : d.recv len = (d, none) := hopen.recv
        have hrest := ih (.listen hopen hsound hnext) hes
        simp only [List.cons_append, Driver.exec, hrecv]
        exact hrest

/-! ### Samples and bits -/

/-- As long as no frame is completed, the receiver does with the samples what the framer does
with the bits that the loop declares. -/
theorem Hears.of_bits (hopen : d.Open) (hsound : d.Sound)
    (hbits : (d.takeBits (d.pll.samples xs).2).rxBufFull = false)
    (h : ∀ e, e = { d.takeBits (d.pll.samples xs).2 with pll := (d.pll.samples xs).1 } →
      e.Open → e.Sound → Hears frame e zs) : Hears frame d (xs ++ zs) := by
  induction xs generalizing d with
  | nil => exact h d rfl hopen hsound
  | cons x xs ih =>
    refine .listen hopen hsound ?_
    have hsound' : (d.handleTimerInterrupt x).Sound := hsound.interrupt
    have hstep := handleTimerInterrupt_rx (x := x) hopen.mode
    have hrun : d.pll.samples (x :: xs) = (((d.pll.sample x).1.samples xs).1,
        (d.pll.sample x).2.toList ++ ((d.pll.sample x).1.samples xs).2) := rfl
    cases hs : (d.pll.sample x).2 with
    | none =>
      rw [hs] at hstep hrun
      rw [hstep] at hsound' ⊢
      rw [hrun] at hbits h
      refine ih ⟨hopen.mode, hopen.notFull, hopen.notValid, hopen.window_lt, hopen.buf⟩ hsound' ?_ ?_
      · rw [takeBits_pll]
        exact hbits
      · intro e he ho hse
        refine h e ?_ ho hse
        rw [he, takeBits_pll]
        rfl
    | some b =>
      rw [hs] at hstep hrun
      rw [hstep] at hsound' ⊢
      rw [hrun] at hbits h
      have hnot : (d.takeBit b).rxBufFull = false := by
        by_contra hfull
        rw [Bool.not_eq_false] at hfull
        have hstays := @takeBits_full _ ((d.pll.sample x).1.samples xs).2 hfull
        rw [Option.toList_some, List.singleton_append, takeBits_cons] at hbits
        rw [hstays] at hbits
        cases hbits
      have ho := hopen.takeBit hnot
      refine ih ⟨ho.mode, ho.notFull, ho.notValid, ho.window_lt, ho.buf⟩ hsound' ?_ ?_
      · rw [takeBits_pll]
        exact hbits
      · intro e he ho hse
        refine h e ?_ ho hse
        rw [he, takeBits_pll]
        rfl

/-- The sample with which the last bit of a frame is declared. -/
theorem Hears.of_last {init : List Bool} {last : Bool} (hopen : d.Open) (hsound : d.Sound)
    (hinit : (d.pll.samples xs).2 = init)
    (hlast : ((d.pll.samples xs).1.sample x).2 = some last)
    (hnot : (d.takeBits init).rxBufFull = false) (hfull : (d.takeBits (init ++ [last])).Full frame)
    (hfew : zs.count true ≤ 4) : Hears frame d (xs ++ x :: zs) := by
  refine Hears.of_bits hopen hsound (by rwa [hinit]) ?_
  intro e he ho hse
  rw [hinit] at he
  have hpll : e.pll = (d.pll.samples xs).1 := by rw [he]
  refine .listen ho hse ?_
  have hstep := handleTimerInterrupt_rx (x := x) ho.mode
  rw [hpll, hlast] at hstep
  have hbits : e.takeBit last =
      { d.takeBits (init ++ [last]) with pll := (d.pll.samples xs).1 } := by
    rw [he, takeBit_pll, takeBits_append]
    rfl
  have hramp : ((d.pll.samples xs).1.sample x).1.ramp < 160 := by
    have hlt := hse.ramp
    rw [hpll] at hlt
    exact Pll.ramp_sample_lt hlt
  rw [hstep]
  refine .complete ?_ hramp ?_
  · dsimp only
    rw [hbits]
    exact ⟨hfull.mode, hfull.inactive, hfull.full, hfull.notValid, hfull.window_lt, hfull.buf,
      hfull.bufLen, hfull.frame_eq⟩
  · dsimp only
    rw [(Pll.sample_eq_some hlast).1]
    omega

/-! ### A message -/

theorem preambleBits_take : preambleBits = Pll.opening.map Prod.fst ++ preambleBits.drop 4 := by
  decide +kernel

/-- No bit of the opening is short or long. -/
theorem opening_of_paced {timed : List Timed} {rest : List Bool} (hp : Paced 8 false timed)
    (hbits : timed.map Prod.fst = Pll.opening.map Prod.fst ++ rest) :
    ∃ behind, timed = Pll.opening ++ behind ∧ Paced 5 true behind ∧ behind.map Prod.fst = rest := by
  match timed, hp, hbits with
  | (_, n₁) :: (_, n₂) :: (_, n₃) :: (_, n₄) :: behind, hp, hbits =>
    simp only [Pll.opening, List.map_cons, List.map_nil, List.cons_append, List.nil_append,
      List.cons.injEq] at hbits
    obtain ⟨rfl, rfl, rfl, rfl, hrest⟩ := hbits
    simp only [Paced, if_true, Bool.true_eq_false, Bool.false_eq_true, if_false] at hp
    simp only [OfNat.ofNat_ne_zero, false_and, or_false, Nat.reduceSub] at hp
    obtain ⟨rfl, rfl, rfl, rfl, hbehind⟩ := hp
    exact ⟨behind, rfl, hbehind, hrest⟩

theorem startFree_zeros {w : BitVec 16} (hw : w.toNat < 2 ^ 12) {k : ℕ} :
    StartFree w (List.replicate k false) := by
  induction k generalizing w with
  | zero => trivial
  | succ k ih => exact ⟨shiftBit_false_ne hw, ih (toNat_shiftBit_lt hw)⟩

/-- The last bit is declared while it is on the line, or in the silence behind it. -/
theorem Hears.of_pending {init : List Bool} {last : Bool} {o : ℕ} {pending : List Bool}
    (hopen : d.Open) (hsound : d.Sound) (ho : o ≤ 5)
    (htracked : Pll.Tracked (8 + 9 * o) (d.pll.samples xs).1 pending)
    (houts : (d.pll.samples xs).2 ++ pending = init ++ [last])
    (hnot : (d.takeBits init).rxBufFull = false) (hfull : (d.takeBits (init ++ [last])).Full frame)
    (hm : 8 ≤ m) : Hears frame d (xs ++ List.replicate m false) := by
  have hfollows := htracked.follows (b := false) (n := 8) (by omega) (.inl ⟨rfl, le_rfl⟩)
  rcases htracked with ⟨hramp, hint, rfl⟩ | ⟨hramp, hlt, hint, rfl⟩
  · rw [List.append_nil] at houts
    obtain ⟨ys, x, zs, rfl, hys, hx, hzs⟩ := Pll.samples_split houts
    have hend : (d.pll.samples (ys ++ x :: zs)).1 =
        (((d.pll.samples ys).1.sample x).1.samples zs).1 := by rw [Pll.samples_append]; rfl
    have hcount := Pll.integrator_samples hzs
    rw [(Pll.sample_eq_some hx).1, ← hend] at hcount
    have hfew : zs.count true ≤ 4 := by
      split at hint <;> omega
    rw [List.append_assoc, List.cons_append]
    refine Hears.of_last hopen hsound hys hx hnot hfull ?_
    rw [List.count_append]
    simpa [List.count_replicate] using hfew
  · obtain ⟨hinit, hlast⟩ := List.append_inj' houts rfl
    obtain ⟨pending', ht', hb'⟩ := hfollows
    have hshort : pending' = [] ∨ ∃ b, pending' = [b] := by
      rcases ht' with ⟨-, -, h⟩ | ⟨-, -, -, h⟩
      · exact .inl h
      · exact .inr ⟨_, h⟩
    obtain ⟨rest, hrest⟩ : ∃ rest, ((d.pll.samples xs).1.samples (List.replicate 8 false)).2 =
        [] ++ last :: rest := by
      rw [hlast] at hb'
      rcases hshort with rfl | ⟨b, rfl⟩
      · rw [List.append_nil] at hb'
        exact ⟨[false], hb'.symm⟩
      · obtain ⟨hrest, -⟩ := List.append_inj' hb' rfl
        exact ⟨[], hrest.symm⟩
    obtain ⟨ys, x, zs, hlows, hys, hx, -⟩ := Pll.samples_split hrest
    have hzero : zs.count true = 0 := by
      have hcount := congrArg (List.count true) hlows
      rw [List.count_replicate, List.count_append, List.count_cons] at hcount
      simp at hcount
      omega
    obtain ⟨j, rfl⟩ : ∃ j, m = 8 + j := ⟨m - 8, by omega⟩
    rw [List.replicate_add, hlows, List.append_assoc, List.cons_append, ← List.append_assoc]
    refine Hears.of_last hopen hsound ?_ ?_ hnot hfull ?_
    · rw [Pll.samples_append, hys, hinit, List.append_nil]
    · rw [Pll.samples_append]
      exact hx
    · rw [List.count_append, hzero]
      simp [List.count_replicate]

/-- From a settled loop with an empty window. -/
theorem Open.hears {timed : List Timed} {r : ℕ} (h : d.Open) (hsound : d.Sound)
    (hinactive : d.rxActive = false) (hw : d.rxBits = 0) (hpll : d.pll = ⟨false, 0, r⟩)
    (hr : r < 160) (hm : 8 ≤ m) (hp : Paced 8 false timed)
    (hbits : timed.map Prod.fst = preambleBits ++ frame.flatMap byteBits) (hf : Framed frame) :
    Hears frame d (line timed ++ List.replicate m false) := by
  rw [preambleBits_take, List.append_assoc] at hbits
  obtain ⟨behind, rfl, hbehind, hrest⟩ := opening_of_paced hp hbits
  have hline : line (Pll.opening ++ behind) = line Pll.opening ++ line behind :=
    List.flatMap_append
  obtain ⟨pending₁, ht₁, hlead⟩ := Pll.samples_opening hr
  have hlast : (Pll.samples ⟨false, 0, r⟩ (line Pll.opening)).1.lastSample = true := by
    have hsplit : line Pll.opening = line (Pll.opening.take 3) ++ List.replicate 8 true := rfl
    have hhigh := Pll.lastSample_samples (b := true) (n := 8) (Nat.succ_pos 7)
      (p := (Pll.samples ⟨false, 0, r⟩ (line (Pll.opening.take 3))).1)
    simpa only [hsplit, Pll.samples_append] using hhigh
  obtain ⟨o, ho, pending₂, ht₂, hb₂⟩ := ht₁.run le_rfl (by rwa [hlast])
  obtain ⟨init, last, hsplit, hnot, hfull⟩ := h.message hinactive hw hlead hf
  rw [hrest, ← List.append_assoc] at hb₂
  have hend : (d.pll.samples (line (Pll.opening ++ behind))).1 =
      ((Pll.samples ⟨false, 0, r⟩ (line Pll.opening)).1.samples (line behind)).1 := by
    rw [hline, hpll, Pll.samples_append]
  rw [← hend] at ht₂
  refine Hears.of_pending h hsound ho ht₂ ?_ hnot hfull hm
  · rw [hline, hpll, Pll.samples_append, ← hsplit]
    simp only [List.append_assoc] at hb₂ ⊢
    rw [hb₂]

theorem Calm.hears {timed : List Timed} (h : d.Calm 0) (hn : 97 ≤ n) (hm : 8 ≤ m)
    (hp : Paced 8 false timed) (hbits : timed.map Prod.fst = preambleBits ++ frame.flatMap byteBits)
    (hf : Framed frame) :
    Hears frame d (List.replicate n false ++ (line timed ++ List.replicate m false)) := by
  obtain ⟨k, r, hk, hr, hsilence⟩ := Pll.samples_silence h.ramp h.few hn
  have hzeros := takeBits_search h.inactive (startFree_zeros h.window_lt (k := k))
  have hwindow : window d.rxBits (List.replicate k false) = 0 := by
    rw [window_twelve h.window_lt (by simpa using hk), window_zeros]
  rw [hwindow] at hzeros
  refine Hears.of_bits h.toOpen h.sound ?_ ?_
  · rw [hsilence]
    dsimp only
    rw [hzeros]
    exact h.notFull
  · intro e he ho hse
    rw [hsilence] at he
    dsimp only at he
    rw [hzeros] at he
    exact ho.hears hse (by rw [he]; exact h.inactive) (by rw [he]) (by rw [he]) hr hm hp hbits hf

/-! ### Sessions -/

/-- A message in the samples that a receiver takes: some silence, the bits at the pace of their
sender, and a bit time of silence behind them. Calls of `recv` may come at any time. -/
structure Heard (header : Header) (data : List Byte) (es : List Event) : Prop where
  fits : data.length ≤ maxMessageLen
  samples : ∃ n m timed, 97 ≤ n ∧ 8 ≤ m ∧ Paced 8 false timed ∧
    timed.map Prod.fst = messageBits header data ∧
    samplesOf es = List.replicate n false ++ (line timed ++ List.replicate m false)

/-- Messages one after the other, with a call of `recv` behind each of them. -/
inductive Session : List Event → List (Header × List Byte) → Prop where
  | nil : Session [] []
  | message {header : Header} {data : List Byte} {es rest : List Event}
      {messages : List (Header × List Byte)} :
      Heard header data es → Session rest messages →
      Session (es ++ .recv :: rest) ((header, data) :: messages)

theorem payload_frameOf : payload len (frameOf header data) = data.take len := by
  rw [payload, length_frameOf, Nat.add_sub_cancel]
  have hdrop : (frameOf header data).drop (headerLen + 1) =
      data ++ check (content header data) := rfl
  rw [hdrop, List.take_append_of_le_length (Nat.min_le_right _ _), ← List.take_take,
    List.take_length]

theorem valid_frameOf : d.Valid (frameOf header data) ↔ d.Accepts header :=
  and_iff_right ccitt_frameOf

theorem exec_append : exec len d (es ++ rest) =
    ((exec len (exec len d es).1 rest).1, (exec len d es).2 ++ (exec len (exec len d es).1 rest).2) := by
  induction es generalizing d with
  | nil => rfl
  | cons e es ih =>
    cases e with
    | sample x => exact ih
    | recv => simp only [List.cons_append, exec, ih, List.append_assoc]

/-- One message is read once. -/
theorem Calm.delivers (len : ℕ) (h : d.Calm 0) (hes : Heard header data es) :
    (exec len d (es ++ [.recv])).1.Calm 0 ∧
      (exec len d (es ++ [.recv])).2 = (if d.Accepts header then [data.take len] else []) ∧
      SameNode d (exec len d (es ++ [.recv])).1 := by
  obtain ⟨n, m, timed, hn, hm, hp, hbits, hsamples⟩ := hes.samples
  have hf : Framed (frameOf header data) := framed_frameOf hes.fits
  obtain ⟨hcalm, hread, hsame⟩ := (h.hears hn hm hp hbits hf).exec_read len hf hsamples
  rw [if_congr valid_frameOf rfl rfl, payload_frameOf] at hread
  exact ⟨hcalm, hread, hsame⟩

theorem Calm.session {messages : List (Header × List Byte)} (h : d.Calm 0)
    (hes : Session es messages) : (exec len d es).2 =
      (messages.filter fun m => decide (d.Accepts m.1)).map fun m => m.2.take len := by
  induction hes generalizing d with
  | nil => rfl
  | @message header data es rest messages hheard hrest ih =>
    obtain ⟨hcalm, hread, haddress, hpromiscuous⟩ := h.delivers len hheard
    have hsplit : es ++ .recv :: rest = (es ++ [.recv]) ++ rest := by simp
    have haccepts : ∀ header, (exec len d (es ++ [.recv])).1.Accepts header ↔ d.Accepts header := by
      intro header
      simp only [Driver.Accepts, haddress, hpromiscuous]
    rw [hsplit, exec_append, hread, ih hcalm, List.filter_cons]
    simp only [haccepts]
    split <;> simp_all

/-- A node as its sketch sets it up. -/
def node (address : Byte) (promiscuous : Bool) : Driver :=
  { constructed with thisAddress := address, promiscuous }.init

variable {address : Byte} {promiscuous : Bool}

theorem resting_node (address : Byte) (promiscuous : Bool) : (node address promiscuous).Resting :=
  ⟨rfl, rfl, rfl, rfl, by simp [node, init, setModeIdle, constructed], by
    simp [node, init, setModeIdle, constructed]⟩

/-- A node that listens. -/
def listening (address : Byte) (promiscuous : Bool) : Driver :=
  { node address promiscuous with pttPin := false, txPin := false, mode := .rx }

theorem calm_listening : (listening address promiscuous).Calm 0 :=
  have hrest := resting_node address promiscuous
  ⟨⟨rfl, rfl, rfl, hrest.window_lt, hrest.buf⟩, rfl, by
    simp [listening, node, init, setModeIdle, constructed], by
    simp [listening, node, init, setModeIdle, constructed]⟩

/-- The first call of `recv` turns a node on. -/
theorem exec_node : (exec len (node address promiscuous) (.recv :: es)).2 =
    (exec len (listening address promiscuous) es).2 := by
  simp only [exec, (resting_node address promiscuous).recv, Option.toList_none,
    List.nil_append]
  rfl

/-- A node that has been turned on reads the messages that it accepts, each of them once and
in their order. -/
theorem session_delivers {messages : List (Header × List Byte)} (hes : Session es messages) :
    (exec len (node address promiscuous) (.recv :: es)).2 =
      (messages.filter fun m => decide (promiscuous = true ∨ m.1.headerTo = address ∨
        m.1.headerTo = broadcastAddress)).map fun m => m.2.take len := by
  rw [exec_node]
  exact calm_listening.session hes

/-- The clock of this sender runs slow: two of its bits last a sample longer. -/
theorem session_delivers_slow : ∃ es, samplesOf es = List.replicate 97 false ++
      (line ((messageBits ⟨2#8, 1#8, 0#8, 0#8⟩ [72#8, 105#8]).mapIdx fun i b =>
        (b, if i = 50 ∨ i = 70 then 9 else 8)) ++ List.replicate 8 false) ∧
    (exec 60 (node 2#8 false) (.recv :: (es ++ [.recv]))).2 = [[72#8, 105#8]] := by
  obtain ⟨timed, htimed⟩ : ∃ timed : List Timed, timed = (messageBits ⟨2#8, 1#8, 0#8, 0#8⟩
      [72#8, 105#8]).mapIdx fun i b => (b, if i = 50 ∨ i = 70 then 9 else 8) := ⟨_, rfl⟩
  have hpaced : Paced 8 false timed := by
    rw [htimed]
    decide +kernel
  have hbits : timed.map Prod.fst = messageBits ⟨2#8, 1#8, 0#8, 0#8⟩ [72#8, 105#8] := by
    rw [htimed]
    decide +kernel
  have hheard : Heard ⟨2#8, 1#8, 0#8, 0#8⟩ [72#8, 105#8]
      ((List.replicate 97 false ++ (line timed ++ List.replicate 8 false)).map .sample) :=
    ⟨by decide, 97, 8, timed, le_rfl, le_rfl, hpaced, hbits, samplesOf_map _⟩
  rw [← htimed]
  exact ⟨_, samplesOf_map _, (session_delivers (.message hheard .nil)).trans (by decide)⟩

end Driver

end RadioHead
