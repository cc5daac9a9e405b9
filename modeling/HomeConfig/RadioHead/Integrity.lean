import HomeConfig.RadioHead.Trace

/-! What the frame check is good for: a frame that noise has changed a little is not handed out. -/
namespace RadioHead

open Arduino ShiftRegister

variable {header : Header} {data frame frame' : List Byte} {len : ℕ}

/-- A frame that differs from another one in up to three bits, in an odd number of bits, or only
within sixteen neighbouring bits, in the order in which the check takes them. -/
def Near (frame frame' : List Byte) : Prop := ShiftRegister.Near 16 (crcBits frame) (crcBits frame')

/-- In the longest frame the register does not come back to one between two bits. -/
theorem ccittPoly_period : ∀ j < 536, feed ccittPoly ccittPoly (List.replicate j false) ≠ 1 := by
  decide +kernel

theorem ccittPoly_odd : parity (bits 16 ccittPoly) = true := by decide

theorem ccitt_eq_feed : ccitt frame = feed ccittPoly 0xffff#16 (crcBits frame) :=
  foldl_rhCrcCcittUpdate

theorem Near.length_eq (h : Near frame frame') : frame.length = frame'.length := by
  have hlen := ShiftRegister.Near.length_eq h
  rw [length_crcBits, length_crcBits] at hlen
  omega

/-- A frame near to one with a right check has a right check only if it is the same. -/
theorem Near.eq_of_ccitt (h : Near frame frame') (hlen : frame.length ≤ maxPayloadLen)
    (hcheck : ccitt frame = 0xf0b8#16) (hcheck' : ccitt frame' = 0xf0b8#16) : frame = frame' := by
  have hmax : maxPayloadLen = 67 := rfl
  have hsame : feed ccittPoly 0xffff#16 (crcBits frame) = feed ccittPoly 0xffff#16 (crcBits frame') := by
    rw [← ccitt_eq_feed, ← ccitt_eq_feed, hcheck, hcheck']
  have hbits : (crcBits frame).length ≤ 536 := by
    rw [length_crcBits]
    omega
  exact flatMap_bits_injective (Nat.succ_pos 7)
    (h.eq_of_feed ccittPoly_proper ccittPoly_odd ccittPoly_period hbits hsame)

namespace Driver

variable {own d : Driver} {bs : List Bool} {messages : List (List Byte)} {m : List Byte}

/-- What looks like a frame in the stream is a sent one, up to a little noise. -/
def LittleNoise (sent : List (Header × List Byte)) (bs : List Bool) : Prop :=
  ∀ before body behind, bs = before ++ body ++ behind → window 0 before = startSymbol →
    body.length = 12 * (groups body).length → Framed (groups body) →
    ∃ message ∈ sent, Near (frameOf message.1 message.2) (groups body)

theorem LittleNoise.of_append {sent : List (Header × List Byte)} {gap : List Bool}
    (h : LittleNoise sent (bs ++ gap)) : LittleNoise sent bs := by
  intro before body behind hsplit hstart hlen hframed
  refine h before body (behind ++ gap) ?_ hstart hlen hframed
  rw [hsplit]
  simp only [List.append_assoc]

theorem Reads.sent {sent : List (Header × List Byte)} (h : Reads len own bs messages)
    (hnoise : LittleNoise sent bs) (hm : m ∈ messages) :
    ∃ message ∈ sent, own.Accepts message.1 ∧ m = message.2.take len := by
  induction h with
  | nil => cases hm
  | skip gap _ ih => exact ih hnoise.of_append hm
  | @read bs body messages _ hstart hlen hframed hvalid ih =>
    rcases List.mem_append.mp hm with hm | hm
    · exact ih hnoise.of_append hm
    · obtain rfl := List.mem_singleton.mp hm
      obtain ⟨⟨header, data⟩, hsent, hnear⟩ :=
        hnoise bs body [] (List.append_nil _).symm hstart hlen hframed
      have hlength := hnear.length_eq
      have hsame : frameOf header data = groups body :=
        hnear.eq_of_ccitt (hlength.trans_le hframed.2.1) ccitt_frameOf hvalid.1
      refine ⟨_, hsent, ?_, ?_⟩
      · rw [← hsame] at hvalid
        exact valid_frameOf.mp hvalid
      · rw [← hsame]
        exact payload_frameOf

/-! ### A noisy run -/

/-- A message on its way to the second node. -/
def clearFrame : List Byte := frameOf ⟨2#8, 1#8, 0#8, 0#8⟩ [72#8]

/-- The same one with a bit of its text turned over. -/
def noisyFrame : List Byte := clearFrame.set 5 73#8

theorem framed_clearFrame : Framed clearFrame := framed_frameOf (by decide)

theorem framed_noisyFrame : Framed noisyFrame := by
  refine ⟨?_, ?_, ?_⟩ <;> decide +kernel

/-- A frame on the air between two pauses, and a call of `recv` behind it. -/
def airing (frame : List Byte) : List Event :=
  (List.replicate 97 false ++
    (line ((preambleBits ++ frame.flatMap byteBits).map fun b => (b, 8)) ++
      List.replicate 8 false)).map .sample ++ [.recv]

/-- A listening node reads the frame if it is a valid one, and listens again. -/
theorem Calm.exec_airing (len : ℕ) (h : d.Calm 0) (hf : Framed frame) :
    (exec len d (airing frame)).1.Calm 0 ∧
      (exec len d (airing frame)).2 = (if d.Valid frame then [payload len frame] else []) ∧
      SameNode d (exec len d (airing frame)).1 := by
  have hbits : ((preambleBits ++ frame.flatMap byteBits).map fun b => (b, 8)).map Prod.fst =
      preambleBits ++ frame.flatMap byteBits := by
    rw [List.map_map]
    exact List.map_id _
  exact (h.hears le_rfl le_rfl paced_eight hbits hf).exec_read len hf (samplesOf_map _)

/-- The bits that the loop declares for the noisy frame and then for the clear one. -/
def noisyBits : List Bool :=
  List.replicate 12 false ++ (preambleBits ++ noisyFrame.flatMap byteBits) ++
    (List.replicate 12 false ++ (preambleBits ++ clearFrame.flatMap byteBits))

theorem declared_noisy : declared 60 (node 2#8 false)
    (.recv :: (airing noisyFrame ++ airing clearFrame)) = noisyBits := by decide +kernel

/-- Only the last twelve bits are in the window. -/
theorem window_take {i : ℕ} (hi : i ≤ bs.length) :
    window 0 (bs.take i) = window 0 ((bs.drop (i - 12)).take (min i 12)) := by
  rcases Nat.lt_or_ge i 12 with hshort | hlong
  · rw [Nat.sub_eq_zero_of_le hshort.le, List.drop_zero, Nat.min_eq_left hshort.le]
  · obtain ⟨j, rfl⟩ : ∃ j, i = j + 12 := ⟨i - 12, by omega⟩
    rw [Nat.add_sub_cancel, Nat.min_eq_right hlong, List.take_add, window, List.foldl_append]
    refine window_twelve (toNat_window_lt (by decide)) ?_
    rw [List.length_take, List.length_drop]
    omega

/-- There are two start symbols in them, each in front of one of the frames. -/
theorem startSymbol_noisyBits {before rest : List Bool} (hsplit : noisyBits = before ++ rest)
    (hstart : window 0 before = startSymbol) :
    rest = noisyBits.drop 60 ∨ rest = noisyBits.drop 216 := by
  have hall : ∀ i < 313, window 0 ((noisyBits.drop (i - 12)).take (min i 12)) = startSymbol →
      i = 60 ∨ i = 216 := by decide +kernel
  have hlen : noisyBits.length = 312 := by decide +kernel
  have hbefore : before = noisyBits.take before.length := by rw [hsplit, List.take_left]
  have hrest : rest = noisyBits.drop before.length := by rw [hsplit, List.drop_left]
  have hle : before.length ≤ noisyBits.length := by
    rw [hsplit, List.length_append]
    omega
  rw [hbefore, window_take hle] at hstart
  rw [hrest]
  rcases hall before.length (by omega) hstart with hplace | hplace
  · exact .inl (congrArg noisyBits.drop hplace)
  · exact .inr (congrArg noisyBits.drop hplace)

/-- The only frames in them are these two. -/
theorem framed_noisyBits {before body behind : List Bool}
    (hsplit : noisyBits = before ++ body ++ behind) (hstart : window 0 before = startSymbol)
    (hlen : body.length = 12 * (groups body).length) (hframed : Framed (groups body)) :
    groups body = noisyFrame ∨ groups body = clearFrame := by
  obtain ⟨hseven, -, hhead⟩ := hframed
  have hfirst : ∀ k < 22, 7 ≤ k → (groups ((noisyBits.drop 60).take (12 * k))).head? =
      some (BitVec.ofNat 8 k) → groups ((noisyBits.drop 60).take (12 * k)) = noisyFrame := by
    decide +kernel
  have hsecond : ∀ k < 9, 7 ≤ k → (groups ((noisyBits.drop 216).take (12 * k))).head? =
      some (BitVec.ofNat 8 k) → groups ((noisyBits.drop 216).take (12 * k)) = clearFrame := by
    decide +kernel
  generalize hk : (groups body).length = k at hlen hseven hhead
  rw [List.append_assoc] at hsplit
  have hbody : body = (body ++ behind).take (12 * k) := by rw [← hlen, List.take_left]
  have hroom : 12 * k ≤ (body ++ behind).length := by
    rw [← hlen, List.length_append]
    omega
  rcases startSymbol_noisyBits hsplit hstart with hrest | hrest
  · have hlength : (noisyBits.drop 60).length = 252 := by decide +kernel
    rw [hrest] at hbody hroom
    rw [hbody] at hhead ⊢
    exact .inl (hfirst k (by omega) hseven hhead)
  · have hlength : (noisyBits.drop 216).length = 96 := by decide +kernel
    rw [hrest] at hbody hroom
    rw [hbody] at hhead ⊢
    exact .inr (hsecond k (by omega) hseven hhead)

theorem littleNoise_noisyBits :
    LittleNoise [(⟨2#8, 1#8, 0#8, 0#8⟩, [72#8])] noisyBits := by
  intro before body behind hsplit hstart hlen hframed
  refine ⟨_, List.mem_singleton_self _, ?_⟩
  rcases framed_noisyBits hsplit hstart hlen hframed with hframe | hframe
  · rw [hframe]
    exact .few (by decide +kernel) (by decide +kernel)
  · rw [hframe]
    exact .few (by decide +kernel) (by decide +kernel)

/-! ### What is read -/

/-- With little noise on the air, every message that a node hands out has been sent so, to it. -/
theorem exec_reads_sent (address : Byte) (promiscuous : Bool) (es : List Event)
    (sent : List (Header × List Byte))
    (hnoise : LittleNoise sent (declared len (node address promiscuous) es)) :
    ∀ m ∈ (exec len (node address promiscuous) es).2,
      ∃ message ∈ sent, (promiscuous = true ∨ message.1.headerTo = address ∨
        message.1.headerTo = broadcastAddress) ∧ m = message.2.take len := by
  have h := @Traced.run _ _ _ es _ _ (traced_node len address promiscuous)
  intro m hm
  exact h.place.reads.sent hnoise hm

theorem exec_reads_sent_noise :
    (exec 60 (node 2#8 false) (.recv :: (airing noisyFrame ++ airing clearFrame))).2 = [[72#8]] ∧
    ∀ m ∈ (exec 60 (node 2#8 false) (.recv :: (airing noisyFrame ++ airing clearFrame))).2,
      ∃ message ∈ [((⟨2#8, 1#8, 0#8, 0#8⟩ : Header), [72#8])],
        (false = true ∨ message.1.headerTo = 2#8 ∨ message.1.headerTo = broadcastAddress) ∧
        m = message.2.take 60 := by
  have hbroken : ¬ (listening 2#8 false).Valid noisyFrame := by decide +kernel
  obtain ⟨hcalm, hnone, hsame⟩ := (@calm_listening 2#8 false).exec_airing 60 framed_noisyFrame
  rw [if_neg hbroken] at hnone
  have hvalid : (exec 60 (listening 2#8 false) (airing noisyFrame)).1.Valid clearFrame := by
    refine ⟨ccitt_frameOf, .inr (.inl ?_)⟩
    rw [hsame.1]
    rfl
  obtain ⟨-, hread, -⟩ := hcalm.exec_airing 60 framed_clearFrame
  rw [if_pos hvalid] at hread
  refine ⟨?_, ?_⟩
  · rw [exec_node, exec_append, hnone, hread]
    decide +kernel
  · refine exec_reads_sent 2#8 false _ _ ?_
    rw [declared_noisy]
    exact littleNoise_noisyBits

end Driver

end RadioHead
