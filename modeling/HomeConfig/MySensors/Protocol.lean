import HomeConfig.MySensors.Core

/-! The texts that a gateway and its controller exchange: a line for each message, or a topic and a
payload at a broker. -/
namespace MySensors

open Arduino

/-- MY_GATEWAY_MAX_SEND_LENGTH. -/
def gatewayMaxSendLength : ℕ := 120

def semicolon : Byte := 59#8
def slash : Byte := 47#8
def newline : Byte := 10#8
def carriageReturn : Byte := 13#8

namespace MyMessage

/-- `set(void *, uint8_t)`. -/
def setCustom (m : MyMessage) (value : List Byte) : MyMessage :=
  m.write pCustom (value.take maxPayload).length (value.take maxPayload)

/-- The numbers in front of the payload, in their order. -/
def header (m : MyMessage) : List ℕ :=
  [m.sender.toNat, m.sensor.toNat, m.getCommand.toNat, m.isAck.toNat, m.type.toNat]

end MyMessage

def protocolFormat (m : MyMessage) : List Byte :=
  ((m.header.flatMap fun n : ℕ => itoa n ++ [semicolon]) ++ m.getString ++ [newline]).take
    (gatewayMaxSendLength - 1)

def protocolFormatMQTTTopic (publish : List Byte) (m : MyMessage) : List Byte :=
  (publish ++ m.header.flatMap fun n : ℕ => slash :: itoa n).take (gatewayMaxSendLength - 1)

/-- The value of a hexadecimal digit; the characters are signed. -/
def protocolH2i (c : Byte) : Byte :=
  if c.toInt ≤ 57 then c - 48#8
  else if 97 ≤ c.toInt then c - 97#8 + 10#8
  else c - 65#8 + 10#8

/-- The bytes behind pairs of hexadecimal digits. Nothing when the loop of the source reads past the
text or writes past its array. -/
def hexBytes : ℕ → List Byte → Option (List Byte)
  | _, [] => some []
  | 0, _ => none
  | _, [_] => none
  | room + 1, a :: b :: str =>
    (hexBytes room str).map (((protocolH2i a <<< 4) + protocolH2i b) :: ·)

/-- The tokens that the first `count` calls of `strtok_r` give. -/
def tokens (delimiters : List Byte) : ℕ → List Byte → List (List Byte)
  | 0, _ => []
  | count + 1, s =>
    match strtok delimiters s with
    | none => []
    | some (str, p) => str :: tokens delimiters count p

/-- The variables of the parsers. -/
structure Parsing where
  message : MyMessage
  command : Byte
  value : Option (List Byte)
  bvalue : List Byte

/-- What both parsers do with the tokens in front of the payload. -/
def Parsing.header (p : Parsing) (i : ℕ) (str : List Byte) : Parsing :=
  match i with
  | 0 => { p with message := { p.message with destination := BitVec.ofInt 8 (atoi str) } }
  | 1 => { p with message := { p.message with sensor := BitVec.ofInt 8 (atoi str) } }
  | 2 => { p with
      command := BitVec.ofInt 8 (atoi str)
      message := p.message.setCommand (BitVec.ofInt 8 (atoi str)) }
  | 3 => { p with message := p.message.setRequestAck (atoi str != 0) }
  | 4 => { p with message := { p.message with type := BitVec.ofInt 8 (atoi str) } }
  | _ => p

/-- The source means to cut off both a carriage return and a newline; it cuts off one character. -/
def cutLine (value : List Byte) : List Byte :=
  if value.getLast? = some carriageReturn ∨ value.getLast? = some newline then value.dropLast else value

/-- What `protocolParse` does with its `i`th token. -/
def Parsing.field (p : Parsing) (i : ℕ) (str : List Byte) : Option Parsing :=
  if i = 5 then
    if p.command = cStream then (hexBytes maxPayload str).map fun bytes => { p with bvalue := bytes }
    else some { p with value := some (cutLine str) }
  else some (p.header i str)

/-- The loop of `protocolParse`. -/
def Parsing.fields : Parsing → ℕ → List (List Byte) → Option Parsing
  | p, _, [] => some p
  | p, i, str :: strs => (p.field i str).bind fun p => p.fields (i + 1) strs

/-- The loop of `protocolMQTTParse`. -/
def Parsing.headers : Parsing → ℕ → List (List Byte) → Parsing
  | p, _, [] => p
  | p, i, str :: strs => (p.header i str).headers (i + 1) strs

def Parsing.start (message : MyMessage) : Parsing := ⟨message, 0#8, none, []⟩

/-- The message comes from the gateway and is not an acknowledgement. -/
def ofController (m : MyMessage) : MyMessage :=
  { m with sender := gatewayAddress, last := gatewayAddress }.setAck false

/-- Nothing when a buffer is overrun. -/
def protocolParse (message : MyMessage) (inputString : List Byte) : Option (Bool × MyMessage) :=
  let strs := tokens [semicolon] 6 (cString inputString)
  ((Parsing.start message).fields 0 strs).map fun p =>
    if strs.length < 5 then (false, p.message)
    else if p.command = cStream then (true, (ofController p.message).setCustom p.bvalue)
    else (true, (ofController p.message).setString (p.value.getD []))

/-- The topic starts with the prefix of the subscription, and one character behind that is skipped; the
payload is a buffer of which the first `length` bytes have come in. -/
def protocolMQTTParse (subscribe : List Byte) (message : MyMessage) (topic payload : List Byte)
    (length : ℕ) : Option (Bool × MyMessage) :=
  if subscribe.isPrefixOf (cString topic) then
    let strs := tokens [slash] 6 ((cString topic).drop (subscribe.length + 1))
    let p := (Parsing.start message).headers 0 strs
    if strs.length ≠ 5 then some (false, p.message)
    else if p.command = cStream then
      (hexBytes maxPayload (cString payload)).map fun bytes =>
        (true, (ofController p.message).setCustom bytes)
    else some (true, (ofController p.message).setString (payload.take length))
  else some (false, message)

/-! ### Tokens of a header -/

section Tokens

variable {d : Byte}

theorem isDigit_of_mem_itoa {n : ℕ} {c : Byte} (h : c ∈ itoa n) : isDigit c := by
  rw [itoa_natCast] at h
  exact isDigit_of_mem_decimal h

theorem itoa_ne_nil (n : ℕ) : itoa n ≠ [] := by
  rw [itoa_natCast]
  exact decimal_ne_nil _

theorem not_delimiter (hd : isDigit d = false) {n : ℕ} {c : Byte} (h : c ∈ itoa n) : c ∉ [d] := by
  intro hc
  rw [List.mem_singleton.mp hc] at h
  rw [isDigit_of_mem_itoa h] at hd
  cases hd

theorem tokens_fields (hd : isDigit d = false) (ns : List ℕ) (count : ℕ) (rest : List Byte) :
    tokens [d] (ns.length + count) ((ns.flatMap fun n : ℕ => itoa n ++ [d]) ++ rest) =
      (ns.map fun n : ℕ => itoa n) ++ tokens [d] count rest := by
  induction ns with
  | nil => simp
  | cons n ns ih =>
    have hword : strtok [d] (itoa n ++ d :: ((ns.flatMap fun n : ℕ => itoa n ++ [d]) ++ rest)) =
        some (itoa n, (ns.flatMap fun n : ℕ => itoa n ++ [d]) ++ rest) :=
      strtok_word (itoa_ne_nil n) (fun c hc => not_delimiter hd hc) (by simp)
    rw [List.length_cons, Nat.add_right_comm, List.flatMap_cons, List.append_assoc, List.append_assoc,
      List.singleton_append, tokens, hword]
    dsimp only
    rw [ih, List.map_cons, List.cons_append]

theorem tokens_separator (count : ℕ) (s : List Byte) : tokens [d] count (d :: s) = tokens [d] count s := by
  cases count with
  | zero => rfl
  | succ count => rw [tokens, tokens, strtok_separator (List.mem_singleton_self d)]

theorem tokens_nil (count : ℕ) : tokens [d] count [] = [] := by
  cases count with
  | zero => rfl
  | succ count => rfl

theorem tokens_topic (hd : isDigit d = false) (ns : List ℕ) (count : ℕ) :
    tokens [d] (ns.length + count) (ns.flatMap fun n : ℕ => d :: itoa n) = ns.map fun n : ℕ => itoa n := by
  induction ns with
  | nil => exact tokens_nil _
  | cons n ns ih =>
    rw [List.flatMap_cons, List.cons_append, tokens_separator, List.length_cons, Nat.add_right_comm]
    cases ns with
    | nil =>
      have hword : strtok [d] (itoa n ++ []) = some (itoa n, []) :=
        strtok_word (itoa_ne_nil n) (fun c hc => not_delimiter hd hc) (by simp)
      rw [List.flatMap_nil, tokens, hword]
      dsimp only
      rw [tokens_nil]
      rfl
    | cons k ns =>
      have hword : strtok [d] (itoa n ++ ((k :: ns).flatMap fun n : ℕ => d :: itoa n)) =
          some (itoa n, itoa k ++ ns.flatMap fun n : ℕ => d :: itoa n) :=
        strtok_word (itoa_ne_nil n) (fun c hc => not_delimiter hd hc) (by simp)
      rw [List.flatMap_cons, List.cons_append, tokens_separator] at ih
      rw [tokens, hword]
      dsimp only
      rw [ih]
      rfl

/-- What is left is the last token. -/
theorem tokens_text {text : List Byte} (h : d ∉ text) :
    tokens [d] 1 text = if text = [] then [] else [text] := by
  split
  · rename_i hnil
    rw [hnil]
    exact tokens_nil 1
  · rename_i hne
    have hword : strtok [d] (text ++ []) = some (text, []) :=
      strtok_word hne (fun c hc hcd => h (List.mem_singleton.mp hcd ▸ hc)) (by simp)
    rw [List.append_nil] at hword
    rw [tokens, hword]
    rfl

end Tokens

/-! ### Pairs of hexadecimal digits -/

theorem protocolH2i_i2h (b : Byte) :
    (protocolH2i (MyMessage.i2h (b >>> 4)) <<< 4) + protocolH2i (MyMessage.i2h b) = b := by
  revert b
  decide +kernel

theorem hexBytes_flatMap (bytes : List Byte) {room : ℕ} (h : bytes.length ≤ room) :
    hexBytes room (bytes.flatMap fun b : Byte => [MyMessage.i2h (b >>> 4), MyMessage.i2h b]) = some bytes := by
  induction bytes generalizing room with
  | nil => rw [List.flatMap_nil, hexBytes]
  | cons b bytes ih =>
    obtain ⟨room, rfl⟩ : ∃ k, room = k + 1 := ⟨room - 1, by simp at h; omega⟩
    have hrest := ih (Nat.le_of_succ_le_succ h)
    rw [List.flatMap_cons, List.cons_append, List.cons_append, List.nil_append, hexBytes, hrest,
      Option.map_some, protocolH2i_i2h]

/-- A hexadecimal digit is none of the characters that the texts give a meaning. -/
theorem i2h_plain (b : Byte) : MyMessage.i2h b ≠ 0#8 ∧ MyMessage.i2h b ≠ semicolon ∧
    MyMessage.i2h b ≠ newline := by
  revert b
  decide +kernel

namespace MyMessage

variable {m m₀ : MyMessage}

/-- The payload bytes of a custom message. -/
def customBytes (m : MyMessage) : List Byte :=
  (List.range m.getLength.toNat).map fun i => m.data.getD i 0#8

theorem getCustomString_eq :
    m.getCustomString = m.customBytes.flatMap fun b : Byte => [i2h (b >>> 4), i2h b] := by
  unfold getCustomString customBytes
  rw [List.flatMap_map]

theorem getString_custom (hp : m.getPayloadType = pCustom) : m.getString = m.getCustomString := by
  unfold getString
  rw [hp]
  rfl

theorem customBytes_setCustom {bytes : List Byte} (h : bytes.length ≤ maxPayload) :
    (m.setCustom bytes).customBytes = bytes := by
  have hlt : maxPayload < 32 := by decide
  unfold customBytes setCustom
  rw [List.take_of_length_le h, getLength_write (by omega)]
  refine List.ext_getElem (by simp) fun i hi hi' => ?_
  rw [List.getElem_map, List.getElem_range, data_write, List.getD_append _ _ _ _ hi',
    List.getD_eq_getElem _ _ hi']

theorem getString_setCustom (hp : m.getPayloadType = pCustom) (h : m.getLength.toNat ≤ maxPayload) :
    (m₀.setCustom m.customBytes).getString = m.getString := by
  have hlen : m.customBytes.length ≤ maxPayload := by
    unfold customBytes
    simpa using h
  have hp₀ : (m₀.setCustom m.customBytes).getPayloadType = pCustom :=
    getPayloadType_write (by decide) _ _
  rw [getString_custom hp₀, getString_custom hp, getCustomString_eq, getCustomString_eq,
    customBytes_setCustom hlen]

end MyMessage

/-! ### What comes back -/

/-- A message of this version of the library, without a signature. -/
structure Current (m : MyMessage) : Prop where
  version : m.getVersion = protocolVersion
  unsigned : m.getSigned = false

theorem Current.write {m : MyMessage} (h : Current m) (payloadType : Byte) (n : ℕ) (bytes : List Byte) :
    Current (m.write payloadType n bytes) :=
  ⟨(MyMessage.getVersion_write _ _ _).trans h.version, (MyMessage.getSigned_write _ _ _).trans h.unsigned⟩

theorem Current.ofController {m : MyMessage} (h : Current m) : Current (ofController m) :=
  ⟨h.version, h.unsigned⟩

/-- What the gateway makes of the text of a message: the node that the message came from is now the one
that it is for, and it asks for an acknowledgement if it was one. -/
structure Echoed (m m' : MyMessage) : Prop where
  destination : m'.destination = m.sender
  sensor : m'.sensor = m.sensor
  command : m'.getCommand = m.getCommand
  requestAck : m'.getRequestAck = m.isAck
  type : m'.type = m.type
  text : m'.getString = m.getString
  sender : m'.sender = gatewayAddress
  last : m'.last = gatewayAddress
  ack : m'.isAck = false
  current : Current m'
  plain : m.getCommand ≠ cStream → ∃ m₁ : MyMessage, m' = m₁.setString m.getString

/-- The message with the header of `m`. -/
def copyHeader (m₀ m : MyMessage) : MyMessage :=
  { ({ m₀ with destination := m.sender, sensor := m.sensor }.setCommand m.getCommand).setRequestAck
      m.isAck with type := m.type }

section

variable {m m₀ : MyMessage}

theorem headers_header (m₀ m : MyMessage) :
    (Parsing.start m₀).headers 0 (m.header.map fun n : ℕ => itoa n) =
      ⟨copyHeader m₀ m, m.getCommand, none, []⟩ := by
  have hbyte : ∀ b : Byte, BitVec.ofInt 8 (atoi (itoa b.toNat)) = b := by
    intro b
    rw [atoi_itoa, BitVec.ofInt_natCast, BitVec.ofNat_toNat, BitVec.setWidth_eq]
  have hack : (atoi (itoa m.isAck.toNat) != 0) = m.isAck := by
    rw [atoi_itoa]
    cases m.isAck <;> rfl
  simp only [MyMessage.header, List.map_cons, List.map_nil, Parsing.headers, Parsing.header,
    Parsing.start, hbyte, hack]
  rfl

theorem fields_eq_headers (p : Parsing) {i : ℕ} (strs : List (List Byte)) (h : i + strs.length ≤ 5) :
    p.fields i strs = some (p.headers i strs) := by
  induction strs generalizing p i with
  | nil => rfl
  | cons str strs ih =>
    rw [List.length_cons] at h
    have hne : i ≠ 5 := by omega
    have hfield : p.field i str = some (p.header i str) := if_neg hne
    rw [Parsing.fields, hfield, Option.bind_some, Parsing.headers]
    exact ih _ (by omega)

theorem fields_append (p : Parsing) (i : ℕ) (strs strs' : List (List Byte)) :
    p.fields i (strs ++ strs') = (p.fields i strs).bind fun q => q.fields (i + strs.length) strs' := by
  induction strs generalizing p i with
  | nil => rfl
  | cons str strs ih =>
    rw [List.cons_append, Parsing.fields, Parsing.fields]
    cases p.field i str with
    | none => rfl
    | some q =>
      rw [Option.bind_some, Option.bind_some, ih, List.length_cons, Nat.add_right_comm, Nat.add_assoc]

theorem echoed_write (h₀ : Current m₀) {payloadType : Byte} {n : ℕ} {bytes : List Byte}
    (htext : ((ofController (copyHeader m₀ m)).write payloadType n bytes).getString = m.getString)
    (hplain : m.getCommand ≠ cStream → ∃ m₁ : MyMessage,
      (ofController (copyHeader m₀ m)).write payloadType n bytes = m₁.setString m.getString) :
    Echoed m ((ofController (copyHeader m₀ m)).write payloadType n bytes) where
  destination := rfl
  sensor := rfl
  command := by
    have hcopy : (ofController (copyHeader m₀ m)).getCommand =
        ({ m₀ with destination := m.sender, sensor := m.sensor }.setCommand m.getCommand).getCommand :=
      (MyMessage.getCommand_setAck _).trans (MyMessage.getCommand_setRequestAck _)
    rw [MyMessage.getCommand_write, hcopy, MyMessage.getCommand_setCommand m.getCommand_lt]
  requestAck := by
    rw [MyMessage.getRequestAck_write]
    exact (MyMessage.getRequestAck_setAck _).trans (MyMessage.getRequestAck_setRequestAck _)
  type := rfl
  text := htext
  sender := rfl
  last := rfl
  ack := by
    rw [MyMessage.isAck_write]
    exact MyMessage.isAck_setAck _
  current := by
    have hcopy : Current (copyHeader m₀ m) := ⟨h₀.version, h₀.unsigned⟩
    exact hcopy.ofController.write _ _ _
  plain := hplain

theorem echoed_setString (h₀ : Current m₀) (hfits : MyMessage.Fits m.getString) :
    Echoed m ((ofController (copyHeader m₀ m)).setString m.getString) :=
  echoed_write h₀ (MyMessage.getString_setString hfits) fun _ => ⟨_, rfl⟩

theorem echoed_setCustom (h₀ : Current m₀) (hstream : m.getCommand = cStream)
    (hp : m.getPayloadType = pCustom) (hlen : m.getLength.toNat ≤ maxPayload) :
    Echoed m ((ofController (copyHeader m₀ m)).setCustom m.customBytes) :=
  echoed_write h₀ (MyMessage.getString_setCustom hp hlen) fun hno => absurd hstream hno

/-- The parsers change neither version nor signature. -/
theorem Current.fields {p q : Parsing} (h : Current p.message) {i : ℕ} {strs : List (List Byte)}
    (hq : p.fields i strs = some q) : Current q.message := by
  have hheader : ∀ (p : Parsing) (i : ℕ) (str : List Byte), Current p.message →
      Current (p.header i str).message := by
    intro p i str h
    unfold Parsing.header
    split
    all_goals exact ⟨h.version, h.unsigned⟩
  induction strs generalizing p i with
  | nil => exact Option.some.inj hq ▸ h
  | cons str strs ih =>
    obtain ⟨r, hr, hq⟩ := Option.bind_eq_some_iff.mp hq
    refine ih ?_ hq
    unfold Parsing.field at hr
    split at hr
    · split at hr
      · obtain ⟨bytes, -, rfl⟩ := Option.map_eq_some_iff.mp hr
        exact h
      · exact Option.some.inj hr ▸ h
    · exact Option.some.inj hr ▸ hheader p i str h

theorem Current.protocolParse {m' : MyMessage} (h : Current m₀) {s : List Byte} {ok : Bool}
    (hparse : protocolParse m₀ s = some (ok, m')) : Current m' := by
  obtain ⟨p, hp, hm⟩ := Option.map_eq_some_iff.mp hparse
  have hmessage : Current p.message := Current.fields (p := Parsing.start m₀) h hp
  split at hm
  · obtain ⟨-, rfl⟩ := Prod.mk.inj hm
    exact hmessage
  · split at hm
    · obtain ⟨-, rfl⟩ := Prod.mk.inj hm
      exact hmessage.ofController.write _ _ _
    · obtain ⟨-, rfl⟩ := Prod.mk.inj hm
      exact hmessage.ofController.write _ _ _

end

/-! ### Lines -/

/-- The line of a message without its end. -/
def line (m : MyMessage) : List Byte :=
  (m.header.flatMap fun n : ℕ => itoa n ++ [semicolon]) ++ m.getString

/-- A message whose text does not break its line; a stream carries bytes. -/
structure Sendable (m : MyMessage) : Prop where
  text : m.getCommand ≠ cStream → MyMessage.Fits m.getString ∧ semicolon ∉ m.getString ∧
    newline ∉ m.getString ∧ m.getString.getLast? ≠ some carriageReturn
  stream : m.getCommand = cStream → m.getPayloadType = pCustom ∧ m.getLength.toNat ≤ maxPayload

section

variable {m m₀ : MyMessage}

theorem getString_stream (hp : m.getPayloadType = pCustom) :
    m.getString = m.customBytes.flatMap fun b : Byte => [MyMessage.i2h (b >>> 4), MyMessage.i2h b] :=
  (MyMessage.getString_custom hp).trans MyMessage.getCustomString_eq

/-- The digits of a stream. -/
theorem getString_stream_plain (hp : m.getPayloadType = pCustom) :
    ∀ c ∈ m.getString, c ≠ 0#8 ∧ c ≠ semicolon ∧ c ≠ newline := by
  rw [getString_stream hp]
  intro c hc
  obtain ⟨b, -, hb⟩ := List.mem_flatMap.mp hc
  simp only [List.mem_cons, List.not_mem_nil, or_false] at hb
  rcases hb with rfl | rfl
  · exact i2h_plain _
  · exact i2h_plain _

theorem length_customBytes : m.customBytes.length = m.getLength.toNat := by
  unfold MyMessage.customBytes
  rw [List.length_map, List.length_range]

theorem hexBytes_getString (hp : m.getPayloadType = pCustom) (hlen : m.getLength.toNat ≤ maxPayload) :
    hexBytes maxPayload m.getString = some m.customBytes := by
  rw [getString_stream hp]
  exact hexBytes_flatMap _ (by rwa [length_customBytes])

theorem length_flatMap_le {α : Type} {k : ℕ} {piece : α → List Byte} (as : List α)
    (h : ∀ a ∈ as, (piece a).length ≤ k) : (as.flatMap piece).length ≤ k * as.length := by
  induction as with
  | nil => exact Nat.zero_le _
  | cons a as ih =>
    have ha := h a List.mem_cons_self
    have has := ih fun b hb => h b (List.mem_cons_of_mem _ hb)
    rw [List.flatMap_cons, List.length_append, List.length_cons, Nat.mul_succ]
    omega

theorem Sendable.plain (h : Sendable m) :
    ∀ c ∈ m.getString, c ≠ 0#8 ∧ c ≠ semicolon ∧ c ≠ newline := by
  by_cases hstream : m.getCommand = cStream
  · exact getString_stream_plain (h.stream hstream).1
  · obtain ⟨hfits, hsemicolon, hnewline, -⟩ := h.text hstream
    refine fun c hc => ⟨?_, ?_, ?_⟩
    · rintro rfl
      exact hfits.no_nul hc
    · rintro rfl
      exact hsemicolon hc
    · rintro rfl
      exact hnewline hc

theorem header_lt (m : MyMessage) : ∀ n ∈ m.header, n < 10 ^ 3 := by
  intro n hn
  have hack : m.isAck.toNat ≤ 1 := Bool.toNat_le _
  have hsender := m.sender.isLt
  have hsensor := m.sensor.isLt
  have hcommand := m.getCommand_lt
  have htype := m.type.isLt
  simp only [MyMessage.header, List.mem_cons, List.not_mem_nil, or_false] at hn
  omega

/-- Five numbers of at most three digits, each with a separator. -/
theorem length_header_le {piece : ℕ → List Byte} (hpiece : ∀ n : ℕ, (piece n).length = (itoa n).length + 1)
    (m : MyMessage) : (m.header.flatMap piece).length ≤ 4 * 5 := by
  refine length_flatMap_le m.header fun n hn => ?_
  have hdigits : (decimal n).length ≤ 3 := length_decimal_le (by decide) (header_lt m n hn)
  rw [hpiece, itoa_natCast]
  omega

theorem length_line_le (m : MyMessage) : (line m).length ≤ 82 := by
  have hheader : (m.header.flatMap fun n : ℕ => itoa n ++ [semicolon]).length ≤ 4 * 5 :=
    length_header_le (fun _ => List.length_append) m
  have htext := m.length_getString_le
  unfold line
  rw [List.length_append]
  omega

/-- Whatever a message carries, its line is not cut. -/
theorem protocolFormat_eq (m : MyMessage) : protocolFormat m = line m ++ [newline] := by
  have hlen := length_line_le m
  refine List.take_of_length_le ?_
  change (line m ++ [newline]).length ≤ gatewayMaxSendLength - 1
  rw [List.length_append, List.length_singleton, gatewayMaxSendLength]
  omega

theorem Sendable.line_plain (h : Sendable m) : ∀ c ∈ line m, c ≠ 0#8 ∧ c ≠ newline := by
  intro c hc
  rcases List.mem_append.mp hc with hc | hc
  · obtain ⟨n, -, hc⟩ := List.mem_flatMap.mp hc
    rcases List.mem_append.mp hc with hc | hc
    · have hdigit := isDigit_of_mem_itoa hc
      constructor
      · rintro rfl
        exact absurd hdigit (by decide)
      · rintro rfl
        exact absurd hdigit (by decide)
    · rw [List.mem_singleton.mp hc]
      decide
  · exact ⟨(h.plain c hc).1, (h.plain c hc).2.2⟩

theorem Sendable.tokens_line (h : Sendable m) : tokens [semicolon] 6 (cString (line m)) =
    (m.header.map fun n : ℕ => itoa n) ++ if m.getString = [] then [] else [m.getString] := by
  have hnul : 0#8 ∉ line m := fun hmem => (h.line_plain _ hmem).1 rfl
  have htext : semicolon ∉ m.getString := fun hmem => (h.plain _ hmem).2.1 rfl
  rw [cString_eq_self hnul, ← tokens_text htext]
  exact tokens_fields (by decide) m.header 1 m.getString

theorem cutLine_eq_self {text : List Byte} (hr : text.getLast? ≠ some carriageReturn)
    (hn : newline ∉ text) : cutLine text = text := by
  unfold cutLine
  rw [if_neg]
  rintro (h | h)
  · exact hr h
  · exact hn (List.mem_of_getLast? h)

theorem Sendable.fields_line (h : Sendable m) (m₀ : MyMessage) :
    ∃ p, (Parsing.start m₀).fields 0 (tokens [semicolon] 6 (cString (line m))) = some p ∧
      p.message = copyHeader m₀ m ∧ p.command = m.getCommand ∧
      (m.getCommand = cStream → p.bvalue = m.customBytes) ∧
      (m.getCommand ≠ cStream → p.value.getD [] = m.getString) := by
  have hheader : (Parsing.start m₀).fields 0 (m.header.map fun n : ℕ => itoa n) =
      some ⟨copyHeader m₀ m, m.getCommand, none, []⟩ := by
    rw [fields_eq_headers _ _ (by simp [MyMessage.header]), headers_header]
  rw [h.tokens_line, fields_append, hheader, Option.bind_some]
  by_cases hnil : m.getString = []
  · rw [if_pos hnil]
    refine ⟨_, rfl, rfl, rfl, fun hstream => ?_, fun _ => hnil.symm⟩
    obtain ⟨hp, hlen⟩ := h.stream hstream
    have hhex := hexBytes_getString hp hlen
    rw [hnil, hexBytes] at hhex
    exact Option.some.inj hhex
  · rw [if_neg hnil]
    by_cases hstream : m.getCommand = cStream
    · obtain ⟨hp, hlen⟩ := h.stream hstream
      have hfield : (⟨copyHeader m₀ m, m.getCommand, none, []⟩ : Parsing).field 5 m.getString =
          some ⟨copyHeader m₀ m, m.getCommand, none, m.customBytes⟩ := by
        unfold Parsing.field
        rw [if_pos rfl, if_pos hstream, hexBytes_getString hp hlen]
        rfl
      refine ⟨⟨copyHeader m₀ m, m.getCommand, none, m.customBytes⟩, ?_, rfl, rfl, fun _ => rfl,
        fun hno => absurd hstream hno⟩
      rw [Parsing.fields]
      exact congrArg (Option.bind · _) hfield
    · obtain ⟨-, -, hnewline, hreturn⟩ := h.text hstream
      have hfield : (⟨copyHeader m₀ m, m.getCommand, none, []⟩ : Parsing).field 5 m.getString =
          some ⟨copyHeader m₀ m, m.getCommand, some m.getString, []⟩ := by
        unfold Parsing.field
        rw [if_pos rfl, if_neg hstream, cutLine_eq_self hreturn hnewline]
      refine ⟨⟨copyHeader m₀ m, m.getCommand, some m.getString, []⟩, ?_, rfl, rfl,
        fun hyes => absurd hyes hstream, fun _ => rfl⟩
      rw [Parsing.fields]
      exact congrArg (Option.bind · _) hfield

theorem Sendable.protocolParse_line (h : Sendable m) (h₀ : Current m₀) :
    ∃ m', protocolParse m₀ (line m) = some (true, m') ∧ Echoed m m' := by
  obtain ⟨p, hp, hmessage, hcommand, hbytes, hvalue⟩ := h.fields_line m₀
  have hfive : ¬ (tokens [semicolon] 6 (cString (line m))).length < 5 := by
    rw [h.tokens_line, List.length_append, List.length_map]
    have hheader : m.header.length = 5 := rfl
    omega
  have hparse : protocolParse m₀ (line m) =
      some (if p.command = cStream then (true, (ofController p.message).setCustom p.bvalue)
        else (true, (ofController p.message).setString (p.value.getD []))) := by
    unfold protocolParse
    dsimp only
    rw [hp, Option.map_some, if_neg hfive]
  rw [hparse, hcommand, hmessage]
  by_cases hstream : m.getCommand = cStream
  · rw [if_pos hstream, hbytes hstream]
    obtain ⟨hp, hlen⟩ := h.stream hstream
    exact ⟨_, rfl, echoed_setCustom h₀ hstream hp hlen⟩
  · rw [if_neg hstream, hvalue hstream]
    exact ⟨_, rfl, echoed_setString h₀ (h.text hstream).1⟩

end

/-! ### Topics -/

/-- What the client of the broker hands over for a message: the first `length` bytes of the rest of its
buffer are the text, or the digits of a stream. What stands behind them is left from before. -/
structure Published (m : MyMessage) (payload : List Byte) (length : ℕ) : Prop where
  text : m.getCommand ≠ cStream → MyMessage.Fits m.getString
  stream : m.getCommand = cStream → m.getPayloadType = pCustom ∧ m.getLength.toNat ≤ maxPayload
  take_eq : payload.take length = m.getString
  room : length < payload.length

section

variable {m m₀ : MyMessage} {topic payload : List Byte} {length : ℕ}

theorem protocolFormatMQTTTopic_eq (hroom : topic.length ≤ 99) (m : MyMessage) :
    protocolFormatMQTTTopic topic m = topic ++ m.header.flatMap fun n : ℕ => slash :: itoa n := by
  have hheader : (m.header.flatMap fun n : ℕ => slash :: itoa n).length ≤ 4 * 5 :=
    length_header_le (fun _ => List.length_cons) m
  have hmax : gatewayMaxSendLength = 120 := rfl
  unfold protocolFormatMQTTTopic
  refine List.take_of_length_le ?_
  rw [List.length_append]
  omega

theorem nul_not_mem_topic (hnul : 0#8 ∉ topic) (m : MyMessage) :
    0#8 ∉ topic ++ m.header.flatMap fun n : ℕ => slash :: itoa n := by
  intro hmem
  rcases List.mem_append.mp hmem with hmem | hmem
  · exact hnul hmem
  · obtain ⟨n, -, hn⟩ := List.mem_flatMap.mp hmem
    rcases List.mem_cons.mp hn with hn | hn
    · exact absurd hn (by decide)
    · exact nul_not_mem_itoa n hn

theorem tokens_header (topic : List Byte) (m : MyMessage) :
    tokens [slash] 6 ((topic ++ m.header.flatMap fun n : ℕ => slash :: itoa n).drop (topic.length + 1)) =
      m.header.map fun n : ℕ => itoa n := by
  have htokens : tokens [slash] 6 (m.header.flatMap fun n : ℕ => slash :: itoa n) =
      m.header.map fun n : ℕ => itoa n := tokens_topic (by decide) m.header 1
  rw [List.drop_length_add_append, ← htokens, MyMessage.header, List.flatMap_cons, List.cons_append,
    List.drop_succ_cons, List.drop_zero, tokens_separator]

/-- The digits come in pairs, and not more of them than there is room for. -/
theorem length_of_hexBytes {room : ℕ} {str bytes : List Byte} (h : hexBytes room str = some bytes) :
    str.length = 2 * bytes.length ∧ bytes.length ≤ room := by
  induction room, str using hexBytes.induct generalizing bytes with
  | case1 room =>
    rw [hexBytes] at h
    obtain rfl := Option.some.inj h
    exact ⟨rfl, Nat.zero_le _⟩
  | case2 str hstr =>
    rw [hexBytes] at h
    · cases h
    · exact hstr
  | case3 room c hroom =>
    rw [hexBytes] at h
    · cases h
    · exact hroom
  | case4 room a b str ih =>
    rw [hexBytes] at h
    obtain ⟨rest, hrest, rfl⟩ := Option.map_eq_some_iff.mp h
    obtain ⟨hlen, hle⟩ := ih hrest
    simp only [List.length_cons]
    omega

theorem Published.length_getString (h : Published m payload length) : m.getString.length = length := by
  have hroom := h.room
  rw [← h.take_eq, List.length_take]
  omega

theorem length_getString_setCustom {bytes : List Byte} (h : bytes.length ≤ maxPayload) :
    (m.setCustom bytes).getString.length = 2 * bytes.length := by
  have hp : (m.setCustom bytes).getPayloadType = pCustom := MyMessage.getPayloadType_write (by decide) _ _
  rw [getString_stream hp, MyMessage.customBytes_setCustom h]
  simp [List.length_flatMap, Nat.mul_comm]

/-- The digits are read up to the first zero byte of the buffer. -/
theorem Published.cString_eq_iff (h : Published m payload length) (hstream : m.getCommand = cStream) :
    cString payload = m.getString ↔ payload[length]? = some 0#8 := by
  have hlen := h.length_getString
  have hroom := h.room
  constructor
  · intro heq
    rcases eq_cString_append payload with hall | ⟨rest, hrest⟩
    · rw [heq] at hall
      rw [hall] at hroom
      omega
    · rw [heq] at hrest
      rw [hrest, ← hlen, List.getElem?_append_right le_rfl, Nat.sub_self]
      rfl
  · intro hzero
    have hnul : 0#8 ∉ m.getString := fun hmem => (getString_stream_plain (h.stream hstream).1 _ hmem).1 rfl
    obtain ⟨hlt, hget⟩ := List.getElem?_eq_some_iff.mp hzero
    have hsplit : payload = m.getString ++ 0#8 :: payload.drop (length + 1) := by
      rw [← h.take_eq, ← hget, ← List.drop_eq_getElem_cons hlt, List.take_append_drop]
    rw [hsplit]
    exact cString_terminated hnul _

/-- A message comes back from the broker, whatever has been in the message buffer. The digits of a stream
are read on into the rest of the client's buffer, and so a stream comes back only where a zero byte stands
behind them. -/
theorem protocolMQTTParse_topic_iff (hnul : 0#8 ∉ topic) (hroom : topic.length ≤ 99) (h₀ : Current m₀)
    (h : Published m payload length) :
    (∃ m', protocolMQTTParse topic m₀ (protocolFormatMQTTTopic topic m) payload length = some (true, m') ∧
      Echoed m m') ↔ (m.getCommand = cStream → payload[length]? = some 0#8) := by
  have hstart : topic.isPrefixOf (topic ++ m.header.flatMap fun n : ℕ => slash :: itoa n) = true :=
    List.isPrefixOf_iff_prefix.mpr (List.prefix_append _ _)
  have hfive : ¬ (m.header.map fun n : ℕ => itoa n).length ≠ 5 := by
    rw [List.length_map]
    exact not_not.mpr rfl
  unfold protocolMQTTParse
  rw [protocolFormatMQTTTopic_eq hroom, cString_eq_self (nul_not_mem_topic hnul m), if_pos hstart]
  dsimp only
  rw [tokens_header, if_neg hfive, headers_header]
  dsimp only
  by_cases hstream : m.getCommand = cStream
  · obtain ⟨hp, hlen⟩ := h.stream hstream
    rw [if_pos hstream, imp_iff_right hstream, ← h.cString_eq_iff hstream]
    constructor
    · rintro ⟨m', hparse, hecho⟩
      obtain ⟨bytes, hbytes, heq⟩ := Option.map_eq_some_iff.mp hparse
      obtain ⟨-, rfl⟩ := Prod.mk.inj heq
      obtain ⟨hpairs, hle⟩ := length_of_hexBytes hbytes
      have hdigits := length_getString_setCustom (m := ofController (copyHeader m₀ m)) hle
      rw [hecho.text, ← hpairs] at hdigits
      rw [h.length_getString] at hdigits
      rw [← h.take_eq, hdigits]
      exact List.prefix_iff_eq_take.mp (List.takeWhile_prefix _)
    · intro hpayload
      rw [hpayload, hexBytes_getString hp hlen]
      exact ⟨_, rfl, echoed_setCustom h₀ hstream hp hlen⟩
  · rw [if_neg hstream, h.take_eq]
    exact iff_of_true ⟨_, rfl, echoed_setString h₀ (h.text hstream)⟩ fun hno => absurd hno hstream

end

/-- The command that switches on a sensor of node 2, as its echo would be sent. -/
def switchOn : MyMessage :=
  ({ MyMessage.new 1#8 vStatus with sender := 2#8 }.setCommand cSet).setString (ascii "1")

/-- Two bytes of a stream of the same node. -/
def streamBlock : MyMessage :=
  ({ MyMessage.new 255#8 3#8 with sender := 2#8 }.setCommand cStream).setCustom [18#8, 171#8]

theorem sendable_switchOn : Sendable switchOn :=
  ⟨fun _ => ⟨⟨by decide, by decide⟩, by decide, by decide, by decide⟩, fun h => absurd h (by decide)⟩

theorem sendable_streamBlock : Sendable streamBlock :=
  ⟨fun h => absurd (by decide) h, fun _ => ⟨by decide, by decide⟩⟩

/-- Behind the text there is a rest of an older message; the digits of a stream do not bear that. -/
theorem protocolMQTTParse_topic_switchOn :
    (∃ m', protocolMQTTParse (ascii "mygateway1-in") .clear
      (protocolFormatMQTTTopic (ascii "mygateway1-in") switchOn) (ascii "12AB") 1 = some (true, m') ∧
      Echoed switchOn m') ∧
    ¬ ∃ m', protocolMQTTParse (ascii "mygateway1-in") .clear
      (protocolFormatMQTTTopic (ascii "mygateway1-in") streamBlock) (ascii "12ABCD") 4 = some (true, m') ∧
      Echoed streamBlock m' := by
  have htext : Published switchOn (ascii "12AB") 1 :=
    ⟨fun _ => ⟨by decide, by decide⟩, fun h => absurd h (by decide), by decide, by decide⟩
  have hstream : Published streamBlock (ascii "12ABCD") 4 :=
    ⟨fun h => absurd (by decide) h, fun _ => ⟨by decide, by decide⟩, by decide, by decide⟩
  constructor
  · exact (protocolMQTTParse_topic_iff (by decide) (by decide) ⟨by decide, by decide⟩ htext).mpr
      fun h => absurd h (by decide)
  · exact fun h => absurd
      ((protocolMQTTParse_topic_iff (by decide) (by decide) ⟨by decide, by decide⟩ hstream).mp h)
      (by decide)

end MySensors
