import HomeConfig.HeatPumpMqtt.Settings

/-! Custom packets: the text that stands for one, and what the handler makes of a text. -/
namespace HeatPumpMqtt

open Arduino

/-- The text that `hpPacketDebug` builds for a packet. -/
def packetText (packet : List Byte) : List Byte :=
  packet.flatMap fun b => (if b < 16#8 then ascii "0" else []) ++ hex b ++ ascii " "

/-- The packets handed to the heat pump. -/
def packets (calls : List Call) : List (List Byte) :=
  calls.filterMap fun
    | .sendCustomPacket data => some data
    | _ => none

/-- A text of the grammar is sent once as its values, any other text not at all, and
never more than the array holds. -/
structure SentByGrammar (text : List Byte) (calls : List Call) : Prop where
  accepted : ∀ values, PacketGrammar text values → packets calls = [values]
  rejected : (¬ ∃ values, PacketGrammar text values) → packets calls = []
  length_le : (customBytes text).length ≤ 20

variable {lib : JsonLibrary} {results : Results} {debugMode : Bool} {payload : List Byte}
variable {root v : Json} {text values : List Byte}

/-! ### The packets sent -/

theorem packets_eq_nil {calls : List Call} (h : ∀ c ∈ calls, ∀ data, c ≠ .sendCustomPacket data) :
    packets calls = [] := by
  apply List.filterMap_eq_nil_iff.mpr
  intro c hc
  cases c with
  | sendCustomPacket data => exact (h _ hc data rfl).elim
  | _ => rfl

theorem packets_append (calls more : List Call) :
    packets (calls ++ more) = packets calls ++ packets more := List.filterMap_append

theorem packets_retrieveSettings : packets (retrieveSettings lib root) = [] := by
  apply packets_eq_nil
  rintro c hc data rfl
  obtain ⟨k, hk, v, -, hcall⟩ := mem_retrieveSettings.mp hc
  cases k with
  | remoteTemp | custom => cases hk
  | _ => cases hcall

theorem packets_hpPacketDebug {packet packetDirection : List Byte} :
    packets (hpPacketDebug lib results debugMode packet packetDirection) = [] := by
  apply packets_eq_nil
  rintro c hc data rfl
  obtain ⟨message, h⟩ := eq_publish_of_mem_hpPacketDebug hc
  cases h

/-- Whatever the text is, one packet is sent: the bytes that the loop read. -/
theorem packets_of_custom (h : lib.deserializeJson 6 (cString payload) = some root)
    (hr : root.member Key.remoteTemp.name = none)
    (hv : root.member Key.custom.name = some v) :
    packets (mqttCallback lib results debugMode heatpumpSetTopic payload).2 =
      [customBytes (lib.asString v)] := by
  have hfinish : finish lib results debugMode root =
      hpPacketDebug lib results debugMode (customBytes (lib.asString v)) (ascii "customPacket") ++
        [.sendCustomPacket (customBytes (lib.asString v))] := by
    simp [finish, retrieve, Json.containsKey, Json.get, hr, hv, Key.call]
  rw [calls_of_document h, hfinish, packets_append, packets_append, packets_retrieveSettings,
    packets_hpPacketDebug]
  rfl

/-! ### The round trip -/

theorem padded_hex (b : Byte) :
    (if b < 16#8 then ascii "0" else []) ++ hex b =
      [charByte (b.toNat / 16).digitChar, charByte (b.toNat % 16).digitChar] := by
  revert b
  decide +kernel

theorem digitValue_digitChar {n : ℕ} (hn : n < 16) : digitValue (charByte n.digitChar) = some n := by
  revert n
  decide

theorem hexWord_hex (b : Byte) : HexWord ((if b < 16#8 then ascii "0" else []) ++ hex b) b := by
  have hb := b.isLt
  have hhigh : b.toNat / 16 < 16 := by omega
  have hlow : b.toNat % 16 < 16 := by omega
  have hvalue : BitVec.ofNat 8 (16 * (b.toNat / 16) + b.toNat % 16) = b := by
    rw [Nat.div_add_mod, BitVec.ofNat_toNat, BitVec.setWidth_eq]
  rw [padded_hex]
  have hw := HexWord.two (digitValue_digitChar hhigh) hhigh (digitValue_digitChar hlow) hlow
  rwa [hvalue] at hw

theorem hexWords_packetText (packet : List Byte) : HexWords (packetText packet) packet := by
  induction packet with
  | nil => exact .nil
  | cons b packet ih =>
    have hsep : ascii " " = [separator] := by decide
    have htext : packetText (b :: packet) =
        ((if b < 16#8 then ascii "0" else []) ++ hex b) ++ separator :: packetText packet := by
      simp [packetText, hsep]
    rw [htext]
    exact .word (hexWord_hex b) (.inr rfl) (.space ih)

/-- The text that shows a packet in the debug messages is parsed back to that packet, and
that packet is sent. -/
theorem packet_round_trip {packet packetDirection : List Byte} (hlen : packet.length ≤ 20)
    (h : lib.deserializeJson 6 (cString payload) = some root)
    (hr : root.member Key.remoteTemp.name = none)
    (hv : root.member Key.custom.name = some (.string (packetText packet))) :
    (hpPacketDebug lib results true packet packetDirection).head? =
        some (.publish heatpumpDebugTopic
          ((lib.serialize (.object [(packetDirection, .string (packetText packet))])).take 511)) ∧
      customBytes (packetText packet) = packet ∧
      packets (mqttCallback lib results debugMode heatpumpSetTopic payload).2 = [packet] := by
  have hbytes : customBytes (packetText packet) = packet := by
    rw [customBytes_of_hexWords (hexWords_packetText packet), List.take_of_length_le hlen]
  refine ⟨rfl, hbytes, ?_⟩
  rw [packets_of_custom h hr hv]
  exact congrArg (fun p => [p]) hbytes

/-- `{"custom":"fc 05 "}` -/
def shortPacket : List (List Byte × Json) := [(ascii "custom", .string (ascii "fc 05 "))]

def shortPacketText : List Byte := ascii "\x7b\"custom\":\"fc 05 \"\x7d"

theorem deserializeJson_shortPacket :
    (libraryOf shortPacketText (.object shortPacket)).deserializeJson 6 (cString shortPacketText) =
      some (.object shortPacket) :=
  JsonLibrary.deserializeJson_eq_some.mpr ⟨libraryOf_parse (by decide), by decide⟩

theorem packet_round_trip_short :
    (hpPacketDebug (libraryOf shortPacketText (.object shortPacket)) ⟨true, true⟩ true
        [0xfc#8, 0x05#8] (ascii "customPacket")).head? =
        some (.publish heatpumpDebugTopic
          (((libraryOf shortPacketText (.object shortPacket)).serialize
            (.object [(ascii "customPacket", .string (packetText [0xfc#8, 0x05#8]))])).take 511)) ∧
      customBytes (packetText [0xfc#8, 0x05#8]) = [0xfc#8, 0x05#8] ∧
      packets (mqttCallback (libraryOf shortPacketText (.object shortPacket)) ⟨true, true⟩ false
        heatpumpSetTopic shortPacketText).2 = [[0xfc#8, 0x05#8]] := by
  have htext : packetText [0xfc#8, 0x05#8] = ascii "fc 05 " := by decide +kernel
  apply packet_round_trip (by decide) deserializeJson_shortPacket
  · rfl
  · rw [htext]
    rfl

/-! ### The grammar -/

/-- The parser keeps to the grammar on its texts and on no other: something is always sent. -/
theorem sentByGrammar_iff (h : lib.deserializeJson 6 (cString payload) = some root)
    (hr : root.member Key.remoteTemp.name = none)
    (hv : root.member Key.custom.name = some (.string text)) :
    SentByGrammar text (mqttCallback lib results debugMode heatpumpSetTopic payload).2 ↔
      ∃ values, PacketGrammar text values := by
  have hsent : packets (mqttCallback lib results debugMode heatpumpSetTopic payload).2 =
      [customBytes text] := packets_of_custom h hr hv
  constructor
  · intro hgrammar
    by_contra hno
    rw [hgrammar.rejected hno] at hsent
    cases hsent
  · intro hsome
    constructor
    · intro values hvalues
      rw [hsent, customBytes_of_grammar hvalues]
    · intro hno
      exact (hno hsome).elim
    · exact length_customBytes_le text

theorem sentByGrammar_short :
    SentByGrammar (ascii "fc 05 ") (mqttCallback (libraryOf shortPacketText (.object shortPacket))
        ⟨true, true⟩ false heatpumpSetTopic shortPacketText).2 ↔
      ∃ values, PacketGrammar (ascii "fc 05 ") values :=
  sentByGrammar_iff deserializeJson_shortPacket rfl rfl

/-- `{"custom":"zz"}` -/
def notHex : List (List Byte × Json) := [(ascii "custom", .string (ascii "zz"))]

def notHexText : List Byte := ascii "\x7b\"custom\":\"zz\"\x7d"

theorem zz_sent_as_zero :
    ¬ ∀ (lib : JsonLibrary) (results : Results) (debugMode : Bool) (payload : List Byte)
      (root : Json) (text : List Byte),
      lib.deserializeJson 6 (cString payload) = some root →
      root.member Key.remoteTemp.name = none →
      root.member Key.custom.name = some (.string text) →
      SentByGrammar text (mqttCallback lib results debugMode heatpumpSetTopic payload).2 := by
  intro h
  have hdoc : (libraryOf notHexText (.object notHex)).deserializeJson 6 (cString notHexText) =
      some (.object notHex) :=
    JsonLibrary.deserializeJson_eq_some.mpr ⟨libraryOf_parse (by decide), by decide⟩
  have hgrammar := h _ ⟨true, true⟩ false _ _ (ascii "zz") hdoc rfl rfl
  have hsent : packets (mqttCallback _ ⟨true, true⟩ false heatpumpSetTopic notHexText).2 =
      [customBytes (ascii "zz")] := packets_of_custom hdoc rfl rfl
  have hno : ¬ ∃ values, PacketGrammar (ascii "zz") values := by
    rintro ⟨values, hwords, -⟩
    rcases hwords.hex_of_mem (charByte 'z') (by decide) with hz | ⟨m, hm, hz⟩
    · revert hz
      decide
    · cases (by decide : digitValue (charByte 'z') = some 35).symm.trans hz
      omega
  rw [hgrammar.rejected hno] at hsent
  cases hsent

end HeatPumpMqtt
