import HomeConfig.Arduino.Json

/-! The MQTT side of the heat pump controller: what a received message makes it do. -/
namespace HeatPumpMqtt

open Arduino

/-- The calls on the heat pump and on the MQTT client. A `const char *` may be null. -/
inductive Call where
  | setPowerSetting (setting : Option (List Byte))
  | setModeSetting (setting : Option (List Byte))
  | setTemperature (setting : Single)
  | setFanSpeed (setting : Option (List Byte))
  | setVaneSetting (setting : Option (List Byte))
  | setWideVaneSetting (setting : Option (List Byte))
  | setRemoteTemperature (setting : Single)
  | sendCustomPacket (data : List Byte)
  | update
  | publish (topic message : List Byte)
  -- `strcat` appends to a string literal, which has no room: undefined
  | strcatLiteral (literal s : List Byte)
deriving DecidableEq

/-- The results that the handler looks at. -/
structure Results where
  update : Bool
  publish : Bool

def heatpumpSetTopic : List Byte := ascii "heatpump/set"
def heatpumpDebugTopic : List Byte := ascii "heatpump/debug"
def heatpumpDebugSetTopic : List Byte := ascii "heatpump/debug/set"

/-- The keys that the handler reads. -/
inductive Key where
  | power
  | mode
  | temperature
  | fan
  | vane
  | wideVane
  | remoteTemp
  | custom
deriving DecidableEq, Repr

def Key.name : Key → List Byte
  | power => ascii "power"
  | mode => ascii "mode"
  | temperature => ascii "temperature"
  | fan => ascii "fan"
  | vane => ascii "vane"
  | wideVane => ascii "wideVane"
  | remoteTemp => ascii "remoteTemp"
  | custom => ascii "custom"

/-- The loop over the words of a custom packet, with `room` bytes left. -/
def packetBytes : (room : ℕ) → (nextByte : Option (List Byte × List Byte)) → List Byte
  | 0, _ => []
  | _, none => []
  | room + 1, some (token, rest) =>
    BitVec.ofInt 8 (strtol token 16) :: packetBytes room (strtok (ascii "   ") rest)

def customBytes (custom : List Byte) : List Byte :=
  packetBytes 20 (strtok (ascii " ") (cString custom))

/-- `String(value, HEX)`. -/
def hex (b : Byte) : List Byte := (Nat.toDigits 16 b.toNat).map charByte

variable (lib : JsonLibrary) (results : Results)

def hpPacketDebug (debugMode : Bool) (packet packetDirection : List Byte) : List Call :=
  if debugMode then
    let message := packet.flatMap fun b => (if b < 16#8 then ascii "0" else []) ++ hex b ++ ascii " "
    let buffer := (lib.serialize (.object [(packetDirection, .string message)])).take 511
    .publish heatpumpDebugTopic buffer ::
      if results.publish then []
      else [.publish heatpumpDebugTopic (ascii "failed to publish to heatpump/debug topic")]
  else []

/-- The call that the value of a key ends up in. -/
def Key.call (k : Key) (value : Json) : Call :=
  match k with
  | power => .setPowerSetting value.asCharPtr
  | mode => .setModeSetting value.asCharPtr
  | temperature => .setTemperature (lib.asFloat value)
  | fan => .setFanSpeed value.asCharPtr
  | vane => .setVaneSetting value.asCharPtr
  | wideVane => .setWideVaneSetting value.asCharPtr
  | remoteTemp => .setRemoteTemperature (lib.asFloat value)
  | custom => .sendCustomPacket (customBytes (lib.asString value))

def retrieve (root : Json) (k : Key) : List Call :=
  if root.containsKey k.name then [k.call lib (root.get k.name)] else []

/-- The six settings that wait for `update`. -/
def retrieveSettings (root : Json) : List Call :=
  retrieve lib root .power ++ retrieve lib root .mode ++ retrieve lib root .temperature ++
    retrieve lib root .fan ++ retrieve lib root .vane ++ retrieve lib root .wideVane

/-- The branch after them. -/
def finish (debugMode : Bool) (root : Json) : List Call :=
  if root.containsKey Key.remoteTemp.name then retrieve lib root .remoteTemp
  else if root.containsKey Key.custom.name then
    hpPacketDebug lib results debugMode
        (customBytes (lib.asString (root.get Key.custom.name))) (ascii "customPacket") ++
      retrieve lib root .custom
  else
    .update ::
      if results.update then []
      else [.publish heatpumpDebugTopic (ascii "heatpump: update() failed")]

def onSetTopic (debugMode : Bool) (message : List Byte) : List Call :=
  match lib.deserializeJson 6 (cString message) with
  | none =>
    [.publish heatpumpDebugTopic
      (ascii "!root.success(): invalid JSON on heatpump_set_topic...")]
  | some root => retrieveSettings lib root ++ finish lib results debugMode root

/-- The new `_debugMode` and the calls made. -/
def mqttCallback (debugMode : Bool) (topic payload : List Byte) : Bool × List Call :=
  let message := payload ++ [0#8]
  if cString topic = heatpumpSetTopic then (debugMode, onSetTopic lib results debugMode message)
  else if cString topic = heatpumpDebugSetTopic then
    if cString message = ascii "on" then
      (true, [.publish heatpumpDebugTopic (ascii "debug mode enabled")])
    else if cString message = ascii "off" then
      (false, [.publish heatpumpDebugTopic (ascii "debug mode disabled")])
    else (debugMode, [])
  else (debugMode, [.strcatLiteral (ascii "heatpump: wrong mqtt topic: ") topic])

/-! ### What the handler of the set topic does -/

/-- The settings that only reach the unit with the next `update`. -/
def Key.awaitsUpdate : Key → Bool
  | remoteTemp | custom => false
  | _ => true

variable {lib results} {debugMode : Bool} {root : Json} {k l : Key} {v w : Json} {c : Call}
variable {payload : List Byte}

theorem Key.name_injective (h : k.name = l.name) : k = l := by
  revert h
  cases k <;> cases l <;> decide

theorem Key.call_ne_update : k.call lib v ≠ .update := by cases k <;> simp [call]

theorem mem_retrieve :
    c ∈ retrieve lib root k ↔ ∃ v, root.member k.name = some v ∧ c = k.call lib v := by
  unfold retrieve Json.containsKey Json.get
  cases h : root.member k.name with
  | none => simp
  | some v => simp

theorem mem_retrieveSettings :
    c ∈ retrieveSettings lib root ↔
      ∃ k : Key, k.awaitsUpdate ∧ ∃ v, root.member k.name = some v ∧ c = k.call lib v := by
  simp only [retrieveSettings, List.mem_append, mem_retrieve]
  constructor
  · rintro (((((h | h) | h) | h) | h) | h)
    exacts [⟨_, rfl, h⟩, ⟨_, rfl, h⟩, ⟨_, rfl, h⟩, ⟨_, rfl, h⟩, ⟨_, rfl, h⟩, ⟨_, rfl, h⟩]
  · rintro ⟨k, hk, h⟩
    cases k <;> simp_all [Key.awaitsUpdate]

theorem update_not_mem_retrieveSettings : .update ∉ retrieveSettings lib root := by
  intro h
  obtain ⟨k, -, v, -, hc⟩ := mem_retrieveSettings.mp h
  exact Key.call_ne_update hc.symm

theorem length_packetBytes_le (room : ℕ) (nextByte : Option (List Byte × List Byte)) :
    (packetBytes room nextByte).length ≤ room := by
  induction room generalizing nextByte with
  | zero => exact le_rfl
  | succ room ih =>
    cases nextByte with
    | none => exact Nat.zero_le _
    | some p => exact Nat.succ_le_succ (ih _)

/-- The array `bytes` is not overrun. -/
theorem length_customBytes_le (custom : List Byte) : (customBytes custom).length ≤ 20 :=
  length_packetBytes_le 20 _

theorem eq_publish_of_mem_hpPacketDebug {packet packetDirection : List Byte}
    (h : c ∈ hpPacketDebug lib results debugMode packet packetDirection) :
    ∃ message, c = .publish heatpumpDebugTopic message := by
  unfold hpPacketDebug at h
  split at h
  · rcases List.mem_cons.mp h with rfl | h
    · exact ⟨_, rfl⟩
    · split at h
      · cases h
      · exact ⟨_, List.mem_singleton.mp h⟩
  · cases h

theorem remoteTemp_mem_finish (h : root.member Key.remoteTemp.name = some v) :
    Key.remoteTemp.call lib v ∈ finish lib results debugMode root := by
  simp only [finish, Json.containsKey, h, Option.isSome_some, if_true]
  exact mem_retrieve.mpr ⟨v, h, rfl⟩

theorem custom_mem_finish (hr : root.member Key.remoteTemp.name = none)
    (h : root.member Key.custom.name = some v) :
    Key.custom.call lib v ∈ finish lib results debugMode root := by
  simp only [finish, Json.containsKey, hr, h, Option.isSome_none, Option.isSome_some,
    Bool.false_eq_true, if_false, if_true]
  exact List.mem_append_right _ (mem_retrieve.mpr ⟨v, h, rfl⟩)

theorem update_mem_finish (hr : root.member Key.remoteTemp.name = none)
    (hc : root.member Key.custom.name = none) :
    .update ∈ finish lib results debugMode root := by
  simp [finish, Json.containsKey, hr, hc]

/-- What the last branch does: one call on the heat pump, and messages. -/
theorem mem_finish (h : c ∈ finish lib results debugMode root) :
    (∃ v, root.member Key.remoteTemp.name = some v ∧ c = Key.remoteTemp.call lib v) ∨
    (root.member Key.remoteTemp.name = none ∧
      ∃ v, root.member Key.custom.name = some v ∧ c = Key.custom.call lib v) ∨
    (root.member Key.remoteTemp.name = none ∧ root.member Key.custom.name = none ∧
      c = .update) ∨
    ∃ message, c = .publish heatpumpDebugTopic message := by
  unfold finish Json.containsKey at h
  cases hr : root.member Key.remoteTemp.name with
  | some v =>
    simp only [hr, Option.isSome_some, if_true, mem_retrieve] at h
    exact .inl (by simpa using h)
  | none =>
    cases hc : root.member Key.custom.name with
    | some v =>
      simp only [hr, hc, Option.isSome_none, Option.isSome_some, Bool.false_eq_true, if_true,
        if_false, List.mem_append, mem_retrieve] at h
      rcases h with h | h
      · exact .inr (.inr (.inr (eq_publish_of_mem_hpPacketDebug h)))
      · exact .inr (.inl ⟨rfl, by simpa using h⟩)
    | none =>
      simp only [hr, hc, Option.isSome_none, Bool.false_eq_true, if_false, List.mem_cons] at h
      rcases h with rfl | h
      · exact .inr (.inr (.inl ⟨rfl, rfl, rfl⟩))
      · split at h
        · cases h
        · exact .inr (.inr (.inr ⟨_, List.mem_singleton.mp h⟩))

end HeatPumpMqtt
