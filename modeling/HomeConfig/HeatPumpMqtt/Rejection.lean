import HomeConfig.HeatPumpMqtt.Settings

/-! Payloads with values of the wrong type. -/
namespace HeatPumpMqtt

open Arduino

/-- A string setter called with the null pointer. -/
def Call.passesNull : Call → Bool
  | setPowerSetting s | setModeSetting s | setFanSpeed s | setVaneSetting s
  | setWideVaneSetting s => s.isNone
  | _ => false

/-- One of the seven setters, `update` or `sendCustomPacket`. -/
def Call.onHeatPump : Call → Bool
  | publish _ _ | strcatLiteral _ _ => false
  | _ => true

/-- A key that the handler reads holds a value of another type. -/
def IllTyped (doc : Json) : Prop :=
  ∃ (k : Key) (v : Json), (k.name, v) ∈ doc.members ∧ k.accepts v = false

/-- No null pointer is passed, and an ill-typed payload does nothing to the heat pump. -/
structure Rejects (lib : JsonLibrary) (payload : List Byte) (calls : List Call) : Prop where
  noNull : ∀ c ∈ calls, c.passesNull = false
  noEffect : ∀ doc, lib.parse (cString payload) = some doc → IllTyped doc →
    ∀ c ∈ calls, c.onHeatPump = false

variable {lib : JsonLibrary} {results : Results} {debugMode : Bool} {payload : List Byte}
variable {root : Json} {k : Key} {v : Json} {c : Call}

theorem Key.onHeatPump_call : (k.call lib v).onHeatPump := by cases k <;> rfl

/-- Only a key with a value of the wrong type passes a null pointer. -/
theorem Key.passesNull_call (h : (k.call lib v).passesNull) : k.accepts v = false := by
  have hnull : v.asCharPtr.isNone → v.isString = false := by
    intro hv
    rw [← Json.isSome_asCharPtr, Option.isSome_eq_false_iff]
    exact hv
  cases k
  case temperature | remoteTemp | custom => cases h
  all_goals exact hnull h

/-- Every accepted document ends in a call on the heat pump. -/
theorem exists_onHeatPump_finish : ∃ c ∈ finish lib results debugMode root, c.onHeatPump := by
  cases hr : root.member Key.remoteTemp.name with
  | some v => exact ⟨_, remoteTemp_mem_finish hr, Key.onHeatPump_call⟩
  | none =>
    cases hc : root.member Key.custom.name with
    | some v => exact ⟨_, custom_mem_finish hr hc, Key.onHeatPump_call⟩
    | none => exact ⟨_, update_mem_finish hr hc, rfl⟩

theorem illTyped_of_passesNull
    (hc : c ∈ retrieveSettings lib root ++ finish lib results debugMode root)
    (h : c.passesNull) : IllTyped root := by
  have hkey : ∃ (k : Key) (v : Json), root.member k.name = some v ∧ c = k.call lib v := by
    rcases List.mem_append.mp hc with hc | hc
    · obtain ⟨k, -, v, hv, heq⟩ := mem_retrieveSettings.mp hc
      exact ⟨k, v, hv, heq⟩
    · rcases mem_finish hc with ⟨v, hv, heq⟩ | ⟨-, v, hv, heq⟩ | ⟨-, -, heq⟩ | ⟨message, heq⟩
      · exact ⟨_, v, hv, heq⟩
      · exact ⟨_, v, hv, heq⟩
      · simp [heq, Call.passesNull] at h
      · simp [heq, Call.passesNull] at h
  obtain ⟨k, v, hv, rfl⟩ := hkey
  exact ⟨k, v, Json.mem_members_of_member hv, Key.passesNull_call h⟩

/-- Ill-typed payloads are rejected exactly when they do not make a document at all. -/
theorem rejects_iff_documents_wellTyped :
    Rejects lib payload (mqttCallback lib results debugMode heatpumpSetTopic payload).2 ↔
      ∀ doc, lib.deserializeJson 6 (cString payload) = some doc → ¬ IllTyped doc := by
  cases hdoc : lib.deserializeJson 6 (cString payload) with
  | none =>
    rw [calls_of_error hdoc]
    refine iff_of_true ⟨?_, ?_⟩ (by simp)
    · intro c hc
      obtain rfl := List.mem_singleton.mp hc
      rfl
    · intro doc _ _ c hc
      obtain rfl := List.mem_singleton.mp hc
      rfl
  | some root =>
    rw [calls_of_document hdoc]
    obtain ⟨hparse, -⟩ := JsonLibrary.deserializeJson_eq_some.mp hdoc
    constructor
    · rintro ⟨-, hnone⟩ doc hroot hill
      obtain rfl := Option.some.inj hroot
      have hacts : ∃ c ∈ finish lib results debugMode root, c.onHeatPump :=
        exists_onHeatPump_finish
      obtain ⟨c, hc, hon⟩ := hacts
      simp [hnone root hparse hill c (List.mem_append_right _ hc)] at hon
    · intro hwell
      have hwell := hwell root rfl
      constructor
      · intro c hc
        by_contra hnull
        exact hwell (illTyped_of_passesNull hc (by simpa using hnull))
      · intro doc hroot hill
        rw [hparse] at hroot
        obtain rfl := Option.some.inj hroot
        exact (hwell hill).elim

/-- `{"power":1}` -/
def powerOne : Json := .object [(ascii "power", .number 1)]

def powerOneText : List Byte := ascii "\x7b\"power\":1\x7d"

theorem power_set_to_null :
    ¬ ∀ (lib : JsonLibrary) (results : Results) (debugMode : Bool) (payload : List Byte),
      Rejects lib payload (mqttCallback lib results debugMode heatpumpSetTopic payload).2 := by
  intro h
  let lib := libraryOf powerOneText powerOne
  have hparse : lib.parse (cString powerOneText) = some powerOne := libraryOf_parse (by decide)
  have hnull := (h lib ⟨true, true⟩ false powerOneText).noNull (.setPowerSetting none)
  have hdoc := JsonLibrary.deserializeJson_eq_some.mpr
    ⟨hparse, (by decide : powerOne.slots ≤ 6)⟩
  rw [calls_of_document hdoc] at hnull
  refine Bool.noConfusion (hnull (List.mem_append_left _ ?_))
  exact mem_retrieveSettings.mpr ⟨.power, rfl, .number 1, rfl, rfl⟩

end HeatPumpMqtt
