import HomeConfig.HeatPumpMqtt.Words

/-! Payloads that carry settings: which of them are handed to the heat pump and pushed. -/
namespace HeatPumpMqtt

open Arduino

/-- The JSON type that each key asks for. -/
def Key.accepts (k : Key) (value : Json) : Bool :=
  match k with
  | temperature | remoteTemp => value.isNumber
  | power | mode | fan | vane | wideVane | custom => value.isString

/-- Any of the eight keys in any order, each at most once and with a value of its type. -/
structure SettingsObject (members : List (List Byte × Json)) : Prop where
  nodup : (members.map Prod.fst).Nodup
  typed : ∀ m ∈ members,
    m.1 ∈ [ascii "power", ascii "mode", ascii "fan", ascii "vane", ascii "wideVane", ascii "custom"] ∧
      (∃ s, m.2 = .string s) ∨
    m.1 ∈ [ascii "temperature", ascii "remoteTemp"] ∧ ∃ q, m.2 = .number q

/-- The setter of every setting that is present has been called with its value, a number as the library
gives it as a `float`, and an `update` has followed the six that wait for one. A custom packet has been
sent, of the bytes that its text stands for. -/
structure Applied (lib : JsonLibrary) (members : List (List Byte × Json))
    (calls : List Call) : Prop where
  power : ∀ s, (ascii "power", .string s) ∈ members →
    [Call.setPowerSetting (some s), .update].Sublist calls
  mode : ∀ s, (ascii "mode", .string s) ∈ members →
    [Call.setModeSetting (some s), .update].Sublist calls
  temperature : ∀ q, (ascii "temperature", .number q) ∈ members →
    [Call.setTemperature (lib.asFloat (.number q)), .update].Sublist calls
  fan : ∀ s, (ascii "fan", .string s) ∈ members →
    [Call.setFanSpeed (some s), .update].Sublist calls
  vane : ∀ s, (ascii "vane", .string s) ∈ members →
    [Call.setVaneSetting (some s), .update].Sublist calls
  wideVane : ∀ s, (ascii "wideVane", .string s) ∈ members →
    [Call.setWideVaneSetting (some s), .update].Sublist calls
  remoteTemp : ∀ q, (ascii "remoteTemp", .number q) ∈ members →
    .setRemoteTemperature (lib.asFloat (.number q)) ∈ calls
  custom : ∀ s, (ascii "custom", .string s) ∈ members →
    ∃ data, .sendCustomPacket data ∈ calls ∧ ∀ values, PacketGrammar s values → data = values

variable {lib : JsonLibrary} {results : Results} {debugMode : Bool} {payload : List Byte}
variable {members : List (List Byte × Json)} {k l : Key} {v w : Json} {root : Json}

/-! ### The handler on a given document -/

theorem mqttCallback_set :
    (mqttCallback lib results debugMode heatpumpSetTopic payload).2 =
      onSetTopic lib results debugMode (payload ++ [0#8]) := by
  have htopic : cString heatpumpSetTopic = heatpumpSetTopic := by decide
  simp only [mqttCallback, htopic, if_true]

theorem calls_of_error (h : lib.deserializeJson 6 (cString payload) = none) :
    (mqttCallback lib results debugMode heatpumpSetTopic payload).2 =
      [.publish heatpumpDebugTopic
        (ascii "!root.success(): invalid JSON on heatpump_set_topic...")] := by
  rw [mqttCallback_set, onSetTopic, cString_append_nul, h]

theorem calls_of_document (h : lib.deserializeJson 6 (cString payload) = some root) :
    (mqttCallback lib results debugMode heatpumpSetTopic payload).2 =
      retrieveSettings lib root ++ finish lib results debugMode root := by
  rw [mqttCallback_set, onSetTopic, cString_append_nul, h]

theorem update_mem_handled
    (h : .update ∈ retrieveSettings lib root ++ finish lib results debugMode root) :
    root.member Key.remoteTemp.name = none ∧ root.member Key.custom.name = none := by
  rcases List.mem_append.mp h with h | h
  · exact (update_not_mem_retrieveSettings h).elim
  · rcases mem_finish h with ⟨v, -, hc⟩ | ⟨-, v, -, hc⟩ | ⟨hr, hc, -⟩ | ⟨message, hc⟩
    · exact (Key.call_ne_update hc.symm).elim
    · exact (Key.call_ne_update hc.symm).elim
    · exact ⟨hr, hc⟩
    · cases hc

theorem custom_mem_handled {data : List Byte}
    (h : .sendCustomPacket data ∈ retrieveSettings lib root ++ finish lib results debugMode root) :
    root.member Key.remoteTemp.name = none := by
  rcases List.mem_append.mp h with h | h
  · obtain ⟨k, hk, w, -, hc⟩ := mem_retrieveSettings.mp h
    cases k with
    | remoteTemp | custom => cases hk
    | _ => cases hc
  · rcases mem_finish h with ⟨w, -, hc⟩ | ⟨hr, -⟩ | ⟨hr, -⟩ | ⟨message, hc⟩
    · cases hc
    · exact hr
    · exact hr
    · cases hc

/-! ### Settings objects -/

namespace SettingsObject

variable (hm : SettingsObject members)
include hm

theorem known {member : List Byte × Json} (h : member ∈ members) :
    ∃ k : Key, member.1 = k.name ∧ k.accepts member.2 := by
  rcases hm.typed member h with ⟨hname, s, hs⟩ | ⟨hname, q, hq⟩
  · rw [hs]
    simp only [List.mem_cons, List.not_mem_nil, or_false] at hname
    rcases hname with hname | hname | hname | hname | hname | hname
    exacts [⟨.power, hname, rfl⟩, ⟨.mode, hname, rfl⟩, ⟨.fan, hname, rfl⟩, ⟨.vane, hname, rfl⟩,
      ⟨.wideVane, hname, rfl⟩, ⟨.custom, hname, rfl⟩]
  · rw [hq]
    simp only [List.mem_cons, List.not_mem_nil, or_false] at hname
    rcases hname with hname | hname
    exacts [⟨.temperature, hname, rfl⟩, ⟨.remoteTemp, hname, rfl⟩]

theorem accepts_of_mem (h : (k.name, v) ∈ members) : k.accepts v := by
  obtain ⟨l, hl, ha⟩ := hm.known h
  rwa [Key.name_injective hl]

theorem member_of_mem (h : (k.name, v) ∈ members) :
    (Json.object members).member k.name = some v :=
  Json.member_of_mem_members hm.nodup h

theorem slots_eq : (Json.object members).slots = members.length := by
  apply Json.memberSlots_of_flat
  intro m hmem
  obtain ⟨k, -, ha⟩ := hm.known hmem
  cases k
  case temperature | remoteTemp => exact Json.slots_of_isNumber ha
  all_goals exact Json.slots_of_isString ha

/-- Without the last two keys the object fits the document. -/
theorem length_le_six
    (h : ∀ m ∈ members, m.1 ≠ Key.remoteTemp.name ∧ m.1 ≠ Key.custom.name) :
    members.length ≤ 6 := by
  let names := [Key.power, .mode, .temperature, .fan, .vane, .wideVane].map Key.name
  have hsub : members.map Prod.fst ⊆ names := by
    intro name hname
    obtain ⟨m, hmem, rfl⟩ := List.mem_map.mp hname
    obtain ⟨k, hk, -⟩ := hm.known hmem
    obtain ⟨hr, hc⟩ := h m hmem
    cases k <;> simp_all [names]
  have hlen := (hm.nodup.subperm hsub).length_le
  simpa [names] using hlen

/-- A second member has another key. -/
theorem exists_other (h : (k.name, v) ∈ members) (hlen : members.length ≠ 1) :
    ∃ l w, (Key.name l, w) ∈ members ∧ l ≠ k := by
  obtain ⟨before, after, heq⟩ := List.append_of_mem h
  have hother : ∃ m ∈ before ++ after, m ∈ members := by
    cases hrest : before ++ after with
    | nil =>
      obtain ⟨rfl, rfl⟩ := List.append_eq_nil_iff.mp hrest
      simp [heq] at hlen
    | cons m rest =>
      refine ⟨m, by simp, ?_⟩
      have hmem : m ∈ before ++ after := by simp [hrest]
      rw [heq]
      rcases List.mem_append.mp hmem with hb | ha
      · exact List.mem_append_left _ hb
      · exact List.mem_append_right _ (List.mem_cons_of_mem _ ha)
  obtain ⟨m, hrest, hmem⟩ := hother
  obtain ⟨l, hl, -⟩ := hm.known hmem
  refine ⟨l, m.2, by rwa [← hl], ?_⟩
  rintro rfl
  have hnodup := hm.nodup
  rw [heq, List.map_append, List.map_cons, List.nodup_middle, List.nodup_cons,
    ← List.map_append] at hnodup
  exact hnodup.1 (List.mem_map.mpr ⟨m, hrest, hl⟩)

end SettingsObject

/-! ### What is applied -/

theorem mem_retrieveSettings_of_mem (hm : SettingsObject members) (hk : k.awaitsUpdate)
    (h : (k.name, v) ∈ members) : k.call lib v ∈ retrieveSettings lib (.object members) :=
  mem_retrieveSettings.mpr ⟨k, hk, v, hm.member_of_mem h, rfl⟩

/-- The handler's own calls are the right ones. -/
theorem applied_of_handed {calls : List Call}
    (handed : ∀ (k : Key) v, (k.name, v) ∈ members → k.call lib v ∈ calls)
    (pushed : ∀ (k : Key) v, (k.name, v) ∈ members → k.awaitsUpdate →
      [k.call lib v, .update].Sublist calls) : Applied lib members calls where
  power _ h := pushed .power _ h rfl
  mode _ h := pushed .mode _ h rfl
  temperature _ h := pushed .temperature _ h rfl
  fan _ h := pushed .fan _ h rfl
  vane _ h := pushed .vane _ h rfl
  wideVane _ h := pushed .wideVane _ h rfl
  remoteTemp _ h := handed .remoteTemp _ h
  custom s h := ⟨customBytes s, handed .custom _ h, fun _ hvalues => customBytes_of_grammar hvalues⟩

theorem Applied.update_mem {calls : List Call} (happ : Applied lib members calls)
    (hm : SettingsObject members) (h : (k.name, v) ∈ members) (hk : k.awaitsUpdate) :
    .update ∈ calls := by
  have ha : k.accepts v := hm.accepts_of_mem h
  have hpushed : ∃ c, [c, Call.update].Sublist calls := by
    cases k with
    | remoteTemp | custom => cases hk
    | temperature =>
      obtain ⟨q, rfl⟩ := Json.isNumber_iff.mp ha
      exact ⟨_, happ.temperature q h⟩
    | power | mode | fan | vane | wideVane =>
      obtain ⟨s, rfl⟩ := Json.isString_iff.mp ha
      first
        | exact ⟨_, happ.power s h⟩
        | exact ⟨_, happ.mode s h⟩
        | exact ⟨_, happ.fan s h⟩
        | exact ⟨_, happ.vane s h⟩
        | exact ⟨_, happ.wideVane s h⟩
  obtain ⟨c, hc⟩ := hpushed
  exact hc.subset (List.mem_cons_of_mem _ (List.mem_singleton_self _))

theorem Applied.custom_mem {calls : List Call} (happ : Applied lib members calls)
    (hm : SettingsObject members) (h : (Key.custom.name, v) ∈ members) :
    ∃ data, .sendCustomPacket data ∈ calls := by
  obtain ⟨s, rfl⟩ := Json.isString_iff.mp (hm.accepts_of_mem h)
  obtain ⟨data, hdata, -⟩ := happ.custom s h
  exact ⟨data, hdata⟩

theorem applied_of_no_tail (hm : SettingsObject members)
    (h : ∀ m ∈ members, m.1 ≠ Key.remoteTemp.name ∧ m.1 ≠ Key.custom.name) :
    Applied lib members
      (retrieveSettings lib (.object members) ++
        finish lib results debugMode (.object members)) := by
  have hwaits : ∀ (k : Key) v, (k.name, v) ∈ members → k.awaitsUpdate := by
    intro k v hmem
    obtain ⟨hr, hc⟩ := h _ hmem
    cases k <;> first | rfl | contradiction
  have hupdate : .update ∈ finish lib results debugMode (.object members) :=
    update_mem_finish (Json.member_eq_none fun m hmem => (h m hmem).1)
      (Json.member_eq_none fun m hmem => (h m hmem).2)
  refine applied_of_handed (fun k v hmem => ?_) fun k v hmem hk => ?_
  · exact List.mem_append_left _ (mem_retrieveSettings_of_mem hm (hwaits k v hmem) hmem)
  · have hset : k.call lib v ∈ retrieveSettings lib (.object members) :=
      mem_retrieveSettings_of_mem hm hk hmem
    exact (List.singleton_sublist.mpr hset).append (List.singleton_sublist.mpr hupdate)

theorem applied_of_single (hk : k.awaitsUpdate = false) :
    Applied lib [(k.name, v)]
      (retrieveSettings lib (.object [(k.name, v)]) ++
        finish lib results debugMode (.object [(k.name, v)])) := by
  have honly : ∀ (l : Key) w, (l.name, w) ∈ [(k.name, v)] → l = k ∧ w = v := by
    intro l w hmem
    obtain ⟨hname, hw⟩ := Prod.mk.inj (List.mem_singleton.mp hmem)
    exact ⟨Key.name_injective hname, hw⟩
  have hmember : (Json.object [(k.name, v)]).member k.name = some v :=
    Json.member_of_mem_members (List.nodup_singleton _) (List.mem_singleton_self _)
  refine applied_of_handed (fun l w hmem => ?_) fun l w hmem hl => ?_
  · obtain ⟨rfl, rfl⟩ := honly l w hmem
    apply List.mem_append_right
    cases l
    case remoteTemp => exact remoteTemp_mem_finish hmember
    case custom =>
      refine custom_mem_finish (Json.member_eq_none ?_) hmember
      intro m hm
      obtain rfl := List.mem_singleton.mp hm
      intro hname
      cases @Key.name_injective .custom .remoteTemp hname
    all_goals cases hk
  · obtain ⟨rfl, -⟩ := honly l w hmem
    simp [hk] at hl

/-- Next to the key of a last branch another value is lost. -/
theorem not_applied_of_tail (hm : SettingsObject members) (hk : k.awaitsUpdate = false)
    (h : (k.name, v) ∈ members) (hlen : members.length ≠ 1) :
    ¬ Applied lib members
      (retrieveSettings lib (.object members) ++
        finish lib results debugMode (.object members)) := by
  intro happ
  obtain ⟨l, w, hmem, hne⟩ := hm.exists_other h hlen
  have hv := hm.member_of_mem h
  have hw := hm.member_of_mem hmem
  cases hl : l.awaitsUpdate with
  | true =>
    have hupdate := happ.update_mem hm hmem hl
    obtain ⟨hr, hc⟩ := update_mem_handled hupdate
    cases k <;> simp_all [Key.awaitsUpdate]
  | false =>
    -- the two keys are `remoteTemp` and `custom`, and the second is passed over
    have hlost : (∃ data, .sendCustomPacket data ∈ retrieveSettings lib (.object members) ++
        finish lib results debugMode (.object members)) ∧
        ∃ u, (Json.object members).member Key.remoteTemp.name = some u := by
      cases k <;> cases hk <;> cases l <;> cases hl
      · exact (hne rfl).elim
      · exact ⟨happ.custom_mem hm hmem, v, hv⟩
      · exact ⟨happ.custom_mem hm h, w, hw⟩
      · exact (hne rfl).elim
    obtain ⟨⟨data, hdata⟩, u, hu⟩ := hlost
    simp [custom_mem_handled hdata] at hu

theorem not_applied_of_error (hne : members ≠ []) (hm : SettingsObject members)
    {topic message : List Byte} : ¬ Applied lib members [.publish topic message] := by
  intro happ
  obtain ⟨m, hmem⟩ := List.exists_mem_of_ne_nil members hne
  obtain ⟨k, hk, ha⟩ := hm.known hmem
  have hmem : (k.name, m.2) ∈ members := by rwa [← hk]
  cases hwaits : k.awaitsUpdate with
  | true => cases List.mem_singleton.mp (happ.update_mem hm hmem hwaits)
  | false =>
    cases k <;> cases hwaits
    · obtain ⟨q, hq⟩ := Json.isNumber_iff.mp ha
      rw [hq] at hmem
      cases List.mem_singleton.mp (happ.remoteTemp q hmem)
    · obtain ⟨data, hdata⟩ := happ.custom_mem hm hmem
      cases List.mem_singleton.mp hdata

theorem applied_handled_iff (hm : SettingsObject members) :
    Applied lib members
        (retrieveSettings lib (.object members) ++
          finish lib results debugMode (.object members)) ↔
      (∀ m ∈ members, m.1 ≠ Key.remoteTemp.name ∧ m.1 ≠ Key.custom.name) ∨
        members.length = 1 := by
  by_cases htail : ∀ m ∈ members, m.1 ≠ Key.remoteTemp.name ∧ m.1 ≠ Key.custom.name
  · exact iff_of_true (applied_of_no_tail hm htail) (.inl htail)
  · have hkey : ∃ (k : Key) (v : Json), (k.name, v) ∈ members ∧ k.awaitsUpdate = false := by
      simp only [not_forall, not_and_or, not_not] at htail
      obtain ⟨⟨name, v⟩, hmem, rfl | rfl⟩ := htail
      · exact ⟨.remoteTemp, v, hmem, rfl⟩
      · exact ⟨.custom, v, hmem, rfl⟩
    obtain ⟨k, v, hmem, hk⟩ := hkey
    rw [or_iff_right htail]
    constructor
    · intro happ
      by_contra hlen
      exact not_applied_of_tail hm hk hmem hlen happ
    · intro hlen
      obtain ⟨m, rfl⟩ := List.length_eq_one_iff.mp hlen
      obtain rfl := List.mem_singleton.mp hmem
      exact applied_of_single hk

/-- A payload of settings is applied as a whole exactly when it names neither of the two
keys of the last branches, or nothing besides one of them. -/
theorem applied_iff_no_tail_or_single
    (h : lib.parse (cString payload) = some (.object members))
    (hm : SettingsObject members) :
    Applied lib members (mqttCallback lib results debugMode heatpumpSetTopic payload).2 ↔
      (∀ m ∈ members, m.1 ≠ ascii "remoteTemp" ∧ m.1 ≠ ascii "custom") ∨ members.length = 1 := by
  rcases le_or_gt members.length 6 with hfits | hlong
  · have hdoc : lib.deserializeJson 6 (cString payload) = some (.object members) :=
      JsonLibrary.deserializeJson_eq_some.mpr ⟨h, hm.slots_eq.trans_le hfits⟩
    rw [calls_of_document hdoc]
    exact applied_handled_iff hm
  · have herror : lib.deserializeJson 6 (cString payload) = none := by
      have hslots := hm.slots_eq
      simp [JsonLibrary.deserializeJson, h]
      omega
    have hne : members ≠ [] := List.ne_nil_of_length_pos (by omega)
    rw [calls_of_error herror]
    apply iff_of_false (not_applied_of_error hne hm)
    rintro (htail | hlen)
    · have := hm.length_le_six htail
      omega
    · omega

/-- A library for one text. -/
def libraryOf (text : List Byte) (doc : Json) : JsonLibrary where
  parse t := if t = text then some doc else none
  asFloat
    | .number q => .ofRat q
    | _ => .finite 0
  serialize _ := []

theorem libraryOf_parse {text : List Byte} {doc : Json} (h : cString text = text) :
    (libraryOf text doc).parse (cString text) = some doc := by simp [libraryOf, h]

/-- `{"fan":"AUTO","temperature":21,"power":"ON"}` -/
def threeSettings : List (List Byte × Json) :=
  [(ascii "fan", .string (ascii "AUTO")), (ascii "temperature", .number 21),
    (ascii "power", .string (ascii "ON"))]

def threeSettingsText : List Byte :=
  ascii "\x7b\"fan\":\"AUTO\",\"temperature\":21,\"power\":\"ON\"\x7d"

theorem settingsObject_threeSettings : SettingsObject threeSettings := by
  constructor
  · decide
  · intro m hmem
    simp only [threeSettings, List.mem_cons, List.not_mem_nil, or_false] at hmem
    rcases hmem with rfl | rfl | rfl
    · exact .inl ⟨by decide, _, rfl⟩
    · exact .inr ⟨by decide, _, rfl⟩
    · exact .inl ⟨by decide, _, rfl⟩

theorem applied_iff_threeSettings :
    Applied (libraryOf threeSettingsText (.object threeSettings)) threeSettings
      (mqttCallback (libraryOf threeSettingsText (.object threeSettings)) ⟨true, true⟩ false
        heatpumpSetTopic threeSettingsText).2 :=
  (applied_iff_no_tail_or_single (libraryOf_parse (by decide)) settingsObject_threeSettings).mpr
    (.inl (by decide))

/-- `{"power":"on","remoteTemp":21}` -/
def powerAndRemoteTemp : List (List Byte × Json) :=
  [(ascii "power", .string (ascii "on")), (ascii "remoteTemp", .number 21)]

def powerAndRemoteTempText : List Byte := ascii "\x7b\"power\":\"on\",\"remoteTemp\":21\x7d"

theorem settingsObject_powerAndRemoteTemp : SettingsObject powerAndRemoteTemp := by
  constructor
  · decide
  · intro m hmem
    rcases List.mem_pair.mp hmem with rfl | rfl
    · exact .inl ⟨by decide, _, rfl⟩
    · exact .inr ⟨by decide, _, rfl⟩

theorem power_stays_pending :
    ¬ ∀ (lib : JsonLibrary) (results : Results) (debugMode : Bool) (payload : List Byte)
      (members : List (List Byte × Json)),
      lib.parse (cString payload) = some (.object members) → SettingsObject members →
      Applied lib members (mqttCallback lib results debugMode heatpumpSetTopic payload).2 := by
  intro h
  let lib := libraryOf powerAndRemoteTempText (.object powerAndRemoteTemp)
  have hparse : lib.parse (cString powerAndRemoteTempText) = some (.object powerAndRemoteTemp) :=
    libraryOf_parse (by decide)
  have happ := h lib ⟨true, true⟩ false _ _ hparse settingsObject_powerAndRemoteTemp
  have hdoc := JsonLibrary.deserializeJson_eq_some.mpr
    ⟨hparse, (by decide : (Json.object powerAndRemoteTemp).slots ≤ 6)⟩
  rw [calls_of_document hdoc] at happ
  have hmem : (Key.remoteTemp.name, Json.number 21) ∈ powerAndRemoteTemp := by
    exact List.mem_cons_of_mem _ (List.mem_singleton_self _)
  exact not_applied_of_tail settingsObject_powerAndRemoteTemp rfl hmem (by decide) happ

end HeatPumpMqtt
