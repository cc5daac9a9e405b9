import HomeConfig.Arduino.CString

/-! Documents of the ArduinoJson library, and the pool of slots they live in. -/
namespace Arduino

inductive Json where
  | null
  | bool (b : Bool)
  | number (q : ℚ)
  | string (s : List Byte)
  | array (elements : List Json)
  | object (members : List (List Byte × Json))

namespace Json

/-! A slot holds one element or one member. The texts stay in the parsed buffer. -/
mutual

def slots : Json → ℕ
  | array elements => elementSlots elements
  | object members => memberSlots members
  | _ => 0

def elementSlots : List Json → ℕ
  | [] => 0
  | v :: vs => 1 + v.slots + elementSlots vs

def memberSlots : List (List Byte × Json) → ℕ
  | [] => 0
  | (_, v) :: ms => 1 + v.slots + memberSlots ms

end

/-- Only an object has members. -/
def members : Json → List (List Byte × Json)
  | object members => members
  | _ => []

def member (doc : Json) (key : List Byte) : Option Json := doc.members.lookup key

def containsKey (doc : Json) (key : List Byte) : Bool := (doc.member key).isSome

/-- `doc[key]`; a missing member reads as null. -/
def get (doc : Json) (key : List Byte) : Json := (doc.member key).getD null

/-- `is<const char *>()`. -/
def isString : Json → Bool
  | string _ => true
  | _ => false

/-- `is<float>()`. -/
def isNumber : Json → Bool
  | number _ => true
  | _ => false

/-- Conversion to `const char *`: the text pointed to, or the null pointer. -/
def asCharPtr : Json → Option (List Byte)
  | string s => some s
  | _ => none

end Json

/-- What the sketches take from ArduinoJson. `parse` gives the value that a text denotes,
its repeated keys resolved, and nothing for a text that is not JSON. -/
structure JsonLibrary where
  parse : List Byte → Option Json
  asFloat : Json → Single
  serialize : Json → List Byte

namespace JsonLibrary

variable (lib : JsonLibrary)

/-- `deserializeJson` into a document of `JSON_OBJECT_SIZE(capacity)` bytes; nothing stands
for an error. -/
def deserializeJson (capacity : ℕ) (text : List Byte) : Option Json :=
  (lib.parse text).filter (·.slots ≤ capacity)

/-- Conversion to `String`: a text is itself, any other value its JSON text. -/
def asString : Json → List Byte
  | .string s => s
  | v => lib.serialize v

end JsonLibrary

/-! ### Lemmas -/

namespace Json

variable {doc : Json} {key : List Byte} {v : Json} {ms : List (List Byte × Json)}

theorem mem_members_of_member (h : doc.member key = some v) : (key, v) ∈ doc.members := by
  obtain ⟨l, r, heq, -⟩ := List.lookup_eq_some_iff.mp h
  simp [heq]

/-- Where no key repeats, every member is found under its key. -/
theorem member_of_mem_members (hnodup : (doc.members.map Prod.fst).Nodup)
    (h : (key, v) ∈ doc.members) : doc.member key = some v := by
  obtain ⟨l, r, heq⟩ := List.append_of_mem h
  refine List.lookup_eq_some_iff.mpr ⟨l, r, heq, ?_⟩
  intro m hm
  rw [heq, List.map_append, List.nodup_append] at hnodup
  have hne := hnodup.2.2 m.1 (List.mem_map_of_mem hm) key (by simp)
  simpa using hne.symm

theorem member_eq_none (h : ∀ m ∈ doc.members, m.1 ≠ key) : doc.member key = none := by
  by_contra hsome
  obtain ⟨v, hv⟩ := Option.ne_none_iff_exists'.mp hsome
  exact h _ (mem_members_of_member hv) rfl

theorem isSome_asCharPtr : v.asCharPtr.isSome = v.isString := by cases v <;> rfl

theorem isString_iff : v.isString ↔ ∃ s, v = .string s := by cases v <;> simp [isString]

theorem isNumber_iff : v.isNumber ↔ ∃ q, v = .number q := by cases v <;> simp [isNumber]

theorem slots_of_isString (h : v.isString) : v.slots = 0 := by
  cases v with
  | string s => rfl
  | _ => cases h

theorem slots_of_isNumber (h : v.isNumber) : v.slots = 0 := by
  cases v with
  | number q => rfl
  | _ => cases h

theorem memberSlots_of_flat (h : ∀ m ∈ ms, m.2.slots = 0) : memberSlots ms = ms.length := by
  induction ms with
  | nil => rfl
  | cons m ms ih =>
    have hm := h m (by simp)
    have ih := ih fun m' hm' => h m' (by simp [hm'])
    simp only [memberSlots, hm, ih, List.length_cons]
    omega

end Json

theorem JsonLibrary.deserializeJson_eq_some {lib : JsonLibrary} {capacity : ℕ}
    {text : List Byte} {doc : Json} :
    lib.deserializeJson capacity text = some doc ↔
      lib.parse text = some doc ∧ doc.slots ≤ capacity := by
  simp [deserializeJson, Option.filter_eq_some_iff]

end Arduino
