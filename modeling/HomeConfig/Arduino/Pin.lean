import HomeConfig.Arduino.CString

/-! Output pins: the level that a sequence of actions leaves and the pulses it makes. -/
namespace Arduino

/-- What a sketch does apart from sending messages. -/
inductive Action where
  | digitalWrite (pin : ℕ) (level : Bool)
  | sleep (ms : ℕ)
  | wait (ms : ℕ)
  | waitFor (ms : ℕ) (command type : Byte)
deriving DecidableEq, Repr

variable {pin : ℕ} {initial : Bool} {as bs : List Action}

/-- The level of the pin after the actions. -/
def level (pin : ℕ) : Bool → List Action → Bool
  | l, [] => l
  | l, .digitalWrite p v :: as => level pin (if p = pin then v else l) as
  | l, _ :: as => level pin l as

/-- The number of times the pin falls from HIGH to LOW during the actions. -/
def pulses (pin : ℕ) : Bool → List Action → ℕ
  | _, [] => 0
  | l, .digitalWrite p v :: as =>
    if p = pin then (if l && !v then 1 else 0) + pulses pin v as else pulses pin l as
  | l, _ :: as => pulses pin l as

/-- The actions do not write the pin. -/
def Untouched (pin : ℕ) (as : List Action) : Prop := ∀ v, Action.digitalWrite pin v ∉ as

instance : Decidable (Untouched pin as) :=
  decidable_of_iff (Action.digitalWrite pin true ∉ as ∧ Action.digitalWrite pin false ∉ as)
    ⟨fun h v => by cases v; exacts [h.2, h.1], fun h => ⟨h true, h false⟩⟩

theorem level_append : level pin initial (as ++ bs) = level pin (level pin initial as) bs := by
  induction as generalizing initial with
  | nil => rfl
  | cons a as ih => cases a <;> simp [level, ih]

theorem pulses_append : pulses pin initial (as ++ bs) =
    pulses pin initial as + pulses pin (level pin initial as) bs := by
  induction as generalizing initial with
  | nil => simp [pulses, level]
  | cons a as ih =>
    cases a with
    | digitalWrite p v =>
      by_cases hp : p = pin
      · simp [pulses, level, hp, ih, Nat.add_assoc]
      · simp [pulses, level, hp, ih]
    | sleep | wait | waitFor => simp [pulses, level, ih]

theorem Untouched.level_pulses (h : Untouched pin as) :
    level pin initial as = initial ∧ pulses pin initial as = 0 := by
  induction as with
  | nil => exact ⟨rfl, rfl⟩
  | cons a as ih =>
    have ih := ih fun v hv => h v (List.mem_cons_of_mem a hv)
    cases a with
    | digitalWrite p v =>
      have hp : p ≠ pin := fun hp => h v (by simp [hp])
      simpa [level, pulses, hp] using ih
    | sleep | wait | waitFor => simpa [level, pulses] using ih

end Arduino
