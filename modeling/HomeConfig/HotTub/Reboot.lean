import HomeConfig.HotTub.Lighting

/-! What becomes of the user's choice when the monitor boots and announces its relay. -/
namespace HotTub

open Arduino MySensors

variable {nodeId : Byte}

/-- The network, the light that the user chose last, and whether an announcement of the
monitor has reached the controller since. -/
structure Household where
  network : Network Node Action
  choice : Bool
  overwritten : Bool

namespace Household

/-- The monitor boots while the controller holds the choice made before. -/
def boot (controller : Controller) (choice : Bool) : Household :=
  ⟨HotTub.boot controller choice, choice, false⟩

/-- The controller is about to take an announcement of the light. -/
def announced (h : Household) : Bool :=
  match h.network.uplink with
  | [] => false
  | m :: _ => m.getCommand == cSet && itemOf m == lighting

def step (nodeId : Byte) (h : Household) (e : Event Readings Bool) : Option Household :=
  (Network.step (deployment nodeId) h.network e).map fun network =>
    match e with
    | .user on => ⟨network, on, false⟩
    | .answer => ⟨network, h.choice, h.overwritten || h.announced⟩
    | .loop _ | .deliver => { h with network }

/-- A reply has been delivered and no message is under way. -/
structure Settled (h : Household) : Prop where
  replied : Origin.reply ∈ h.network.delivered
  uplink : h.network.uplink = []
  downlink : h.network.downlink = []

/-- The controller holds the choice until an announcement overwrites it with off. -/
structure Recorded (h : Household) : Prop where
  synchronized : Synchronized h.network
  stored : storedLight h.network = (h.choice && !h.overwritten)

variable {h h' : Household} {e : Event Readings Bool}

theorem recorded_boot {controller : Controller} {choice : Bool} :
    Recorded (boot controller choice) := by
  refine ⟨synchronized_boot, ?_⟩
  have hvalue : (HotTub.boot controller choice).controller.value lighting = boolText choice :=
    Controller.value_store_self ..
  exact (storedLight_of_value hvalue).trans (Bool.and_true choice).symm

theorem recorded_answer (hs : Recorded h) {m : MyMessage} {rest : List MyMessage}
    (hu : h.network.uplink = m :: rest) :
    storedLight (h.network.answer m rest) = (h.choice && !(h.overwritten || h.announced)) := by
  have hannounced : h.announced = (m.getCommand == cSet && itemOf m == lighting) := by
    simp only [announced, hu]
  by_cases hlight : m.getCommand = cSet ∧ itemOf m = lighting
  · obtain ⟨hset, hitem⟩ := hlight
    rw [storedLight_of_value (value_answer_report hs.synchronized hu hset hitem)]
    simp [hannounced, hset, hitem]
  · have hvalue : (h.network.answer m rest).controller.value lighting =
        h.network.controller.value lighting := value_answer_other hlight
    have hfalse : h.announced = false := by
      rw [hannounced]
      simpa using hlight
    rw [hfalse, Bool.or_false, ← hs.stored]
    unfold storedLight
    rw [hvalue]

theorem recorded_step (hs : Recorded h) (ht : step nodeId h e = some h') : Recorded h' := by
  obtain ⟨w, hw, hh⟩ := Option.map_eq_some_iff.mp ht
  have hsync : Synchronized w := synchronized_step hs.synchronized hw
  obtain ⟨r, rfl, rfl⟩ | ⟨m, rest, rfl, hu, rfl⟩ | ⟨o, m, rest, rfl, hd, rfl⟩ |
    ⟨on, rfl, rfl⟩ := Network.step_cases hw
  · obtain rfl := hh
    exact ⟨hsync, hs.stored⟩
  · obtain rfl := hh
    exact ⟨hsync, recorded_answer hs hu⟩
  · obtain rfl := hh
    exact ⟨hsync, hs.stored⟩
  · obtain rfl := hh
    have hvalue : (h.network.user (deployment nodeId) on).controller.value lighting =
        boolText on := Controller.value_store_self ..
    exact ⟨hsync, (storedLight_of_value hvalue).trans (Bool.and_true on).symm⟩

/-- When everything has drained after an exchange, the light is as chosen exactly when it
was not chosen on before an announcement reached the controller. -/
theorem lightingRelay_eq_choice_iff {controller : Controller} {choice : Bool}
    (hreach : Machine.Reachable (step nodeId) (boot controller choice) h) (hsettled : Settled h) :
    lightingRelay h.network = h.choice ↔ (h.choice = true → h.overwritten = false) := by
  have hs : Recorded h :=
    Machine.invariant_reachable (fun _ _ _ hs ht => recorded_step hs ht) recorded_boot hreach
  rw [hs.synchronized.lightingRelay_of_drained (List.ne_nil_of_mem hsettled.replied)
    hsettled.uplink hsettled.downlink, hs.stored]
  cases h.choice <;> cases h.overwritten <;> decide

/-- The choice is made while the reply is on its way. -/
def chosenLate : List (Event Readings Bool) :=
  [.loop ⟨0#32, 0#32⟩, .answer, .answer, .user true, .deliver, .deliver]

theorem lightingRelay_eq_choice_iff_chosenLate : ∃ h,
    Machine.run (step 42#8) (boot ⟨fun _ => []⟩ false) chosenLate = some h ∧
    (lightingRelay h.network = h.choice ↔ (h.choice = true → h.overwritten = false)) := by
  refine ⟨_, rfl, ?_⟩
  exact @lightingRelay_eq_choice_iff 42#8 _ ⟨fun _ => []⟩ false ⟨chosenLate, rfl⟩
    ⟨by decide, rfl, rfl⟩

/-- The light was on before the reboot, and the first exchange switches it off. -/
theorem choice_lost_on_reboot : ∃ h,
    Machine.run (step 42#8) (boot ⟨fun _ => []⟩ true)
      [.loop ⟨0#32, 0#32⟩, .answer, .answer, .deliver] = some h ∧
    Settled h ∧ h.choice = true ∧ lightingRelay h.network = false := by
  refine ⟨_, rfl, ⟨by decide, rfl, rfl⟩, rfl, ?_⟩
  decide

end Household

end HotTub
