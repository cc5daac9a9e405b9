import HomeConfig.Library.Machine
import HomeConfig.MySensors.Network

/-! Draining the channels of a node that answers messages with reports only: what the
node and the controller come to is fixed in advance, whatever the interleaving. -/
namespace MySensors

open Arduino

variable {σ ι κ δ : Type} {m : MyMessage} {xs ys : List MyMessage}

namespace Controller

/-- Handle messages in order, collecting the answers. -/
def handleAll (c : Controller) : List MyMessage → Controller × List MyMessage
  | [] => (c, [])
  | m :: ms =>
    let r := c.handle m
    let s := r.1.handleAll ms
    (s.1, r.2 ++ s.2)

variable {c : Controller}

theorem handleAll_append : c.handleAll (xs ++ ys) =
    (((c.handleAll xs).1.handleAll ys).1,
      (c.handleAll xs).2 ++ ((c.handleAll xs).1.handleAll ys).2) := by
  induction xs generalizing c with
  | nil => rfl
  | cons m xs ih => simp [handleAll, ih]

/-- Reports are stored and not answered. -/
theorem handleAll_reports (h : ∀ m ∈ xs, m.getCommand = cSet) :
    c.handleAll xs = (xs.foldl (fun c m => c.store (itemOf m) m.getString) c, []) := by
  induction xs generalizing c with
  | nil => rfl
  | cons m xs ih =>
    have hm := h m List.mem_cons_self
    have hxs : ∀ m' ∈ xs, m'.getCommand = cSet := fun m' hm' => h m' (List.mem_cons_of_mem m hm')
    simp [handleAll, handle_set hm, ih hxs]

end Controller

/-- Requests are answered with the stored values. -/
theorem Controller.handleAll_inquiries {c : Controller} {nodeId : Byte} (items : List Item) :
    c.handleAll (items.map fun i => inquiry nodeId i.1 i.2) =
      (c, items.map fun i => setMessage nodeId i (c.value i)) := by
  induction items with
  | nil => rfl
  | cons i items ih =>
    simp only [List.map_cons, handleAll, handle_req (getCommand_inquiry i.1 i.2), ih]
    rfl

namespace Network

variable {d : Deployment σ ι κ δ} {w w' : Network σ δ} {e : Event ι κ} {es : List (Event ι κ)}

/-- The controller once it has handled everything that is on its way up. -/
def settled (w : Network σ δ) : Controller := (w.controller.handleAll w.uplink).1

/-- The messages that the node is still going to receive. -/
def future (w : Network σ δ) : List MyMessage :=
  w.downlink.map Prod.snd ++ (w.controller.handleAll w.uplink).2

/-- The node once it has received them. -/
def outcome (d : Deployment σ ι κ δ) (w : Network σ δ) : σ :=
  w.future.foldl (fun n m => (d.receive n m).1) w.node

/-- Neither a loop iteration nor a user. -/
def Draining (e : Event ι κ) : Prop := e = .answer ∨ e = .deliver

instance : Decidable (Draining e) :=
  match e with
  | .answer => .isTrue (Or.inl rfl)
  | .deliver => .isTrue (Or.inr rfl)
  | .loop _ => .isFalse fun h => by rcases h with h | h <;> cases h
  | .user _ => .isFalse fun h => by rcases h with h | h <;> cases h

/-- The node answers messages with reports only. -/
def ReportsOnly (d : Deployment σ ι κ δ) : Prop :=
  ∀ n m, ∀ q ∈ sent (d.receive n m).2, q.getCommand = cSet

theorem settled_answer {rest : List MyMessage} (hu : w.uplink = m :: rest) :
    (w.answer m rest).settled = w.settled := by
  simp [settled, hu, answer, Controller.handleAll]

theorem future_answer {rest : List MyMessage} (hu : w.uplink = m :: rest) :
    (w.answer m rest).future = w.future := by
  simp [future, hu, answer, Controller.handleAll]

/-- A delivery stores the node's reports behind everything else. -/
theorem settled_deliver {o : Origin} {rest : List (Origin × MyMessage)} (hd : ReportsOnly d) :
    (w.deliver d o m rest).settled = (sent (d.receive w.node m).2).foldl
      (fun c m => c.store (itemOf m) m.getString) w.settled := by
  change (w.controller.handleAll (w.uplink ++ sent (d.receive w.node m).2)).1 = _
  rw [Controller.handleAll_append, Controller.handleAll_reports (hd w.node m)]
  rfl

theorem future_deliver {o : Origin} {rest : List (Origin × MyMessage)} (hd : ReportsOnly d)
    (hw : w.downlink = (o, m) :: rest) : w.future = m :: (w.deliver d o m rest).future := by
  have hanswers : (w.controller.handleAll (w.uplink ++ sent (d.receive w.node m).2)).2 =
      (w.controller.handleAll w.uplink).2 := by
    rw [Controller.handleAll_append, Controller.handleAll_reports (hd w.node m), List.append_nil]
  change w.downlink.map Prod.snd ++ _ = m :: (rest.map Prod.snd ++ _)
  rw [hw, List.map_cons, List.cons_append]
  exact congrArg (fun l => m :: (rest.map Prod.snd ++ l)) hanswers.symm

theorem outcome_deliver {o : Origin} {rest : List (Origin × MyMessage)} (hd : ReportsOnly d)
    (hw : w.downlink = (o, m) :: rest) : (w.deliver d o m rest).outcome d = w.outcome d := by
  unfold outcome
  rw [future_deliver hd hw]
  rfl

/-- The two ways to drain. -/
theorem draining_cases (he : Draining e) (h : step d w e = some w') :
    (∃ m rest, w.uplink = m :: rest ∧ w' = w.answer m rest) ∨
    (∃ o m rest, w.downlink = (o, m) :: rest ∧ w' = w.deliver d o m rest) := by
  obtain ⟨input, rfl, -⟩ | ⟨m, rest, -, hu, rfl⟩ | ⟨o, m, rest, -, hw, rfl⟩ | ⟨c, rfl, -⟩ :=
    step_cases h
  · rcases he with he | he <;> cases he
  · exact Or.inl ⟨m, rest, hu, rfl⟩
  · exact Or.inr ⟨o, m, rest, hw, rfl⟩
  · rcases he with he | he <;> cases he

theorem everyStep_draining (hes : ∀ e ∈ es, Draining e) :
    Machine.EveryStep (step d) (fun _ e _ => Draining e) w es := by
  induction es generalizing w with
  | nil => trivial
  | cons e es ih =>
    intro t _
    exact ⟨hes e List.mem_cons_self, ih fun e' he' => hes e' (List.mem_cons_of_mem e he')⟩

/-- Every way to drain leads to the same node. -/
theorem outcome_run (hd : ReportsOnly d) (hes : ∀ e ∈ es, Draining e)
    (h : Machine.run (step d) w es = some w') : w'.outcome d = w.outcome d := by
  have hstep : ∀ v (e : Event ι κ) v', v.outcome d = w.outcome d → Draining e →
      step d v e = some v' → v'.outcome d = w.outcome d := by
    intro v e v' hv he hs
    obtain ⟨m, rest, hu, rfl⟩ | ⟨o, m, rest, hw, rfl⟩ := draining_cases he hs
    · rw [← hv, outcome, outcome, future_answer hu]
      rfl
    · rw [← hv, outcome_deliver hd hw]
  exact Machine.invariant_of_everyStep (I := fun v => v.outcome d = w.outcome d) hstep rfl
    (everyStep_draining hes) h

/-- What the reports of the last message make of the controller is what remains. -/
theorem settled_run {P : σ → Controller → Prop} {Q : MyMessage → Prop} (hd : ReportsOnly d)
    (hP : ∀ n m c, Q m → P (d.receive n m).1 ((sent (d.receive n m).2).foldl
      (fun c m => c.store (itemOf m) m.getString) c))
    (hes : ∀ e ∈ es, Draining e) (hw : w.future ≠ []) (hQ : ∀ m ∈ w.future, Q m)
    (h : Machine.run (step d) w es = some w') : w'.future ≠ [] ∨ P w'.node w'.settled := by
  let I (v : Network σ δ) : Prop :=
    (∀ m ∈ v.future, Q m) ∧ (v.future ≠ [] ∨ P v.node v.settled)
  have hstep : ∀ v (e : Event ι κ) v', I v → Draining e → step d v e = some v' → I v' := by
    rintro v e v' ⟨hQ, hv⟩ he hs
    obtain ⟨m, rest, hu, rfl⟩ | ⟨o, m, rest, hw, rfl⟩ := draining_cases he hs
    · refine ⟨?_, ?_⟩
      · rw [future_answer hu]
        exact hQ
      · rw [future_answer hu, settled_answer hu]
        exact hv
    · rw [future_deliver hd hw] at hQ
      refine ⟨fun m' hm' => hQ m' (List.mem_cons_of_mem m hm'), Or.inr ?_⟩
      rw [settled_deliver hd]
      exact hP v.node m v.settled (hQ m List.mem_cons_self)
  exact (Machine.invariant_of_everyStep hstep ⟨hQ, Or.inl hw⟩ (everyStep_draining hes) h).2

theorem outcome_of_empty (hu : w.uplink = []) (hd : w.downlink = []) :
    w.future = [] ∧ w.outcome d = w.node ∧ w.settled = w.controller := by
  have hf : w.future = [] := by simp [future, hu, hd, Controller.handleAll]
  refine ⟨hf, ?_, ?_⟩
  · rw [outcome, hf]
    rfl
  · simp [settled, hu, Controller.handleAll]

end Network

end MySensors
