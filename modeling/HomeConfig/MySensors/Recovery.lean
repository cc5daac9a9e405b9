import HomeConfig.MySensors.Requests

/-! A node whose requests are answered from some time on becomes ready, whatever has gone wrong
before: the time that each state may still take, added up along the way to the last one. -/
namespace MySensors

open Arduino

namespace TransportSM

variable {s p : TransportSM} {ok : MyMessage → Bool} {radio fresh : Bool}
  {now entered c began ended period : ℕ}
  {es : List TransportEvent} {state newState : TransportState}

/-- The updates begin at most `period` after each other, and none of them takes longer; the last one
began at `began` and returned at `ended`. -/
def Polled (period : ℕ) : ℕ → ℕ → List TransportEvent → Prop
  | _, _, [] => True
  | began, ended, .update _ _ now entered :: es =>
    (ended ≤ now ∧ now ≤ began + period) ∧ (now ≤ entered ∧ entered ≤ now + period) ∧
      Polled period now entered es
  | began, ended, _ :: es => Polled period began ended es

def updateTimes : List TransportEvent → List ℕ
  | [] => []
  | .update _ _ now _ :: es => now :: updateTimes es
  | _ :: es => updateTimes es

/-- What the state waits for has come. -/
def Answer (s : TransportSM) : Prop :=
  (s.currentState = some .stParent → s.parentNodeId ≠ auto) ∧
    (s.currentState = some .stID → s.nodeId ≠ auto) ∧
    (s.currentState = some .stUplink → s.pingResponse ≠ invalidHops)

/-- The radio starts, and each request that is sent during the run is answered before its time is
over; `fresh` says that the last request has been sent during the run. -/
def Answered (fresh : Bool) : TransportSM → List TransportEvent → Prop
  | _, [] => True
  | s, .update ok radio now entered :: es =>
    (s.currentState = some .stInit → radio = true) ∧
      (fresh = true → stateTimeoutMs < s.timeInState now → s.Answer) ∧
      Answered (fresh || (s.next radio now).isSome) (s.updateSM ok radio now entered).1 es
  | s, e :: es => Answered fresh (s.step e).1 es

/-- The node can start: it has not stored the id of the gateway, and no presentation is under way. -/
structure Startable (s : TransportSM) : Prop where
  stored : s.stored.nodeId ≠ gatewayAddress
  init : s.currentState = some .stInit → s.nodeId ≠ gatewayAddress
  started : s.currentState ≠ none
  clock : s.stateEnter < 2 ^ 32

instance Answered.decidable : ∀ fresh s es, Decidable (Answered fresh s es)
  | _, _, [] => .isTrue trivial
  | fresh, s, .update ok radio now entered :: es =>
    have := Answered.decidable (fresh || (s.next radio now).isSome) (s.updateSM ok radio now entered).1 es
    inferInstanceAs (Decidable ((s.currentState = some .stInit → radio = true) ∧
      (fresh = true → stateTimeoutMs < s.timeInState now → (_ → _) ∧ (_ → _) ∧ (_ → _)) ∧ _))
  | fresh, s, .message ok payloadLength message :: es =>
    Answered.decidable fresh (s.step (.message ok payloadLength message)).1 es
  | fresh, s, .send ok message :: es => Answered.decidable fresh (s.step (.send ok message)).1 es
  | fresh, s, .presented now :: es => Answered.decidable fresh (s.step (.presented now)).1 es

/-! ### The time a state may take -/

def limit (s : TransportSM) : ℕ :=
  match s.currentState with
  | some .stParent => stateTimeoutMs
  | some .stID => stateTimeoutMs
  | some .stUplink => stateTimeoutMs
  | some .stFailure => s.failureTimeout
  | _ => 0

/-- What may follow the state; without an answer to the last request it may lead to a failure. -/
def rest (period : ℕ) (fresh : Bool) : TransportState → ℕ
  | .stReady => 0
  | .stUplink => if fresh then 0 else 6000 + 6 * period
  | .stID => if fresh then 2000 + 2 * period else 66000 + 10 * period
  | .stParent => if fresh then 4000 + 4 * period else 66000 + 10 * period
  | .stInit => 6000 + 6 * period
  | .stFailure => 6000 + 8 * period

def budget (period : ℕ) (fresh : Bool) (c : ℕ) (s : TransportSM) : ℕ :=
  (s.limit - s.timeInState c) + period + (s.currentState.elim 0 (rest period fresh))

theorem timeInState_add (henter : s.stateEnter < 2 ^ 32) (hc : c ≤ now)
    (h : s.timeInState c + (now - c) < 2 ^ 32) : s.timeInState now = s.timeInState c + (now - c) := by
  unfold timeInState hwMillis at *
  omega

theorem timeInState_eq_zero (henter : s.stateEnter = hwMillis c) : s.timeInState c = 0 := by
  unfold timeInState
  rw [henter]
  unfold hwMillis
  omega

theorem failureTimeout_le (s : TransportSM) : s.failureTimeout ≤ 60000 := by
  unfold failureTimeout
  split <;> decide

theorem limit_le (s : TransportSM) : s.limit ≤ 60000 := by
  unfold limit
  split <;> first | decide | exact failureTimeout_le s

/-- The budget of a state that has just been entered during the run. -/
def entryBudget (period : ℕ) : TransportState → ℕ
  | .stReady => period
  | .stUplink => 2000 + period
  | .stID => 4000 + 3 * period
  | .stParent => 6000 + 5 * period
  | .stInit => 6000 + 7 * period
  | .stFailure => 66000 + 9 * period

theorem budget_le_entry (hstate : s.currentState = some newState) (henter : s.stateEnter = hwMillis c) :
    s.budget period true c ≤ entryBudget period newState := by
  have hfailure := failureTimeout_le s
  unfold budget limit
  rw [timeInState_eq_zero henter, hstate]
  cases newState <;> simp only [Option.elim_some, rest, entryBudget, stateTimeoutMs, if_true] <;> omega

theorem budget_le (s : TransportSM) : s.budget period fresh c ≤ 68000 + 11 * period := by
  have hfailure := failureTimeout_le s
  unfold budget limit
  cases hstate : s.currentState with
  | none => simp only [Option.elim_none]; omega
  | some state =>
    cases state <;> cases fresh <;> simp only [Option.elim_some, rest, stateTimeoutMs] <;> norm_num <;>
      omega

/-! ### What each event does to the budget -/

theorem performAll_failureCounter (ds : List Dispatch) :
    (s.performAll ok ds).1.failureCounter = s.failureCounter ∧
      (s.performAll ok ds).1.presenting = s.presenting := by
  induction ds generalizing s with
  | nil => exact ⟨rfl, rfl⟩
  | cons d ds ih =>
    have hhead : (s.perform ok d).1.failureCounter = s.failureCounter ∧
        (s.perform ok d).1.presenting = s.presenting := by
      cases d with
      | transmit message =>
        obtain ⟨n, hn⟩ := transmit_fst ok s message
        rw [perform, hn]
        exact ⟨rfl, rfl⟩
      | assignNodeID newNodeId =>
        rw [perform, assignNodeID]
        split
        all_goals exact ⟨rfl, rfl⟩
      | _ => exact ⟨rfl, rfl⟩
    obtain ⟨hcounter, hpresenting⟩ := @ih (s.perform ok d).1
    exact ⟨hcounter.trans hhead.1, hpresenting.trans hhead.2⟩

theorem budget_performAll (ds : List Dispatch) :
    (s.performAll ok ds).1.budget period fresh c = s.budget period fresh c := by
  obtain ⟨hstate, henter⟩ := @performAll_clock s ok ds
  obtain ⟨hcounter, -⟩ := @performAll_failureCounter s ok ds
  unfold budget limit timeInState failureTimeout isTransportExtendedFailure
  rw [hstate, henter, hcounter]

/-! ### A node stays startable -/

theorem Startable.perform (h : s.Startable) (hstate : s.currentState ≠ some .stInit) (d : Dispatch) :
    (s.perform ok d).1.Startable := by
  obtain ⟨-, hsame, henter, -⟩ := @perform_fst_finding s ok d
  refine ⟨?_, fun hinit => absurd (hsame.symm.trans hinit) hstate, hsame ▸ h.started, henter ▸ h.clock⟩
  cases d with
  | transmit message =>
    obtain ⟨n, hn⟩ := transmit_fst ok s message
    rw [TransportSM.perform, hn]
    exact h.stored
  | assignNodeID newNodeId =>
    rw [TransportSM.perform, assignNodeID]
    split
    · rename_i hvalid
      exact hvalid.1
    · exact h.stored
  | _ => exact h.stored

theorem Startable.performAll (h : s.Startable) (hstate : s.currentState ≠ some .stInit)
    (ds : List Dispatch) : (s.performAll ok ds).1.Startable := by
  induction ds generalizing s with
  | nil => exact h
  | cons d ds ih =>
    refine ih (h.perform hstate d) ?_
    rw [(@perform_fst_finding s ok d).2.1]
    exact hstate

theorem kept_switchSM (p : TransportSM) (newState : TransportState) :
    (p.switchSM ok now entered newState).1.stored = p.stored ∧
      (newState = .stInit → (p.switchSM ok now entered newState).1.nodeId = p.stored.nodeId) ∧
      (newState ≠ .stReady → (p.switchSM ok now entered newState).1.presenting = p.presenting) := by
  cases newState with
  | stInit =>
    obtain ⟨n, -, hto⟩ := @switchSM_stInit ok now entered p
    rw [hto]
    exact ⟨rfl, fun _ => rfl, fun _ => rfl⟩
  | stParent =>
    obtain ⟨n, k, -, hto⟩ := @switchSM_stParent ok now entered p
    rw [hto]
    exact ⟨rfl, by simp, fun _ => rfl⟩
  | stID =>
    obtain ⟨n, k, token, -, hto⟩ := @switchSM_stID ok now entered p
    rw [hto]
    exact ⟨rfl, by simp, fun _ => rfl⟩
  | stUplink =>
    obtain ⟨n, k, -, hto⟩ := @switchSM_stUplink ok now entered p
    rw [hto]
    exact ⟨rfl, by simp, fun _ => rfl⟩
  | stReady =>
    obtain ⟨n, -, hto⟩ := @switchSM_stReady ok now entered p
    rw [hto]
    exact ⟨rfl, by simp, by simp⟩
  | stFailure =>
    obtain ⟨n, -, hto⟩ := @switchSM_stFailure ok now entered p
    rw [hto]
    exact ⟨rfl, by simp, fun _ => rfl⟩

theorem Startable.switchSM (hstored : p.stored.nodeId ≠ gatewayAddress) (ok : MyMessage → Bool)
    (now entered : ℕ) (newState : TransportState) : (p.switchSM ok now entered newState).1.Startable := by
  obtain ⟨hkept, hinit, -⟩ := @kept_switchSM ok now entered p newState
  obtain ⟨henter, hstate⟩ := @stateEnter_switchSM ok now entered p newState
  refine ⟨hkept ▸ hstored, ?_, by rw [hstate]; exact Option.some_ne_none _, ?_⟩
  · intro hto
    have hnew : newState = .stInit := Option.some.inj (hstate.symm.trans hto)
    rw [hinit hnew]
    exact hstored
  · rw [henter]
    exact Nat.mod_lt _ (by decide)

theorem Move.stored (h : Move radio now s p newState) (hstart : s.Startable) :
    p.stored.nodeId ≠ gatewayAddress ∧ p.presenting = s.presenting := by
  cases h with
  | initDone stored hs hstored =>
    rcases hstored with ⟨-, rfl⟩ | ⟨hvalid, rfl⟩
    · exact ⟨hstart.stored, rfl⟩
    · exact ⟨hvalid.1, rfl⟩
  | _ => exact ⟨hstart.stored, rfl⟩

theorem Startable.updateSM (h : s.Startable) (hsound : s.Sound) :
    (s.updateSM ok radio now entered).1.Startable := by
  unfold TransportSM.updateSM
  split
  · exact h
  · rename_i hnext
    exact Startable.switchSM ((move_of_next hsound.preferred hnext).stored h).1 ok now entered _

theorem Startable.message (h : s.Startable) (hsound : s.Sound) (payloadLength : Byte)
    (message : MyMessage) : (s.step (.message ok payloadLength message)).1.Startable := by
  dsimp only [TransportSM.step]
  split
  · rename_i hactive
    refine h.performAll ?_ _
    intro hinit
    have hmem := hsound.active_iff.mp hactive
    rw [hinit] at hmem
    exact absurd hmem (by decide)
  · exact h

theorem Startable.send (h : s.Startable) (hsound : s.Sound) (message : MyMessage) :
    (s.step (.send ok message)).1.Startable := by
  dsimp only [TransportSM.step, Transport.sendRoute]
  split
  · rename_i hready
    refine h.performAll ?_ _
    rw [hsound.ready_iff.mp hready]
    decide
  · exact h

theorem Startable.step (h : s.Startable) (hsound : s.Sound) (e : TransportEvent) :
    (s.step e).1.Startable := by
  cases e with
  | update ok radio now entered => exact h.updateSM hsound
  | message ok payloadLength message => exact h.message hsound payloadLength message
  | send ok message => exact h.send hsound message
  | presented now =>
    dsimp only [TransportSM.step]
    split
    · exact ⟨h.stored, h.init, h.started, Nat.mod_lt _ (by decide)⟩
    · exact h

theorem Startable.run (h : s.Startable) (hsound : s.Sound) (es : List TransportEvent) :
    (s.run es).1.Startable := by
  induction es generalizing s with
  | nil => exact h
  | cons e es ih => exact ih (h.step hsound e) (hsound.step e)

/-! ### Along the way to the last state -/

/-- A move to a state before the last one leaves enough of the budget. -/
theorem Move.entryBudget_le (h : Move radio now s p newState) (hstart : s.Startable)
    (hradio : s.currentState = some .stInit → radio = true)
    (hanswer : fresh = true → stateTimeoutMs < s.timeInState now → s.Answer)
    (hold : s.currentState ≠ some .stReady) (hnew : newState ≠ .stReady) :
    period + entryBudget period newState ≤ s.currentState.elim 0 (rest period fresh) := by
  cases h with
  | initFailed hs hfailed =>
    rw [hradio hs] at hfailed
    cases hfailed
  | initInvalid hs hid hvalid => exact absurd ⟨hstart.init hs, hid⟩ hvalid
  | initDone stored hs =>
    rw [hs, Option.elim_some, rest, entryBudget]
    omega
  | parentFound hs =>
    rw [hs, Option.elim_some, rest, entryBudget]
    split <;> omega
  | parentAgain hs htime hparent =>
    rw [hs, Option.elim_some, rest, entryBudget]
    cases fresh with
    | true => exact absurd hparent ((hanswer rfl htime).1 hs)
    | false => simp only [Bool.false_eq_true, if_false]; omega
  | parentFailed hs htime hparent =>
    rw [hs, Option.elim_some, rest, entryBudget]
    cases fresh with
    | true => exact absurd hparent ((hanswer rfl htime).1 hs)
    | false => simp only [Bool.false_eq_true, if_false]; omega
  | idKnown hs =>
    rw [hs, Option.elim_some, rest, entryBudget]
    split <;> omega
  | idAgain hs htime hid =>
    rw [hs, Option.elim_some, rest, entryBudget]
    cases fresh with
    | true => exact absurd hid ((hanswer rfl htime).2.1 hs)
    | false => simp only [Bool.false_eq_true, if_false]; omega
  | idFailed hs htime hid =>
    rw [hs, Option.elim_some, rest, entryBudget]
    cases fresh with
    | true => exact absurd hid ((hanswer rfl htime).2.1 hs)
    | false => simp only [Bool.false_eq_true, if_false]; omega
  | uplinkChecked distance hs => exact absurd rfl hnew
  | uplinkAgain hs htime hping =>
    rw [hs, Option.elim_some, rest, entryBudget]
    cases fresh with
    | true => exact absurd hping ((hanswer rfl htime).2.2 hs)
    | false => simp only [Bool.false_eq_true, if_false]; omega
  | uplinkFailed hs htime hping =>
    rw [hs, Option.elim_some, rest, entryBudget]
    cases fresh with
    | true => exact absurd hping ((hanswer rfl htime).2.2 hs)
    | false => simp only [Bool.false_eq_true, if_false]; omega
  | readyLost hs => exact absurd hs hold
  | failureOver hs =>
    rw [hs, Option.elim_some, rest, entryBudget]
    omega

theorem stayed (hnext : s.next radio now = none) (hstarted : s.currentState ≠ none)
    (hold : s.currentState ≠ some .stReady) : s.timeInState now ≤ s.limit := by
  unfold next at hnext
  unfold limit
  split at hnext
  · rename_i hs
    exact absurd hs hstarted
  · cases hnext
  · rename_i hs
    rw [hs]
    unfold stParentUpdate at hnext
    split at hnext
    · split at hnext
      · cases hnext
      · split at hnext <;> cases hnext
    · rename_i htime
      exact not_lt.mp fun hlt => htime (.inl hlt)
  · rename_i hs
    rw [hs]
    unfold stIDUpdate at hnext
    split at hnext
    · cases hnext
    · split at hnext
      · split at hnext <;> cases hnext
      · rename_i htime
        exact not_lt.mp htime
  · rename_i hs
    rw [hs]
    unfold stUplinkUpdate at hnext
    split at hnext
    · cases hnext
    · split at hnext
      · split at hnext <;> cases hnext
      · rename_i htime
        exact not_lt.mp htime
  · rename_i hs
    exact absurd hs hold
  · rename_i hs
    rw [hs]
    unfold stFailureUpdate at hnext
    split at hnext
    · cases hnext
    · rename_i htime
      exact not_lt.mp htime

/-- While the node does not become ready, its updates stay within the budget. -/
theorem updateTimes_le_budget (hsound : s.Sound) (hstart : s.Startable) (hpresenting : s.presenting = 0)
    (hperiod : 60000 + period < 2 ^ 32) (hbegan : began ≤ c) (hended : c ≤ ended)
    (hclock : s.timeInState c + period < 2 ^ 32) (hpolled : Polled period began ended es)
    (hanswered : Answered fresh s es) (hnever : ∀ k, (s.run (es.take k)).1.ready = false) :
    ∀ r ∈ updateTimes es, r ≤ c + s.budget period fresh c := by
  induction es generalizing s began ended c fresh with
  | nil => intro r hr; cases hr
  | cons e es ih =>
    have hold : s.currentState ≠ some .stReady := by
      intro hs
      exact absurd (hsound.ready_iff.mpr hs) (by rw [show s.ready = false from hnever 0]; decide)
    have htail : ∀ k, ((s.step e).1.run (es.take k)).1.ready = false := fun k => hnever (k + 1)
    have hnext := hsound.step e
    have hgo := hstart.step hsound e
    cases e with
    | update ok radio now entered =>
      obtain ⟨⟨hafter, hnow⟩, ⟨hentered, hlong⟩, hpolled⟩ := hpolled
      obtain ⟨hradio, hanswer, hanswered⟩ := hanswered
      have hadd : s.timeInState now = s.timeInState c + (now - c) :=
        timeInState_add hstart.clock (by omega) (by omega)
      have hlimit := limit_le s
      intro r hr
      rcases List.mem_cons.mp hr with rfl | hr
      · unfold budget
        omega
      · cases hmove : s.next radio now with
        | none =>
          have hsame : s.updateSM ok radio now entered = (s, []) := by rw [TransportSM.updateSM, hmove]
          have hstay := stayed hmove hstart.started hold
          rw [hmove, Option.isSome_none, Bool.or_false, hsame] at hanswered
          dsimp only [step] at htail
          rw [hsame] at htail
          have hlater := ih hsound hstart hpresenting (c := now) le_rfl hentered (by omega) hpolled hanswered
            htail r hr
          unfold budget at hlater ⊢
          omega
        | some prepared =>
          obtain ⟨p, newState⟩ := prepared
          have hto : s.updateSM ok radio now entered = p.switchSM ok now entered newState := by
            rw [TransportSM.updateSM, hmove]
          have hmoved := move_of_next hsound.preferred hmove
          obtain ⟨henter, hstate⟩ := @stateEnter_switchSM ok now entered p newState
          dsimp only [step] at htail hnext hgo
          rw [hto] at htail hnext hgo
          have hnew : newState ≠ .stReady := by
            rintro rfl
            have hready := hnext.ready_iff.mpr hstate
            rw [show (p.switchSM ok now entered .stReady).1.ready = false from htail 0] at hready
            cases hready
          have hkeep : (p.switchSM ok now entered newState).1.presenting = 0 := by
            rw [(@kept_switchSM ok now entered p newState).2.2 hnew, (hmoved.stored hstart).2, hpresenting]
          rw [hmove, Option.isSome_some, Bool.or_true, hto] at hanswered
          have hzero := timeInState_eq_zero henter
          have hlater := ih hnext hgo hkeep (c := entered) hentered le_rfl (by omega) hpolled hanswered
            htail r hr
          have hentry := @budget_le_entry _ entered period newState hstate henter
          have hspent := @Move.entryBudget_le s p radio fresh now period newState hmoved hstart hradio
            hanswer hold hnew
          unfold budget at hlater hentry ⊢
          omega
    | message ok payloadLength message =>
      have hsame : (s.step (.message ok payloadLength message)).1.budget period fresh c =
          s.budget period fresh c ∧ (s.step (.message ok payloadLength message)).1.presenting = 0 ∧
          (s.step (.message ok payloadLength message)).1.timeInState c = s.timeInState c := by
        dsimp only [step]
        split
        · refine ⟨budget_performAll _, (performAll_failureCounter _).2.trans hpresenting, ?_⟩
          unfold timeInState
          rw [(performAll_clock _).2]
        · exact ⟨rfl, hpresenting, rfl⟩
      rw [← hsame.1]
      exact ih hnext hgo hsame.2.1 hbegan hended (by rw [hsame.2.2]; exact hclock) hpolled hanswered htail
    | send ok message =>
      have htime : (s.step (.send ok message)).1.timeInState c = s.timeInState c := by
        unfold timeInState
        rw [show (s.step (.send ok message)).1.stateEnter = s.stateEnter from (performAll_clock _).2]
      rw [← budget_performAll (s.sendRoute message)]
      exact ih hnext hgo ((performAll_failureCounter _).2.trans hpresenting) hbegan hended
        (by rw [← htime] at hclock; exact hclock) hpolled hanswered htail
    | presented now =>
      have hsame : (s.step (.presented now)).1 = s := by
        dsimp only [step]
        rw [hpresenting, if_neg (lt_irrefl 0)]
      rw [hsame] at htail
      have hanswered : Answered fresh (s.step (.presented now)).1 es := hanswered
      rw [hsame] at hanswered
      exact ih hsound hstart hpresenting hbegan hended hclock hpolled hanswered htail

theorem startable_powerUp {stored : StoredConfig} (hstored : stored.nodeId ≠ gatewayAddress) (start : ℕ) :
    (powerUp stored start).Startable :=
  Startable.switchSM hstored _ _ _ _

/-- Whatever has happened to a node that has not stored the gateway's id as its own, is not presenting
itself and whose clock does not wrap within its state: when from some time on its radio starts and its
requests are answered in time, it becomes ready, after little more than a minute. -/
theorem becomes_ready (stored : StoredConfig) (start : ℕ) (before es : List TransportEvent)
    (hstored : stored.nodeId ≠ gatewayAddress)
    (hpresenting : ((powerUp stored start).run before).1.presenting = 0)
    (hperiod : 60000 + period < 2 ^ 32)
    (hclock : ((powerUp stored start).run before).1.timeInState c + period < 2 ^ 32)
    (hpolled : Polled period c c es) (hanswered : Answered false ((powerUp stored start).run before).1 es)
    (hlong : ∃ r ∈ updateTimes es, c + 68000 + 11 * period < r) :
    ∃ k, (((powerUp stored start).run before).1.run (es.take k)).1.ready = true := by
  by_contra hnone
  have hnever : ∀ k, (((powerUp stored start).run before).1.run (es.take k)).1.ready = false := by
    intro k
    rw [← Bool.not_eq_true]
    exact fun hready => hnone ⟨k, hready⟩
  obtain ⟨r, hr, hlate⟩ := hlong
  have hsound := (sound_powerUp stored start).run before
  have hgo := (startable_powerUp hstored start).run (sound_powerUp stored start) before
  have hwithin := updateTimes_le_budget hsound hgo hpresenting hperiod le_rfl le_rfl hclock hpolled
    hanswered hnever r hr
  have hbudget := @budget_le false c period ((powerUp stored start).run before).1
  omega

/-- Nobody answers a new node. -/
def unanswered : List TransportEvent :=
  (List.range 8).map fun i => .update (fun _ => true) true (3000 * i) (3000 * i)

/-- The gateway takes the node in: it answers as its parent, gives it the id 7 and returns the
ping. -/
def takenIn : List TransportEvent :=
  let fromGateway (destination type value : Byte) : TransportEvent :=
    .message (fun _ => true) 8#8
      ((build (.registered gatewayAddress) destination nodeSensorId cInternal type).setByte value)
  let updateAt (now : ℕ) : TransportEvent := .update (fun _ => true) true now now
  [updateAt 100000, updateAt 200000, fromGateway 255#8 iFindParentResponse 0#8, updateAt 300000,
    fromGateway 255#8 iIdResponse 7#8, updateAt 400000, fromGateway 7#8 iPong 1#8] ++
    (List.range 12).map fun i => updateAt (500000 + 100000 * i)

/-- A node that has given up looking for a parent. -/
theorem becomes_ready_takenIn :
    ((powerUp ⟨255#8, 255#8, 255#8⟩ 0).run unanswered).1.currentState = some .stFailure ∧
    ∃ k, (((powerUp ⟨255#8, 255#8, 255#8⟩ 0).run unanswered).1.run (takenIn.take k)).1.ready = true := by
  refine ⟨by decide +kernel, @becomes_ready 21000 100000 _ 0 unanswered takenIn (by decide)
    (by decide +kernel) (by decide) (by decide +kernel) ?_ (by decide +kernel) ⟨1600000, ?_, by decide⟩⟩
  · simp [takenIn, Polled, List.range, List.range.loop]
  · simp [takenIn, updateTimes, List.range, List.range.loop]

end TransportSM

end MySensors
