import HomeConfig.MySensors.StateMachine

/-! How often a node may ask for a parent, an id or the gateway: a request is left alone for more than
two seconds before it is repeated, whatever happens in between. -/
namespace MySensors

open Arduino

def Output.asks (type : Byte) : Output → Bool
  | .air _ message => message.type = type
  | .core _ => false

namespace TransportSM

variable {s p : TransportSM} {ok : MyMessage → Bool} {radio : Bool} {now entered c since t : ℕ}
  {es : List TransportEvent} {state newState : TransportState} {type route : Byte}
  {message m : MyMessage}

/-- The clock runs forward along the events; `c` is where it stands. -/
def Forward : ℕ → List TransportEvent → Prop
  | _, [] => True
  | c, .update _ _ now entered :: es => c ≤ now ∧ now ≤ entered ∧ Forward entered es
  | c, .presented now :: es => c ≤ now ∧ Forward now es
  | c, .message _ _ _ :: es => Forward c es
  | c, .send _ _ :: es => Forward c es

/-- When the updates began and returned that put a request of this type on the air. -/
def requestTimes (type : Byte) : TransportSM → List TransportEvent → List (ℕ × ℕ)
  | _, [] => []
  | s, .update ok radio now entered :: es =>
    (if (s.updateSM ok radio now entered).2.any (Output.asks type) then [(now, entered)] else []) ++
      requestTimes type (s.updateSM ok radio now entered).1 es
  | s, e :: es => requestTimes type (s.step e).1 es

/-- The request that a state begins with. -/
def requestType : TransportState → Option Byte
  | .stParent => some iFindParentRequest
  | .stID => some iIdRequest
  | .stUplink => some iPing
  | _ => none

theorem type_of_mem_route (h : Output.air route message ∈ (s.route ok m).2) :
    message.type = m.type := by
  rw [route_snd] at h
  split at h
  · cases h
  · cases List.mem_singleton.mp h
    rfl

theorem requestType_of_mem (h : Output.air route message ∈ (p.switchSM ok now entered newState).2) :
    requestType newState = some message.type := by
  cases newState with
  | stInit => cases h
  | stReady => cases h
  | stFailure => cases h
  | stParent => exact congrArg some (type_of_mem_route h).symm
  | stID =>
    dsimp only [switchSM, transition, stIDTransition] at h
    split at h
    · exact congrArg some (type_of_mem_route h).symm
    · cases h
  | stUplink => exact congrArg some (type_of_mem_route h).symm

theorem requestType_of_asks (h : (s.updateSM ok radio now entered).2.any (Output.asks type) = true) :
    ∃ p newState, s.next radio now = some (p, newState) ∧ requestType newState = some type := by
  unfold updateSM at h
  split at h
  · cases h
  · rename_i p newState hnext
    obtain ⟨o, ho, hasks⟩ := List.any_eq_true.mp h
    cases o with
    | air route message =>
      have htype : message.type = type := of_decide_eq_true hasks
      exact ⟨p, newState, hnext, htype ▸ requestType_of_mem ho⟩
    | core work => cases hasks

/-! ### The clock of a state -/

theorem timeInState_le (henter : s.stateEnter = hwMillis t) (ht : t ≤ now) :
    s.timeInState now ≤ now - t := by
  unfold timeInState hwMillis at *
  rw [henter]
  omega

theorem stateEnter_switchSM (p : TransportSM) (newState : TransportState) :
    (p.switchSM ok now entered newState).1.stateEnter = hwMillis entered ∧
      (p.switchSM ok now entered newState).1.currentState = some newState := by
  cases newState with
  | stInit =>
    obtain ⟨n, -, hto⟩ := @switchSM_stInit ok now entered p
    rw [hto]
    exact ⟨rfl, rfl⟩
  | stParent =>
    obtain ⟨n, k, -, hto⟩ := @switchSM_stParent ok now entered p
    rw [hto]
    exact ⟨rfl, rfl⟩
  | stID =>
    obtain ⟨n, k, token, -, hto⟩ := @switchSM_stID ok now entered p
    rw [hto]
    exact ⟨rfl, rfl⟩
  | stUplink =>
    obtain ⟨n, k, -, hto⟩ := @switchSM_stUplink ok now entered p
    rw [hto]
    exact ⟨rfl, rfl⟩
  | stReady =>
    obtain ⟨n, -, hto⟩ := @switchSM_stReady ok now entered p
    rw [hto]
    exact ⟨rfl, rfl⟩
  | stFailure =>
    obtain ⟨n, -, hto⟩ := @switchSM_stFailure ok now entered p
    rw [hto]
    exact ⟨rfl, rfl⟩

theorem performAll_clock (ds : List Dispatch) :
    (s.performAll ok ds).1.currentState = s.currentState ∧
      (s.performAll ok ds).1.stateEnter = s.stateEnter := by
  induction ds generalizing s with
  | nil => exact ⟨rfl, rfl⟩
  | cons d ds ih =>
    obtain ⟨-, hstate, henter, -⟩ := @perform_fst_finding s ok d
    obtain ⟨hstate', henter'⟩ := @ih (s.perform ok d).1
    exact ⟨hstate'.trans hstate, henter'.trans henter⟩

/-! ### Moves that take their time -/

/-- The moves that may follow at once. -/
def Quick : TransportState → TransportState → Prop
  | .stInit, .stParent => True
  | .stInit, .stFailure => True
  | .stID, .stUplink => True
  | .stUplink, .stReady => True
  | .stReady, .stParent => True
  | _, _ => False

theorem Move.quick_or_slow (h : Move radio now s p newState) :
    (∃ state, s.currentState = some state ∧ Quick state newState) ∨
      stateTimeoutMs < s.timeInState now := by
  cases h with
  | initFailed hs => exact .inl ⟨_, hs, trivial⟩
  | initInvalid hs => exact .inl ⟨_, hs, trivial⟩
  | initDone stored hs => exact .inl ⟨_, hs, trivial⟩
  | parentFound hs htime => exact .inr htime
  | parentAgain hs htime => exact .inr htime
  | parentFailed hs htime => exact .inr htime
  | idKnown hs => exact .inl ⟨_, hs, trivial⟩
  | idAgain hs htime => exact .inr htime
  | idFailed hs htime => exact .inr htime
  | uplinkChecked distance hs => exact .inl ⟨_, hs, trivial⟩
  | uplinkAgain hs htime => exact .inr htime
  | uplinkFailed hs htime => exact .inr htime
  | readyLost hs => exact .inl ⟨_, hs, trivial⟩
  | failureOver hs htime =>
    have hlong : stateTimeoutMs ≤ s.failureTimeout := by
      unfold failureTimeout
      split <;> decide
    exact .inr (hlong.trans_lt htime)

/-- The states that can be reached without waiting after a request has been sent. -/
def behind : TransportState → List TransportState
  | .stParent => [.stParent]
  | .stID => [.stID, .stUplink, .stReady, .stParent]
  | .stUplink => [.stUplink, .stReady, .stParent]
  | _ => []

theorem behind_quick (hstate : requestType state ≠ none) {a b : TransportState}
    (ha : a ∈ behind state) (hquick : Quick a b) : b ∈ behind state ∧ b ≠ state := by
  cases state <;> cases a <;> cases b <;>
    first
    | exact absurd rfl hstate
    | exact hquick.elim
    | exact absurd ha (by decide)
    | decide

/-- A request of `state` was sent at `since`: the clock of the present state has been started after
that, and the request has been given its time or is still waited for. -/
structure Asked (state : TransportState) (since c : ℕ) (s : TransportSM) : Prop where
  clock : ∃ t, since ≤ t ∧ t ≤ c ∧ s.stateEnter = hwMillis t
  waited : since + stateTimeoutMs < c ∨ ∃ a ∈ behind state, s.currentState = some a

theorem Asked.later (h : Asked state since c s) (hc : c ≤ now) : Asked state since now s := by
  obtain ⟨t, hsince, ht, henter⟩ := h.clock
  exact ⟨⟨t, hsince, ht.trans hc, henter⟩, h.waited.imp_left fun hw => hw.trans_le hc⟩

theorem Asked.slow (h : Asked state since now s) (hslow : stateTimeoutMs < s.timeInState now) :
    since + stateTimeoutMs < now := by
  obtain ⟨t, hsince, ht, henter⟩ := h.clock
  have hle := timeInState_le henter ht
  omega

/-- The next request of the same kind comes late, and every other update keeps the invariant. -/
theorem Asked.updateSM (h : Asked state since now s) (hsound : s.Sound)
    (hstate : requestType state ≠ none) (hentered : now ≤ entered) :
    Asked state since entered (s.updateSM ok radio now entered).1 ∧
      ∀ p, s.next radio now = some (p, state) → since + stateTimeoutMs < now := by
  unfold TransportSM.updateSM
  split
  · rename_i hnext
    refine ⟨h.later hentered, fun p hp => ?_⟩
    rw [hp] at hnext
    cases hnext
  · rename_i p newState hnext
    have hmove := move_of_next hsound.preferred hnext
    obtain ⟨henter, hto⟩ := @stateEnter_switchSM ok now entered p newState
    obtain ⟨t, hsince, ht, -⟩ := h.clock
    have hclock : ∃ t, since ≤ t ∧ t ≤ entered ∧
        (p.switchSM ok now entered newState).1.stateEnter = hwMillis t :=
      ⟨entered, by omega, le_rfl, henter⟩
    rcases hmove.quick_or_slow with ⟨a, ha, hquick⟩ | hslow
    · rcases h.waited with hwaited | ⟨b, hb, hsb⟩
      · exact ⟨⟨hclock, .inl (by omega)⟩, fun _ _ => hwaited⟩
      · obtain rfl : a = b := Option.some.inj (ha.symm.trans hsb)
        obtain ⟨hmem, hne⟩ := behind_quick hstate hb hquick
        refine ⟨⟨hclock, .inr ⟨newState, hmem, hto⟩⟩, fun q hq => ?_⟩
        rw [hnext] at hq
        cases hq
        exact absurd rfl hne
    · have hlate := h.slow hslow
      exact ⟨⟨hclock, .inl (by omega)⟩, fun _ _ => hlate⟩

theorem Asked.performAll (h : Asked state since c s) (ds : List Dispatch) :
    Asked state since c (s.performAll ok ds).1 := by
  obtain ⟨hstate, henter⟩ := @performAll_clock s ok ds
  refine ⟨?_, ?_⟩
  · rw [henter]
    exact h.clock
  · rw [hstate]
    exact h.waited

theorem Asked.presented (h : Asked state since now s) :
    Asked state since now (s.step (.presented now)).1 := by
  obtain ⟨t, hsince, ht, -⟩ := h.clock
  dsimp only [step]
  split
  · exact ⟨⟨now, by omega, le_rfl, rfl⟩, h.waited⟩
  · exact h

theorem requestType_injective (h : requestType state = some type)
    (h' : requestType newState = some type) : state = newState := by
  have hall : ∀ a b : TransportState, requestType a ≠ none → requestType a = requestType b → a = b := by
    intro a b ha hab
    cases a <;> cases b <;>
      first
      | rfl
      | exact absurd rfl ha
      | exact absurd hab (by decide)
  exact hall state newState (by rw [h]; exact Option.some_ne_none _) (h.trans h'.symm)

theorem Asked.requests (h : Asked state since c s) (hsound : s.Sound)
    (htype : requestType state = some type) (hforward : Forward c es) :
    ∀ r ∈ requestTimes type s es, since + stateTimeoutMs < r.1 := by
  have hstate : requestType state ≠ none := by
    rw [htype]
    exact Option.some_ne_none _
  induction es generalizing s c with
  | nil => intro r hr; cases hr
  | cons e es ih =>
    cases e with
    | update ok radio now entered =>
      obtain ⟨hnow, hentered, hforward⟩ := hforward
      obtain ⟨hkept, hlate⟩ := @Asked.updateSM s ok radio now entered since state (h.later hnow)
        hsound hstate hentered
      intro r hr
      rcases List.mem_append.mp hr with hr | hr
      · split at hr
        · rename_i hasks
          obtain ⟨p, newState, hnext, hnew⟩ := requestType_of_asks hasks
          obtain rfl := requestType_injective htype hnew
          obtain rfl := List.mem_singleton.mp hr
          exact hlate p hnext
        · cases hr
      · exact ih hkept (hsound.updateSM ok radio now entered) hforward r hr
    | message ok payloadLength message =>
      refine ih ?_ (hsound.step _) hforward
      dsimp only [step]
      split
      · exact h.performAll _
      · exact h
    | send ok message => exact ih (h.performAll _) (hsound.step _) hforward
    | presented now => exact ih (h.later hforward.1).presented (hsound.step _) hforward.2

theorem Sound.requests_spaced (hsound : s.Sound) (htype : requestType state = some type)
    (hforward : Forward c es) :
    (requestTimes type s es).Pairwise fun a b => a.2 + stateTimeoutMs < b.1 := by
  induction es generalizing s c with
  | nil => exact List.Pairwise.nil
  | cons e es ih =>
    cases e with
    | update ok radio now entered =>
      obtain ⟨hnow, hentered, hforward⟩ := hforward
      have hnext := hsound.updateSM ok radio now entered
      refine List.pairwise_append.mpr ⟨?_, ih hnext hforward, ?_⟩
      · split
        · exact List.pairwise_singleton _ _
        · exact List.Pairwise.nil
      · intro a ha b hb
        split at ha
        · rename_i hasks
          obtain rfl := List.mem_singleton.mp ha
          obtain ⟨p, newState, hsome, hnew⟩ := requestType_of_asks hasks
          obtain rfl := requestType_injective htype hnew
          obtain ⟨henter, hto⟩ := @stateEnter_switchSM ok now entered p state
          have hupdate : s.updateSM ok radio now entered = p.switchSM ok now entered state := by
            rw [TransportSM.updateSM, hsome]
          rw [hupdate] at hb hnext
          have hself : state ∈ behind state := by
            cases state <;> first | decide | cases htype
          have hasked : Asked state entered entered (p.switchSM ok now entered state).1 :=
            ⟨⟨entered, le_rfl, le_rfl, henter⟩, .inr ⟨state, hself, hto⟩⟩
          exact hasked.requests hnext htype hforward b hb
        · cases ha
    | message ok payloadLength message => exact ih (hsound.step _) hforward
    | send ok message => exact ih (hsound.step _) hforward
    | presented now => exact ih (hsound.step _) hforward.2

/-- However the node is answered, however often its transport is updated, and whenever its radio
fails: a request is repeated only when more than two seconds have gone by. -/
theorem requests_apart (stored : StoredConfig) (start : ℕ) (es : List TransportEvent)
    (hforward : Forward start es) (state : TransportState) (htype : requestType state = some type) :
    (requestTimes type (powerUp stored start) es).Pairwise fun a b => a.2 + stateTimeoutMs < b.1 :=
  (sound_powerUp stored start).requests_spaced htype hforward

/-- A node that nobody answers and whose transport is updated every half second. -/
theorem requests_apart_silence :
    requestTimes iFindParentRequest (powerUp ⟨255#8, 255#8, 255#8⟩ 0)
      ((List.range 12).map fun i => .update (fun _ => false) true (500 * i) (500 * i)) =
        [(0, 0), (2500, 2500), (5000, 5000)] ∧
    (requestTimes iFindParentRequest (powerUp ⟨255#8, 255#8, 255#8⟩ 0)
      ((List.range 12).map fun i => .update (fun _ => false) true (500 * i) (500 * i))).Pairwise
        fun a b => a.2 + stateTimeoutMs < b.1 := by
  refine ⟨by decide +kernel, requests_apart _ _ _ ?_ .stParent rfl⟩
  simp [List.range, List.range.loop, Forward]

end TransportSM

end MySensors
