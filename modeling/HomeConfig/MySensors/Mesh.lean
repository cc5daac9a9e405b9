import HomeConfig.MySensors.Router
import HomeConfig.Library.TreeRouting

/-! The messages of the network are the packets of a routed tree: a node learns and routes as the tree
does, and each step of the network is one of the tree's. -/
namespace MySensors

open Arduino TreeRouting

namespace MyMessage

variable {m : MyMessage}

theorem getByte_setByte (value : Byte) : (m.setByte value).getByte = value := by
  have hp : (m.setByte value).getPayloadType = pByte := getPayloadType_write (by decide) _ _
  unfold getByte
  rw [if_pos hp]
  rfl

end MyMessage

def CountsHops (message : MyMessage) : Prop :=
  message.getCommand = cInternal ∧ (message.type = iPing ∨ message.type = iPong)

instance (message : MyMessage) : Decidable (CountsHops message) := inferInstanceAs (Decidable (_ ∧ _))

/-- What has become of a message after some hops: only its last hop changes on the way, and the counter
of a ping or a pong. -/
structure Carried (hops : ℕ) (m m' : MyMessage) : Prop where
  sender : m'.sender = m.sender
  destination : m'.destination = m.destination
  sensor : m'.sensor = m.sensor
  type : m'.type = m.type
  command : m'.getCommand = m.getCommand
  ack : m'.isAck = m.isAck
  version : m'.getVersion = m.getVersion
  content : ¬ CountsHops m → m' = { m with last := m'.last }
  counter : CountsHops m → m.getByte ≤ maxHops →
    m'.getByte.toNat = min maxHops.toNat (m.getByte.toNat + hops)

theorem carried_last (m : MyMessage) (last : Byte) : Carried 0 m { m with last := last } := by
  refine ⟨rfl, rfl, rfl, rfl, rfl, rfl, rfl, fun _ => rfl, fun _ hle => ?_⟩
  have hle := BitVec.le_def.mp hle
  have hsame : ({ m with last := last } : MyMessage).getByte = m.getByte := rfl
  rw [hsame]
  omega

theorem carried_countHop (m : MyMessage) : Carried 1 m (countHop m) := by
  unfold countHop
  split
  · rename_i h
    refine ⟨rfl, rfl, rfl, rfl, MyMessage.getCommand_write _ _ _, MyMessage.isAck_write _ _ _,
      MyMessage.getVersion_write _ _ _, fun hno => absurd ⟨h.1, h.2.1⟩ hno, fun _ hle => ?_⟩
    have hle := BitVec.le_def.mp hle
    have hne : m.getByte.toNat ≠ maxHops.toNat := fun heq => h.2.2 (BitVec.eq_of_toNat_eq heq)
    have hmax : maxHops.toNat = 254 := rfl
    have hone : BitVec.toNat (1 : Byte) = 1 := rfl
    rw [MyMessage.getByte_setByte, BitVec.toNat_add, hone]
    omega
  · rename_i h
    refine ⟨rfl, rfl, rfl, rfl, rfl, rfl, rfl, fun _ => rfl, fun hcounts hle => ?_⟩
    have hmax : m.getByte = maxHops := by
      by_contra hne
      exact h ⟨hcounts.1, hcounts.2, hne⟩
    rw [hmax]
    omega

theorem Carried.trans {m₁ m₂ m₃ : MyMessage} {k l : ℕ} (h : Carried k m₁ m₂) (h' : Carried l m₂ m₃) :
    Carried (k + l) m₁ m₃ := by
  have hcounts : CountsHops m₂ ↔ CountsHops m₁ := by
    unfold CountsHops
    rw [h.command, h.type]
  refine ⟨h'.sender.trans h.sender, h'.destination.trans h.destination, h'.sensor.trans h.sensor,
    h'.type.trans h.type, h'.command.trans h.command, h'.ack.trans h.ack,
    h'.version.trans h.version, fun hno => ?_, fun hyes hle => ?_⟩
  · have h₂ := h.content hno
    have h₃ := h'.content (mt hcounts.mp hno)
    rw [h₂] at h₃
    exact h₃
  · have h₂ := h.counter hyes hle
    have hle₂ : m₂.getByte ≤ maxHops := BitVec.le_def.mpr (by omega)
    have h₃ := h'.counter (hcounts.mpr hyes) hle₂
    omega

theorem last_countHop (m : MyMessage) : (countHop m).last = m.last := by
  unfold countHop
  split <;> rfl

/-- What goes on the air is as long as the receiver expects it. -/
theorem onAirLength_eq (m : MyMessage) : onAirLength m = Transport.expectedMessageLength m := by
  unfold onAirLength Transport.expectedMessageLength Transport.messageLength
  simp only [maxMessageLength, headerSize, maxPayload]
  split <;> omega

/-! ### The tree and its packets -/

def tree (net : Layout) : TreeRouting.Tree Byte :=
  ⟨gatewayAddress, net.parentNodeId, net.distanceGW, net.distance_parent⟩

def tableOf (routes : Byte → Byte → Byte) : Table Byte :=
  fun n x => if routes n x = auto then none else some (routes n x)

def Flight.packet (f : Flight) : Packet Byte :=
  ⟨f.serial, f.message.sender, f.message.destination, f.message.last, f.route, f.hops⟩

def Mesh.abstract (s : Mesh) : Net Byte :=
  ⟨tableOf s.routes, s.air.map Flight.packet, s.sent.map fun m => (m.sender, m.destination),
    s.delivered.map fun d => (d.serial, d.node), s.lost⟩

variable {net : Layout} {routes : Byte → Byte → Byte} {role : Role} {n x y : Byte} {m : MyMessage}
  {f : Flight} {s t : Mesh} {e : MeshEvent}

theorem tableOf_eq_none : tableOf routes n x = none ↔ routes n x = auto := by
  unfold tableOf
  split <;> simp_all

theorem tableOf_eq_some : tableOf routes n x = some y ↔ routes n x = y ∧ y ≠ auto := by
  unfold tableOf
  split
  · rename_i h
    simp only [reduceCtorEq, false_iff, not_and, not_not]
    intro hy
    exact hy ▸ h
  · rename_i h
    rw [Option.some.injEq]
    constructor
    · rintro rfl
      exact ⟨rfl, h⟩
    · exact And.left

theorem isSome_tableOf : (tableOf routes n x).isSome = true ↔ routes n x ≠ auto := by
  rw [ne_eq, ← tableOf_eq_none, Option.isSome_iff_ne_none]

/-- The router of a node that is ready. -/
def Layout.router (net : Layout) (routes : Byte → Byte → Byte) (role : Role) (n : Byte) : Router :=
  ⟨role, n, net.parentNodeId n, true, false, routes n⟩

theorem gateway_of_role (h : net.role n = some .gateway) : n = gatewayAddress :=
  (net.gateway_iff n).mp h

theorem ne_auto_of_role (h : net.role n ≠ none) : n ≠ auto := by
  rintro rfl
  exact h net.broadcast_free

theorem ne_gateway_of_role (h : net.role n = some role) (hne : role ≠ .gateway) : n ≠ gatewayAddress := by
  intro hn
  rw [(net.gateway_iff n).mpr hn] at h
  exact hne (Option.some.inj h).symm

/-- A sensor passes nothing on. -/
theorem not_passing (hrole : net.role n = some .sensor) :
    ¬ (net.role n = some .gateway ∨ net.role n = some .repeater) := by
  rw [hrole]
  decide

/-- A sensor has no children. -/
theorem last_of_sensor (hlast : net.role x ≠ none) (hears : Mesh.Hears net x n)
    (hrole : net.role n = some .sensor) : x = net.parentNodeId n := by
  rcases hears with ⟨-, rfl⟩ | ⟨-, hparent⟩
  · exact absurd (net.parent_passes x hlast) (not_passing hrole)
  · exact hparent.symm

/-! ### Routing and learning are those of the tree -/

theorem onward_routeOf (hrole : net.role n = some role) (hpasses : role ≠ .sensor)
    (hself : m.destination ≠ n) (hnot : m.destination ≠ broadcastAddress) :
    Onward (tree net) (tableOf routes) n m.destination m.last
      ((net.router routes role n).routeOf m) := by
  unfold Router.routeOf Layout.router
  by_cases hgw : m.destination = gatewayAddress
  · rw [if_pos hgw]
    refine .up ?_ (.inl hgw)
    intro hn
    exact hself (hgw.trans hn.symm)
  · rw [if_neg hgw, if_neg hnot]
    cases hknown : tableOf routes n m.destination with
    | some c =>
      obtain ⟨hroute, hc⟩ := tableOf_eq_some.mp hknown
      cases role with
      | sensor => exact absurd rfl hpasses
      | repeater =>
        simp only [Router.transportGetRoute, hroute, if_neg hc]
        exact .down hgw hknown
      | gateway =>
        simp only [Router.transportGetRoute, hroute, if_neg hc]
        exact .down hgw hknown
    | none =>
      have hroute := tableOf_eq_none.mp hknown
      cases role with
      | sensor => exact absurd rfl hpasses
      | repeater =>
        have hn := ne_gateway_of_role hrole (by decide)
        simp only [Router.transportGetRoute, hroute]
        by_cases hback : m.last = net.parentNodeId n
        · rw [if_pos trivial, if_neg (not_not.mpr hback)]
          exact .direct hgw hknown (.inr hback)
        · rw [if_pos trivial, if_pos hback]
          exact .up hn (.inr ⟨hknown, hback⟩)
      | gateway =>
        simp only [Router.transportGetRoute, hroute]
        exact .direct hgw hknown (.inl (gateway_of_role hrole))

/-- A sensor sends everything to its parent. -/
theorem onward_sensor (hrole : net.role n = some .sensor) (hnone : ∀ x, routes n x = auto)
    (hnot : m.destination ≠ broadcastAddress) :
    Onward (tree net) (tableOf routes) n m.destination n
      ((net.router routes .sensor n).routeOf m) := by
  have hn := ne_gateway_of_role hrole (by decide)
  have hroute : (net.router routes .sensor n).routeOf m = net.parentNodeId n := by
    unfold Router.routeOf Layout.router
    by_cases hgw : m.destination = gatewayAddress
    · rw [if_pos hgw]
    · rw [if_neg hgw, if_neg hnot]
  rw [hroute]
  refine .up hn (.inr ⟨tableOf_eq_none.mpr (hnone _), ?_⟩)
  intro hself
  have hlt := net.distance_parent n hn
  have heq : net.distanceGW (net.parentNodeId n) = net.distanceGW n := congrArg net.distanceGW hself.symm
  omega

theorem tableOf_update {route : Byte} (hroute : route ≠ auto) :
    tableOf (Function.update routes n (Function.update (routes n) x route)) =
      Function.update (tableOf routes) n (Function.update (tableOf routes n) x (some route)) := by
  funext k y
  by_cases hk : k = n
  · subst hk
    by_cases hy : y = x
    · subst hy
      simp [tableOf, hroute]
    · simp [tableOf, hy]
  · simp [tableOf, hk]

theorem tableOf_learn (hrole : net.role f.route = some role) (hlast : net.role f.message.last ≠ none)
    (hears : Mesh.Hears net f.message.last f.route) :
    tableOf (Function.update routes f.route
      ((net.router routes role f.route).learn f.message).routes) =
    TreeRouting.learn (tree net) (tableOf routes) f.packet := by
  have hauto := ne_auto_of_role hlast
  have hsame : tableOf (Function.update routes f.route (routes f.route)) = tableOf routes := by
    rw [Function.update_eq_self]
  cases role with
  | sensor =>
    have hold : ¬ (f.message.last ≠ net.parentNodeId f.route ∧ f.message.sender ≠ f.route) :=
      fun h => h.1 (last_of_sensor hlast hears hrole)
    exact hsame.trans (if_neg hold).symm
  | repeater =>
    by_cases hnew : f.message.last ≠ net.parentNodeId f.route ∧ f.message.sender ≠ f.route
    · have hlearn : (net.router routes .repeater f.route).learn f.message =
          (net.router routes .repeater f.route).transportSetRoute f.message.sender f.message.last :=
        if_pos hnew
      rw [hlearn]
      exact (tableOf_update hauto).trans (if_pos hnew).symm
    · have hlearn : (net.router routes .repeater f.route).learn f.message =
          net.router routes .repeater f.route := if_neg hnew
      rw [hlearn]
      exact hsame.trans (if_neg hnew).symm
  | gateway =>
    -- the gateway has no parent from which a message could come
    have hgw := gateway_of_role hrole
    have hback : f.message.last ≠ net.parentNodeId f.route := by
      rw [hgw, net.parent_gateway]
      rcases hears with ⟨h, -⟩ | ⟨h, -⟩
      · exact h
      · exact absurd hgw h
    by_cases hsrc : f.message.sender ≠ f.route
    · have hlearn : (net.router routes .gateway f.route).learn f.message =
          (net.router routes .gateway f.route).transportSetRoute f.message.sender f.message.last :=
        if_pos hsrc
      rw [hlearn]
      exact (tableOf_update hauto).trans (if_pos ⟨hback, hsrc⟩).symm
    · have hlearn : (net.router routes .gateway f.route).learn f.message =
          net.router routes .gateway f.route := if_neg hsrc
      rw [hlearn]
      exact hsame.trans (if_neg fun h => hsrc h.2).symm

/-! ### What a step does -/

/-- The tables after node `n` has learned from a message. -/
def learned (net : Layout) (routes : Byte → Byte → Byte) (role : Role) (n : Byte) (m : MyMessage) :
    Byte → Byte → Byte :=
  Function.update routes n ((net.router routes role n).learn m).routes

theorem learned_self : learned net routes role n m n = ((net.router routes role n).learn m).routes :=
  Function.update_self _ _ _

theorem learn_cases (net : Layout) (routes : Byte → Byte → Byte) (role : Role) (n : Byte) (m : MyMessage) :
    (net.router routes role n).learn m = net.router routes role n ∨
      role ≠ .sensor ∧ (net.router routes role n).learn m =
        (net.router routes role n).transportSetRoute m.sender m.last := by
  unfold Router.learn Layout.router
  cases role with
  | sensor => exact .inl rfl
  | repeater =>
    dsimp only
    split
    · exact .inr ⟨by decide, rfl⟩
    · exact .inl rfl
  | gateway =>
    dsimp only
    split
    · exact .inr ⟨by decide, rfl⟩
    · exact .inl rfl

theorem learn_router : (net.router routes role n).learn m =
    net.router (learned net routes role n m) role n := by
  have hrouter : net.router (learned net routes role n m) role n =
      { net.router routes role n with routes := ((net.router routes role n).learn m).routes } := by
    unfold Layout.router
    rw [learned_self]
    rfl
  rw [hrouter]
  rcases learn_cases net routes role n m with h | ⟨-, h⟩
  · rw [h]
  · rw [h]
    rfl

/-- Only the entry of the sender changes, and only at a node that passes messages on. -/
theorem learned_cases : learned net routes role n m x y = routes x y ∨
    x = n ∧ y = m.sender ∧ role ≠ .sensor := by
  by_cases hx : x = n
  · subst hx
    rw [learned_self]
    rcases learn_cases net routes role x m with h | ⟨hpasses, h⟩
    · rw [h]
      exact .inl rfl
    · rw [h]
      by_cases hy : y = m.sender
      · exact .inr ⟨rfl, hy, hpasses⟩
      · exact .inl (Function.update_of_ne hy _ _)
  · exact .inl (congrFun (Function.update_of_ne hx _ _) y)

theorem routeOf_congr {r : Router} {m' : MyMessage} (hdst : m'.destination = m.destination)
    (hlast : m'.last = m.last) : r.routeOf m' = r.routeOf m := by
  unfold Router.routeOf
  rw [hdst, hlast]

theorem processMessage_eq (hversion : m.getVersion = protocolVersion)
    (hnot : m.destination ≠ broadcastAddress) :
    (net.router routes role n).processMessage (onAirLength m) m =
      ((net.router routes role n).learn m,
        if m.destination = n then .addressed m
        else if role = .sensor then .dropped
        else .relay ((net.router (learned net routes role n m) role n).routeOf m)
          { countHop m with last := n }) := by
  have hroute : (net.router (learned net routes role n m) role n).routeOf (countHop m) =
      (net.router (learned net routes role n m) role n).routeOf m :=
    routeOf_congr (carried_countHop m).destination (last_countHop m)
  unfold Router.processMessage
  rw [if_neg (not_not.mpr (onAirLength_eq m)), if_neg (not_not.mpr hversion)]
  simp only [learn_router]
  by_cases hself : m.destination = n
  · rw [if_pos hself]
    exact if_pos hself
  · rw [if_neg hself]
    refine (if_neg hself).trans ((if_neg hnot).trans ?_)
    by_cases hsensor : role = .sensor
    · rw [if_pos hsensor]
      exact if_neg fun h => h.1 hsensor
    · have hsend : (net.router (learned net routes role n m) role n).routeMessage (countHop m) =
          some ((net.router (learned net routes role n m) role n).routeOf m,
            { countHop m with last := n }) := by
        rw [← hroute]
        exact if_neg fun h => Bool.noConfusion h.1
      rw [if_neg hsensor, hsend]
      exact if_pos ⟨hsensor, rfl⟩

/-- The ways in which the network changes. -/
inductive Change (net : Layout) (s : Mesh) : MeshEvent → Mesh → Prop
  | originate {n : Byte} {role : Role} {m : MyMessage} : net.role n = some role → Mesh.Proper n m →
      Change net s (.originate n m) { s with
        air := s.air ++ [⟨s.sent.length, (net.router s.routes role n).routeOf m,
          { m with last := n }, 0⟩]
        sent := s.sent ++ [m] }
  | deliver {i : ℕ} {f : Flight} {role : Role} : s.air[i]? = some f → net.role f.route = some role →
      Mesh.Hears net f.message.last f.route → f.message.destination = f.route →
      Change net s (.arrive i) { s with
        routes := learned net s.routes role f.route f.message
        air := s.air.eraseIdx i
        delivered := s.delivered ++ [⟨f.serial, f.route, f.message, f.hops⟩] }
  | relay {i : ℕ} {f : Flight} {role : Role} : s.air[i]? = some f → net.role f.route = some role →
      Mesh.Hears net f.message.last f.route → f.message.destination ≠ f.route → role ≠ .sensor →
      Change net s (.arrive i) { s with
        routes := learned net s.routes role f.route f.message
        air := s.air.eraseIdx i ++ [⟨f.serial,
          (net.router (learned net s.routes role f.route f.message) role f.route).routeOf f.message,
          { countHop f.message with last := f.route }, f.hops + 1⟩] }
  | strand {i : ℕ} {f : Flight} : s.air[i]? = some f → net.role f.route = some .sensor →
      Mesh.Hears net f.message.last f.route → f.message.destination ≠ f.route →
      Change net s (.arrive i) { s with air := s.air.eraseIdx i, lost := s.lost ++ [f.serial] }
  | lose {i : ℕ} {f : Flight} : s.air[i]? = some f →
      Change net s (.lose i) { s with air := s.air.eraseIdx i, lost := s.lost ++ [f.serial] }

/-- What the network keeps of a message on the air. -/
structure Airborne (net : Layout) (sent : List MyMessage) (f : Flight) : Prop where
  sender : net.role f.message.sender ≠ none
  last : net.role f.message.last ≠ none
  version : f.message.getVersion = protocolVersion
  addressed : f.message.destination ≠ broadcastAddress
  letter : ∃ m, sent[f.serial]? = some m ∧ Carried f.hops m f.message

structure Kept (net : Layout) (s : Mesh) : Prop where
  tables : ∀ n x, s.routes n x ≠ auto →
    net.role x ≠ none ∧ (net.role n = some .gateway ∨ net.role n = some .repeater)
  air : ∀ f ∈ s.air, Airborne net s.sent f
  arrived : ∀ d ∈ s.delivered,
    ∃ m, s.sent[d.serial]? = some m ∧ d.node = m.destination ∧ Carried d.hops m d.message

theorem change_of_step (h : Kept net s) (hstep : s.step net e = some t) : Change net s e t := by
  cases e with
  | originate n m =>
    simp only [Mesh.step, Mesh.node] at hstep
    by_cases hproper : Mesh.Proper n m
    · rw [if_pos hproper] at hstep
      cases hrole : net.role n with
      | none =>
        rw [hrole] at hstep
        cases hstep
      | some role =>
        rw [hrole] at hstep
        obtain rfl := Option.some.inj hstep
        exact .originate hrole hproper
    · rw [if_neg hproper] at hstep
      cases hstep
  | arrive i =>
    simp only [Mesh.step, Mesh.node] at hstep
    obtain ⟨f, hf, hstep⟩ := Option.bind_eq_some_iff.mp hstep
    have hair := h.air f (List.mem_of_getElem? hf)
    by_cases hears : Mesh.Hears net f.message.last f.route
    · rw [if_pos hears] at hstep
      cases hrole : net.role f.route with
      | none =>
        rw [hrole] at hstep
        cases hstep
      | some role =>
        rw [hrole] at hstep
        have ht : t = s.arrived i f ((net.router s.routes role f.route).processMessage
            (onAirLength f.message) f.message) := (Option.some.inj hstep).symm
        rw [processMessage_eq hair.version hair.addressed] at ht
        by_cases hself : f.message.destination = f.route
        · rw [if_pos hself] at ht
          rw [ht]
          exact .deliver hf hrole hears hself
        · rw [if_neg hself] at ht
          by_cases hsensor : role = .sensor
          · subst hsensor
            rw [if_pos rfl] at ht
            have hroutes : Function.update s.routes f.route
                ((net.router s.routes .sensor f.route).learn f.message).routes = s.routes :=
              Function.update_eq_self _ _
            have hstrand : t =
                { s with air := s.air.eraseIdx i, lost := s.lost ++ [f.serial] } := by
              rw [ht]
              unfold Mesh.arrived
              dsimp only
              rw [hroutes]
            rw [hstrand]
            exact .strand hf hrole hears hself
          · rw [if_neg hsensor] at ht
            rw [ht]
            exact .relay hf hrole hears hself hsensor
    · rw [if_neg hears] at hstep
      cases hstep
  | lose i =>
    obtain ⟨f, hf, rfl⟩ := Option.map_eq_some_iff.mp hstep
    exact .lose hf

theorem Airborne.concat {sent : List MyMessage} (h : Airborne net sent f) (m : MyMessage) :
    Airborne net (sent ++ [m]) f := by
  obtain ⟨m', hm', hletter⟩ := h.letter
  refine ⟨h.sender, h.last, h.version, h.addressed, m', ?_, hletter⟩
  rwa [List.getElem?_append_left (List.getElem?_eq_some_iff.mp hm').1]

theorem tables_learned (h : Kept net s) (hrole : net.role n = some role)
    (hsender : net.role m.sender ≠ none) :
    ∀ k x, learned net s.routes role n m k x ≠ auto →
      net.role x ≠ none ∧ (net.role k = some .gateway ∨ net.role k = some .repeater) := by
  intro k x hx
  have hcases : learned net s.routes role n m k x = s.routes k x ∨
      k = n ∧ x = m.sender ∧ role ≠ .sensor := learned_cases
  rcases hcases with hold | ⟨rfl, rfl, hpasses⟩
  · exact h.tables k x (hold ▸ hx)
  · refine ⟨hsender, ?_⟩
    cases role with
    | gateway => exact .inl hrole
    | repeater => exact .inr hrole
    | sensor => exact absurd rfl hpasses

theorem Kept.change (h : Kept net s) (hchange : Change net s e t) : Kept net t := by
  cases hchange with
  | @originate n role m hrole hproper =>
    have hn : net.role n ≠ none := by
      rw [hrole]
      exact Option.some_ne_none _
    refine ⟨h.tables, fun f hf => ?_, fun d hd => ?_⟩
    · rcases List.mem_append.mp hf with hf | hf
      · exact (h.air f hf).concat m
      · obtain rfl := List.mem_singleton.mp hf
        refine ⟨?_, hn, hproper.2.2.2, hproper.2.2.1, m, ?_, carried_last m n⟩
        · rw [hproper.1]
          exact hn
        · exact List.getElem?_concat_length
    · obtain ⟨m', hm', hd'⟩ := h.arrived d hd
      refine ⟨m', ?_, hd'⟩
      dsimp only
      rwa [List.getElem?_append_left (List.getElem?_eq_some_iff.mp hm').1]
  | @deliver i f role hf hrole hears hself =>
    have hair := h.air f (List.mem_of_getElem? hf)
    refine ⟨tables_learned h hrole hair.sender, fun g hg => h.air g (List.mem_of_mem_eraseIdx hg),
      fun d hd => ?_⟩
    rcases List.mem_append.mp hd with hd | hd
    · exact h.arrived d hd
    · obtain rfl := List.mem_singleton.mp hd
      obtain ⟨m, hm, hletter⟩ := hair.letter
      exact ⟨m, hm, hself.symm.trans hletter.destination, hletter⟩
  | @relay i f role hf hrole hears hself hpasses =>
    have hair := h.air f (List.mem_of_getElem? hf)
    refine ⟨tables_learned h hrole hair.sender, fun g hg => ?_, h.arrived⟩
    rcases List.mem_append.mp hg with hg | hg
    · exact h.air g (List.mem_of_mem_eraseIdx hg)
    · obtain rfl := List.mem_singleton.mp hg
      obtain ⟨m, hm, hletter⟩ := hair.letter
      have hsame : Carried 1 f.message { countHop f.message with last := f.route } :=
        (carried_countHop f.message).trans (carried_last _ _)
      refine ⟨?_, ?_, hsame.version.trans hair.version, ?_, m, hm, hletter.trans hsame⟩
      · rw [hsame.sender]
        exact hair.sender
      · dsimp only
        rw [hrole]
        exact Option.some_ne_none _
      · rw [hsame.destination]
        exact hair.addressed
  | strand hf hrole hears hself =>
    exact ⟨h.tables, fun g hg => h.air g (List.mem_of_mem_eraseIdx hg), h.arrived⟩
  | lose hf =>
    exact ⟨h.tables, fun g hg => h.air g (List.mem_of_mem_eraseIdx hg), h.arrived⟩

theorem kept_cleared : Kept net Mesh.cleared :=
  ⟨fun _ _ hne => absurd rfl hne, fun _ hf => absurd hf (List.not_mem_nil),
    fun _ hd => absurd hd (List.not_mem_nil)⟩

/-! ### Each step is one of the tree's -/

theorem abstract_air {i : ℕ} (hf : s.air[i]? = some f) :
    s.abstract.air = (s.air.take i).map Flight.packet ++
      f.packet :: (s.air.drop (i + 1)).map Flight.packet := by
  obtain ⟨hi, rfl⟩ := List.getElem?_eq_some_iff.mp hf
  rw [← List.map_cons, ← List.drop_eq_getElem_cons hi, ← List.map_append, List.take_append_drop]
  rfl

theorem map_eraseIdx {i : ℕ} : (s.air.eraseIdx i).map Flight.packet =
    (s.air.take i).map Flight.packet ++ (s.air.drop (i + 1)).map Flight.packet := by
  rw [List.eraseIdx_eq_take_drop_succ, List.map_append]

theorem abstract_originate (hsender : m.sender = n) (next : Byte) : Mesh.abstract { s with
      air := s.air ++ [⟨s.sent.length, next, { m with last := n }, 0⟩]
      sent := s.sent ++ [m] } = { s.abstract with
      air := s.abstract.air ++ [⟨s.abstract.sent.length, n, m.destination, n, next, 0⟩]
      sent := s.abstract.sent ++ [(n, m.destination)] } := by
  simp [Mesh.abstract, Flight.packet, hsender]

theorem onward_originate (h : Kept net s) (hrole : net.role n = some role)
    (hproper : Mesh.Proper n m) :
    Onward (tree net) (tableOf s.routes) n m.destination (if role = .sensor then n else m.last)
      ((net.router s.routes role n).routeOf m) := by
  by_cases hsensor : role = .sensor
  · subst hsensor
    refine onward_sensor hrole (fun x => ?_) hproper.2.2.1
    by_contra hx
    exact not_passing hrole (h.tables n x hx).2
  · rw [if_neg hsensor]
    exact onward_routeOf hrole hsensor hproper.2.1 hproper.2.2.1

theorem refines_step (h : Kept net s) (hchange : Change net s e t) :
    Step (tree net) s.abstract t.abstract := by
  cases hchange with
  | @originate n role m hrole hproper =>
    have hstep := Step.originate (s := s.abstract) (Ne.symm hproper.2.1)
      (onward_originate h hrole hproper)
    rw [abstract_originate hproper.1]
    exact hstep
  | @deliver i f role hf hrole hears hself =>
    have hair := h.air f (List.mem_of_getElem? hf)
    have hstep := Step.deliver (T := tree net) (abstract_air hf) hears hself.symm
    unfold Mesh.abstract at hstep ⊢
    simp only [List.map_append, List.map_cons, List.map_nil, map_eraseIdx]
    rw [learned, tableOf_learn hrole hair.last hears]
    exact hstep
  | @relay i f role hf hrole hears hself hpasses =>
    have hair := h.air f (List.mem_of_getElem? hf)
    have hon : Onward (tree net) (tableOf (learned net s.routes role f.route f.message)) f.route
        f.message.destination f.message.last
        ((net.router (learned net s.routes role f.route f.message) role f.route).routeOf f.message) :=
      onward_routeOf hrole hpasses hself hair.addressed
    rw [learned, tableOf_learn hrole hair.last hears] at hon
    have hstep := Step.relay (T := tree net) (abstract_air hf) hears (Ne.symm hself) hon
    have hsame := carried_countHop f.message
    have hpacket : ∀ next, Flight.packet ⟨f.serial, next, { countHop f.message with last := f.route },
        f.hops + 1⟩ = { f.packet with last := f.route, next := next, hops := f.hops + 1 } := by
      intro next
      simp only [Flight.packet, hsame.sender, hsame.destination]
    unfold Mesh.abstract at hstep ⊢
    simp only [List.map_append, List.map_cons, List.map_nil, map_eraseIdx, hpacket]
    rw [learned, tableOf_learn hrole hair.last hears]
    exact hstep
  | strand hf hrole hears hself =>
    have hstep := Step.lose (T := tree net) (abstract_air hf)
    unfold Mesh.abstract at hstep ⊢
    simp only [map_eraseIdx]
    exact hstep
  | lose hf =>
    have hstep := Step.lose (T := tree net) (abstract_air hf)
    unfold Mesh.abstract at hstep ⊢
    simp only [map_eraseIdx]
    exact hstep

end MySensors
