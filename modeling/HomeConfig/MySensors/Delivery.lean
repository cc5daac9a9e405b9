import HomeConfig.MySensors.Mesh
import HomeConfig.Library.Machine

/-! The runs of the network: no message is lost sight of, each is delivered as it was sent, and without
losses everything arrives. -/
namespace MySensors

open Arduino TreeRouting

variable {net : Layout} {role : Role} {n : Byte} {m : MyMessage} {f : Flight} {s t : Mesh}
  {e : MeshEvent} {D : ℕ} {lost : List ℕ}

/-! ### What every run keeps, when no node is further than `D` from the gateway -/

structure Healthy (net : Layout) (D : ℕ) (s : Mesh) : Prop where
  kept : Kept net s
  sound : Sound (tree net) s.abstract
  accounted : Accounted s.abstract
  bounded : Bounded (tree net) D s.abstract
  near : ∀ d ∈ s.delivered, d.hops ≤ 2 * D

theorem healthy_cleared : Healthy net D Mesh.cleared := by
  refine ⟨kept_cleared, ⟨fun n x y hy => ?_, fun q hq => absurd hq List.not_mem_nil⟩,
    ⟨.refl _, fun q hq => absurd hq List.not_mem_nil, fun d hd => absurd hd List.not_mem_nil⟩,
    fun q hq => absurd hq List.not_mem_nil, fun d hd => absurd hd List.not_mem_nil⟩
  have hy : tableOf Mesh.cleared.routes n x = some y := hy
  obtain ⟨rfl, hne⟩ := tableOf_eq_some.mp hy
  exact absurd rfl hne

theorem Healthy.hops_le (h : Healthy net D s) (hf : f ∈ s.air) : f.hops ≤ 2 * D := by
  have hle := h.bounded f.packet (List.mem_map_of_mem hf)
  exact (Nat.le_add_right _ _).trans hle

theorem Healthy.change (h : Healthy net D s) (hdeep : ∀ n, net.distanceGW n ≤ D)
    (hchange : Change net s e t) : Healthy net D t := by
  have hstep := refines_step h.kept hchange
  refine ⟨h.kept.change hchange, h.sound.step hstep, h.accounted.step hstep,
    h.bounded.step hdeep h.sound hstep, ?_⟩
  cases hchange with
  | deliver hf _ _ _ =>
    intro d hd
    rcases List.mem_append.mp hd with hd | hd
    · exact h.near d hd
    · obtain rfl := List.mem_singleton.mp hd
      exact h.hops_le (List.mem_of_getElem? hf)
  | originate _ _ => exact h.near
  | relay _ _ _ _ _ => exact h.near
  | strand _ _ _ _ => exact h.near
  | lose _ => exact h.near

theorem Healthy.step (h : Healthy net D s) (hdeep : ∀ n, net.distanceGW n ≤ D)
    (hstep : s.step net e = some t) : Healthy net D t :=
  h.change hdeep (change_of_step h.kept hstep)

theorem Healthy.once (h : Healthy net D s) :
    (s.air.map Flight.serial ++ (s.delivered.map Delivery.serial ++ s.lost)).Perm
      (List.range s.sent.length) := by
  have hperm := h.accounted.once
  simpa [Mesh.abstract, Function.comp_def, Flight.packet] using hperm

/-- However the messages of a tree of nodes interleave and whatever the radio loses: a routing table
points to the child above the node that it is about, and that child knows the way on; no message is lost
sight of or doubled; what is delivered is what was sent to that node, and a ping or a pong has counted
its hops; and no message goes further than up to the gateway and down again. -/
theorem mesh_run (net : Layout) (D : ℕ) (hdeep : ∀ n, net.distanceGW n ≤ D) (events : List MeshEvent)
    (s : Mesh) (hrun : Machine.run (Mesh.step net) Mesh.cleared events = some s) :
    (∀ n x, s.routes n x ≠ auto →
      (tree net).IsChild (s.routes n x) n ∧ (tree net).Below x (s.routes n x) ∧
        (s.routes n x = x ∨ s.routes (s.routes n x) x ≠ auto)) ∧
    (s.air.map Flight.serial ++ (s.delivered.map Delivery.serial ++ s.lost)).Perm
      (List.range s.sent.length) ∧
    (∀ d ∈ s.delivered, d.hops ≤ 2 * D ∧
      ∃ m, s.sent[d.serial]? = some m ∧ d.node = m.destination ∧ Carried d.hops m d.message) ∧
    ∀ f ∈ s.air, f.hops ≤ 2 * D := by
  have h : Healthy net D s :=
    Machine.invariant_run (fun _ _ _ hs hstep => Healthy.step hs hdeep hstep) healthy_cleared hrun
  refine ⟨fun n x hx => ?_, h.once, fun d hd => ⟨h.near d hd, h.kept.arrived d hd⟩,
    fun f hf => h.hops_le hf⟩
  obtain ⟨hchild, hbelow, hon⟩ := h.sound.points n x (s.routes n x) (tableOf_eq_some.mpr ⟨rfl, hx⟩)
  exact ⟨hchild, hbelow, hon.imp_right isSome_tableOf.mp⟩

/-- A sensor behind a repeater. -/
def chain : Layout where
  role n := if n = 0#8 then some .gateway else if n = 1#8 then some .repeater
    else if n = 2#8 then some .sensor else none
  parentNodeId n := if n = 2#8 then 1#8 else 0#8
  distanceGW n := if n = 0#8 then 0 else if n = 2#8 then 2 else 1
  gateway_iff n := by
    unfold gatewayAddress
    split
    · simp_all
    · split <;> simp_all
  broadcast_free := by decide
  parent_gateway := by decide
  parent_passes n _ := by
    by_cases hn : n = 2#8
    · rw [if_pos hn]
      exact .inr rfl
    · rw [if_neg hn]
      exact .inl rfl
  distance_parent n hn := by
    unfold gatewayAddress at hn
    by_cases hn' : n = 2#8
    · subst hn'
      decide
    · rw [if_neg hn', if_neg hn, if_neg hn']
      decide

theorem chain_distance (n : Byte) : chain.distanceGW n ≤ 2 := by
  unfold chain
  dsimp only
  split
  · exact Nat.zero_le 2
  · split <;> decide

def ping : MyMessage :=
  (({ MyMessage.new 255#8 iPing with sender := 2#8 }).setCommand cInternal).setByte 1#8

def pong : MyMessage :=
  (({ MyMessage.new 255#8 iPong with destination := 2#8 }).setCommand cInternal).setByte 1#8

theorem mesh_run_ping : ∃ s,
    Machine.run (Mesh.step chain) Mesh.cleared
      [.originate 2#8 ping, .arrive 0, .arrive 0, .originate 0#8 pong, .arrive 0, .arrive 0] = some s ∧
    s.delivered.length = 2 ∧
    ∀ d ∈ s.delivered, d.hops ≤ 2 * 2 ∧
      ∃ m, s.sent[d.serial]? = some m ∧ d.node = m.destination ∧ Carried d.hops m d.message := by
  have hlen : (Machine.run (Mesh.step chain) Mesh.cleared
      [.originate 2#8 ping, .arrive 0, .arrive 0, .originate 0#8 pong, .arrive 0, .arrive 0]).map
      (fun s => s.delivered.length) = some 2 := by
    decide
  obtain ⟨s, hs, hdelivered⟩ := Option.map_eq_some_iff.mp hlen
  exact ⟨s, hs, hdelivered, (mesh_run chain 2 chain_distance _ s hs).2.2.1⟩

/-! ### Without losses everything arrives -/

/-- Nothing is lost on the air, and only such messages are sent as can find their way: those for the
gateway, and those for a node from which the gateway has heard; a repeater that does not know the
destination must not believe that the message has come from its parent. -/
def Lossless (net : Layout) (s : Mesh) : MeshEvent → Mesh → Prop
  | .originate n m, _ => m.destination = gatewayAddress ∨ s.routes gatewayAddress m.destination ≠ auto ∧
      (net.role n = some .repeater → s.routes n m.destination = auto → m.last ≠ net.parentNodeId n)
  | .arrive _, _ => True
  | .lose _, _ => False

instance (net : Layout) (s : Mesh) (e : MeshEvent) (t : Mesh) : Decidable (Lossless net s e t) :=
  match e with
  | .originate _ _ => inferInstanceAs (Decidable (_ ∨ _ ∧ (_ → _ → _)))
  | .arrive _ => .isTrue trivial
  | .lose _ => .isFalse id

/-- A state that the network has come to without losses since a moment when the air was empty; `lost`
had been lost by then. -/
inductive Steady (net : Layout) (lost : List ℕ) (s : Mesh) : Prop
  | intro (history events : List MeshEvent) (s₀ : Mesh) :
      Machine.run (Mesh.step net) Mesh.cleared history = some s₀ → s₀.air = [] → s₀.lost = lost →
      Machine.run (Mesh.step net) s₀ events = some s →
      Machine.EveryStep (Mesh.step net) (Lossless net) s₀ events → Steady net lost s

structure Smooth (net : Layout) (D : ℕ) (lost : List ℕ) (s : Mesh) : Prop where
  healthy : Healthy net D s
  routed : Routed (tree net) s.abstract
  lost_eq : s.lost = lost

theorem near_originate (h : Healthy net D s) (hrole : net.role n = some role)
    (hproper : Mesh.Proper n m) (hcan : Lossless net s (.originate n m) t) :
    (tree net).Adjacent n ((net.router s.routes role n).routeOf m) := by
  have hon := onward_originate h.kept hrole hproper
  generalize (net.router s.routes role n).routeOf m = next at hon ⊢
  cases hon with
  | down hroot hc => exact .inr (h.sound.points _ _ _ hc).1
  | up hn hwhy => exact .inl ⟨hn, rfl⟩
  | direct hroot hunknown hwhy =>
    have hauto := tableOf_eq_none.mp hunknown
    obtain ⟨hknown, hlast⟩ := hcan.resolve_left hroot
    have hn : n ≠ gatewayAddress := by
      rintro rfl
      exact hknown hauto
    have hback := hwhy.resolve_left hn
    by_cases hsensor : role = .sensor
    · rw [if_pos hsensor] at hback
      have hlt := net.distance_parent n hn
      have heq : net.distanceGW n = net.distanceGW (net.parentNodeId n) := congrArg net.distanceGW hback
      omega
    · rw [if_neg hsensor] at hback
      have hrepeater : role = .repeater := by
        cases role with
        | gateway => exact absurd (gateway_of_role hrole) hn
        | repeater => rfl
        | sensor => exact absurd rfl hsensor
      exact absurd hback (hlast (hrepeater ▸ hrole) hauto)

/-- A sensor is sent only what is for it. -/
theorem not_strand (h : Healthy net D s) (hf : f ∈ s.air) (hrole : net.role f.route = some .sensor)
    (hears : Mesh.Hears net f.message.last f.route) : f.message.destination = f.route := by
  have hlast := last_of_sensor (h.kept.air f hf).last hears hrole
  have hn := ne_gateway_of_role hrole (by decide)
  have hcourse := h.sound.onCourse f.packet (List.mem_map_of_mem hf)
  rcases hcourse.descending ⟨hn, hlast.symm⟩ with hself | ⟨-, hknown⟩
  · exact hself.symm
  · exact absurd (h.kept.tables _ _ (isSome_tableOf.mp hknown)).2 (not_passing hrole)

theorem Smooth.step (h : Smooth net D lost s) (hdeep : ∀ n, net.distanceGW n ≤ D)
    (hcan : Lossless net s e t) (hstep : s.step net e = some t) : Smooth net D lost t := by
  have hchange := change_of_step h.healthy.kept hstep
  have hrefines := refines_step h.healthy.kept hchange
  have hrest : Routed (tree net) t.abstract ∧ t.lost = lost := by
    cases hchange with
    | @originate n role m hrole hproper =>
      have hnear := near_originate h.healthy hrole hproper hcan
      have hknown : m.destination = (tree net).root ∨
          (s.abstract.table (tree net).root m.destination).isSome = true :=
        hcan.imp_right fun hk => isSome_tableOf.mpr hk.1
      refine ⟨?_, h.lost_eq⟩
      rw [abstract_originate hproper.1]
      exact h.routed.originate hnear hknown
    | deliver hf _ _ _ => exact ⟨h.routed.step h.healthy.sound hrefines rfl, h.lost_eq⟩
    | relay hf _ _ _ _ => exact ⟨h.routed.step h.healthy.sound hrefines rfl, h.lost_eq⟩
    | strand hf hrole hears hself =>
      exact absurd (not_strand h.healthy (List.mem_of_getElem? hf) hrole hears) hself
    | lose _ => exact hcan.elim
  exact ⟨h.healthy.change hdeep hchange, hrest.1, hrest.2⟩

theorem healthy_run (hdeep : ∀ n, net.distanceGW n ≤ D) {events : List MeshEvent}
    (hrun : Machine.run (Mesh.step net) Mesh.cleared events = some s) : Healthy net D s :=
  Machine.invariant_run (fun _ _ _ hs hstep => Healthy.step hs hdeep hstep) healthy_cleared hrun

theorem Steady.smooth (h : Steady net lost s) (hdeep : ∀ n, net.distanceGW n ≤ D) :
    Smooth net D lost s := by
  obtain ⟨history, events, s₀, hhistory, hquiet, hlost, hrun, hcan⟩ := h
  have hstart : Smooth net D lost s₀ := by
    refine ⟨healthy_run hdeep hhistory, ⟨fun q hq => ?_, fun q hq => ?_⟩, hlost⟩
    all_goals
      unfold Mesh.abstract at hq
      rw [hquiet] at hq
      cases hq
  exact Machine.invariant_of_everyStep (I := Smooth net D lost) (C := Lossless net)
    (fun _ _ _ hs hcan hstep => Smooth.step hs hdeep hcan hstep) hstart hcan hrun

/-- Where a message goes next, there is a node. -/
theorem role_route (h : Smooth net D lost s) (hf : f ∈ s.air) : net.role f.route ≠ none := by
  have hmem : f.packet ∈ s.abstract.air := List.mem_map_of_mem hf
  have hsome : ∀ {n : Byte}, net.role n = some .gateway ∨ net.role n = some .repeater →
      net.role n ≠ none := by
    intro n hn hnone
    rw [hnone] at hn
    exact absurd hn (by decide)
  rcases h.routed.near _ hmem with ⟨-, hup⟩ | hdown
  · have hparent := hsome (net.parent_passes _ (h.healthy.kept.air f hf).last)
    have hup : net.parentNodeId f.message.last = f.route := hup
    rwa [hup] at hparent
  · rcases (h.healthy.sound.onCourse _ hmem).descending hdown with hself | ⟨-, hknown⟩
    · have hself : f.route = f.message.destination := hself
      rw [hself]
      rcases h.routed.known _ hmem with hroot | hknown
      · have hroot : f.message.destination = gatewayAddress := hroot
        exact hsome (.inl ((net.gateway_iff _).mpr hroot))
      · exact (h.healthy.kept.tables _ _ (isSome_tableOf.mp hknown)).1
    · exact hsome (h.healthy.kept.tables _ _ (isSome_tableOf.mp hknown)).2

theorem can_arrive (h : Smooth net D lost s) {i : ℕ} (hi : i < s.air.length) :
    (s.step net (.arrive i)).isSome = true := by
  have hf : s.air[i] ∈ s.air := List.getElem_mem hi
  have hears : Mesh.Hears net s.air[i].message.last s.air[i].route :=
    h.routed.near _ (List.mem_map_of_mem hf)
  obtain ⟨role, hrole⟩ := Option.ne_none_iff_exists'.mp (role_route h hf)
  simp only [Mesh.step, Mesh.node, List.getElem?_eq_getElem hi, Option.bind_some, if_pos hears, hrole,
    Option.map_some, Option.isSome_some]

theorem smooth_arrivals (hdeep : ∀ n, net.distanceGW n ≤ D) {schedule : List ℕ} (h : Smooth net D lost s)
    (hrun : Machine.run (Mesh.step net) s (schedule.map .arrive) = some t) :
    Smooth net D lost t ∧ t.sent = s.sent ∧
      schedule.length + work (tree net) D t.abstract ≤ work (tree net) D s.abstract := by
  induction schedule generalizing s with
  | nil =>
    obtain rfl := Option.some.inj hrun
    exact ⟨h, rfl, by simp⟩
  | cons i schedule ih =>
    obtain ⟨u, hstep, hrun⟩ := Machine.run_cons_eq_some.mp hrun
    have hchange := change_of_step h.healthy.kept hstep
    have hsent : u.sent = s.sent := by cases hchange <;> rfl
    have hsame : u.abstract.sent = s.abstract.sent := by
      simp only [Mesh.abstract, hsent]
    have hless := work_lt hdeep h.healthy.sound (refines_step h.healthy.kept hchange) hsame
    have hcan : Lossless net s (.arrive i) u := trivial
    obtain ⟨ht, hkeep, hwork⟩ := ih (h.step hdeep hcan hstep) hrun
    refine ⟨ht, hkeep.trans hsent, ?_⟩
    rw [List.length_cons]
    omega

/-- Two runs lead to a steady state. -/
theorem Steady.of_runs (history events : List MeshEvent) {β : Type} {answer : Mesh → Option β} {b : β}
    (h : (Machine.run (Mesh.step net) Mesh.cleared history).bind (fun s₀ =>
      if s₀.air = [] ∧ s₀.lost = lost ∧ Machine.EveryStep (Mesh.step net) (Lossless net) s₀ events then
        (Machine.run (Mesh.step net) s₀ events).bind answer
      else none) = some b) : ∃ s, Steady net lost s ∧ answer s = some b := by
  obtain ⟨s₀, hhistory, h⟩ := Option.bind_eq_some_iff.mp h
  split at h
  · rename_i hstart
    obtain ⟨hquiet, hlost, hcan⟩ := hstart
    obtain ⟨s, hevents, hanswer⟩ := Option.bind_eq_some_iff.mp h
    exact ⟨s, ⟨_, _, s₀, hhistory, hquiet, hlost, hevents, hcan⟩, hanswer⟩
  · cases h

/-- A ping is lost; the next one reaches the gateway, which answers. -/
theorem steady_chain : ∃ s, Steady chain [0] s ∧
    (Machine.run (Mesh.step chain) s ([0, 0].map .arrive)).map (fun t => t.air.length) = some 0 :=
  Steady.of_runs [.originate 2#8 ping, .lose 0]
    [.originate 2#8 ping, .arrive 0, .arrive 0, .originate 0#8 pong] (by decide)

/-- Whatever has been lost before: since the air has been empty nothing is lost, and only such messages
have been sent as can find their way. Then every schedule of the arrivals comes to an end; until then
each message on the air can arrive, and in the end each message that was not lost before has reached its
destination, once and as it was sent, but for the counted hops of a ping or a pong. -/
theorem mesh_delivers (net : Layout) (D : ℕ) (hdeep : ∀ n, net.distanceGW n ≤ D) (lost : List ℕ)
    (s : Mesh) (hsteady : Steady net lost s) (schedule : List ℕ) (t : Mesh)
    (harrive : Machine.run (Mesh.step net) s (schedule.map .arrive) = some t) :
    schedule.length ≤ (2 * D + 1) * s.air.length ∧ t.sent = s.sent ∧ t.lost = lost ∧
    (∀ i < t.air.length, (t.step net (.arrive i)).isSome = true) ∧
    (t.air = [] → (t.delivered.map Delivery.serial ++ lost).Perm (List.range s.sent.length) ∧
      ∀ d ∈ t.delivered, ∃ m, s.sent[d.serial]? = some m ∧ d.node = m.destination ∧
        Carried d.hops m d.message) := by
  have hs : Smooth net D lost s := hsteady.smooth hdeep
  obtain ⟨ht, hsent, hwork⟩ := smooth_arrivals hdeep hs harrive
  refine ⟨?_, hsent, ht.lost_eq, fun i hi => can_arrive ht hi, fun hempty => ⟨?_, fun d hd => ?_⟩⟩
  · have hle := work_le hs.healthy.bounded
    have hlen : s.abstract.air.length = s.air.length := List.length_map _
    rw [hlen] at hle
    omega
  · have honce := ht.healthy.once
    rwa [hempty, ht.lost_eq, hsent] at honce
  · rw [← hsent]
    exact ht.healthy.kept.arrived d hd

theorem mesh_delivers_pong : ∃ s t, Steady chain [0] s ∧
    Machine.run (Mesh.step chain) s ([0, 0].map .arrive) = some t ∧
    (t.delivered.map Delivery.serial ++ [0]).Perm (List.range s.sent.length) := by
  obtain ⟨s, hs, hrun⟩ := steady_chain
  obtain ⟨t, ht, hair⟩ := Option.map_eq_some_iff.mp hrun
  exact ⟨s, t, hs, ht, ((mesh_delivers chain 2 chain_distance [0] s hs [0, 0] t ht).2.2.2.2
    (List.eq_nil_of_length_eq_zero hair)).1⟩

end MySensors
