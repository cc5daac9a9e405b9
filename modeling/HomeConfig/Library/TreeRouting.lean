import Mathlib.Data.List.Basic
import Mathlib.Data.List.Range
import Mathlib.Logic.Function.Basic
import Mathlib.Algebra.BigOperators.Group.List.Basic
import Mathlib.Algebra.Order.BigOperators.Group.List
import Mathlib.Algebra.Ring.Nat

/-! Routing in a tree with learned tables. A node remembers the child through which the packets of a
sender come; a packet climbs until a node knows where its destination is, and then goes down. -/
namespace TreeRouting

variable {α : Type*}

/-- A tree by its parents; the depth decreases towards the root. -/
structure Tree (α : Type*) where
  root : α
  parent : α → α
  depth : α → ℕ
  depth_parent : ∀ a, a ≠ root → depth (parent a) < depth a

namespace Tree

variable {T : Tree α} {a b c n x : α}

def IsChild (T : Tree α) (c n : α) : Prop := c ≠ T.root ∧ T.parent c = n

/-- `a` is `b` or stands somewhere below it. -/
inductive Below (T : Tree α) (a : α) : α → Prop
  | refl : Below T a a
  | up {b c : α} : Below T a b → T.IsChild b c → Below T a c

def Adjacent (T : Tree α) (a b : α) : Prop := T.IsChild a b ∨ T.IsChild b a

instance [DecidableEq α] (T : Tree α) (c n : α) : Decidable (T.IsChild c n) :=
  inferInstanceAs (Decidable (_ ∧ _))

instance [DecidableEq α] (T : Tree α) (a b : α) : Decidable (T.Adjacent a b) :=
  inferInstanceAs (Decidable (_ ∨ _))

theorem IsChild.depth_lt (h : T.IsChild c n) : T.depth n < T.depth c := by
  rw [← h.2]
  exact T.depth_parent c h.1

theorem IsChild.asymm (h : T.IsChild a b) : ¬ T.IsChild b a := by
  intro h'
  have hab := h.depth_lt
  have hba := h'.depth_lt
  omega

/-- A neighbour that is not the parent is a child. -/
theorem Adjacent.isChild (h : T.Adjacent a b) (hne : a ≠ T.parent b) : T.IsChild a b :=
  h.resolve_right fun hb => hne hb.2.symm

end Tree

/-- A packet on its way from `last` to `next`. -/
structure Packet (α : Type*) where
  serial : ℕ
  src : α
  dst : α
  last : α
  next : α
  hops : ℕ

abbrev Table (α : Type*) := α → α → Option α

section Routing

variable [DecidableEq α] {T : Tree α} {table : Table α} {p : Packet α} {n dst last next x y : α}

/-- The node that a packet has come to remembers where its sender is to be found. -/
def learn (T : Tree α) (table : Table α) (p : Packet α) : Table α :=
  if p.last ≠ T.parent p.next ∧ p.src ≠ p.next then
    Function.update table p.next (Function.update (table p.next) p.src (some p.last))
  else table

/-- The ways on from `n` for a packet that has come from `last`: down where the table points, up
while the destination is unknown, and directly when there is nothing above or the packet came from
there. -/
inductive Onward (T : Tree α) (table : Table α) (n dst last : α) : α → Prop
  | down {c : α} : dst ≠ T.root → table n dst = some c → Onward T table n dst last c
  | up : n ≠ T.root → (dst = T.root ∨ table n dst = none ∧ last ≠ T.parent n) →
      Onward T table n dst last (T.parent n)
  | direct : dst ≠ T.root → table n dst = none → (n = T.root ∨ last = T.parent n) →
      Onward T table n dst last dst

theorem learn_of_ne (h : n ≠ p.next ∨ x ≠ p.src) : learn T table p n x = table n x := by
  unfold learn
  split
  · rcases h with h | h
    · rw [Function.update_of_ne h]
    · by_cases hn : n = p.next
      · rw [hn, Function.update_self, Function.update_of_ne h]
      · rw [Function.update_of_ne hn]
  · rfl

/-- What is known stays known. -/
theorem isSome_learn (h : (table n x).isSome = true) : (learn T table p n x).isSome = true := by
  by_cases hsame : n = p.next ∧ x = p.src
  · obtain ⟨rfl, rfl⟩ := hsame
    unfold learn
    split
    · rw [Function.update_self, Function.update_self]
      rfl
    · exact h
  · rw [not_and_or] at hsame
    rwa [learn_of_ne hsame]

theorem learn_self (hlast : p.last ≠ T.parent p.next) (hsrc : p.src ≠ p.next) :
    learn T table p p.next p.src = some p.last := by
  unfold learn
  rw [if_pos ⟨hlast, hsrc⟩, Function.update_self, Function.update_self]

/-! ### What holds of the tables and of the packets under way -/

/-- The tables point to children above the destination, which know it as well. -/
def Points (T : Tree α) (table : Table α) : Prop :=
  ∀ n x y, table n x = some y → T.IsChild y n ∧ T.Below x y ∧ (y = x ∨ (table y x).isSome = true)

/-- A packet that climbs leaves its trace behind it; one that goes down has its destination known
before it; and one for the root climbs. -/
structure OnCourse (T : Tree α) (table : Table α) (p : Packet α) : Prop where
  climbing : T.IsChild p.last p.next →
    T.Below p.src p.last ∧ (p.last = p.src ∨ (table p.last p.src).isSome = true)
  descending : T.IsChild p.next p.last →
    p.next = p.dst ∨ T.Below p.dst p.next ∧ (table p.next p.dst).isSome = true
  toRoot : p.dst = T.root → T.IsChild p.last p.next

theorem Points.learn (h : Points T table) (hp : OnCourse T table p) (hnear : T.Adjacent p.last p.next) :
    Points T (learn T table p) := by
  intro n x y hy
  by_cases hsame : n = p.next ∧ x = p.src
  · obtain ⟨rfl, rfl⟩ := hsame
    by_cases hnew : p.last ≠ T.parent p.next ∧ p.src ≠ p.next
    · rw [learn_self hnew.1 hnew.2] at hy
      obtain rfl := Option.some.inj hy
      have hchild := hnear.isChild hnew.1
      obtain ⟨hbelow, hknown⟩ := hp.climbing hchild
      exact ⟨hchild, hbelow, hknown.imp_right isSome_learn⟩
    · unfold TreeRouting.learn at hy
      rw [if_neg hnew] at hy
      obtain ⟨hchild, hbelow, hknown⟩ := h _ _ _ hy
      exact ⟨hchild, hbelow, hknown.imp_right isSome_learn⟩
  · rw [not_and_or] at hsame
    rw [learn_of_ne hsame] at hy
    obtain ⟨hchild, hbelow, hknown⟩ := h _ _ _ hy
    exact ⟨hchild, hbelow, hknown.imp_right isSome_learn⟩

theorem OnCourse.learn {q : Packet α} (h : OnCourse T table q) : OnCourse T (learn T table p) q :=
  ⟨fun hc => ⟨(h.climbing hc).1, (h.climbing hc).2.imp_right isSome_learn⟩,
    fun hd => (h.descending hd).imp_right fun hk => ⟨hk.1, isSome_learn hk.2⟩, h.toRoot⟩

omit [DecidableEq α] in
/-- A packet that a node sends on its own account is on course. -/
theorem onCourse_originate (h : Points T table) (hon : Onward T table n dst last next) (serial : ℕ) :
    OnCourse T table ⟨serial, n, dst, n, next, 0⟩ := by
  refine ⟨fun _ => ⟨.refl, .inl rfl⟩, ?_, ?_⟩
  · intro hchild
    cases hon with
    | down hroot hc =>
      obtain ⟨-, hbelow, hknown⟩ := h _ _ _ hc
      exact hknown.imp_right fun hk => ⟨hbelow, hk⟩
    | up hn _ => exact absurd hchild (Tree.IsChild.asymm ⟨hn, rfl⟩)
    | direct hroot _ _ => exact .inl rfl
  · intro hroot
    cases hon with
    | down hne _ => exact absurd hroot hne
    | up hn _ => exact ⟨hn, rfl⟩
    | direct hne _ _ => exact absurd hroot hne

/-- A relayed packet never goes directly: a node that gets it from above knows its destination. -/
theorem OnCourse.not_from_above (hp : OnCourse T table p) (hne : p.next ≠ p.dst)
    (hunknown : TreeRouting.learn T table p p.next p.dst = none) (hroot : p.next ≠ T.root) :
    p.last ≠ T.parent p.next := by
  intro hback
  rcases hp.descending ⟨hroot, hback.symm⟩ with h | ⟨-, hknown⟩
  · exact hne h
  · have hstill := isSome_learn (T := T) (p := p) hknown
    rw [hunknown] at hstill
    cases hstill

theorem onCourse_relay (h : Points T table) (hp : OnCourse T table p)
    (hnear : T.Adjacent p.last p.next) (hne : p.next ≠ p.dst)
    (hon : Onward T (TreeRouting.learn T table p) p.next p.dst p.last next) :
    OnCourse T (TreeRouting.learn T table p)
      { p with last := p.next, next := next, hops := p.hops + 1 } := by
  have hpoints := h.learn hp hnear
  refine ⟨?_, ?_, ?_⟩
  · intro hchild
    -- it climbs on, so it has come from a child
    have hbelow : T.IsChild p.last p.next := by
      cases hon with
      | down hroot hc => exact absurd hchild (hpoints _ _ _ hc).1.asymm
      | up hn hwhy =>
        rcases hwhy with hroot | ⟨-, hback⟩
        · exact hp.toRoot hroot
        · exact hnear.isChild hback
      | direct hroot hunknown hwhy =>
        have hback := hp.not_from_above hne hunknown hchild.1
        exact hnear.isChild hback
    refine ⟨(hp.climbing hbelow).1.up hbelow, ?_⟩
    by_cases hsrc : p.src = p.next
    · exact .inl hsrc.symm
    · have hback : p.last ≠ T.parent p.next := by
        intro hback
        exact hbelow.asymm ⟨hchild.1, hback.symm⟩
      refine .inr ?_
      dsimp only
      rw [learn_self hback hsrc]
      rfl
  · intro hchild
    cases hon with
    | down hroot hc =>
      obtain ⟨-, hbelow, hknown⟩ := hpoints _ _ _ hc
      exact hknown.imp_right fun hk => ⟨hbelow, hk⟩
    | up hn _ => exact absurd hchild (Tree.IsChild.asymm ⟨hn, rfl⟩)
    | direct hroot _ _ => exact .inl rfl
  · intro hroot
    cases hon with
    | down hne _ => exact absurd hroot hne
    | up hn _ => exact ⟨hn, rfl⟩
    | direct hne _ _ => exact absurd hroot hne

/-! ### The network -/

/-- The tables, the packets under way, sender and destination of all packets so far, and what has
become of them. -/
structure Net (α : Type*) where
  table : Table α
  air : List (Packet α)
  sent : List (α × α)
  delivered : List (ℕ × α)
  lost : List ℕ

inductive Step (T : Tree α) : Net α → Net α → Prop
  | originate {s : Net α} {n dst last next : α} : n ≠ dst → Onward T s.table n dst last next →
      Step T s { s with
        air := s.air ++ [⟨s.sent.length, n, dst, n, next, 0⟩]
        sent := s.sent ++ [(n, dst)] }
  | deliver {s : Net α} {as bs : List (Packet α)} {p : Packet α} : s.air = as ++ p :: bs →
      T.Adjacent p.last p.next → p.next = p.dst →
      Step T s { s with
        table := learn T s.table p
        air := as ++ bs
        delivered := s.delivered ++ [(p.serial, p.next)] }
  | relay {s : Net α} {as bs : List (Packet α)} {p : Packet α} {next : α} : s.air = as ++ p :: bs →
      T.Adjacent p.last p.next → p.next ≠ p.dst →
      Onward T (learn T s.table p) p.next p.dst p.last next →
      Step T s { s with
        table := learn T s.table p
        air := as ++ bs ++ [{ p with last := p.next, next := next, hops := p.hops + 1 }] }
  | lose {s : Net α} {as bs : List (Packet α)} {p : Packet α} : s.air = as ++ p :: bs →
      Step T s { s with air := as ++ bs, lost := s.lost ++ [p.serial] }

variable {s t : Net α} {as bs : List (Packet α)}

structure Sound (T : Tree α) (s : Net α) : Prop where
  points : Points T s.table
  onCourse : ∀ q ∈ s.air, OnCourse T s.table q

omit [DecidableEq α] in
theorem mem_air (hair : s.air = as ++ p :: bs) : p ∈ s.air := by
  rw [hair]
  exact List.mem_append_right _ List.mem_cons_self

omit [DecidableEq α] in
theorem mem_air_of_rest {q : Packet α} (hair : s.air = as ++ p :: bs) (hq : q ∈ as ++ bs) : q ∈ s.air := by
  rw [hair]
  rcases List.mem_append.mp hq with hq | hq
  · exact List.mem_append_left _ hq
  · exact List.mem_append_right _ (List.mem_cons_of_mem _ hq)

omit [DecidableEq α] in
theorem Sound.mem (h : Sound T s) (hair : s.air = as ++ p :: bs) : OnCourse T s.table p :=
  h.onCourse p (mem_air hair)

omit [DecidableEq α] in
theorem Sound.others (h : Sound T s) (hair : s.air = as ++ p :: bs) :
    ∀ q ∈ as ++ bs, OnCourse T s.table q :=
  fun q hq => h.onCourse q (mem_air_of_rest hair hq)

theorem Sound.step (h : Sound T s) (hstep : Step T s t) : Sound T t := by
  cases hstep with
  | originate hne hon =>
    refine ⟨h.points, fun q hq => ?_⟩
    rcases List.mem_append.mp hq with hq | hq
    · exact h.onCourse q hq
    · obtain rfl := List.mem_singleton.mp hq
      exact onCourse_originate h.points hon _
  | deliver hair hnear hto =>
    exact ⟨h.points.learn (h.mem hair) hnear, fun q hq => (h.others hair q hq).learn⟩
  | relay hair hnear hne hon =>
    refine ⟨h.points.learn (h.mem hair) hnear, fun q hq => ?_⟩
    rcases List.mem_append.mp hq with hq | hq
    · exact (h.others hair q hq).learn
    · obtain rfl := List.mem_singleton.mp hq
      exact onCourse_relay h.points (h.mem hair) hnear hne hon
  | lose hair => exact ⟨h.points, h.others hair⟩

/-- No packet is lost sight of: each one is under way, delivered or lost, and only one of them. -/
structure Accounted (s : Net α) : Prop where
  once : (s.air.map Packet.serial ++ (s.delivered.map Prod.fst ++ s.lost)).Perm
    (List.range s.sent.length)
  carried : ∀ q ∈ s.air, s.sent[q.serial]? = some (q.src, q.dst)
  arrived : ∀ d ∈ s.delivered, ∃ src, s.sent[d.1]? = some (src, d.2)

theorem Accounted.step (h : Accounted s) (hstep : Step T s t) : Accounted t := by
  cases hstep with
  | @originate n dst last next hne hon =>
    have hgrow : ∀ {k : ℕ} {e : α × α}, s.sent[k]? = some e → (s.sent ++ [(n, dst)])[k]? = some e := by
      intro k e hk
      rwa [List.getElem?_append_left (List.getElem?_eq_some_iff.mp hk).1]
    refine ⟨?_, ?_, ?_⟩
    · rw [List.length_append, List.length_singleton, List.range_succ, List.map_append]
      have hswap : (s.air.map Packet.serial ++ [s.sent.length] ++
          (s.delivered.map Prod.fst ++ s.lost)).Perm
          (s.air.map Packet.serial ++ (s.delivered.map Prod.fst ++ s.lost) ++ [s.sent.length]) := by
        rw [List.append_assoc, List.append_assoc]
        exact List.perm_append_comm.append_left _
      exact hswap.trans (h.once.append_right _)
    · intro q hq
      rcases List.mem_append.mp hq with hq | hq
      · exact hgrow (h.carried q hq)
      · obtain rfl := List.mem_singleton.mp hq
        exact List.getElem?_concat_length
    · intro d hd
      obtain ⟨src, hsrc⟩ := h.arrived d hd
      exact ⟨src, hgrow hsrc⟩
  | @deliver as bs p hair hnear hto =>
    refine ⟨?_, fun q hq => h.carried q (mem_air_of_rest hair hq), ?_⟩
    · have hmove : ((as ++ bs).map Packet.serial ++
          ((s.delivered ++ [(p.serial, p.next)]).map Prod.fst ++ s.lost)).Perm
          ((as ++ p :: bs).map Packet.serial ++ (s.delivered.map Prod.fst ++ s.lost)) := by
        simp only [List.map_append, List.map_cons, List.map_nil, List.append_assoc]
        refine List.Perm.append_left _ ?_
        refine (List.Perm.append_left _ ?_).trans List.perm_middle
        exact List.perm_middle
      exact hmove.trans (hair ▸ h.once)
    · intro d hd
      rcases List.mem_append.mp hd with hd | hd
      · exact h.arrived d hd
      · obtain rfl := List.mem_singleton.mp hd
        refine ⟨p.src, ?_⟩
        dsimp only
        rw [hto]
        exact h.carried p (mem_air hair)
  | @relay as bs p next hair hnear hne hon =>
    refine ⟨?_, fun q hq => ?_, h.arrived⟩
    · have hmove : ((as ++ bs ++ [{ p with last := p.next, next := next, hops := p.hops + 1 }]).map
          Packet.serial).Perm ((as ++ p :: bs).map Packet.serial) := by
        simp only [List.map_append, List.map_cons, List.map_nil, List.append_assoc]
        exact List.Perm.append_left _ (List.perm_append_singleton _ _)
      exact (hmove.append_right _).trans (hair ▸ h.once)
    · rcases List.mem_append.mp hq with hq | hq
      · exact h.carried q (mem_air_of_rest hair hq)
      · obtain rfl := List.mem_singleton.mp hq
        exact h.carried p (mem_air hair)
  | @lose as bs p hair =>
    refine ⟨?_, fun q hq => h.carried q (mem_air_of_rest hair hq), h.arrived⟩
    have hmove : ((as ++ bs).map Packet.serial ++
        (s.delivered.map Prod.fst ++ (s.lost ++ [p.serial]))).Perm
        ((as ++ p :: bs).map Packet.serial ++ (s.delivered.map Prod.fst ++ s.lost)) := by
      simp only [List.map_append, List.map_cons, List.append_assoc, List.cons_append]
      refine List.Perm.append_left _ ?_
      rw [← List.append_assoc, ← List.append_assoc]
      refine (List.perm_append_singleton _ _).trans ?_
      rw [List.append_assoc]
    exact hmove.trans (hair ▸ h.once)

/-! ### How far a packet has to go, when no node is deeper than `D` -/

section Cost

variable {D : ℕ}

def cost (T : Tree α) (D : ℕ) (p : Packet α) : ℕ :=
  if T.IsChild p.last p.next then T.depth p.next + D + 1
  else if T.IsChild p.next p.last then D - T.depth p.next
  else 0

theorem cost_originate_le (hdeep : ∀ a, T.depth a ≤ D) (serial : ℕ) :
    cost T D ⟨serial, n, dst, n, next, 0⟩ ≤ 2 * D := by
  unfold cost
  split
  · rename_i hchild
    have hlt := hchild.depth_lt
    have hle := hdeep n
    dsimp only at hlt ⊢
    omega
  · split <;> omega

/-- Each hop brings a packet nearer. -/
theorem cost_relay_lt (hdeep : ∀ a, T.depth a ≤ D) (h : Points T table) (hp : OnCourse T table p)
    (hnear : T.Adjacent p.last p.next) (hne : p.next ≠ p.dst)
    (hon : Onward T (learn T table p) p.next p.dst p.last next) :
    cost T D { p with last := p.next, next := next, hops := p.hops + 1 } < cost T D p := by
  have hpoints := h.learn hp hnear
  by_cases hup : T.IsChild p.last p.next
  · have hp' : cost T D p = T.depth p.next + D + 1 := if_pos hup
    rw [hp']
    unfold cost
    dsimp only
    split
    · rename_i hchild
      have hlt := hchild.depth_lt
      omega
    · split <;> omega
  · have hdown : T.IsChild p.next p.last := hnear.resolve_left hup
    have hp' : cost T D p = D - T.depth p.next := by
      unfold cost
      rw [if_neg hup, if_pos hdown]
    have hknown : (learn T table p p.next p.dst).isSome = true :=
      isSome_learn ((hp.descending hdown).resolve_left hne).2
    rw [hp']
    cases hon with
    | down hroot hc =>
      have hchild := (hpoints _ _ _ hc).1
      have hlt := hchild.depth_lt
      have hle := hdeep next
      unfold cost
      dsimp only
      rw [if_neg hchild.asymm, if_pos hchild]
      omega
    | up hn hwhy =>
      rcases hwhy with hroot | ⟨hunknown, -⟩
      · exact absurd (hp.toRoot hroot) hup
      · rw [hunknown] at hknown
        cases hknown
    | direct hroot hunknown hwhy =>
      rw [hunknown] at hknown
      cases hknown

/-- The hops that a packet has made and those before it are at most up to the root and down again. -/
def Bounded (T : Tree α) (D : ℕ) (s : Net α) : Prop :=
  ∀ q ∈ s.air, q.hops + cost T D q ≤ 2 * D

theorem Bounded.step (h : Bounded T D s) (hdeep : ∀ a, T.depth a ≤ D) (hs : Sound T s)
    (hstep : Step T s t) : Bounded T D t := by
  cases hstep with
  | originate hne hon =>
    intro q hq
    rcases List.mem_append.mp hq with hq | hq
    · exact h q hq
    · obtain rfl := List.mem_singleton.mp hq
      rw [Nat.zero_add]
      exact cost_originate_le hdeep _
  | deliver hair hnear hto => exact fun q hq => h q (mem_air_of_rest hair hq)
  | relay hair hnear hne hon =>
    intro q hq
    rcases List.mem_append.mp hq with hq | hq
    · exact h q (mem_air_of_rest hair hq)
    · obtain rfl := List.mem_singleton.mp hq
      have hlt := cost_relay_lt hdeep hs.points (hs.mem hair) hnear hne hon
      have hle := h _ (mem_air hair)
      dsimp only
      omega
  | lose hair => exact fun q hq => h q (mem_air_of_rest hair hq)

/-- The work that is left for the packets under way. -/
def work (T : Tree α) (D : ℕ) (s : Net α) : ℕ := (s.air.map fun q => cost T D q + 1).sum

/-- Every step but the sending of a new packet is a piece of the work. -/
theorem work_lt (hdeep : ∀ a, T.depth a ≤ D) (hs : Sound T s) (hstep : Step T s t)
    (hsent : t.sent = s.sent) : work T D t < work T D s := by
  cases hstep with
  | originate hne hon => simp at hsent
  | deliver hair hnear hto =>
    unfold work
    rw [hair]
    simp only [List.map_append, List.map_cons, List.sum_append, List.sum_cons]
    omega
  | relay hair hnear hne hon =>
    have hlt := cost_relay_lt hdeep hs.points (hs.mem hair) hnear hne hon
    unfold work
    rw [hair]
    simp only [List.map_append, List.map_cons, List.map_nil, List.sum_append, List.sum_cons, List.sum_nil]
    omega
  | lose hair =>
    unfold work
    rw [hair]
    simp only [List.map_append, List.map_cons, List.sum_append, List.sum_cons]
    omega

theorem work_le (h : Bounded T D s) : work T D s ≤ (2 * D + 1) * s.air.length := by
  have hle : ∀ qs : List (Packet α), (∀ q ∈ qs, q.hops + cost T D q ≤ 2 * D) →
      (qs.map fun q => cost T D q + 1).sum ≤ (2 * D + 1) * qs.length := by
    intro qs hqs
    induction qs with
    | nil => exact Nat.zero_le _
    | cons q qs ih =>
      have hq := hqs q List.mem_cons_self
      have hrest := ih fun r hr => hqs r (List.mem_cons_of_mem _ hr)
      simp only [List.map_cons, List.sum_cons, List.length_cons, Nat.mul_succ]
      omega
  exact hle s.air h

end Cost

/-! ### Packets that need not be lost -/

/-- Every packet is between neighbours, and it is for the root or for a node that the root knows. -/
structure Routed (T : Tree α) (s : Net α) : Prop where
  near : ∀ q ∈ s.air, T.Adjacent q.last q.next
  known : ∀ q ∈ s.air, q.dst = T.root ∨ (s.table T.root q.dst).isSome = true

omit [DecidableEq α] in
theorem Routed.originate (h : Routed T s) (hnear : T.Adjacent n next)
    (hknown : dst = T.root ∨ (s.table T.root dst).isSome = true) :
    Routed T { s with
      air := s.air ++ [⟨s.sent.length, n, dst, n, next, 0⟩]
      sent := s.sent ++ [(n, dst)] } := by
  refine ⟨fun q hq => ?_, fun q hq => ?_⟩
  · rcases List.mem_append.mp hq with hq | hq
    · exact h.near q hq
    · obtain rfl := List.mem_singleton.mp hq
      exact hnear
  · rcases List.mem_append.mp hq with hq | hq
    · exact h.known q hq
    · obtain rfl := List.mem_singleton.mp hq
      exact hknown

/-- From neighbour to neighbour they stay there. -/
theorem Routed.step (h : Routed T s) (hs : Sound T s) (hstep : Step T s t) (hsent : t.sent = s.sent) :
    Routed T t := by
  cases hstep with
  | originate hne hon => simp at hsent
  | deliver hair hnear hto =>
    exact ⟨fun q hq => h.near q (mem_air_of_rest hair hq),
      fun q hq => (h.known q (mem_air_of_rest hair hq)).imp_right isSome_learn⟩
  | @relay as bs p next hair hnear hne hon =>
    have hmem := mem_air hair
    have hcourse := hs.mem hair
    refine ⟨fun q hq => ?_, fun q hq => ?_⟩
    · rcases List.mem_append.mp hq with hq | hq
      · exact h.near q (mem_air_of_rest hair hq)
      · obtain rfl := List.mem_singleton.mp hq
        cases hon with
        | down hroot hc => exact .inr ((hs.points.learn hcourse hnear) _ _ _ hc).1
        | up hn hwhy => exact .inl ⟨hn, rfl⟩
        | direct hroot hunknown hwhy =>
          -- the root knows where to send it, and so does every node on its way down
          have hnot : p.next ≠ T.root := by
            intro hn
            have hknown := isSome_learn (T := T) (p := p) ((h.known p hmem).resolve_left hroot)
            rw [hn] at hunknown
            rw [hunknown] at hknown
            cases hknown
          exact absurd (hwhy.resolve_left hnot) (hcourse.not_from_above hne hunknown hnot)
    · rcases List.mem_append.mp hq with hq | hq
      · exact (h.known q (mem_air_of_rest hair hq)).imp_right isSome_learn
      · obtain rfl := List.mem_singleton.mp hq
        exact (h.known p hmem).imp_right isSome_learn
  | lose hair => exact ⟨fun q hq => h.near q (mem_air_of_rest hair hq), fun q hq => h.known q (mem_air_of_rest hair hq)⟩

end Routing

end TreeRouting
