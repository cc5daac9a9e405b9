import Mathlib.Data.List.Basic
import Mathlib.Data.List.Nodup

/-! Going through a set of bit strings of one length in order, with no other memory than the last
string and the place where it leaves another way open. -/
namespace BitTrie

variable {n i d : ℕ} {b : Bool} {S : List (List Bool)} {p q : List Bool}

/-- What follows the bit `b` in the strings that begin with it. -/
def behind (b : Bool) (S : List (List Bool)) : List (List Bool) :=
  (S.filter fun p => p.head? = some b).map List.tail

/-- The strings in order, those with a zero first, each of them once. -/
def inOrder : ℕ → List (List Bool) → List (List Bool)
  | 0, S => if S = [] then [] else [[]]
  | n + 1, S =>
    if S = [] then []
    else (inOrder n (behind false S)).map (false :: ·) ++ (inOrder n (behind true S)).map (true :: ·)

/-- The last place, counted from one, where a string goes left although there is a way to the
right; zero if there is none. -/
def lastOpen : ℕ → List (List Bool) → List Bool → ℕ
  | n + 1, S, b :: p =>
    if lastOpen n (behind b S) p ≠ 0 then lastOpen n (behind b S) p + 1
    else if b = false ∧ behind true S ≠ [] then 1 else 0
  | _, _, _ => 0

/-- The way from a fork: before the place `d` as the string `p` goes, there to the right, and
behind it to the left. -/
def turn (S : List (List Bool)) (p : List Bool) (d : ℕ) : Bool :=
  if behind true S = [] then false else if behind false S = [] then true
  else if 1 < d then p.headD false else decide (d = 1)

def walk : ℕ → List (List Bool) → List Bool → ℕ → List Bool
  | 0, _, _, _ => []
  | n + 1, S, p, d => turn S p d :: walk n (behind (turn S p d) S) p.tail (d - 1)

theorem inOrder_nil (n : ℕ) : inOrder n [] = [] := by
  cases n <;> rfl

theorem inOrder_succ : inOrder (n + 1) S =
    (inOrder n (behind false S)).map (false :: ·) ++ (inOrder n (behind true S)).map (true :: ·) := by
  rw [inOrder]
  split
  · rename_i hS
    rw [hS, behind, behind, List.filter_nil, List.filter_nil, List.map_nil, inOrder_nil]
    rfl
  · rfl

theorem mem_behind : p ∈ behind b S ↔ b :: p ∈ S := by
  simp only [behind, List.mem_map, List.mem_filter, decide_eq_true_eq]
  constructor
  · rintro ⟨q, ⟨hq, hhead⟩, rfl⟩
    cases q with
    | nil => cases hhead
    | cons c q =>
      obtain rfl := Option.some.inj hhead
      exact hq
  · intro h
    exact ⟨b :: p, ⟨h, rfl⟩, rfl⟩

theorem length_of_mem_behind (h : ∀ p ∈ S, p.length = n + 1) : ∀ p ∈ behind b S, p.length = n := by
  intro p hp
  have hlen := h _ (mem_behind.mp hp)
  rw [List.length_cons] at hlen
  omega

theorem behind_ne_nil (h : ∀ p ∈ S, p.length = n + 1) (hS : S ≠ []) (hb : behind b S = []) :
    behind (!b) S ≠ [] := by
  obtain ⟨p, hp⟩ := List.exists_mem_of_ne_nil S hS
  cases p with
  | nil => cases h _ hp
  | cons c p =>
    have hc : p ∈ behind c S := mem_behind.mpr hp
    by_cases hcb : c = b
    · rw [hcb, hb] at hc
      cases hc
    · rw [show (!b) = c by cases b <;> cases c <;> simp_all]
      exact List.ne_nil_of_mem hc

/-- A walk never leaves the set. -/
theorem behind_turn_ne_nil (h : ∀ p ∈ S, p.length = n + 1) (hS : S ≠ []) :
    behind (turn S p d) S ≠ [] := by
  rw [turn]
  split
  · rename_i hright
    exact behind_ne_nil h hS hright
  · rename_i hright
    split
    · exact hright
    · rename_i hleft
      split
      · cases p.headD false <;> assumption
      · cases decide (d = 1) <;> assumption

theorem walk_mem (h : ∀ p ∈ S, p.length = n) (hS : S ≠ []) : walk n S p d ∈ S := by
  induction n generalizing S p d with
  | zero =>
    obtain ⟨q, hq⟩ := List.exists_mem_of_ne_nil S hS
    rw [walk, ← List.eq_nil_of_length_eq_zero (h q hq)]
    exact hq
  | succ n ih =>
    exact mem_behind.mp (ih (length_of_mem_behind h) (behind_turn_ne_nil h hS))

theorem mem_inOrder (h : ∀ p ∈ S, p.length = n) : p ∈ inOrder n S ↔ p ∈ S := by
  induction n generalizing S p with
  | zero =>
    rw [inOrder]
    split
    · rename_i hS
      simp [hS]
    · rename_i hS
      obtain ⟨q, hq⟩ := List.exists_mem_of_ne_nil S hS
      have hnil : ∀ p ∈ S, p = [] := fun p hp => List.eq_nil_of_length_eq_zero (h p hp)
      constructor
      · intro hp
        rw [List.mem_singleton.mp hp, ← hnil q hq]
        exact hq
      · intro hp
        rw [hnil p hp]
        exact List.mem_singleton.mpr rfl
  | succ n ih =>
    simp only [inOrder_succ, List.mem_append, List.mem_map, ih (length_of_mem_behind h), mem_behind]
    constructor
    · rintro (⟨q, hq, rfl⟩ | ⟨q, hq, rfl⟩)
      · exact hq
      · exact hq
    · intro hp
      cases p with
      | nil => cases h _ hp
      | cons b p =>
        cases b with
        | false => exact .inl ⟨p, hp, rfl⟩
        | true => exact .inr ⟨p, hp, rfl⟩

theorem inOrder_eq_nil (h : ∀ p ∈ S, p.length = n) : inOrder n S = [] ↔ S = [] := by
  simp only [List.eq_nil_iff_forall_not_mem, mem_inOrder h]

/-- The strings stand in the lexicographic order. -/
theorem sorted_inOrder : (inOrder n S).Pairwise (List.Lex (· < ·)) := by
  induction n generalizing S with
  | zero =>
    rw [inOrder]
    split <;> simp
  | succ n ih =>
    rw [inOrder_succ, List.pairwise_append]
    refine ⟨List.pairwise_map.mpr (ih.imp .cons), List.pairwise_map.mpr (ih.imp .cons), ?_⟩
    intro p hp q hq
    obtain ⟨p, -, rfl⟩ := List.mem_map.mp hp
    obtain ⟨q, -, rfl⟩ := List.mem_map.mp hq
    exact .rel (by decide)

/-- With no place to turn at, a walk ends at the first string. -/
theorem head?_inOrder (h : ∀ p ∈ S, p.length = n) (hS : S ≠ []) :
    (inOrder n S).head? = some (walk n S p 0) := by
  induction n generalizing S p with
  | zero => simp [inOrder, hS, walk]
  | succ n ih =>
    by_cases hleft : behind false S = []
    · have hright : behind true S ≠ [] := behind_ne_nil h hS hleft
      have hnil : inOrder n (behind false S) = [] := (inOrder_eq_nil (length_of_mem_behind h)).mpr hleft
      rw [inOrder_succ, hnil, List.map_nil, List.nil_append, List.head?_map,
        ih (length_of_mem_behind h) hright (p := p.tail), walk]
      simp [turn, hright, hleft]
    · have hhead : (inOrder n (behind false S)).head? = some (walk n (behind false S) p.tail 0) :=
        ih (length_of_mem_behind h) hleft
      rw [inOrder_succ, List.head?_append, List.head?_map, hhead, walk]
      simp [turn, hleft]

/-- A string that leaves no way open is the last one. -/
theorem lastOpen_eq_zero (h : ∀ p ∈ S, p.length = n) (hp : (inOrder n S)[i]? = some p)
    (hzero : lastOpen n S p = 0) : i + 1 = (inOrder n S).length := by
  induction n generalizing S p i with
  | zero =>
    rw [inOrder] at hp ⊢
    split at hp
    · cases hp
    · rename_i hS
      rw [if_neg hS]
      cases i with
      | zero => rfl
      | succ i => cases hp
  | succ n ih =>
    rw [inOrder_succ] at hp ⊢
    rw [List.length_append, List.length_map, List.length_map]
    rcases Nat.lt_or_ge i (inOrder n (behind false S)).length with hi | hi
    · rw [List.getElem?_append_left (by simpa using hi), List.getElem?_map] at hp
      obtain ⟨q, hq, rfl⟩ := Option.map_eq_some_iff.mp hp
      rw [lastOpen] at hzero
      split at hzero
      · cases hzero
      · rename_i hq0
        rw [not_not] at hq0
        have hright : behind true S = [] := by
          by_contra hright
          simp [hright] at hzero
        have hnil := (inOrder_eq_nil (length_of_mem_behind h)).mpr hright
        rw [hnil, List.length_nil, Nat.add_zero]
        exact ih (length_of_mem_behind h) hq hq0
    · rw [List.getElem?_append_right (by simpa using hi), List.getElem?_map, List.length_map] at hp
      obtain ⟨q, hq, rfl⟩ := Option.map_eq_some_iff.mp hp
      rw [lastOpen] at hzero
      split at hzero
      · cases hzero
      · rename_i hq0
        rw [not_not] at hq0
        have hlast := ih (length_of_mem_behind h) hq hq0
        omega

/-- A walk that turns at the last open place comes to the next string. -/
theorem walk_lastOpen (h : ∀ p ∈ S, p.length = n) (hp : (inOrder n S)[i]? = some p)
    (hopen : lastOpen n S p ≠ 0) :
    (inOrder n S)[i + 1]? = some (walk n S p (lastOpen n S p)) := by
  induction n generalizing S p i with
  | zero => exact absurd rfl hopen
  | succ n ih =>
    have hnonempty : ∀ {b : Bool} {j : ℕ} {q : List Bool}, (inOrder n (behind b S))[j]? = some q →
        behind b S ≠ [] := by
      intro b j q hq hnil
      have hempty := (inOrder_eq_nil (length_of_mem_behind h)).mpr hnil
      rw [hempty] at hq
      cases hq
    rw [inOrder_succ] at hp ⊢
    rcases Nat.lt_or_ge i (inOrder n (behind false S)).length with hi | hi
    · rw [List.getElem?_append_left (by simpa using hi), List.getElem?_map] at hp
      obtain ⟨q, hq, rfl⟩ := Option.map_eq_some_iff.mp hp
      have hleft := hnonempty hq
      by_cases hq0 : lastOpen n (behind false S) q = 0
      · -- The left side is finished, and the walk begins the right one.
        have hright : behind true S ≠ [] := by
          intro hright
          simp [lastOpen, hq0, hright] at hopen
        have hlast := lastOpen_eq_zero (length_of_mem_behind h) hq hq0
        have hone : lastOpen (n + 1) S (false :: q) = 1 := by simp [lastOpen, hq0, hright]
        rw [List.getElem?_append_right (by simp; omega), List.length_map, hone, hlast, Nat.sub_self,
          List.getElem?_map, ← List.head?_eq_getElem?, head?_inOrder (length_of_mem_behind h) hright
            (p := q), walk]
        simp [turn, hright, hleft]
      · have hnext := ih (length_of_mem_behind h) hq hq0
        have hi' : i + 1 < (inOrder n (behind false S)).length := by
          by_contra hge
          rw [List.getElem?_eq_none (by omega)] at hnext
          cases hnext
        have hplace : lastOpen (n + 1) S (false :: q) = lastOpen n (behind false S) q + 1 := by
          rw [lastOpen, if_pos hq0]
        rw [List.getElem?_append_left (by simpa using hi'), List.getElem?_map, hnext, hplace, walk]
        have hlt : 1 < lastOpen n (behind false S) q + 1 := by omega
        simp [turn, hleft, hlt]
    · rw [List.getElem?_append_right (by simpa using hi), List.getElem?_map, List.length_map] at hp
      obtain ⟨q, hq, rfl⟩ := Option.map_eq_some_iff.mp hp
      have hright := hnonempty hq
      have hq0 : lastOpen n (behind true S) q ≠ 0 := by
        intro hq0
        simp [lastOpen, hq0] at hopen
      have hnext := ih (length_of_mem_behind h) hq hq0
      have hplace : lastOpen (n + 1) S (true :: q) = lastOpen n (behind true S) q + 1 := by
        rw [lastOpen, if_pos hq0]
      have hindex : i + 1 - (inOrder n (behind false S)).length =
          i - (inOrder n (behind false S)).length + 1 := by omega
      rw [List.getElem?_append_right (by simp; omega), List.getElem?_map, List.length_map, hindex, hnext,
        hplace, walk]
      have hlt : 1 < lastOpen n (behind true S) q + 1 := by omega
      simp [turn, hright, hlt]

/-- With no place to turn at, a walk keeps to the left as long as there is a way. -/
theorem take_walk_zero (hp : List.replicate i false ++ q ∈ S) (hn : i ≤ n) :
    (walk n S p 0).take i = List.replicate i false := by
  induction i generalizing n S p with
  | zero => rw [List.take_zero]; rfl
  | succ i ih =>
    obtain ⟨n, rfl⟩ : ∃ m, n = m + 1 := ⟨n - 1, by omega⟩
    have hleft : List.replicate i false ++ q ∈ behind false S := mem_behind.mpr hp
    have hopen : behind false S ≠ [] := List.ne_nil_of_mem hleft
    have hturn : turn S p 0 = false := by simp [turn, hopen]
    rw [walk, hturn, List.take_succ_cons, ih hleft (by omega), List.replicate_succ]

/-! ### One string after the other -/

/-- The last string, the place where to turn from it, and whether it was the last of all. -/
structure Memory where
  last : List Bool
  place : ℕ
  done : Bool
deriving DecidableEq, Repr

def next (n : ℕ) (S : List (List Bool)) (m : Memory) : Memory × Option (List Bool) :=
  if m.done = true ∨ S = [] then ({ m with place := 0, done := false }, none)
  else
    let p := walk n S m.last m.place
    (⟨p, lastOpen n S p, decide (lastOpen n S p = 0)⟩, some p)

/-- The string `k` comes next, or none if all have come. -/
inductive Due (n : ℕ) (S : List (List Bool)) (m : Memory) : ℕ → Prop where
  | first : m.place = 0 → m.done = false → Due n S m 0
  | later {i : ℕ} : (inOrder n S)[i]? = some m.last → m.place = lastOpen n S m.last →
      m.done = decide (lastOpen n S m.last = 0) → Due n S m (i + 1)

theorem Due.next {m : Memory} {k : ℕ} (hk : Due n S m k) (h : ∀ p ∈ S, p.length = n) :
    (next n S m).2 = (inOrder n S)[k]? ∧
      Due n S (next n S m).1 (if k < (inOrder n S).length then k + 1 else 0) := by
  cases hk with
  | first hplace hdone =>
    by_cases hS : S = []
    · have hnil := (inOrder_eq_nil h).mpr hS
      rw [BitTrie.next, if_pos (.inr hS), hnil]
      exact ⟨rfl, .first rfl rfl⟩
    · have hhead := head?_inOrder h hS (p := m.last)
      rw [List.head?_eq_getElem?] at hhead
      have hpos := (List.getElem?_eq_some_iff.mp hhead).1
      rw [BitTrie.next, if_neg (by simp [hdone, hS]), hplace, hhead, if_pos hpos]
      exact ⟨rfl, .later hhead rfl rfl⟩
  | @later i hlast hplace hdone =>
    have hi := (List.getElem?_eq_some_iff.mp hlast).1
    have hS : S ≠ [] := by
      intro hS
      rw [(inOrder_eq_nil h).mpr hS] at hlast
      cases hlast
    by_cases hopen : lastOpen n S m.last = 0
    · have hend := lastOpen_eq_zero h hlast hopen
      rw [BitTrie.next, if_pos (.inl (by rw [hdone, hopen]; rfl)), if_neg (by omega),
        List.getElem?_eq_none (by omega)]
      exact ⟨rfl, .first rfl rfl⟩
    · have hnext := walk_lastOpen h hlast hopen
      have hlt := (List.getElem?_eq_some_iff.mp hnext).1
      rw [BitTrie.next, if_neg (by simp [hdone, hopen, hS]), hplace, hnext, if_pos hlt]
      exact ⟨rfl, .later hnext rfl rfl⟩

end BitTrie
