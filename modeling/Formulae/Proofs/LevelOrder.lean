import Formulae.Formula.Traversal

/-! The nodes of a formula by levels. The queue that is served level by level is empty after as many
turns as there are nodes, and what came out of it by then are the levels, one after the other, each
in the order of the depth-first listing. -/
namespace Formulae.Formula

variable {ν α : Type}

/-- The nodes with their distances from the root, each before its operands. -/
def placed : Formula ν α → List (Nat × Formula ν α)
  | const a => [(0, const a)]
  | var x => [(0, var x)]
  | sign s e => (0, sign s e) :: below e.placed
  | apply f e => (0, apply f e) :: below e.placed
  | binary op l r => (0, binary op l r) :: (below l.placed ++ below r.placed)
where
  below (ps : List (Nat × Formula ν α)) : List (Nat × Formula ν α) :=
    ps.map fun p => (p.1 + 1, p.2)

def level (e : Formula ν α) (k : Nat) : List (Formula ν α) :=
  (e.placed.filter fun p => p.1 = k).map Prod.snd

theorem map_snd_below (ps : List (Nat × Formula ν α)) :
    (placed.below ps).map Prod.snd = ps.map Prod.snd := by
  simp [placed.below, Function.comp_def]

theorem filter_below_zero (ps : List (Nat × Formula ν α)) :
    (placed.below ps).filter (fun p => p.1 = 0) = [] := by
  simp [placed.below, List.filter_map, Function.comp_def]

theorem filter_below_succ (ps : List (Nat × Formula ν α)) (k : Nat) :
    (placed.below ps).filter (fun p => p.1 = k + 1) = placed.below (ps.filter fun p => p.1 = k) := by
  simp [placed.below, List.filter_map, Function.comp_def]

theorem map_snd_placed (e : Formula ν α) : e.placed.map Prod.snd = e.depthFirst := by
  induction e with
  | const | var => rfl
  | sign s e ih | apply f e ih => rw [placed, depthFirst, List.map_cons, map_snd_below, ih]
  | binary op l r ihl ihr =>
    rw [placed, depthFirst, List.map_cons, List.map_append, map_snd_below, map_snd_below, ihl, ihr]

theorem placed_eq_cons (e : Formula ν α) :
    e.placed = (0, e) :: e.children.flatMap fun c => placed.below c.placed := by
  cases e <;> simp [placed, children]

theorem depthFirst_eq_cons (e : Formula ν α) :
    e.depthFirst = e :: e.children.flatMap depthFirst := by
  cases e <;> simp [depthFirst, children]

theorem level_zero (e : Formula ν α) : e.level 0 = [e] := by
  unfold level
  rw [placed_eq_cons, List.filter_cons_of_pos (by rfl), List.filter_flatMap]
  simp [filter_below_zero]

theorem level_succ (e : Formula ν α) (k : Nat) :
    e.level (k + 1) = e.children.flatMap (level · k) := by
  unfold level
  rw [placed_eq_cons, List.filter_cons_of_neg (by simp), List.filter_flatMap, List.map_flatMap]
  simp only [filter_below_succ, map_snd_below]

theorem depth_lt_of_mem_children {e c : Formula ν α} (h : c ∈ e.children) : c.depth < e.depth := by
  cases e with
  | const | var => cases h
  | sign s e | apply f e =>
    obtain rfl := List.mem_singleton.1 h
    rw [depth]
    omega
  | binary op l r =>
    rw [depth]
    rcases List.mem_cons.1 h with rfl | h
    · omega
    · obtain rfl := List.mem_singleton.1 h
      omega

theorem level_eq_nil_iff {e : Formula ν α} {k : Nat} : e.level k = [] ↔ e.depth ≤ k := by
  induction k generalizing e with
  | zero =>
    have := e.depth_pos
    simp only [level_zero, List.cons_ne_nil, false_iff]
    omega
  | succ k ih =>
    rw [level_succ]
    cases e with
    | const | var => simp [children, depth]
    | sign s e | apply f e =>
      rw [children, List.flatMap_singleton, ih, depth]
      omega
    | binary op l r =>
      rw [children, List.flatMap_cons, List.flatMap_singleton, List.append_eq_nil_iff, ih, ih, depth]
      omega

theorem level_ne_nil_iff {e : Formula ν α} {k : Nat} : e.level k ≠ [] ↔ k < e.depth := by
  rw [ne_eq, level_eq_nil_iff, Nat.not_le]

/-- The first of a queue are served in their order, and their operands wait behind the others: a
queue holds the rest of one level before the beginning of the next. -/
theorem serve_append (es fs : List (Formula ν α)) :
    serve (es ++ fs) = es ++ serve (fs ++ es.flatMap children) := by
  induction es generalizing fs with
  | nil => simp
  | cons e es ih =>
    rw [List.cons_append, serve, List.append_assoc, ih, List.append_assoc]
    rfl

theorem serve_level (es : List (Formula ν α)) : serve es = es ++ serve (es.flatMap children) := by
  have h := serve_append es []
  rwa [List.append_nil, List.nil_append] at h

/-- A level is served, and then the one below it, until there is none. -/
theorem serve_eq_levels {es : List (Formula ν α)} {n : Nat} (h : ∀ e ∈ es, e.depth ≤ n) :
    serve es = (List.range n).flatMap fun k => es.flatMap (level · k) := by
  -- The queue does not hold a whole level between two turns. It does each time that one has been
  -- served to the end, so the induction is on how many levels there still are.
  induction n generalizing es with
  | zero =>
    cases es with
    | nil => rw [serve]; rfl
    | cons e es =>
      have := h e List.mem_cons_self
      have := e.depth_pos
      omega
  | succ n ih =>
    have hchildren : ∀ c ∈ es.flatMap children, c.depth ≤ n := by
      intro c hc
      obtain ⟨e, he, hce⟩ := List.mem_flatMap.1 hc
      have := depth_lt_of_mem_children hce
      have := h e he
      omega
    rw [serve_level, ih hchildren, List.range_succ_eq_map, List.flatMap_cons, List.flatMap_map]
    simp [level_zero, level_succ, List.flatMap_assoc]

theorem serve_perm (es : List (Formula ν α)) : (serve es).Perm (es.flatMap depthFirst) := by
  induction es using serve.induct with
  | case1 => rw [serve]; rfl
  | case2 e queue ih =>
    rw [serve, List.flatMap_cons, depthFirst_eq_cons]
    refine (ih.trans ?_).cons e
    rw [List.flatMap_append]
    exact List.perm_append_comm

theorem breadthFirst_perm (e : Formula ν α) : e.breadthFirst.Perm e.depthFirst := by
  have h := serve_perm [e]
  rwa [List.flatMap_singleton] at h

theorem length_breadthFirst (e : Formula ν α) : e.breadthFirst.length = e.size := by
  rw [e.breadthFirst_perm.length_eq, length_depthFirst]

/-- A queue, and what has come out of it so far. -/
structure Service (ν α : Type) where
  served : List (Formula ν α)
  queue : List (Formula ν α)

namespace Service

def turn : Service ν α → Option (Service ν α)
  | ⟨_, []⟩ => none
  | ⟨served, e :: queue⟩ => some ⟨served ++ [e], queue ++ e.children⟩

/-- After so many turns the queue is empty, and these nodes were served. -/
inductive Ends : Service ν α → Nat → List (Formula ν α) → Prop where
  | empty (served : List (Formula ν α)) : Ends ⟨served, []⟩ 0 served
  | turn {s t : Service ν α} {n : Nat} {nodes : List (Formula ν α)} (h : s.turn = some t)
      (hrest : Ends t n nodes) : Ends s (n + 1) nodes

/-- A turn takes one node off, and leaves what will have been served in the end as it is. -/
theorem turn_eq_some {s t : Service ν α} (h : s.turn = some t) :
    totalSize s.queue = totalSize t.queue + 1 ∧
      s.served ++ serve s.queue = t.served ++ serve t.queue := by
  rcases s with ⟨served, _ | ⟨e, queue⟩⟩
  · cases h
  · cases h
    refine ⟨?_, ?_⟩
    · rw [totalSize, totalSize_append, size_eq_children]
      omega
    · rw [serve, List.append_assoc]
      rfl

theorem ends (s : Service ν α) : s.Ends (totalSize s.queue) (s.served ++ serve s.queue) := by
  generalize hn : totalSize s.queue = n
  induction n generalizing s with
  | zero =>
    rcases s with ⟨served, _ | ⟨e, queue⟩⟩
    · rw [serve, List.append_nil]
      exact .empty served
    · have := e.size_pos
      rw [totalSize] at hn
      omega
  | succ n ih =>
    rcases s with ⟨served, _ | ⟨e, queue⟩⟩
    · cases hn
    · have hturn : turn ⟨served, e :: queue⟩ = some ⟨served ++ [e], queue ++ e.children⟩ := rfl
      obtain ⟨hsize, hserved⟩ := turn_eq_some hturn
      rw [hserved]
      exact .turn hturn (ih _ (by omega))

theorem Ends.preserves {P : Service ν α → Prop} {s : Service ν α} {n : Nat}
    {nodes : List (Formula ν α)} (h : s.Ends n nodes) (hs : P s)
    (hturn : ∀ s t : Service ν α, s.turn = some t → P s → P t) : P ⟨nodes, []⟩ := by
  induction h with
  | empty => exact hs
  | turn h _ ih => exact ih (hturn _ _ h hs)

end Service

/-- Emptying the queue takes as many turns as there are nodes. They come out level by level, those
of one level in the order of the depth-first listing, so that it is a rearrangement of that; and
there are as many levels as the formula is deep. -/
theorem breadthFirst_levelOrder (e : Formula ν α) :
    (⟨[], [e]⟩ : Service ν α).Ends e.size e.breadthFirst ∧
    e.placed.map Prod.snd = e.depthFirst ∧
    e.breadthFirst = (List.range e.depth).flatMap e.level ∧
    (∀ k, e.level k ≠ [] ↔ k < e.depth) ∧
    e.breadthFirst.Perm e.depthFirst ∧
    e.breadthFirst.length = e.size := by
  have hperm := e.breadthFirst_perm
  refine ⟨?_, e.map_snd_placed, ?_, fun k => level_ne_nil_iff, hperm, ?_⟩
  · exact Service.ends ⟨[], [e]⟩
  · have hdepth : ∀ f ∈ [e], f.depth ≤ e.depth := by
      intro f hf
      cases List.mem_singleton.1 hf
      exact Nat.le_refl _
    have hlevels := serve_eq_levels hdepth
    simp only [List.flatMap_singleton] at hlevels
    exact hlevels
  · rw [hperm.length_eq, length_depthFirst]

end Formulae.Formula
