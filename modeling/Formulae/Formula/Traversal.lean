import Formulae.Formula.Analysis
import Formulae.Formula.Head

/-! The nodes of a formula in order: level by level from the root, or each node before its operands
from left to right. Nodes are looked up by kind and by symbol, level by level. -/
namespace Formulae.Formula

variable {ν α : Type}

/-- Serves a queue of formulae: takes the first, and puts its operands at the end. -/
def serve : List (Formula ν α) → List (Formula ν α)
  | [] => []
  | e :: queue => e :: serve (queue ++ e.children)
termination_by queue => totalSize queue
decreasing_by
  have h := size_eq_children e
  rw [totalSize_append, totalSize]
  omega

def breadthFirst (e : Formula ν α) : List (Formula ν α) := serve [e]

/-- The nodes, each before its operands. -/
def depthFirst : Formula ν α → List (Formula ν α)
  | const a => [const a]
  | var x => [var x]
  | sign s e => sign s e :: e.depthFirst
  | apply f e => apply f e :: e.depthFirst
  | binary op l r => binary op l r :: (l.depthFirst ++ r.depthFirst)

theorem length_depthFirst (e : Formula ν α) : e.depthFirst.length = e.size := by
  induction e with
  | const | var => rfl
  | sign | apply => simp [depthFirst, size, *]; omega
  | binary => simp [depthFirst, size, *]; omega

theorem mem_depthFirst_self (e : Formula ν α) : e ∈ e.depthFirst := by
  cases e <;> exact List.mem_cons_self

theorem mem_depthFirst_left {op : BinaryOp} {l r n : Formula ν α} (h : n ∈ l.depthFirst) :
    n ∈ (binary op l r).depthFirst :=
  List.mem_cons_of_mem _ (List.mem_append_left _ h)

theorem mem_depthFirst_right {op : BinaryOp} {l r n : Formula ν α} (h : n ∈ r.depthFirst) :
    n ∈ (binary op l r).depthFirst :=
  List.mem_cons_of_mem _ (List.mem_append_right _ h)

theorem mem_depthFirst_trans {e n m : Formula ν α} (hm : m ∈ n.depthFirst)
    (hn : n ∈ e.depthFirst) : m ∈ e.depthFirst := by
  induction e with
  | const | var =>
    cases List.mem_singleton.1 hn
    exact hm
  | sign s e ih | apply f e ih =>
    rcases List.mem_cons.1 hn with rfl | hn
    · exact hm
    · exact List.mem_cons_of_mem _ (ih hn)
  | binary op l r ihl ihr =>
    rcases List.mem_cons.1 hn with rfl | hn
    · exact hm
    · refine List.mem_cons_of_mem _ (List.mem_append.2 ?_)
      exact (List.mem_append.1 hn).imp ihl ihr

inductive Order where
  | breadthFirst
  | depthFirst
  deriving DecidableEq, Repr

def Order.ofName? : String → Option Order
  | "breadth_first" => some .breadthFirst
  | "depth_first" => some .depthFirst
  | _ => none

def nodes (e : Formula ν α) : Order → List (Formula ν α)
  | .breadthFirst => e.breadthFirst
  | .depthFirst => e.depthFirst

def ofKind (k : Kind) (e : Formula ν α) : List (Formula ν α) :=
  e.breadthFirst.filter fun n => decide (n.kind = k)

def withSymbol (symbol : String) (e : Formula ν α) : List (Formula ν α) :=
  e.breadthFirst.filter fun n => n.head.symbol == symbol

def constant? : Formula ν α → Option α
  | const a => some a
  | _ => none

def name? : Formula ν α → Option ν
  | var x => some x
  | _ => none

def constants (e : Formula ν α) : List α := (e.ofKind .const).filterMap constant?

def names (e : Formula ν α) : List ν := (e.ofKind .var).filterMap name?

def usage [BEq ν] (e : Formula ν α) : List (ν × Nat) :=
  (distinct e.names).map fun x => (x, e.names.countP (· == x))

end Formulae.Formula
