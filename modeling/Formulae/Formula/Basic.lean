/-! Formulae over variables and numbers: constants, variables, signed formulae, the four binary
operations and five elementary functions. -/
namespace Formulae

inductive Sign where
  | plus
  | minus
  deriving DecidableEq, Repr

inductive BinaryOp where
  | add
  | sub
  | mul
  | div
  deriving DecidableEq, Repr

inductive Elementary where
  | sqrt
  | sin
  | cos
  | tan
  | cot
  deriving DecidableEq, Repr

/-- Formulae with variables in `ν` and constants in `α`. -/
inductive Formula (ν α : Type) where
  | const (a : α)
  | var (x : ν)
  | sign (s : Sign) (e : Formula ν α)
  | binary (op : BinaryOp) (l r : Formula ν α)
  | apply (f : Elementary) (e : Formula ν α)

namespace Formula

variable {ν α : Type}

def children : Formula ν α → List (Formula ν α)
  | const _ | var _ => []
  | sign _ e | apply _ e => [e]
  | binary _ l r => [l, r]

def size : Formula ν α → Nat
  | const _ | var _ => 1
  | sign _ e | apply _ e => 1 + e.size
  | binary _ l r => 1 + (l.size + r.size)

def depth : Formula ν α → Nat
  | const _ | var _ => 1
  | sign _ e | apply _ e => 1 + e.depth
  | binary _ l r => 1 + max l.depth r.depth

/-- How many nodes with a single operand follow each other from the root. -/
def chain : Formula ν α → Nat
  | sign _ e | apply _ e => e.chain + 1
  | _ => 0

theorem size_pos (e : Formula ν α) : 0 < e.size := by
  cases e <;> (unfold size; omega)

def totalSize : List (Formula ν α) → Nat
  | [] => 0
  | e :: es => e.size + totalSize es

theorem totalSize_append (es fs : List (Formula ν α)) :
    totalSize (es ++ fs) = totalSize es + totalSize fs := by
  induction es with
  | nil => rw [List.nil_append, totalSize, Nat.zero_add]
  | cons e es ih => rw [List.cons_append, totalSize, totalSize, ih, Nat.add_assoc]

theorem size_eq_children (e : Formula ν α) : e.size = 1 + totalSize e.children := by
  cases e <;> rfl

theorem depth_pos (e : Formula ν α) : 0 < e.depth := by
  cases e <;> (unfold depth; omega)

end Formula

end Formulae
