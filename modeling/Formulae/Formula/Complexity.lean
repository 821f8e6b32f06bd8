import Formulae.Formula.Head

/-! The weighted complexity of formulae: a weight for every node, and a penalty for some pairs of a
node and its operand. Weights and penalties are held in tenths. -/
namespace Formulae

namespace Head

/-- The weight of a node, in tenths. -/
def weight : Head → Nat
  | const | var => 10
  | sign .plus => 5
  | sign .minus => 10
  | binary .add | binary .sub => 10
  | binary .mul => 11
  | binary .div => 15
  | apply .sqrt | apply .sin | apply .cos => 12
  | apply .tan => 16
  | apply .cot => 18

/-- The pairs of a node and an operand that cost extra, in tenths. -/
def penalties : List ((Head × Head) × Nat) := [
  ((apply .sin, apply .sin), 3), ((apply .cos, apply .cos), 3),
  ((apply .sin, apply .cos), 2), ((apply .cos, apply .sin), 2),
  ((apply .tan, apply .cot), 5), ((apply .cot, apply .tan), 5),
  ((apply .sqrt, apply .sqrt), 4), ((binary .div, binary .div), 3),
  ((sign .minus, sign .minus), 2)]

def penalty (parent child : Head) : Nat := (penalties.lookup (parent, child)).getD 0

def weighted : List Head :=
  BinaryOp.all.map binary ++ Sign.all.map sign ++ Elementary.all.map apply ++ [var, const]

end Head

def tenths {β : Type} [OfScientific β] (n : Nat) : β := OfScientific.ofScientific n true 1

namespace Formula

variable {ν α : Type}

/-- The complexity, in any numbers: the weight, then operand by operand its complexity and its
penalty. -/
def complexity (β : Type) [Add β] [OfScientific β] : Formula ν α → β
  | const _ => tenths Head.const.weight
  | var _ => tenths Head.var.weight
  | sign s e => under β (.sign s) (tenths (Head.sign s).weight) e.head (e.complexity β)
  | apply f e => under β (.apply f) (tenths (Head.apply f).weight) e.head (e.complexity β)
  | binary op l r =>
    under β (.binary op)
      (under β (.binary op) (tenths (Head.binary op).weight) l.head (l.complexity β))
      r.head (r.complexity β)
where
  under (β : Type) [Add β] [OfScientific β] (parent : Head) (sum : β) (child : Head) (c : β) : β :=
    sum + c + tenths (parent.penalty child)

end Formula

end Formulae
