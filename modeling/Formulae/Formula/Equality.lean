import Formulae.Formula.Head
import Formulae.Number.Arithmetic

/-! Structural equality: the same shape, the same variables and constants of the same value. Zeros
of both signs are the same constant, and so are all undefined numbers. Equal formulae have equal
hashes as soon as equal names and equal constants have. -/
namespace Formulae

def sameConstant {α : Type} [Arithmetic α] (a b : α) : Bool :=
  a == b || (Arithmetic.isUndefined a && Arithmetic.isUndefined b)

namespace Formula

variable {ν α : Type} [BEq ν] [Arithmetic α]

def same : Formula ν α → Formula ν α → Bool
  | const a, const b => sameConstant a b
  | var x, var y => x == y
  | sign s e, sign t f => decide (s = t) && same e f
  | binary op l r, binary op' l' r' => decide (op = op') && (same l l' && same r r')
  | apply f e, apply g e' => decide (f = g) && same e e'
  | _, _ => false

instance : BEq (Formula ν α) := ⟨same⟩

@[simp] theorem const_beq_const (a b : α) :
    ((const a : Formula ν α) == const b) = sameConstant a b := rfl

@[simp] theorem var_beq_var (x y : ν) : ((var x : Formula ν α) == var y) = (x == y) := rfl

@[simp] theorem sign_beq_sign (s t : Sign) (e f : Formula ν α) :
    (sign s e == sign t f) = (decide (s = t) && (e == f)) := rfl

@[simp] theorem binary_beq_binary (op op' : BinaryOp) (l r l' r' : Formula ν α) :
    (binary op l r == binary op' l' r') = (decide (op = op') && ((l == l') && (r == r'))) := rfl

@[simp] theorem apply_beq_apply (f g : Elementary) (e e' : Formula ν α) :
    (apply f e == apply g e') = (decide (f = g) && (e == e')) := rfl

/-- The hash of a constant; all undefined numbers share one. -/
def hashConstant (number : α → UInt64) (a : α) : UInt64 :=
  if Arithmetic.isUndefined a then 0 else number a

omit [BEq ν] in
def hashWith (name : ν → UInt64) (number : α → UInt64) : Formula ν α → UInt64
  | const a => mixHash Head.const.code.toUInt64 (hashConstant number a)
  | var x => mixHash Head.var.code.toUInt64 (name x)
  | sign s e => mixHash (Head.sign s).code.toUInt64 (e.hashWith name number)
  | apply f e => mixHash (Head.apply f).code.toUInt64 (e.hashWith name number)
  | binary op l r =>
    mixHash (Head.binary op).code.toUInt64 (mixHash (l.hashWith name number) (r.hashWith name number))

end Formula

end Formulae
