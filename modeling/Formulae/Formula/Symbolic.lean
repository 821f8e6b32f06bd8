import Formulae.Formula.Basic
import Formulae.Formula.Environment
import Formulae.Number.Arithmetic

/-! Formulae as symbolic terms, which know sums, products and powers only: a difference adds the
product with minus one, a quotient multiplies by the power to minus one, a square root is the power
to one half. Whole constants become integers. -/
namespace Formulae

/-- Terms over symbols in `ν` with inexact numbers in `α`. -/
inductive Term (ν α : Type) where
  | symbol (x : ν)
  | integer (z : Int)
  | rational (p : Int) (q : Nat)
  | inexact (a : α)
  | infinity
  | negativeInfinity
  | undefined
  | add (s t : Term ν α)
  | mul (s t : Term ν α)
  | pow (s t : Term ν α)
  | apply (f : Elementary) (t : Term ν α)

namespace Term

variable {ν α : Type} [Arithmetic α]

def ofNumber (a : α) : Term ν α :=
  match Arithmetic.rational? a with
  | some r => if r.den = 1 then integer r.num else inexact a
  | none =>
    if Arithmetic.isUndefined a then undefined
    else if Arithmetic.below a 0 then negativeInfinity
    else infinity

/-- The opposite: a number changes its sign, anything else is multiplied by minus one. -/
def neg : Term ν α → Term ν α
  | integer z => integer (-z)
  | rational p q => rational (-p) q
  | inexact a => inexact (-a)
  | infinity => negativeInfinity
  | negativeInfinity => infinity
  | undefined => undefined
  | t => mul (integer (-1)) t

def reciprocal (t : Term ν α) : Term ν α := pow t (integer (-1))

def ofFormula : Formula ν α → Term ν α
  | .const a => ofNumber a
  | .var x => symbol x
  | .sign .plus e => ofFormula e
  | .sign .minus e => neg (ofFormula e)
  | .binary .add l r => add (ofFormula l) (ofFormula r)
  | .binary .sub l r => add (ofFormula l) (mul (integer (-1)) (ofFormula r))
  | .binary .mul l r => mul (ofFormula l) (ofFormula r)
  | .binary .div l r => mul (ofFormula l) (reciprocal (ofFormula r))
  | .apply .sqrt e => pow (ofFormula e) (rational 1 2)
  | .apply f e => apply f (ofFormula e)

def symbols : Term ν α → List ν
  | symbol x => [x]
  | add s t | mul s t | pow s t => s.symbols ++ t.symbols
  | apply _ t => t.symbols
  | _ => []

end Term

def Formula.term? {ν α : Type} [Naming ν] [Arithmetic α] (e : Formula ν α) :
    Except OddName (Term ν α) :=
  let t := Term.ofFormula e
  match t.symbols.findSome? Naming.odd? with
  | some odd => .error odd
  | none => .ok t

end Formulae
