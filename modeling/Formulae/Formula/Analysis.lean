import Formulae.Formula.Basic

/-! Structural queries: the variables of a formula, whether it is constant, whether it is a
polynomial and of which degree. They describe the formula as written; nothing is simplified first. -/
namespace Formulae

namespace Formula

variable {ν α : Type}

/-- A list without repetitions, each member where it comes first. -/
def distinct [BEq ν] : List ν → List ν
  | [] => []
  | x :: xs => x :: (distinct xs).filter fun y => !(y == x)

def vars [BEq ν] : Formula ν α → List ν
  | const _ => []
  | var x => [x]
  | sign _ e | apply _ e => e.vars
  | binary _ l r => distinct (l.vars ++ r.vars)

def isConstant : Formula ν α → Bool
  | const _ => true
  | var _ => false
  | sign _ e | apply _ e => e.isConstant
  | binary _ l r => l.isConstant && r.isConstant

def notPolynomial : Bool × Int := (false, -1)

/-- Whether the formula is a polynomial, and its degree. The root of a polynomial of even degree
passes for one of half the degree, and a quotient is a polynomial when the divisor is constant. -/
def classify : Formula ν α → Bool × Int
  | const _ => (true, 0)
  | var _ => (true, 1)
  | sign _ e => e.classify
  | apply .sqrt e =>
    let (polynomial, n) := e.classify
    if polynomial && n % 2 == 0 then (true, n / 2) else notPolynomial
  | apply _ _ => notPolynomial
  | binary op l r =>
    let (left, m) := l.classify
    let (right, n) := r.classify
    if !(left && right) then notPolynomial
    else
      match op with
      | .add | .sub => (true, max m n)
      | .mul => (true, m + n)
      | .div => if r.isConstant then (true, m) else notPolynomial

def isPolynomial (e : Formula ν α) : Bool := e.classify.1

def degree (e : Formula ν α) : Int := e.classify.2

end Formula

structure Profile (ν : Type) where
  vars : List ν
  isConstant : Bool
  isPolynomial : Bool
  degree : Int

/-- The profile. It takes a formula without variables for constant. -/
def Formula.profile {ν α : Type} [BEq ν] (e : Formula ν α) : Profile ν where
  vars := e.vars
  isConstant := e.vars.isEmpty
  isPolynomial := e.classify.1
  degree := e.classify.2

end Formulae
