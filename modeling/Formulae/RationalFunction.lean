import Formulae.Formula.Analysis
import Formulae.Number.Arithmetic

/-! Formulae as quotients of polynomials, and when two of them are the same rational function.
Polynomials have rational coefficients and finitely many variables, and are lists of terms. -/
namespace Formulae

abbrev Monomial := List Nat

/-- Terms of different monomials, none with the coefficient zero. -/
abbrev SparsePolynomial := List (Monomial × Rat)

namespace SparsePolynomial

def addTerm (m : Monomial) (c : Rat) : SparsePolynomial → SparsePolynomial
  | [] => if c = 0 then [] else [(m, c)]
  | (m', c') :: p =>
    if m = m' then if c' + c = 0 then p else (m', c' + c) :: p
    else (m', c') :: addTerm m c p

def add (p q : SparsePolynomial) : SparsePolynomial := q.foldl (fun sum t => addTerm t.1 t.2 sum) p

def neg (p : SparsePolynomial) : SparsePolynomial := p.map fun t => (t.1, -t.2)

def sub (p q : SparsePolynomial) : SparsePolynomial := p.add q.neg

def mul (p q : SparsePolynomial) : SparsePolynomial :=
  p.foldl (fun sum s =>
    q.foldl (fun sum t => addTerm (List.zipWith (· + ·) s.1 t.1) (s.2 * t.2) sum) sum) []

def constant (n : Nat) (c : Rat) : SparsePolynomial := addTerm (List.replicate n 0) c []

end SparsePolynomial

structure RationalFunction where
  num : SparsePolynomial
  den : SparsePolynomial

namespace RationalFunction

def ofPolynomial (n : Nat) (p : SparsePolynomial) : RationalFunction := ⟨p, .constant n 1⟩

def neg (a : RationalFunction) : RationalFunction := ⟨a.num.neg, a.den⟩

def add (a b : RationalFunction) : RationalFunction :=
  ⟨(a.num.mul b.den).add (b.num.mul a.den), a.den.mul b.den⟩

def mul (a b : RationalFunction) : RationalFunction := ⟨a.num.mul b.num, a.den.mul b.den⟩

def inv (a : RationalFunction) : RationalFunction := ⟨a.den, a.num⟩

def eval (op : BinaryOp) (a b : RationalFunction) : RationalFunction :=
  match op with
  | .add => a.add b
  | .sub => a.add b.neg
  | .mul => a.mul b
  | .div => a.mul b.inv

/-- The quotient that a formula in the given variables is, if its constants are finite and it
applies no function. -/
def ofFormula? {ν α : Type} [BEq ν] [Arithmetic α] (vars : List ν) :
    Formula ν α → Option RationalFunction
  | .const a =>
    (Arithmetic.rational? a).map fun c => ofPolynomial vars.length (.constant vars.length c)
  | .var x => some (ofPolynomial vars.length [(vars.map fun y => if y == x then 1 else 0, 1)])
  | .sign .plus e => ofFormula? vars e
  | .sign .minus e => (ofFormula? vars e).map neg
  | .binary op l r => do return eval op (← ofFormula? vars l) (← ofFormula? vars r)
  | .apply _ _ => none

/-- Whether two quotients are the same function. A quotient by zero is no function. -/
def same (a b : RationalFunction) : Bool :=
  !a.den.isEmpty && !b.den.isEmpty && ((a.num.mul b.den).sub (b.num.mul a.den)).isEmpty

end RationalFunction

def Formula.equivalent {ν α : Type} [BEq ν] [Arithmetic α] (a b : Formula ν α) : Bool :=
  let names := distinct (a.vars ++ b.vars)
  match RationalFunction.ofFormula? names a, RationalFunction.ofFormula? names b with
  | some f, some g => f.same g
  | _, _ => false

end Formulae
