import Formulae.Formula.Operation
import Formulae.Literal

/-! Operators between plain values. Whole numbers and fractions are exact but for the quotient of
two whole numbers, which is the nearest double; a double makes the other number a double. Texts and
lists are joined by a sum and repeated by a product with a whole number. -/
namespace Formulae.Literal

open Number

inductive OperatorFault where
  | unsupported
  | zeroDivision (text : String)
  | value (why : ValueFault)

/-- A number without its kind. -/
inductive Real where
  | whole (z : Int)
  | ratio (r : Rat)
  | inexact (x : Float)

def real : Literal → Option Real
  | bool b => some (.whole (if b then 1 else 0))
  | int z | named _ _ z => some (.whole z)
  | fraction r => some (.ratio r)
  | float x => some (.inexact x)
  | _ => none

namespace Real

def toLiteral : Real → Literal
  | whole z => int z
  | ratio r => fraction r
  | inexact x => float x

def toFloat (a : Real) : Except OperatorFault Float := a.toLiteral.toFloat.mapError .value

def rational : Real → Rat
  | whole z => z
  | ratio r => r
  | inexact _ => 0

def neg : Real → Real
  | whole z => whole (-z)
  | ratio r => ratio (-r)
  | inexact x => inexact (-x)

def quotient (a b : Int) : Except OperatorFault Real :=
  if b = 0 then .error (.zeroDivision "division by zero")
  else
    match Binary64.ofRatio? (decide (a < 0) != decide (b < 0)) a.natAbs b.natAbs with
    | some x => .ok (inexact x)
    | none => .error (.value .quotientTooLarge)

def onDoubles (op : BinaryOp) (x y : Float) : Except OperatorFault Real :=
  if op = .div ∧ y == 0 then .error (.zeroDivision "float division by zero")
  else .ok (inexact (op.eval x y))

def onRationals (op : BinaryOp) (r s : Rat) : Except OperatorFault Real :=
  match op with
  | .add => .ok (ratio (r + s))
  | .sub => .ok (ratio (r - s))
  | .mul => .ok (ratio (r * s))
  | .div =>
    if s = 0 then
      .error (.zeroDivision ("Fraction(" ++ integerText (r.num.sign) ++ ", 0)"))
    else .ok (ratio (r / s))

def combine (op : BinaryOp) (a b : Real) : Except OperatorFault Real :=
  match a, b with
  | whole m, whole n =>
    match op with
    | .add => .ok (whole (m + n))
    | .sub => .ok (whole (m - n))
    | .mul => .ok (whole (m * n))
    | .div => quotient m n
  | inexact _, _ | _, inexact _ => do onDoubles op (← a.toFloat) (← b.toFloat)
  | _, _ => onRationals op a.rational b.rational

end Real

/-- A text or a list, repeated. A negative count is none. -/
def repeated (z : Int) : Literal → Option Literal
  | text s => some (text (String.join (List.replicate z.toNat s)))
  | list items => some (list (List.replicate z.toNat items).flatten)
  | _ => none

def combine (op : BinaryOp) (v w : Literal) : Except OperatorFault Literal :=
  match v.real, w.real with
  | some a, some b => (a.combine op b).map Real.toLiteral
  | some (.whole z), none =>
    if op = .mul then ((repeated z w).map Except.ok).getD (.error .unsupported)
    else .error .unsupported
  | none, some (.whole z) =>
    if op = .mul then ((repeated z v).map Except.ok).getD (.error .unsupported)
    else .error .unsupported
  | _, _ =>
    match op, v, w with
    | .add, text s, text t => .ok (text (s ++ t))
    | .add, list as, list bs => .ok (list (as ++ bs))
    | _, _, _ => .error .unsupported

def signed (s : Sign) (v : Literal) : Option Literal :=
  v.real.map fun a =>
    match s with
    | .plus => a.toLiteral
    | .minus => a.neg.toLiteral

end Formulae.Literal
