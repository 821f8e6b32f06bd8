import Formulae.Formula.Environment
import Formulae.Formula.Head
import Formulae.Number.Arithmetic

/-! What signs, binary operations and functions do to numbers and to columns of numbers. No domain
is checked here: dividing by zero gives an infinity or an undefined number. -/
namespace Formulae

variable {α : Type} [Arithmetic α]

def Sign.eval : Sign → α → α
  | .plus, a => a
  | .minus, a => -a

def BinaryOp.eval : BinaryOp → α → α → α
  | .add, a, b => a + b
  | .sub, a, b => a - b
  | .mul, a, b => a * b
  | .div, a, b => a / b

def Elementary.eval : Elementary → α → α
  | .sqrt, a => Arithmetic.sqrt a
  | .sin, a => Arithmetic.sin a
  | .cos, a => Arithmetic.cos a
  | .tan, a => Arithmetic.tan a
  | .cot, a => Arithmetic.cot a

namespace Head

def unary? : Head → Option (α → α)
  | sign s => some s.eval
  | apply f => some f.eval
  | _ => none

def binary? : Head → Option (α → α → α)
  | binary op => some op.eval
  | _ => none

/-- The operation on columns, row by row; zeros where the head stands for none. -/
def mapColumn (h : Option Head) (as : List α) : List α :=
  match h.bind unary? with
  | some f => as.map f
  | none => as.map fun _ => 0

def zipColumns (h : Option Head) (as bs : List α) : List α :=
  match h.bind binary? with
  | some f => List.zipWith f as bs
  | none => as.map fun _ => 0

end Head

/-- A column of a table given by rows, counted from the right when negative. -/
def columnAt (rows : List (List α)) (i : Int) : List α :=
  rows.map fun row => (row[(if i < 0 then i + row.length else i).toNat]?).getD 0

structure CodeFault where
  unary : Bool
  code : Int
  deriving DecidableEq, Repr

def codeText (n : Int) : Except ValueFault String :=
  match Head.ofCode? n with
  | some h => .ok (Number.namedText Head.family h.name (Number.integerText n))
  | none => integerText? n

def CodeFault.message (e : CodeFault) : String :=
  match codeText e.code with
  | .ok s => (if e.unary then "Not a unary operation: " else "Not a binary operation: ") ++ s
  | .error why => why.message

def applyUnary (n : Int) (a : α) : Except CodeFault α :=
  match (Head.ofCode? n).bind Head.unary? with
  | some f => .ok (f a)
  | none => .error ⟨true, n⟩

def applyBinary (n : Int) (a b : α) : Except CodeFault α :=
  match (Head.ofCode? n).bind Head.binary? with
  | some f => .ok (f a b)
  | none => .error ⟨false, n⟩

end Formulae
