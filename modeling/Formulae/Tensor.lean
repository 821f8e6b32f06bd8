import Formulae.Formula.Samples
import Formulae.Name

/-! Nested lists of numbers with their shape, and the tables of samples made of them. -/
namespace Formulae

/-- Numbers in rows, with the length of each dimension from the outermost on. -/
structure Tensor (α : Type) where
  shape : List Nat
  entries : Array α

inductive TensorFault where
  | notMatrix (shape : List Nat)
  | columnCount (columns names : Nat)
  /-- Lists of different lengths, or numbers beside lists, below the dimensions of a shape. -/
  | ragged (shape : List Nat)
  | value (why : ValueFault)

def shapeText (shape : List Nat) : String :=
  let lengths := shape.map fun (n : Nat) => Number.integerText n
  "(" ++ ", ".intercalate lengths ++ (if shape.length = 1 then ",)" else ")")

def TensorFault.message : TensorFault → String
  | notMatrix shape => "Sample matrix must be 2-dimensional, got shape " ++ shapeText shape
  | columnCount columns names => "Sample matrix has " ++ Number.integerText columns ++
      " columns but " ++ Number.integerText names ++ " variable names were given"
  | ragged shape => "setting an array element with a sequence. The requested array has an " ++
      "inhomogeneous shape after " ++ Number.integerText shape.length ++
      " dimensions. The detected shape was " ++ shapeText shape ++ " + inhomogeneous part."
  | value why => why.message

namespace Tensor

def common : List Nat → List Nat → List Nat
  | m :: ms, n :: ns => if m = n then m :: common ms ns else []
  | _, _ => []

/-- The dimensions that all members of a nested list agree on, and whether these are all. -/
def detect : Literal → List Nat × Bool
  | .list items =>
    match detectAll items with
    | none => ([0], true)
    | some (shape, even) => (items.length :: shape, even)
  | _ => ([], true)
where
  detectAll : List Literal → Option (List Nat × Bool)
    | [] => none
    | v :: vs =>
      let first := detect v
      match detectAll vs with
      | none => some first
      | some rest => some (common first.1 rest.1, first.2 && rest.2 && first.1 == rest.1)

def leaves : Literal → List Literal
  | .list items => leavesAll items
  | v => [v]
where
  leavesAll : List Literal → List Literal
    | [] => []
    | v :: vs => leaves v ++ leavesAll vs

/-- A leaf as a number; nothing stands for the undefined number. -/
def entry : Literal → Except ValueFault Float
  | .null => .ok Number.Binary64.undefined
  | v => v.toFloat

def ofLiteral (v : Literal) : Except TensorFault (Tensor Float) := do
  let (shape, even) := detect v
  if !even then throw (.ragged shape)
  let entries ← ((leaves v).mapM entry).mapError .value
  return ⟨shape, entries.toArray⟩

def zeros (shape : List Nat) : Tensor Float :=
  ⟨shape, Array.replicate (shape.foldl (· * ·) 1) 0⟩

def samples {ν α : Type} [Naming ν] [Zero α] (names : List ν) (t : Tensor α) :
    Except TensorFault (Samples ν α) :=
  match t.shape with
  | [count, columns] =>
    if columns = names.length then
      match names.findSome? Naming.unsearchable? with
      | some kind => .error (.value (.unsearchable kind))
      | none =>
        .ok ⟨names, List.ofFn fun i : Fin count =>
          Vector.ofFn fun j : Fin names.length => t.entries.getD (i * columns + j) 0⟩
    else .error (.columnCount columns names.length)
  | shape => .error (.notMatrix shape)

end Tensor

end Formulae
