import Formulae.Formula.Environment
import Formulae.Formula.Traversal

/-! What building a formula does not check: that constants are finite and names are identifiers. -/
namespace Formulae

inductive Problem (ν α : Type) where
  | notFinite (a : α)
  | notIdentifier (x : ν)

def Problem.message {ν α : Type} [Naming ν] [Written α] : Problem ν α → Except ValueFault String
  | notFinite a => .ok ("Constant " ++ Written.text a ++ " is not finite")
  | notIdentifier x => do
    return "Variable name " ++ (← Naming.quoted x) ++ " is not an identifier"

namespace Formula

variable {ν α : Type} [Naming ν] [Arithmetic α]

def problem? : Formula ν α → Option (Problem ν α)
  | const a => if Arithmetic.isFinite a then none else some (.notFinite a)
  | var x => if Naming.isIdentifier x then none else some (.notIdentifier x)
  | _ => none

def problems (e : Formula ν α) : List (Problem ν α) := e.depthFirst.filterMap problem?

theorem problems_binary_eq_append (op : BinaryOp) (l r : Formula ν α) :
    (binary op l r).problems = l.problems ++ r.problems :=
  List.filterMap_append

/-- The texts of all problems; there are none unless each of them has one. -/
def problemTexts [Written α] (e : Formula ν α) : Except ValueFault (List String) :=
  e.problems.mapM Problem.message

end Formula

end Formulae
