import Formulae.Formula.Compute

/-! Evaluation on a table of samples: a column for each name, a row for each sample. Every node is
evaluated on whole columns, and a single bad row fails the whole table. -/
namespace Formulae

structure Samples (ν α : Type) where
  names : List ν
  rows : List (Vector α names.length)

namespace Formula

variable {ν α : Type} [Arithmetic α]

def columns (count : Nat) (column : ν → Binding (List α)) :
    Formula ν α → Except (Fault ν α) (List α)
  | const a => .ok (List.replicate count a)
  | var x =>
    match column x with
    | .bound as => .ok as
    | .absent => .error (.undefinedName x)
    | .unusable why => .error (.unusable why)
  | sign s e => do
    let as ← e.columns count column
    return as.map s.eval
  | binary .div l r => do
    let bs ← r.columns count column
    if bs.any (· == 0) then .error (.zeroDivisor l r)
    else do
      let as ← l.columns count column
      return List.zipWith (· / ·) as bs
  | binary op l r => do
    let as ← l.columns count column
    let bs ← r.columns count column
    return List.zipWith op.eval as bs
  | apply f e => do
    let as ← e.columns count column
    if f = .sqrt ∧ as.any (Arithmetic.below · 0) then
      .error (.negativeRadicand e (Arithmetic.least (as.headD 0) as))
    else return as.map f.eval

end Formula

namespace Samples

variable {ν α : Type} [BEq ν] [Naming ν]

/-- The last column that carries the name. -/
def position? (names : List ν) (x : ν) : Option (Fin names.length) :=
  (List.finRange names.length).reverse.find? fun i => names.get i == x

def lookup {β : Type} (s : Samples ν α) (f : Fin s.names.length → β) (x : ν) : Binding β :=
  match Naming.unsearchable? x with
  | some kind => .unusable (.unsearchable kind)
  | none => .ofOption ((position? s.names x).map f)

def column (s : Samples ν α) : ν → Binding (List α) :=
  s.lookup fun i => s.rows.map fun row => row.get i

def environment (s : Samples ν α) (row : Vector α s.names.length) : Environment ν α :=
  s.lookup fun i => row.get i

end Samples

def Formula.evaluate {ν α : Type} [Arithmetic α] [BEq ν] [Naming ν] (s : Samples ν α)
    (e : Formula ν α) : Except (Fault ν α) (List α) :=
  e.columns s.rows.length s.column

end Formulae
