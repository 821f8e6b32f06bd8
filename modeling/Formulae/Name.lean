import Formulae.Literal

/-! Names of variables. Any value may be a name, though only texts are meant to be. -/
namespace Formulae

/-- A name that is no text carries a mark of the place where it was introduced: an undefined number
is the same name only as itself. -/
inductive Name where
  | text (s : String)
  | value (v : Literal) (mark : Nat)

namespace Name

def ofLiteral (mark : Nat) : Literal → Name
  | .text s => text s
  | v => value v mark

def toLiteral : Name → Literal
  | text s => .text s
  | value v _ => v

instance : BEq Name where
  beq
    | text s, text t => s == t
    | value v i, value w j => i == j || v.same w
    | _, _ => false

instance : ReflBEq Name where
  rfl {x} := by
    cases x with
    | text s => exact (BEq.rfl : s == s)
    | value v mark => exact Bool.or_eq_true_iff.2 (.inl (BEq.rfl : mark == mark))

def hash : Name → UInt64
  | text s => mixHash 1 (Hashable.hash s)
  | value v _ => mixHash 2 v.hash

instance : Naming Name where
  label x := x.toLiteral.label
  quoted x := x.toLiteral.quoted
  isEmpty x := x.toLiteral.isEmpty
  isIdentifier
    | text s => Text.isIdentifier s
    | value .. => false
  odd?
    | text _ => none
    | value v _ => some ⟨v.operandKind, v.qualifiedKind⟩
  unsearchable? x := x.toLiteral.unsearchable?
  label_isOk {x} h := by
    cases x with
    | text s => exact ⟨s, rfl⟩
    | value v mark => cases h

end Name

def Name.sorted (xs : List Name) : Except ValueFault (List Name) :=
  match (xs.zip xs.tail).findSome? fun (x, y) => y.toLiteral.orderFault? x.toLiteral with
  | some why => .error why
  | none => .ok (xs.mergeSort fun x y => !y.toLiteral.before x.toLiteral)

abbrev Bindings := List (String × Literal)

namespace Bindings

def names (b : Bindings) : List String := (b.map (·.1)).mergeSort (fun s t => s ≤ t)

/-- A value is made a number when its name is read. -/
def environment (b : Bindings) : Environment Name Float
  | .text s =>
    match b.lookup s with
    | none => .absent
    | some v =>
      match v.toFloat with
      | .ok a => .bound a
      | .error why => .unusable why
  | .value v _ =>
    match v.unsearchable? with
    | some kind => .unusable (.unsearchable kind)
    | none => .absent

end Bindings

end Formulae
