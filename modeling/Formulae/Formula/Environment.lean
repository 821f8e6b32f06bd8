import Formulae.Number.Arithmetic
import Formulae.Text.Identifier
import Formulae.Text.Quoted

/-! What is asked of the names of variables, and what they stand for while a formula is evaluated.
Texts are names; so may be other values, which then may have a text inside a formula but have none on
their own. -/
namespace Formulae

/-- Why a value cannot be used, be it as a number, as a key or as a part of a text. -/
inductive ValueFault where
  | integerTooLarge
  | quotientTooLarge
  | tooManyDigits
  /-- A text, shown as a literal, that is no numeral. -/
  | notNumeral (quoted : String)
  | notNumber (kind : String)
  | unsearchable (kind : String)
  | notOrdered (left right : String)
  /-- The undefined decimal number, compared. -/
  | undefinedComparison
  deriving DecidableEq, Repr

def digitLimit : Nat := 4300

def digitBound : Nat := Nat.pow 10 digitLimit

def ValueFault.message : ValueFault → String
  | .integerTooLarge => "int too large to convert to float"
  | .quotientTooLarge => "integer division result too large for a float"
  | .tooManyDigits => "Exceeds the limit (" ++ Number.integerText digitLimit ++ " digits) for " ++
      "integer string conversion; use sys.set_int_max_str_digits() to increase the limit"
  | .notNumeral quoted => "could not convert string to float: " ++ quoted
  | .notNumber kind => "float() argument must be a string or a real number, not '" ++ kind ++ "'"
  | .unsearchable kind => "unhashable type: '" ++ kind ++ "'"
  | .notOrdered left right =>
    "'<' not supported between instances of '" ++ left ++ "' and '" ++ right ++ "'"
  | .undefinedComparison => "[<class 'decimal.InvalidOperation'>]"

def integerText? (z : Int) : Except ValueFault String :=
  if z.natAbs < digitBound then .ok (Number.integerText z) else .error .tooManyDigits

/-- A name that is a value of some kind and no text. -/
structure OddName where
  kind : String
  qualifiedKind : String
  deriving DecidableEq, Repr

def OddName.message (e : OddName) : String :=
  "__str__ returned non-string (type " ++ e.kind ++ ")"

def OddName.symbolMessage (e : OddName) : String :=
  "name should be a string, not <class '" ++ e.qualifiedKind ++ "'>"

class Naming (ν : Type) where
  /-- The name inside a larger text. -/
  label : ν → Except ValueFault String
  quoted : ν → Except ValueFault String
  /-- Whether the name counts as none: the empty text, a zero, nothing. -/
  isEmpty : ν → Bool
  isIdentifier : ν → Bool
  odd? : ν → Option OddName
  unsearchable? : ν → Option String
  label_isOk {x : ν} : odd? x = none → ∃ s, label x = .ok s

instance : Naming String where
  label := .ok
  quoted s := .ok (Text.quoted s)
  isEmpty s := s == ""
  isIdentifier := Text.isIdentifier
  odd? _ := none
  unsearchable? _ := none
  label_isOk {s} _ := ⟨s, rfl⟩

inductive Binding (α : Type) where
  | absent
  | bound (a : α)
  | unusable (why : ValueFault)
  deriving Repr

abbrev Environment (ν α : Type) := ν → Binding α

namespace Binding

variable {α : Type}

def ofOption : Option α → Binding α
  | some a => bound a
  | none => absent

@[simp] theorem ofOption_some (a : α) : ofOption (some a) = bound a := rfl

@[simp] theorem ofOption_none : (ofOption none : Binding α) = absent := rfl

end Binding

def Environment.ofValues {ν α : Type} (b : ν → Option α) : Environment ν α :=
  fun x => .ofOption (b x)

end Formulae
