import Formulae.Formula.Environment
import Formulae.Formula.Operation
import Formulae.Formula.Render
import Formulae.Logging.Record

/-! The value of a formula under an environment, or the fault that it runs into first. A divisor is
evaluated before its dividend. -/
namespace Formulae

inductive Fault (ν α : Type) where
  | undefinedName (x : ν)
  | zeroDivisor (dividend divisor : Formula ν α)
  | negativeRadicand (radicand : Formula ν α) (value : α)
  | unusable (why : ValueFault)

namespace Formula

variable {ν α : Type} [Arithmetic α]

def compute (env : Environment ν α) : Formula ν α → Except (Fault ν α) α
  | const a => .ok a
  | var x =>
    match env x with
    | .bound a => .ok a
    | .absent => .error (.undefinedName x)
    | .unusable why => .error (.unusable why)
  | sign s e => do
    let a ← e.compute env
    return s.eval a
  | binary .div l r => do
    let b ← r.compute env
    if b == 0 then .error (.zeroDivisor l r)
    else do
      let a ← l.compute env
      return a / b
  | binary op l r => do
    let a ← l.compute env
    let b ← r.compute env
    return op.eval a b
  | apply f e => do
    let a ← e.compute env
    if f = .sqrt ∧ Arithmetic.below a 0 then .error (.negativeRadicand e a)
    else return f.eval a

end Formula

namespace Fault

variable {ν α : Type} [Naming ν] [Arithmetic α] [Written α]

def text? : Fault ν α → Except ValueFault String
  | undefinedName x => do return "Variable " ++ (← Naming.label x) ++ " is not defined."
  | zeroDivisor dividend divisor => do
    let _ ← dividend.shown
    if divisor.isBlank then return "Division by zero is not allowed."
    else return "Division by zero is not allowed. Divisor " ++ (← divisor.render) ++ " evaluated to 0."
  | negativeRadicand _ a => .ok (Elementary.display .sqrt ++
      " of a negative number is not allowed (got " ++ Written.text a ++ ").")
  | unusable why => .ok why.message

/-- The fault as it is reported. Of one without a text only that is said. -/
def reported (w : Fault ν α) : Fault ν α :=
  match w.text? with
  | .ok _ => w
  | .error why => .unusable why

def message (w : Fault ν α) : String :=
  match w.text? with
  | .ok s => s
  | .error why => why.message

/-- What is noted of a fault when a single point is evaluated; `bound` are the names that have a
value. -/
def note? (bound : List String) : Fault ν α → Except ValueFault (Option Record)
  | undefinedName x => do
    return some ⟨.debug, "Undefined variable " ++ (← Naming.quoted x) ++
      "; bound names: [" ++ ", ".intercalate (bound.map Text.quoted) ++ "]"⟩
  | zeroDivisor dividend divisor => do
    return some ⟨.debug, "Zero divisor in " ++ (← (Formula.binary .div dividend divisor).render)⟩
  | negativeRadicand radicand a => do
    return some ⟨.debug, "Negative radicand " ++ Written.text a ++ " in " ++
      (← (Formula.apply .sqrt radicand).render)⟩
  | unusable _ => .ok none

end Fault

end Formulae
