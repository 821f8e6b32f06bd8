import Formulae.Formula.Environment
import Formulae.Formula.Head

/-! Formulae as text. Binary operations stand in parentheses, signs and functions before
parentheses. A variable on its own is shown by its name, be it a text or not. A name without a text
leaves every formula that it stands in without one. -/
namespace Formulae

inductive Shown (ν : Type) where
  | text (s : String)
  | name (x : ν)
  deriving Repr

inductive TextFault where
  | odd (name : OddName)
  | value (why : ValueFault)
  deriving DecidableEq, Repr

def TextFault.message : TextFault → String
  | odd name => name.message
  | value why => why.message

namespace Formula

variable {ν α : Type} [Naming ν] [Arithmetic α] [Written α]

def render : Formula ν α → Except ValueFault String
  | const a => .ok (Number.text a)
  | var x => Naming.label x
  | sign s e => do return s.symbol ++ "(" ++ (← e.render) ++ ")"
  | binary op l r => do return "(" ++ (← l.render) ++ " " ++ op.symbol ++ " " ++ (← r.render) ++ ")"
  | apply f e => do return f.display ++ "(" ++ (← e.render) ++ ")"

/-- The text of a formula that stands on its own. -/
def text? (e : Formula ν α) : Except TextFault String :=
  match e with
  | var x =>
    match Naming.odd? x with
    | some odd => .error (.odd odd)
    | none => (Naming.label x).mapError .value
  | _ => e.render.mapError .value

def shown : Formula ν α → Except ValueFault (Shown ν)
  | var x => .ok (.name x)
  | e => e.render.map .text

def isBlank : Formula ν α → Bool
  | var x => Naming.isEmpty x
  | _ => false

def quoted (e : Formula ν α) : Except ValueFault String :=
  e.render.map fun s => e.kind.label ++ "<" ++ s ++ ">"

end Formula

end Formulae
