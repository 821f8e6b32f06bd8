import Formulae.Number.Format

/-! The arithmetic that formulae are evaluated in. Doubles are one instance; the laws that a result
rests on are asked for where it is stated. -/
namespace Formulae

/-- Numbers with the operations of formulae. `==` compares values: zeros of both signs agree and an
undefined number differs from itself. -/
class Arithmetic (α : Type) extends
    Add α, Sub α, Mul α, Div α, Neg α, Zero α, One α, BEq α where
  sqrt : α → α
  sin : α → α
  cos : α → α
  tan : α → α
  /-- Strictly less; never so for an undefined number. -/
  below : α → α → Bool
  rational? : α → Option Rat

namespace Arithmetic

variable {α : Type} [Arithmetic α]

def cot (a : α) : α := 1 / tan a

def isFinite (a : α) : Bool := (rational? a).isSome

def isUndefined (a : α) : Bool := !(a == a)

def least (a : α) (as : List α) : α :=
  as.foldl (fun m b => if isUndefined m then m else if isUndefined b then b
    else if below b m then b else m) a

end Arithmetic

instance : Arithmetic Float where
  zero := 0.0
  one := 1.0
  sqrt := Float.sqrt
  sin := Float.sin
  cos := Float.cos
  tan := Float.tan
  below a b := decide (a < b)
  rational? a := (Number.Binary64.parts a).rational?

/-- Numbers with a text that reads back. -/
class Written (α : Type) where
  text : α → String

instance : Written Float := ⟨Number.Format.readable.text⟩

namespace Number

def integerText (z : Int) : String :=
  Format.sign (z < 0) ++ String.ofList (Nat.toDigits 10 z.natAbs)

def namedText (family name digits : String) : String :=
  "<" ++ family ++ "." ++ name ++ ": " ++ digits ++ ">"

/-- Whole numbers below `10 ^ 16` are written as integers, others by the text that reads back. -/
def text {α : Type} [Arithmetic α] [Written α] (a : α) : String :=
  match Arithmetic.rational? a with
  | some r =>
    if r.den = 1 ∧ r.num.natAbs < Nat.pow 10 16 then integerText r.num else Written.text a
  | none => Written.text a

end Number

end Formulae
