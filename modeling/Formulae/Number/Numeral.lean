import Formulae.Number.Format
import Formulae.Text.Basic

/-! Numerals: how numbers are read from text.

A numeral is a sign, digits with at most one point, and an exponent, or one of the words for the
infinities and the undefined number in any case. Blanks may surround it, one underscore may stand
between two digits, and the digits may be those of any script. -/
namespace Formulae.Number

inductive Numeral where
  | finite (negative : Bool) (value : Scientific)
  | infinite (negative : Bool)
  | undefined
  deriving DecidableEq, Repr

namespace Numeral

/-- Characters beyond ASCII stand for the blank or the digit that they are, or for nothing that a
numeral holds. -/
def toAscii (c : Char) : Char :=
  if c.toNat < 128 then c
  else if Text.wideBlanks.has c then ' '
  else
    match Text.wideDigit? c with
    | some n => Nat.digitChar n
    | none => '?'

/-- Takes the underscores out. Refuses one that does not stand between two digits. -/
def joinDigits? : List Char → Option (List Char)
  | [] => some []
  | c :: '_' :: d :: r =>
    if c.isDigit && d.isDigit then (joinDigits? (d :: r)).map (c :: ·) else none
  | c :: r => if c = '_' ∨ r = ['_'] then none else (joinDigits? r).map (c :: ·)

def splitSign : List Char → Bool × List Char
  | '-' :: r => (true, r)
  | '+' :: r => (false, r)
  | r => (false, r)

def exponent? : List Char → Option Int
  | [] => some 0
  | mark :: r =>
    let (negative, ds) := splitSign r
    if (mark = 'e' ∨ mark = 'E') ∧ ds ≠ [] ∧ ds.all Char.isDigit then
      some (if negative then -(Text.ofDigits ds : Int) else Text.ofDigits ds)
    else none

def unsigned? (cs : List Char) : Option Scientific :=
  let whole := cs.takeWhile Char.isDigit
  let (fraction, rest) :=
    match cs.dropWhile Char.isDigit with
    | '.' :: r => (r.takeWhile Char.isDigit, r.dropWhile Char.isDigit)
    | r => ([], r)
  if whole.isEmpty && fraction.isEmpty then none
  else (exponent? rest).map fun e => ⟨Text.ofDigits (whole ++ fraction), e - fraction.length⟩

def read? (s : String) : Option Numeral := do
  let cs ← joinDigits? (Text.trim (s.toList.map toAscii))
  let (negative, rest) := splitSign cs
  let word := String.ofList (rest.map Char.toLower)
  if word = "inf" ∨ word = "infinity" then some (.infinite negative)
  else if word = "nan" then some .undefined
  else (unsigned? rest).map (.finite negative)

def toFloat : Numeral → Float
  | finite negative s => s.toFloat negative
  | infinite negative => Binary64.infinity negative
  | undefined => Binary64.undefined

def rational? : Numeral → Option Rat
  | finite negative s =>
    let c : Int := if negative then -(s.coefficient : Int) else s.coefficient
    some (if s.exponent < 0 then mkRat c (Nat.pow 10 s.exponent.natAbs)
      else mkRat (c * Nat.pow 10 s.exponent.natAbs) 1)
  | _ => none

/-- The text of a decimal number: all its digits, with an exponent where the point would stand to
the right of the last digit or more than six places to the left of the first. -/
def text : Numeral → String
  | undefined => "NaN"
  | infinite negative => Format.sign negative ++ "Infinity"
  | finite negative s =>
    let e := s.leadingExponent
    let body :=
      if s.exponent ≤ 0 ∧ -6 ≤ e then Format.plain.positional s.digits (e + 1)
      else if e = 0 then s.digits
      else { Format.plain with mark := 'E', exponentDigits := 1 }.scientific s.digits e
    Format.sign negative ++ String.ofList body

end Numeral

end Formulae.Number
