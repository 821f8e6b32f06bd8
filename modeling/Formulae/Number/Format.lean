import Formulae.Number.Scientific

/-! The written forms of doubles: the text that reads back, and fixed places. -/
namespace Formulae.Number

structure Format where
  /-- The least power of ten of a first digit that is written out in full. -/
  leastPositional : Int
  /-- The power of ten of a first digit from which an exponent is written. -/
  leastScientific : Int
  /-- Whether a whole number written in full keeps a point and a zero. -/
  keepsPoint : Bool
  mark : Char
  exponentDigits : Nat

namespace Format

def readable : Format := ⟨-4, 16, true, 'e', 2⟩

def plain : Format := { readable with keepsPoint := false }

def zeros (n : Nat) : List Char := List.replicate n '0'

def padded (width n : Nat) : List Char :=
  let ds := Nat.toDigits 10 n
  zeros (width - ds.length) ++ ds

def exponent (f : Format) (e : Int) : List Char :=
  f.mark :: (if e < 0 then '-' else '+') :: padded f.exponentDigits e.natAbs

/-- The digits with the point after as many of them as `places` says. -/
def positional (f : Format) (ds : List Char) (places : Int) : List Char :=
  if places ≤ 0 then '0' :: '.' :: zeros (-places).toNat ++ ds
  else
    let n := places.toNat
    if ds.length ≤ n then ds ++ zeros (n - ds.length) ++ (if f.keepsPoint then ['.', '0'] else [])
    else ds.take n ++ '.' :: ds.drop n

def scientific (f : Format) : List Char → Int → List Char
  | [], e => f.exponent e
  | [d], e => d :: f.exponent e
  | d :: ds, e => d :: '.' :: ds ++ f.exponent e

def layout (f : Format) (s : Scientific) : List Char :=
  let e := s.leadingExponent
  if f.leastPositional ≤ e ∧ e < f.leastScientific then f.positional s.digits (e + 1)
  else f.scientific s.digits e

def sign (negative : Bool) : String := if negative then "-" else ""

/-- The shortest text of `x` that reads back as `x`. The undefined number has no sign. -/
def text (f : Format) (x : Float) : String :=
  match Binary64.parts x with
  | .undefined => "nan"
  | .infinite negative => sign negative ++ "inf"
  | .finite negative m e => sign negative ++ String.ofList (f.layout (shortest m e))

end Format

/-- `x` with a fixed number of decimal places; the exact value is rounded, a half to the even
neighbour. -/
def fixedPlaces (places : Nat) (x : Float) : String :=
  match Binary64.parts x with
  | .undefined => "nan"
  | .infinite negative => Format.sign negative ++ "inf"
  | .finite negative m e =>
    let scaled := roundQuotient (m * Nat.pow 10 places * Nat.pow 2 e.toNat) (Nat.pow 2 (-e).toNat)
    let ds := Format.padded (places + 1) scaled
    let whole := ds.length - places
    Format.sign negative ++ String.ofList (ds.take whole ++
      (if places = 0 then [] else '.' :: ds.drop whole))

end Formulae.Number
