/-! Binary64 numbers as exact values: what a double is worth, and the double nearest to a ratio
of natural numbers. -/
namespace Formulae.Number

/-- `n / d` rounded to the nearest whole number; an exact half goes to the even neighbour. -/
def roundQuotient (n d : Nat) : Nat :=
  let below := n / d
  let rest := n % d
  if 2 * rest < d ∨ (2 * rest = d ∧ below % 2 = 0) then below else below + 1

namespace Binary64

/-- A double taken apart. A finite one is worth `± mantissa · 2 ^ exponent`. -/
inductive Parts where
  | finite (negative : Bool) (mantissa : Nat) (exponent : Int)
  | infinite (negative : Bool)
  | undefined
  deriving DecidableEq, Repr

def leastExponent : Int := -1074

def Parts.ofBits (bits : Nat) : Parts :=
  let negative := decide (Nat.pow 2 63 ≤ bits)
  let field : Nat := bits / Nat.pow 2 52 % Nat.pow 2 11
  let fraction : Nat := bits % Nat.pow 2 52
  if field = 2047 then
    if fraction = 0 then .infinite negative else .undefined
  else if field = 0 then .finite negative fraction leastExponent
  else .finite negative (Nat.pow 2 52 + fraction) ((field : Int) - 1075)

def parts (x : Float) : Parts := .ofBits x.toBits.toNat

def dyadic (m : Int) (e : Int) : Rat :=
  if e < 0 then mkRat m (Nat.pow 2 e.natAbs) else mkRat (m * Nat.pow 2 e.natAbs) 1

def Parts.rational? : Parts → Option Rat
  | .finite negative m e => some (dyadic (if negative then -(m : Int) else m) e)
  | _ => none

/-- `n / d` in units of `2 ^ e`, rounded to the nearest whole number. -/
def mantissa (n d : Nat) (e : Int) : Nat :=
  if e < 0 then roundQuotient (n * Nat.pow 2 e.natAbs) d
  else roundQuotient n (d * Nat.pow 2 e.natAbs)

def below (n d : Nat) (e : Int) : Bool :=
  if e < 0 then decide (n * Nat.pow 2 e.natAbs < d * Nat.pow 2 52)
  else decide (n < d * Nat.pow 2 e.natAbs * Nat.pow 2 52)

/-- The exponent that leaves `n / d` fifty-three bits, or the least one. -/
def unitExponent (n d : Nat) : Int :=
  let e : Int := n.log2 - d.log2 - 52
  max leastExponent (if below n d e then e - 1 else e)

/-- The bits of the non-negative double nearest to `n / d`, a tie going to the even mantissa;
none when the rounded value lies beyond the largest double. -/
def nearestBits? (n d : Nat) : Option Nat :=
  if n = 0 then some 0
  else
    let e := unitExponent n d
    let bits := (e - leastExponent).toNat * Nat.pow 2 52 + mantissa n d e
    if bits < 2047 * Nat.pow 2 52 then some bits else none

def ofMagnitude (negative : Bool) (bits : Nat) : Float :=
  Float.ofBits (UInt64.ofNat (if negative then Nat.pow 2 63 + bits else bits))

def infinity (negative : Bool) : Float := ofMagnitude negative (2047 * Nat.pow 2 52)

def undefined : Float := Float.ofBits (UInt64.ofNat (2047 * Nat.pow 2 52 + Nat.pow 2 51))

def ofRatio? (negative : Bool) (n d : Nat) : Option Float :=
  (nearestBits? n d).map (ofMagnitude negative)

def ofRat? (r : Rat) : Option Float := ofRatio? (decide (r < 0)) r.num.natAbs r.den

end Binary64

end Formulae.Number
