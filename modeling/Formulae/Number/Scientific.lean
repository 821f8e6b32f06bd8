import Formulae.Number.Binary64

/-! Decimal numbers in the form digits times a power of ten, and the shortest such form of a
double: the fewest digits that lie nearer to it than to any other double. -/
namespace Formulae.Number

structure Scientific where
  coefficient : Nat
  exponent : Int
  deriving DecidableEq, Repr

namespace Scientific

def digits (s : Scientific) : List Char := Nat.toDigits 10 s.coefficient

def leadingExponent (s : Scientific) : Int := s.exponent + s.digits.length - 1

/-- Beyond this many places to the left a number is larger, and beyond as many to the right
smaller, than every double. -/
private def farPlaces : Int := 400

def toFloat (negative : Bool) (s : Scientific) : Float :=
  if s.coefficient = 0 ∨ s.leadingExponent < -farPlaces then Binary64.ofMagnitude negative 0
  else if farPlaces < s.leadingExponent then Binary64.infinity negative
  else
    let power := Nat.pow 10 s.exponent.natAbs
    let nearest? :=
      if s.exponent < 0 then Binary64.ofRatio? negative s.coefficient power
      else Binary64.ofRatio? negative (s.coefficient * power) 1
    nearest?.getD (Binary64.infinity negative)

end Scientific

namespace Shortest

/-- The reals that read as one double, in quarters of its last place, with the scale that compares
them to a decimal grid: the point `c` of the grid is at `c * step` and the quarter `x` at
`x * quarter`. -/
structure Target where
  value : Nat
  lower : Nat
  upper : Nat
  closed : Bool

/-- The value `m · 2 ^ e` is `4 m` quarters. Its neighbours are a whole place away, the lower one
of a power of two only half a place; the halfway points read as the even mantissa. -/
def Target.ofParts (m : Nat) (e : Int) : Target where
  value := 4 * m
  lower := 4 * m - (if m = Nat.pow 2 52 ∧ Binary64.leastExponent < e then 1 else 2)
  upper := 4 * m + 2
  closed := m % 2 = 0

/-- The distance of neighbouring points of the grid of tens to the `k`. -/
def step (e k : Int) : Nat := Nat.pow 10 k.toNat * Nat.pow 2 (2 - e).toNat

/-- The length of a quarter of a last place, on the scale of `step`. -/
def quarter (e k : Int) : Nat := Nat.pow 10 (-k).toNat * Nat.pow 2 (e - 2).toNat

def Target.covers (t : Target) (step quarter c : Nat) : Bool :=
  if t.closed then decide (t.lower * quarter ≤ c * step ∧ c * step ≤ t.upper * quarter)
  else decide (t.lower * quarter < c * step ∧ c * step < t.upper * quarter)

/-- The point of the grid of tens to the `k` that stands for the value: one of the two around it.
Of two that do the nearer wins, and an exact tie goes to the even one. -/
def candidate? (t : Target) (e k : Int) : Option Nat :=
  let s := step e k
  let u := quarter e k
  let c := t.value * u / s
  match t.covers s u c, t.covers s u (c + 1) with
  | true, true =>
    let toLower := t.value * u - c * s
    let toUpper := (c + 1) * s - t.value * u
    if toLower < toUpper ∨ (toLower = toUpper ∧ c % 2 = 0) then some c else some (c + 1)
  | true, false => some c
  | false, true => some (c + 1)
  | false, false => none

/-- Seventeen digits tell any two doubles apart, so this many grids are enough from a power of
ten above the value on. -/
private def gridCount : Nat := 24

def search (t : Target) (e : Int) : Nat → Int → Scientific
  | 0, k => ⟨t.value * quarter e k / step e k, k⟩
  | n + 1, k =>
    match candidate? t e k with
    | some c => ⟨c, k⟩
    | none => search t e n (k - 1)

def topPower (m : Nat) (e : Int) : Int := (m.log2 + 1 + e) * 30103 / 100000 + 2

end Shortest

def shortest (m : Nat) (e : Int) : Scientific :=
  if m = 0 then ⟨0, 0⟩
  else Shortest.search (.ofParts m e) e Shortest.gridCount (Shortest.topPower m e)

end Formulae.Number
