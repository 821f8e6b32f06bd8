import Formulae.Formula.Environment
import Formulae.Number.Arithmetic
import Formulae.Number.Numeral

/-! Plain values: what callers write where a number, a name or a binding is wanted. -/
namespace Formulae

open Number

inductive Literal where
  | null
  | bool (b : Bool)
  | int (z : Int)
  /-- A whole number that has a name in a family. -/
  | named (family name : String) (z : Int)
  | float (x : Float)
  | fraction (r : Rat)
  | complex (re im : Float)
  | decimal (n : Numeral)
  | text (s : String)
  | list (items : List Literal)
  deriving Inhabited

inductive Extended where
  | finite (r : Rat)
  | infinite (negative : Bool)
  | undefined
  deriving DecidableEq

namespace Extended

def ofFloat (x : Float) : Extended :=
  match Binary64.parts x with
  | .infinite negative => infinite negative
  | .undefined => undefined
  | .finite negative m e => finite (Binary64.dyadic (if negative then -(m : Int) else m) e)

def ofNumeral (n : Numeral) : Extended :=
  match n with
  | .infinite negative => infinite negative
  | .undefined => undefined
  | .finite .. =>
    match n.rational? with
    | some r => finite r
    | none => undefined

def same (a b : Extended) : Bool := decide (a = b) && decide (a ≠ undefined)

def less : Extended → Extended → Bool
  | undefined, _ | _, undefined => false
  | infinite negative, infinite negative' => negative && !negative'
  | infinite negative, finite _ => negative
  | finite _, infinite negative => !negative
  | finite r, finite s => decide (r < s)

end Extended

namespace Literal

def kind : Literal → String
  | null => "NoneType"
  | bool _ => "bool"
  | int _ => "int"
  | named family _ _ => family
  | float _ => "float"
  | fraction _ => "Fraction"
  | complex .. => "complex"
  | decimal _ => "Decimal"
  | text _ => "str"
  | list _ => "list"

def operandKind : Literal → String
  | decimal _ => "decimal.Decimal"
  | v => v.kind

def qualifiedKind : Literal → String
  | fraction _ => "fractions.Fraction"
  | v => v.operandKind

def parts? : Literal → Option (Extended × Extended)
  | bool b => some (.finite (if b then 1 else 0), .finite 0)
  | int z | named _ _ z => some (.finite z, .finite 0)
  | float x => some (.ofFloat x, .finite 0)
  | fraction r => some (.finite r, .finite 0)
  | complex re im => some (.ofFloat re, .ofFloat im)
  | decimal n => some (.ofNumeral n, .finite 0)
  | _ => none

def real? : Literal → Option Extended
  | complex .. => none
  | v => v.parts?.map (·.1)

/-- Equality of values. Numbers of different kinds are compared by value. -/
def same : Literal → Literal → Bool
  | null, null => true
  | text s, text t => s == t
  | list as, list bs => sameAll as bs
  | v, w =>
    match v.parts?, w.parts? with
    | some a, some b => a.1.same b.1 && a.2.same b.2
    | _, _ => false
where
  sameAll : List Literal → List Literal → Bool
    | [], [] => true
    | v :: vs, w :: ws => same v w && sameAll vs ws
    | _, _ => false

/-- Whether a value comes before another: texts by code points, real numbers by value. -/
def before : Literal → Literal → Bool
  | text s, text t => decide (s < t)
  | v, w =>
    match v.real?, w.real? with
    | some a, some b => a.less b
    | _, _ => false

def isUndefinedDecimal : Literal → Bool
  | decimal .undefined => true
  | _ => false

/-- Why two values have no order. Texts have one among themselves, and so have real numbers; but an
undefined decimal number is not compared. -/
def orderFault? (v w : Literal) : Option ValueFault :=
  match v, w with
  | text _, text _ => none
  | v, w =>
    if v.real?.isSome && w.real?.isSome then
      if v.isUndefinedDecimal || w.isUndefinedDecimal then some .undefinedComparison else none
    else some (.notOrdered v.operandKind w.operandKind)

def isEmpty : Literal → Bool
  | null => true
  | text s => s.isEmpty
  | list items => items.isEmpty
  | v =>
    match v.parts? with
    | some (.finite r, .finite i) => decide (r = 0 ∧ i = 0)
    | _ => false

def hash (v : Literal) : UInt64 :=
  match v.parts? with
  | some (.finite r, .finite i) =>
    mixHash (mixHash (Hashable.hash r.num) (Hashable.hash r.den)) (Hashable.hash i.num)
  | some _ => 0
  | none =>
    match v with
    | text s => Hashable.hash s
    | list items => Hashable.hash items.length
    | _ => 1

/-- A complex number: the imaginary part alone when the real part is zero without a sign. -/
def complexText (re im : Float) : String :=
  let imaginary := Format.plain.text im
  if re.toBits = 0 then imaginary ++ "j"
  else
    let sign := if imaginary.startsWith "-" then "" else "+"
    "(" ++ Format.plain.text re ++ sign ++ imaginary ++ "j)"

def fractionText (r : Rat) : Except ValueFault String := do
  let num ← integerText? r.num
  if r.den = 1 then return num else return num ++ "/" ++ (← integerText? r.den)

def quoted : Literal → Except ValueFault String
  | null => .ok "None"
  | bool b => .ok (if b then "True" else "False")
  | int z => integerText? z
  | named family name z => do return namedText family name (← integerText? z)
  | float x => .ok (Format.readable.text x)
  | fraction r => do
    return "Fraction(" ++ (← integerText? r.num) ++ ", " ++ (← integerText? r.den) ++ ")"
  | complex re im => .ok (complexText re im)
  | decimal n => .ok ("Decimal('" ++ n.text ++ "')")
  | text s => .ok (Text.quoted s)
  | list items => do return "[" ++ ", ".intercalate (← quotedAll items) ++ "]"
where
  quotedAll : List Literal → Except ValueFault (List String)
    | [] => .ok []
    | v :: vs => do return (← quoted v) :: (← quotedAll vs)

def label : Literal → Except ValueFault String
  | named _ _ z => integerText? z
  | fraction r => fractionText r
  | decimal n => .ok n.text
  | text s => .ok s
  | v => v.quoted

/-- The nearest double. Texts are read as numerals. -/
def toFloat : Literal → Except ValueFault Float
  | bool b => .ok (if b then 1 else 0)
  | int z | named _ _ z =>
    match Binary64.ofRatio? (z < 0) z.natAbs 1 with
    | some x => .ok x
    | none => .error .integerTooLarge
  | float x => .ok x
  | fraction r =>
    match Binary64.ofRat? r with
    | some x => .ok x
    | none => .error .quotientTooLarge
  | decimal n => .ok n.toFloat
  | text s =>
    match Numeral.read? s with
    | some n => .ok n.toFloat
    | none => .error (.notNumeral (Text.quoted s))
  | v => .error (.notNumber v.kind)

/-- Whether the value stands for a constant where a formula is wanted. -/
def lifts : Literal → Bool
  | bool _ | int _ | named .. | float _ | fraction _ => true
  | _ => false

def unsearchable? : Literal → Option String
  | list _ => some "list"
  | _ => none

end Literal

end Formulae
