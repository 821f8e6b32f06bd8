import Formulae.Logging.Report
import Formulae.Failure

/-! A report on single expressions, and a tour of the library made of such reports. -/
namespace Formulae

def Expression.describe (title : String) (b : Bindings) (e : Expression) :
    Logged ValueFault Unit := do
  modify Journal.ensure
  let names ← Logged.lift e.collectedVariables
  let p := e.profile
  let value : Literal ←
    match ← e.attempt b with
    | .ok a => pure (.float a)
    | .error (.unusable why) => throw why
    | .error fault => pure (.text ("error: " ++ fault.message))
  let shown ← Logged.lift e.shown
  let names ← Logged.lift (Name.sorted names)
  let text : Literal :=
    match shown with
    | .text s => .text s
    | .name x => x.toLiteral
  Logged.summary title [("expression", text), ("variables", .list (names.map Name.toLiteral)),
    ("is_constant", .bool p.isConstant), ("is_polynomial", .bool p.isPolynomial),
    ("polynomial_degree", .int p.degree), ("value", value)]

namespace Demo

open Formula

def x : Expression := var (.text "x")

def c : Expression := const 3

def bindings : Bindings := [("x", .float 1), ("y", .float 2)]

def product : Expression :=
  binary .mul (binary .sub (const 5) (binary .mul (const 3) c))
    (apply .sqrt (binary .add (const 16) (binary .mul c c)))

def cancelled : Expression := binary .sub (binary .mul x x) (binary .mul x x)

def quotient : Expression := binary .div x (binary .sub c (const 3))

def present (title : String) (e : Expression) : Logged Failure Unit :=
  (e.describe title bindings).mapError .value

def presentSimplified (title : String) (e : Expression) : Logged Failure Unit := do
  present title (← e.simplifiedFully.mapError .simplify)

def tour : Logged Failure Unit := do
  modify (Journal.configure .moderate none)
  present "Sin(x)" (apply .sin x)
  present "Constant product" product
  presentSimplified "Constant product, simplified" product
  present "x^2 - x^2" cancelled
  presentSimplified "x^2 - x^2, simplified" cancelled
  present "Division by zero" quotient

end Demo

end Formulae
