import Formulae.Formula.Analysis
import Formulae.Formula.Samples
import Formulae.Formula.Simplify
import Formulae.Formula.Validity
import Formulae.Logging.Journal
import Formulae.Name

/-! Formulae over names and doubles, with the operations that write to the journal. -/
namespace Formulae

abbrev Expression := Formula Name Float

inductive PassLimit where
  | passes (n : Nat)
  /-- A number that is not whole: it serves for one pass, and no more can be counted out. -/
  | fractional (kind : String)

inductive LimitFault where
  | tooFew (label : String)
  | value (why : ValueFault)
  | notWhole (kind : String)

def LimitFault.message : LimitFault → String
  | tooFew label => "max_passes must be at least 1, got " ++ label
  | value why => why.message
  | notWhole kind => "'" ++ kind ++ "' object cannot be interpreted as an integer"

def PassLimit.ofLiteral (v : Literal) : Except LimitFault PassLimit :=
  match v.orderFault? (.int 1) with
  | some why => .error (.value why)
  | none =>
    if v.before (.int 1) then
      match v.label with
      | .ok label => .error (.tooFew label)
      | .error why => .error (.value why)
    else
      match v with
      | .int z | .named _ _ z => .ok (.passes z.toNat)
      | .bool _ => .ok (.passes 1)
      | v => .ok (.fractional v.operandKind)

inductive SimplifyFault where
  | limit (why : LimitFault)
  | text (why : TextFault)

namespace Expression

def hash (e : Expression) : UInt64 :=
  e.hashWith Name.hash fun a => (Literal.float a).hash

/-- The value under the bindings, or the fault that the expression runs into. A fault is noted, and
one that cannot be noted is not told either. -/
def attempt {ε : Type} (b : Bindings) (e : Expression) :
    Logged ε (Except (Fault Name Float) Float) := do
  match e.compute b.environment with
  | .ok a => return .ok a
  | .error fault =>
    match fault.note? b.names with
    | .ok note =>
      Logged.emitAll note.toList
      return .error fault.reported
    | .error why => return .error (.unusable why)

def value (b : Bindings) (e : Expression) : Logged (Fault Name Float) Float := do
  Logged.lift (← e.attempt b)

def tabulate (s : Samples Name Float) (e : Expression) :
    Except (Fault Name Float) (List Float) :=
  (e.evaluate s).mapError Fault.reported

/-- Whether there are no problems and, when bindings are given, the expression evaluates to a finite
number under them. A fault means that it does not; that a value cannot be used is passed on. -/
def valid (b? : Option Bindings) (e : Expression) : Logged ValueFault Bool := do
  let problems ← Logged.lift e.problemTexts
  if !problems.isEmpty then return false
  match b? with
  | none => return true
  | some b =>
    match ← e.attempt b with
    | .ok a => return Arithmetic.isFinite a
    | .error (.unusable why) => throw why
    | .error _ => return false

/-- The variables, each once. They are collected in a table, which not every value can enter. -/
def collectedVariables (e : Expression) : Except ValueFault (List Name) :=
  match e.vars.findSome? Naming.unsearchable? with
  | some kind => .error (.unsearchable kind)
  | none => .ok e.vars

def sortedVariables (e : Expression) : Except ValueFault (List Name) :=
  e.collectedVariables.bind Name.sorted

def reportAll (fired : List (Firing Name Float)) : Logged SimplifyFault Unit :=
  fired.forM fun w =>
    match w.records with
    | .ok rs => Logged.emitAll rs
    | .error why => throw (.text why)

def simplified (limit : Literal) (e : Expression) : Logged SimplifyFault Expression :=
  match PassLimit.ofLiteral limit with
  | .error why => throw (.limit why)
  | .ok (.passes n) => do
    let s := e.simplification n
    reportAll s.fired
    return s.result
  | .ok (.fractional kind) => do
    reportAll e.firings
    throw (.limit (.notWhole kind))

def simplifiedFully (e : Expression) : Logged SimplifyFault Expression :=
  simplified (.int Formula.defaultLimit) e

end Expression

end Formulae
