import Formulae.Expression
import Formulae.Formula.Complexity
import Formulae.Formula.Traversal
import Formulae.Literal.Operators

/-! Operands: what may stand where an expression is wanted. Literals become constants. Expressions
may be wrapped; a wrapped one has the same queries and no operators. A row of expressions can be
taken from an expression, but stands for none. -/
namespace Formulae

inductive Operand where
  | formula (e : Expression)
  | wrapped (e : Expression)
  | literal (v : Literal)
  | row (es : List Expression)

instance : Inhabited Operand := ⟨.literal .null⟩

inductive OperandFault where
  | unknownSign (quoted : String)
  | unknownOperator (quoted : String)
  | unknownFunction (quoted : String)
  | unsearchable (kind : String)
  | notOperand (kind : String)
  | unsupported (op : BinaryOp) (left right : String)
  | unsigned (s : Sign) (kind : String)
  /-- A sequence is multiplied by something that counts nothing. -/
  | notCount (kind : String)
  /-- A sequence is continued by something that is none. -/
  | notSequence (sequence kind : String)
  | noAttribute (kind name : String)
  | noSetter (kind name : String)
  | readOnly (kind name : String)
  | outOfRange
  | zeroDivision (text : String)
  | value (why : ValueFault)

def OperandFault.message : OperandFault → String
  | unknownSign quoted => "Unknown unary operator: " ++ quoted
  | unknownOperator quoted => "Unknown binary operator: " ++ quoted
  | unknownFunction quoted => "Unknown function: " ++ quoted
  | unsearchable kind => (ValueFault.unsearchable kind).message
  | notOperand kind => "Cannot use " ++ kind ++ " as an expression operand"
  | unsupported op left right => "unsupported operand type(s) for " ++ op.symbol ++ ": '" ++ left ++
      "' and '" ++ right ++ "'"
  | unsigned s kind => "bad operand type for unary " ++ s.symbol ++ ": '" ++ kind ++ "'"
  | notCount kind => "can't multiply sequence by non-int of type '" ++ kind ++ "'"
  | notSequence sequence kind =>
    "can only concatenate " ++ sequence ++ " (not \"" ++ kind ++ "\") to " ++ sequence
  | noAttribute kind name =>
    "'" ++ kind ++ "' object has no attribute '" ++ name ++ "'"
  | noSetter kind name =>
    "property '" ++ name ++ "' of '" ++ kind ++ "' object has no setter"
  | readOnly kind name =>
    "'" ++ kind ++ "' object attribute '" ++ name ++ "' is read-only"
  | outOfRange => "tuple index out of range"
  | zeroDivision text => text
  | value why => why.message

namespace Operand

def kind : Operand → String
  | formula e => e.kind.label
  | wrapped _ => "Expression"
  | literal v => v.kind
  | row _ => "tuple"

def operandKind : Operand → String
  | literal v => v.operandKind
  | x => x.kind

def constant (v : Literal) : Except OperandFault Expression :=
  (v.toFloat.mapError .value).map .const

def lift : Operand → Except OperandFault Expression
  | formula e => .ok e
  | wrapped _ => .error (.notOperand "Expression")
  | literal v => if v.lifts then constant v else .error (.notOperand v.kind)
  | row es => .error (.notOperand (row es).kind)

def root : Operand → Except OperandFault Expression
  | wrapped e => .ok e
  | x => x.lift

def symbol? {β : Type} (all : List β) (symbol : β → String) (unknown : String → OperandFault)
    (v : Literal) : Except OperandFault β :=
  match v with
  | .text s =>
    match all.find? fun b => symbol b == s with
    | some b => .ok b
    | none => .error (unknown (Text.quoted s))
  | v =>
    match v.unsearchable? with
    | some kind => .error (.unsearchable kind)
    | none => do
      let quoted ← v.quoted.mapError .value
      throw (unknown quoted)

def signOf (s : Sign) (x : Operand) : Except OperandFault Expression := x.lift.map (.sign s)

def binaryOf (op : BinaryOp) (x y : Operand) : Except OperandFault Expression := do
  let l ← x.lift
  let r ← y.lift
  return .binary op l r

def applyOf (f : Elementary) (x : Operand) : Except OperandFault Expression :=
  x.lift.map (.apply f)

def sign (symbol : Literal) (x : Operand) : Except OperandFault Expression := do
  signOf (← symbol? Sign.all Sign.symbol .unknownSign symbol) x

def binary (symbol : Literal) (x y : Operand) : Except OperandFault Expression := do
  binaryOf (← symbol? BinaryOp.all BinaryOp.symbol .unknownOperator symbol) x y

def apply (symbol : Literal) (x : Operand) : Except OperandFault Expression := do
  applyOf (← symbol? Elementary.all Elementary.symbol .unknownFunction symbol) x

def signed (s : Sign) : Operand → Except OperandFault Operand
  | formula e => .ok (.formula (.sign s e))
  | wrapped _ => .error (.unsigned s "Expression")
  | literal v =>
    match v.signed s with
    | some w => .ok (.literal w)
    | none => .error (.unsigned s v.operandKind)
  | row es => .error (.unsigned s (row es).kind)

def isSequence : Operand → Bool
  | literal (.text _) | literal (.list _) | row _ => true
  | _ => false

def coerces : Operand → Bool
  | formula _ => true
  | wrapped _ | row _ => false
  | literal v => v.lifts

def operatorFault (op : BinaryOp) (x y : Operand) : OperandFault :=
  if op = .mul ∧ x.isSequence then .notCount y.operandKind
  else if op = .mul ∧ y.isSequence then .notCount x.operandKind
  else if op = .add ∧ x.isSequence then .notSequence x.operandKind y.operandKind
  else .unsupported op x.operandKind y.operandKind

def combined (op : BinaryOp) (x y : Operand) : Except OperandFault Operand :=
  match x, y with
  | literal v, literal w =>
    match v.combine op w with
    | .ok u => .ok (.literal u)
    | .error .unsupported => .error (operatorFault op x y)
    | .error (.zeroDivision text) => .error (.zeroDivision text)
    | .error (.value why) => .error (.value why)
  | formula _, _ | _, formula _ =>
    if x.coerces && y.coerces then (binaryOf op x y).map .formula
    else .error (operatorFault op x y)
  | _, _ => .error (operatorFault op x y)

def field? (e : Expression) : String → Option Operand
  | "op_type" => some (.literal (.named Head.family e.head.name e.head.code))
  | "node_type" => some (.literal (.named Kind.family e.kind.name e.kind.code))
  | "children" => some (.row e.children)
  | "symbol" => some (.literal (.text e.head.symbol))
  | name =>
    match e, name with
    | .const a, "value" => some (.literal (.float a))
    | .var x, "name" => some (.literal x.toLiteral)
    | .sign s _, "operator" => some (.literal (.text s.symbol))
    | .sign _ e, "operand" => some (.formula e)
    | .binary op _ _, "operator" => some (.literal (.text op.symbol))
    | .binary _ l _, "left" => some (.formula l)
    | .binary _ _ r, "right" => some (.formula r)
    | .apply f _, "function" => some (.literal (.text f.symbol))
    | .apply _ e, "operand" => some (.formula e)
    | _, _ => none

def get (name : String) (x : Operand) : Except OperandFault Operand :=
  let found :=
    match x, name with
    | formula e, name => field? e name
    | wrapped e, "root" => some (.formula e)
    | wrapped e, "is_constant" => some (.literal (.bool e.isConstant))
    | wrapped e, "is_polynomial" => some (.literal (.bool e.isPolynomial))
    | wrapped e, "polynomial_degree" => some (.literal (.int e.degree))
    | literal (.named _ n _), "name" => some (.literal (.text n))
    | literal (.named _ _ z), "value" => some (.literal (.int z))
    | _, _ => none
  match found with
  | some y => .ok y
  | none => .error (.noAttribute x.operandKind name)

/-- The operand at a place, counted from the end when negative. -/
def child (i : Int) (x : Operand) : Except OperandFault Operand :=
  match x with
  | formula e =>
    let n := e.children.length
    let place := if i < 0 then i + n else i
    if place < 0 then .error .outOfRange
    else
      match e.children[place.toNat]? with
      | some c => .ok (.formula c)
      | none => .error .outOfRange
  | x => .error (.noAttribute x.operandKind "children")

def properties (k : Kind) : List String :=
  ["op_type", "symbol", "children"] ++
    match k with
    | .const => ["value"]
    | .var => ["name"]
    | .sign => ["operator", "operand"]
    | .binary => ["operator", "left", "right"]
    | .apply => ["function", "operand"]

def wrappedProperties : List String := ["is_constant", "is_polynomial", "polynomial_degree"]

def shared : List String :=
  ["node_type", "compute", "evaluate", "to_string", "size", "complexity"]

def wrappedShared : List String :=
  ["compute", "evaluate", "to_string", "variables", "profile", "simplify", "copy", "size", "depth",
    "complexity"]

/-- Nothing can be assigned to; what is said depends on what the name stands for. -/
def assignFault (name : String) (x : Operand) : OperandFault :=
  let (computed, fixed) :=
    match x with
    | formula e => (properties e.kind, shared)
    | wrapped _ => (wrappedProperties, wrappedShared)
    | literal _ | row _ => ([], [])
  if name ∈ computed then .noSetter x.operandKind name
  else if name ∈ fixed then .readOnly x.operandKind name
  else .noAttribute x.operandKind name

def copy (x : Operand) : Except OperandFault Operand :=
  match x with
  | wrapped e => .ok (.wrapped e)
  | literal (.list items) => .ok (.literal (.list items))
  | x => .error (.noAttribute x.operandKind "copy")

def text? : Operand → Except TextFault String
  | formula e | wrapped e => e.text?
  | literal v => v.label.mapError .value
  | row es => do
    let texts ← (es.mapM Formula.quoted).mapError .value
    return "(" ++ ", ".intercalate texts ++ (if es.length = 1 then ",)" else ")")

def same : Operand → Operand → Bool
  | formula a, formula b => a == b
  | wrapped a, wrapped b => a == b
  | literal v, literal w => v.same w
  | row as, row bs => as == bs
  | _, _ => false

def unsearchable? : Operand → Option String
  | formula e | wrapped e => e.vars.findSome? Naming.unsearchable?
  | literal v => v.unsearchable?
  | row es => es.findSome? fun e => e.vars.findSome? Naming.unsearchable?

def hash : Operand → UInt64
  | formula e => e.hash
  | wrapped e => mixHash 3 e.hash
  | literal v => v.hash
  | row es => es.foldl (fun h e => mixHash h (Expression.hash e)) 5

end Operand

end Formulae
