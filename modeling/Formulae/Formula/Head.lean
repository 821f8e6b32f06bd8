import Formulae.Formula.Basic

/-! What stands at the root of a formula: heads with their codes, names and symbols, and the five
kinds of formula. -/
namespace Formulae

inductive Kind where
  | const
  | var
  | sign
  | binary
  | apply
  deriving DecidableEq, Repr

namespace Kind

def all : List Kind := [const, var, sign, binary, apply]

def code : Kind → Nat
  | const => 0
  | var => 1
  | sign => 2
  | binary => 3
  | apply => 4

def name : Kind → String
  | const => "CONSTANT"
  | var => "VARIABLE"
  | sign => "UNARY_OP"
  | binary => "BINARY_OP"
  | apply => "FUNCTION"

def label : Kind → String
  | const => "ConstantNode"
  | var => "VariableNode"
  | sign => "UnaryOpNode"
  | binary => "BinaryOpNode"
  | apply => "FunctionNode"

end Kind

def Kind.family : String := "NodeType"

/-- A formula without its operands and payload. -/
inductive Head where
  | const
  | var
  | sign (s : Sign)
  | binary (op : BinaryOp)
  | apply (f : Elementary)
  deriving DecidableEq, Repr

def Sign.all : List Sign := [.plus, .minus]

def Sign.symbol : Sign → String
  | .plus => "+"
  | .minus => "-"

def BinaryOp.all : List BinaryOp := [.add, .sub, .mul, .div]

def BinaryOp.symbol : BinaryOp → String
  | .add => "+"
  | .sub => "-"
  | .mul => "*"
  | .div => "/"

def Elementary.all : List Elementary := [.sqrt, .sin, .cos, .tan, .cot]

def Elementary.symbol : Elementary → String
  | .sqrt => "sqrt"
  | .sin => "sin"
  | .cos => "cos"
  | .tan => "tan"
  | .cot => "cot"

def Elementary.display : Elementary → String
  | .sqrt => "Sqrt"
  | .sin => "Sin"
  | .cos => "Cos"
  | .tan => "Tan"
  | .cot => "Cot"

namespace Head

def family : String := "OpType"

def all : List Head :=
  [const, var] ++ Sign.all.map sign ++ BinaryOp.all.map binary ++ Elementary.all.map apply

def code : Head → Nat
  | const => 0
  | var => 1
  | sign .plus => 2
  | sign .minus => 3
  | binary .add => 4
  | binary .sub => 5
  | binary .mul => 6
  | binary .div => 7
  | apply .sqrt => 8
  | apply .sin => 9
  | apply .cos => 10
  | apply .tan => 11
  | apply .cot => 12

def ofCode? (n : Int) : Option Head := all.find? fun h => (h.code : Int) = n

def name : Head → String
  | const => "CONSTANT"
  | var => "VARIABLE"
  | sign .plus => "UNARY_PLUS"
  | sign .minus => "UNARY_MINUS"
  | binary .add => "ADD"
  | binary .sub => "SUB"
  | binary .mul => "MUL"
  | binary .div => "DIV"
  | apply .sqrt => "SQRT"
  | apply .sin => "SIN"
  | apply .cos => "COS"
  | apply .tan => "TAN"
  | apply .cot => "COT"

/-- The symbol that nodes are looked up by; signs have words, so that they differ from the binary
operations. -/
def symbol : Head → String
  | const => "constant"
  | var => "variable"
  | sign .plus => "pos"
  | sign .minus => "neg"
  | binary op => op.symbol
  | apply f => f.symbol

def kind : Head → Kind
  | const => .const
  | var => .var
  | sign _ => .sign
  | binary _ => .binary
  | apply _ => .apply

theorem mem_all (h : Head) : h ∈ all := by
  rcases h with _ | _ | s | op | f
  · decide
  · decide
  · cases s <;> decide
  · cases op <;> decide
  · cases f <;> decide

theorem symbol_injective {g h : Head} (e : g.symbol = h.symbol) : g = h := by
  revert e
  have : ∀ g ∈ all, ∀ h ∈ all, g.symbol = h.symbol → g = h := by decide
  exact this g (mem_all g) h (mem_all h)

end Head

namespace Formula

variable {ν α : Type}

def head : Formula ν α → Head
  | const _ => .const
  | var _ => .var
  | sign s _ => .sign s
  | binary op _ _ => .binary op
  | apply f _ => .apply f

def kind (e : Formula ν α) : Kind := e.head.kind

@[simp] theorem head_const (a : α) : (const a : Formula ν α).head = .const := rfl

@[simp] theorem head_var (x : ν) : (var x : Formula ν α).head = .var := rfl

@[simp] theorem head_sign (s : Sign) (e : Formula ν α) : (sign s e).head = .sign s := rfl

@[simp] theorem head_binary (op : BinaryOp) (l r : Formula ν α) :
    (binary op l r).head = .binary op := rfl

@[simp] theorem head_apply (f : Elementary) (e : Formula ν α) : (apply f e).head = .apply f := rfl

end Formula

end Formulae
