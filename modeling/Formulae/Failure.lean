import Formulae.Formula.Operation
import Formulae.Operand
import Formulae.Tensor

/-! All the ways in which a request may fail, with what is said then. -/
namespace Formulae

inductive Failure where
  | operand (why : OperandFault)
  | value (why : ValueFault)
  | fault (why : Fault Name Float)
  | simplify (why : SimplifyFault)
  | tensor (why : TensorFault)
  | code (why : CodeFault)
  | text (why : TextFault)
  | noSymbol (name : OddName)
  | order (label : String)
  /-- A key, shown as a literal, that a table does not hold. -/
  | missingKey (quoted : String)

def Failure.message : Failure → String
  | operand why => why.message
  | value why => why.message
  | fault why => why.message
  | simplify (.limit why) => why.message
  | simplify (.text why) => why.message
  | tensor why => why.message
  | code why => why.message
  | text why => why.message
  | noSymbol name => name.symbolMessage
  | order label => "Invalid traversal_order: " ++ label
  | missingKey quoted => quoted

end Formulae
