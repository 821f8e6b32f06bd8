import Formulae.Formula.Equality
import Formulae.Formula.Operation
import Formulae.Formula.Render
import Formulae.Logging.Record

/-! Simplification by constant folding and by the laws of zero and one.

A pass works from the leaves to the root: operands first, then the rule that applies to the node, if
one does. Passes are repeated until one changes nothing, up to a limit. Every rule that fires is
kept with the operands it fired on. -/
namespace Formulae

/-- The rules, in the order in which they are tried. -/
inductive Rule (α : Type) where
  /-- Both operands are constants. No domain is checked: `1 / 0` folds to infinity. -/
  | fold (a b : α)
  | zeroAdd
  | addZero
  | cancel
  | absorb
  | oneMul
  | mulOne
  | divOne

structure Firing (ν α : Type) where
  rule : Rule α
  op : BinaryOp
  left : Formula ν α
  right : Formula ν α

namespace Formula

variable {ν α : Type} [Arithmetic α]

def isValue (a : α) : Formula ν α → Bool
  | const b => b == a
  | _ => false

def fold? : Formula ν α → Formula ν α → Option (Rule α)
  | const a, const b => some (.fold a b)
  | _, _ => none

def outcome (op : BinaryOp) (l r : Formula ν α) : Rule α → Formula ν α
  | .fold a b => const (op.eval a b)
  | .zeroAdd | .oneMul => r
  | .addZero | .mulOne | .divOne => l
  | .cancel | .absorb => const 0

variable [BEq ν]

def law? (op : BinaryOp) (l r : Formula ν α) : Option (Rule α) :=
  match op with
  | .add => if l.isValue 0 then some .zeroAdd else if r.isValue 0 then some .addZero else none
  | .sub => if l == r then some .cancel else none
  | .mul =>
    if l.isValue 0 || r.isValue 0 then some .absorb
    else if l.isValue 1 then some .oneMul
    else if r.isValue 1 then some .mulOne
    else none
  | .div => if r.isValue 1 then some .divOne else none

def rule? (op : BinaryOp) (l r : Formula ν α) : Option (Rule α) := fold? l r <|> law? op l r

def combine (op : BinaryOp) (l r : Formula ν α) : Formula ν α :=
  match rule? op l r with
  | some rule => outcome op l r rule
  | none => binary op l r

def pass : Formula ν α → Formula ν α
  | const a => const a
  | var x => var x
  | sign .plus e => e.pass
  | sign .minus e => sign .minus e.pass
  | apply f e => apply f e.pass
  | binary op l r => combine op l.pass r.pass

def firings : Formula ν α → List (Firing ν α)
  | const _ | var _ => []
  | sign _ e | apply _ e => e.firings
  | binary op l r =>
    l.firings ++ r.firings ++
      ((rule? op l.pass r.pass).map fun rule => ⟨rule, op, l.pass, r.pass⟩).toList

end Formula

structure Simplification (ν α : Type) where
  result : Formula ν α
  fired : List (Firing ν α)

namespace Formula

variable {ν α : Type} [Arithmetic α] [BEq ν]

/-- Up to `n` further passes, until one changes nothing. -/
def settle : Nat → Formula ν α → Simplification ν α
  | 0, e => ⟨e, []⟩
  | n + 1, e =>
    if e.pass == e then ⟨e, e.firings⟩
    else
      let rest := settle n e.pass
      ⟨rest.result, e.firings ++ rest.fired⟩

def simplification (limit : Nat) (e : Formula ν α) : Simplification ν α :=
  let rest := settle (limit - 1) e.pass
  ⟨rest.result, e.firings ++ rest.fired⟩

def defaultLimit : Nat := 8

def simplify (e : Formula ν α) (limit : Nat) : Formula ν α := (e.simplification limit).result

end Formula

namespace Firing

variable {ν α : Type} [Naming ν] [Arithmetic α] [Written α]

def records (w : Firing ν α) : Except TextFault (List Record) :=
  match w.rule with
  | .fold a b =>
    let result := w.op.eval a b
    let operation := "(" ++ Number.text a ++ " " ++ w.op.symbol ++ " " ++ Number.text b ++ ")"
    let folded : Record := ⟨.debug, "fold " ++ operation ++ " -> " ++ Written.text result⟩
    if Arithmetic.isFinite result then .ok [folded]
    else .ok [⟨.warning, "Folding " ++ operation ++ " produced non-finite constant " ++
      Written.text result⟩, folded]
  | .zeroAdd => kept "0 + x -> x for " w.right
  | .addZero => kept "x + 0 -> x for " w.left
  | .cancel => kept "x - x -> 0 for " w.left
  | .absorb => do
    let left ← w.left.text?
    let right ← w.right.text?
    return [⟨.debug, "0 * x -> 0 for (" ++ left ++ " * " ++ right ++ ")"⟩]
  | .oneMul => kept "1 * x -> x for " w.right
  | .mulOne => kept "x * 1 -> x for " w.left
  | .divOne => kept "x / 1 -> x for " w.left
where
  kept (law : String) (e : Formula ν α) : Except TextFault (List Record) :=
    e.text?.map fun text => [⟨.debug, law ++ text⟩]

end Firing

end Formulae
