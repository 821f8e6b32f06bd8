import Formulae.Formula.Complexity
import Formulae.Formula.Traversal
import Formulae.Proofs.Equality

/-! The skeleton of a formula: its constants left blank. Structural queries do not look at the value
of a constant, so a formula and its skeleton answer them alike. -/
namespace Formulae.Formula

variable {ν α : Type}

def skeleton : Formula ν α → Formula ν Unit
  | const _ => const ()
  | var x => var x
  | sign s e => sign s e.skeleton
  | binary op l r => binary op l.skeleton r.skeleton
  | apply f e => apply f e.skeleton

theorem size_skeleton (e : Formula ν α) : e.skeleton.size = e.size := by
  induction e with
  | const | var => rfl
  | sign s e ih | apply f e ih => rw [skeleton, size, size, ih]
  | binary op l r ihl ihr => rw [skeleton, size, size, ihl, ihr]

theorem depth_skeleton (e : Formula ν α) : e.skeleton.depth = e.depth := by
  induction e with
  | const | var => rfl
  | sign s e ih | apply f e ih => rw [skeleton, depth, depth, ih]
  | binary op l r ihl ihr => rw [skeleton, depth, depth, ihl, ihr]

@[simp] theorem head_skeleton (e : Formula ν α) : e.skeleton.head = e.head := by
  cases e <;> rfl

theorem complexity_skeleton (β : Type) [Add β] [OfScientific β] (e : Formula ν α) :
    e.skeleton.complexity β = e.complexity β := by
  induction e with
  | const | var => rfl
  | sign s e ih | apply f e ih => rw [skeleton, complexity, complexity, ih, head_skeleton]
  | binary op l r ihl ihr =>
    rw [skeleton, complexity, complexity, ihl, ihr, head_skeleton, head_skeleton]

theorem vars_skeleton [BEq ν] (e : Formula ν α) : e.skeleton.vars = e.vars := by
  induction e with
  | const | var => rfl
  | sign s e ih | apply f e ih => exact ih
  | binary op l r ihl ihr => rw [skeleton, vars, vars, ihl, ihr]

theorem isConstant_skeleton (e : Formula ν α) : e.skeleton.isConstant = e.isConstant := by
  induction e with
  | const | var => rfl
  | sign s e ih | apply f e ih => exact ih
  | binary op l r ihl ihr => rw [skeleton, isConstant, isConstant, ihl, ihr]

theorem classify_skeleton (e : Formula ν α) : e.skeleton.classify = e.classify := by
  induction e with
  | const | var => rfl
  | sign s e ih => exact ih
  | apply f e ih =>
    cases f with
    | sqrt => rw [skeleton, classify, classify, ih]
    | _ => rfl
  | binary op l r ihl ihr =>
    rw [skeleton, classify, classify, ihl, ihr, isConstant_skeleton]

theorem children_skeleton (e : Formula ν α) : e.skeleton.children = e.children.map skeleton := by
  cases e <;> rfl

theorem serve_skeleton (queue : List (Formula ν α)) :
    serve (queue.map skeleton) = (serve queue).map skeleton := by
  induction queue using serve.induct with
  | case1 => simp only [List.map_nil, serve]
  | case2 e queue ih =>
    rw [List.map_cons, serve, serve, List.map_cons, children_skeleton, ← List.map_append, ih]

theorem breadthFirst_skeleton (e : Formula ν α) :
    e.skeleton.breadthFirst = e.breadthFirst.map skeleton :=
  serve_skeleton [e]

theorem names_skeleton (e : Formula ν α) : e.skeleton.names = e.names := by
  have hkind : (fun n : Formula ν α => decide (n.skeleton.kind = .var)) =
      fun n => decide (n.kind = .var) := by
    funext n
    rw [kind, head_skeleton, kind]
  have hname : (fun n : Formula ν α => n.skeleton.name?) = name? := by
    funext n
    cases n <;> rfl
  rw [names, ofKind, breadthFirst_skeleton, List.filter_map, List.filterMap_map]
  exact congr (congrArg _ hname) (congrArg (List.filter · _) hkind)

theorem usage_skeleton [BEq ν] (e : Formula ν α) : e.skeleton.usage = e.usage := by
  rw [usage, usage, names_skeleton]

theorem Alike.skeleton_eq [BEq ν] [LawfulBEq ν] [Arithmetic α] {e f : Formula ν α}
    (h : Alike e f) : e.skeleton = f.skeleton := by
  induction h with
  | const => rfl
  | var h => rw [eq_of_beq h]
  | sign s _ ih | apply g _ ih => rw [skeleton, skeleton, ih]
  | binary op _ _ ihl ihr => rw [skeleton, skeleton, ihl, ihr]

end Formulae.Formula
