import Formulae.Formula.Analysis
import Formulae.Formula.Traversal

/-! The variables of a formula as a set. A formula is constant when it is empty. -/
namespace Formulae.Formula

variable {ν α : Type} [BEq ν] [LawfulBEq ν]

@[simp] theorem mem_distinct {x : ν} {xs : List ν} : x ∈ distinct xs ↔ x ∈ xs := by
  induction xs with
  | nil => rfl
  | cons y ys ih =>
    rw [distinct, List.mem_cons, List.mem_filter, ih, List.mem_cons]
    by_cases hxy : x = y <;> simp [hxy]

theorem nodup_distinct (xs : List ν) : (distinct xs).Nodup := by
  induction xs with
  | nil => exact List.nodup_nil
  | cons x xs ih =>
    rw [distinct, List.nodup_cons]
    refine ⟨?_, ih.filter _⟩
    simp

@[simp] theorem mem_vars_binary {op : BinaryOp} {l r : Formula ν α} {x : ν} :
    x ∈ (binary op l r).vars ↔ x ∈ l.vars ∨ x ∈ r.vars := by
  rw [vars, mem_distinct, List.mem_append]

theorem forall_mem_vars_binary {op : BinaryOp} {l r : Formula ν α} {P : ν → Prop} :
    (∀ x ∈ (binary op l r).vars, P x) ↔ (∀ x ∈ l.vars, P x) ∧ ∀ x ∈ r.vars, P x := by
  simp only [mem_vars_binary, or_imp, forall_and]

theorem nodup_vars (e : Formula ν α) : e.vars.Nodup := by
  induction e with
  | const a => exact List.nodup_nil
  | var x => exact List.pairwise_singleton _ x
  | sign s e ih | apply f e ih => exact ih
  | binary op l r => exact nodup_distinct _

theorem mem_vars_iff {e : Formula ν α} {x : ν} : x ∈ e.vars ↔ var x ∈ e.depthFirst := by
  induction e with
  | const a => simp [vars, depthFirst]
  | var y => simp [vars, depthFirst]
  | sign s e ih | apply f e ih => simp [vars, depthFirst, ih]
  | binary op l r ihl ihr => simp [depthFirst, ihl, ihr]

omit [LawfulBEq ν] in
@[simp] theorem distinct_eq_nil_iff {xs : List ν} : distinct xs = [] ↔ xs = [] := by
  cases xs <;> simp [distinct]

omit [LawfulBEq ν] in
theorem isConstant_iff {e : Formula ν α} : e.isConstant ↔ e.vars = [] := by
  induction e with
  | const a => exact ⟨fun _ => rfl, fun _ => rfl⟩
  | var x => exact ⟨nofun, nofun⟩
  | sign s e ih | apply f e ih => exact ih
  | binary op l r ihl ihr =>
    rw [isConstant, vars, Bool.and_eq_true, ihl, ihr, distinct_eq_nil_iff, List.append_eq_nil_iff]

end Formulae.Formula
