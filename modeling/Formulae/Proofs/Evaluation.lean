import Formulae.Formula.Compute
import Formulae.Proofs.Variables

/-! When a formula has a value at a point: each kind of formula in terms of its operands. The order
in which operands are evaluated decides about faults only. -/
namespace Formulae.Formula

variable {ν α : Type} [Arithmetic α] {env : Environment ν α} {a c : α}

@[simp] theorem compute_const : (const a : Formula ν α).compute env = .ok a := rfl

theorem compute_var_eq_ok {x : ν} : (var x).compute env = .ok a ↔ env x = .bound a := by
  rw [compute]
  cases env x <;> simp

theorem compute_sign_eq_ok {s : Sign} {e : Formula ν α} :
    (sign s e).compute env = .ok c ↔ ∃ a, e.compute env = .ok a ∧ s.eval a = c := by
  rw [compute]
  cases e.compute env <;> simp [bind, Except.bind, pure, Except.pure]

theorem compute_binary_eq_ok {op : BinaryOp} {l r : Formula ν α} :
    (binary op l r).compute env = .ok c ↔ ∃ a b, l.compute env = .ok a ∧ r.compute env = .ok b ∧
      ¬(op = .div ∧ (b == 0) = true) ∧ op.eval a b = c := by
  cases op with
  | div =>
    rw [compute]
    cases r.compute env with
    | error w => simp [bind, Except.bind]
    | ok b =>
      by_cases hb : (b == 0) = true
      · simp [bind, Except.bind, hb]
      · cases l.compute env <;> simp [bind, Except.bind, pure, Except.pure, hb, BinaryOp.eval]
  | add | sub | mul =>
    rw [compute]
    · cases l.compute env <;> cases r.compute env <;>
        simp [bind, Except.bind, pure, Except.pure]
    · simp

theorem compute_apply_eq_ok {f : Elementary} {e : Formula ν α} :
    (apply f e).compute env = .ok c ↔ ∃ a, e.compute env = .ok a ∧
      ¬(f = .sqrt ∧ Arithmetic.below a 0 = true) ∧ f.eval a = c := by
  rw [compute]
  cases e.compute env with
  | error w => simp [bind, Except.bind]
  | ok a =>
    by_cases ha : f = .sqrt ∧ Arithmetic.below a 0 = true
    · simp [bind, Except.bind, ha]
    · simp only [bind, Except.bind, pure, Except.pure, Except.ok.injEq, exists_eq_left',
        ha, not_false_eq_true, true_and, if_false]

/-- A formula with a value has all its variables bound, those behind a zero included. -/
theorem bound_of_compute [BEq ν] [LawfulBEq ν] {e : Formula ν α} {x : ν}
    (h : e.compute env = .ok c) (hx : x ∈ e.vars) : ∃ a, env x = .bound a := by
  induction e generalizing c with
  | const a => cases hx
  | var y =>
    cases List.mem_singleton.1 hx
    exact ⟨c, compute_var_eq_ok.1 h⟩
  | sign s e ih =>
    obtain ⟨a, ha, -⟩ := compute_sign_eq_ok.1 h
    exact ih ha hx
  | binary op l r ihl ihr =>
    obtain ⟨a, b, ha, hb, -, -⟩ := compute_binary_eq_ok.1 h
    rcases mem_vars_binary.1 hx with hl | hr
    · exact ihl ha hl
    · exact ihr hb hr
  | apply f e ih =>
    obtain ⟨a, ha, -, -⟩ := compute_apply_eq_ok.1 h
    exact ih ha hx

end Formulae.Formula
