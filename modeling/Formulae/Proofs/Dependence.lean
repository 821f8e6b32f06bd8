import Formulae.Proofs.Fault

/-! What a value depends on. Evaluation reads the variables of a formula and nothing else: two
environments that agree on them give one value, or one fault. A value takes all of them, since no
node is skipped; a constant formula takes none, so that no environment can lack a name for it. -/
namespace Formulae.Formula

variable {ν α : Type} [Arithmetic α] [BEq ν] [LawfulBEq ν] {env env' : Environment ν α}

theorem compute_congr {e : Formula ν α} (h : ∀ x ∈ e.vars, env x = env' x) :
    e.compute env = e.compute env' := by
  induction e with
  | const a => rfl
  | var x => rw [compute, compute, h x List.mem_cons_self]
  | sign s e ih | apply f e ih => rw [compute, compute, ih h]
  | binary op l r ihl ihr =>
    obtain ⟨hl, hr⟩ := forall_mem_vars_binary.1 h
    cases op <;> simp only [compute, ihl hl, ihr hr]

theorem mem_vars_of_compute_error {e : Formula ν α} {x : ν}
    (h : e.compute env = .error (.undefinedName x)) : x ∈ e.vars := by
  obtain ⟨n, hn, hfault⟩ := exists_faultAt_of_compute h
  cases hfault with
  | undefinedName => exact mem_vars_iff.2 hn

/-- Environments that agree on the variables of a formula, a name without a value included, give
it the same value or the same fault. Where it has a value all its variables are bound. A constant
formula has the same outcome everywhere, and never is it an undefined name. -/
theorem compute_reads_vars (e : Formula ν α) :
    (∀ env env' : Environment ν α, (∀ x ∈ e.vars, env x = env' x) →
      e.compute env = e.compute env') ∧
    (∀ (env : Environment ν α) (a : α), e.compute env = .ok a →
      ∀ x ∈ e.vars, ∃ c, env x = .bound c) ∧
    (e.isConstant → ∀ env : Environment ν α, (∀ env', e.compute env = e.compute env') ∧
      ∀ x, e.compute env ≠ .error (.undefinedName x)) := by
  refine ⟨fun env env' h => compute_congr h, fun env a h x hx => bound_of_compute h hx, ?_⟩
  intro hconstant env
  have hvars : e.vars = [] := isConstant_iff.1 hconstant
  refine ⟨fun env' => compute_congr ?_, fun x hx => ?_⟩
  · simp [hvars]
  · have hmem := mem_vars_of_compute_error hx
    simp [hvars] at hmem

def ratio : Formula String Float := binary .div (var "x") (binary .sub (var "y") (const 2.0))

def twoAnd (other : Binding Float) : Environment String Float
  | "x" => .absent
  | "y" => .bound 2.0
  | _ => other

theorem ratio_reads_two :
    (∀ x ∈ ratio.vars, twoAnd .absent x = twoAnd (.bound 7.0) x) ∧
      ratio.compute (twoAnd .absent) = ratio.compute (twoAnd (.bound 7.0)) := by
  have h : ∀ x ∈ ratio.vars, twoAnd .absent x = twoAnd (.bound 7.0) x := by
    simp [ratio, twoAnd, vars]
  exact ⟨h, (compute_reads_vars ratio).1 _ _ h⟩

end Formulae.Formula
