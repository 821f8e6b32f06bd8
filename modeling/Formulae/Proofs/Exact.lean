import Mathlib
import Formulae.Number.Arithmetic
import Formulae.Proofs.Variables

/-! Formulae read in exact arithmetic. Constants are worth what their doubles are worth, nothing is
rounded, and what has no value has none: a quotient by zero, a root below zero, a constant that is
not finite. The numbers are those of any ordered field; the functions are given with it. -/
namespace Formulae

/-- The elementary functions of an ordered field, each with a value where it is defined. The root is
the non-negative one. -/
structure ExactFunctions (K : Type) [Field K] [LinearOrder K] where
  eval? : Elementary → K → Option K
  sqrt_eq_some_iff : ∀ a r, eval? .sqrt a = some r ↔ 0 ≤ r ∧ r * r = a

namespace ExactFunctions

def rational : ExactFunctions ℚ where
  eval?
    | .sqrt, a => if Rat.sqrt a * Rat.sqrt a = a then some (Rat.sqrt a) else none
    | _, _ => none
  sqrt_eq_some_iff a r := by
    constructor
    · intro h
      dsimp only at h
      split at h
      · rename_i hsquare
        cases h
        exact ⟨Rat.sqrt_nonneg a, hsquare⟩
      · cases h
    · rintro ⟨hr, rfl⟩
      simp [Rat.sqrt_eq, abs_of_nonneg hr]

noncomputable def real : ExactFunctions ℝ where
  eval?
    | .sqrt, a => if 0 ≤ a then some √a else none
    | .sin, a => some (Real.sin a)
    | .cos, a => some (Real.cos a)
    | .tan, a => if Real.cos a = 0 then none else some (Real.tan a)
    | .cot, a => if Real.sin a = 0 then none else some (Real.cot a)
  sqrt_eq_some_iff a r := by
    constructor
    · intro h
      dsimp only at h
      split at h
      · rename_i ha
        cases h
        exact ⟨Real.sqrt_nonneg a, Real.mul_self_sqrt ha⟩
      · cases h
    · rintro ⟨hr, rfl⟩
      simp [mul_self_nonneg, Real.sqrt_mul_self hr]

end ExactFunctions

variable {K : Type} [Field K] [LinearOrder K]

def Sign.exactEval : Sign → K → K
  | .plus, a => a
  | .minus, a => -a

def BinaryOp.exactEval? : BinaryOp → K → K → Option K
  | .add, a, b => some (a + b)
  | .sub, a, b => some (a - b)
  | .mul, a, b => some (a * b)
  | .div, a, b => if b = 0 then none else some (a / b)

theorem BinaryOp.exactEval?_div_eq_some {a b c : K} :
    BinaryOp.div.exactEval? a b = some c ↔ b ≠ 0 ∧ a / b = c := by
  rw [exactEval?, ite_eq_iff]
  simp [eq_comm]

namespace Formula

variable {ν α : Type} [Arithmetic α] {F : ExactFunctions K} {ρ σ : ν → K} {a c : K}

def exactValue? (F : ExactFunctions K) (ρ : ν → K) : Formula ν α → Option K
  | const a => (Arithmetic.rational? a).map (↑)
  | var x => some (ρ x)
  | sign s e => (e.exactValue? F ρ).map s.exactEval
  | binary op l r => do
    let a ← l.exactValue? F ρ
    let b ← r.exactValue? F ρ
    op.exactEval? a b
  | apply f e => do
    let a ← e.exactValue? F ρ
    F.eval? f a

@[simp] theorem exactValue?_var (x : ν) : (var x : Formula ν α).exactValue? F ρ = some (ρ x) := rfl

theorem exactValue?_const_eq_some {a : α} :
    (const a : Formula ν α).exactValue? F ρ = some c ↔ ∃ q, Arithmetic.rational? a = some q ∧ ↑q = c :=
  Option.map_eq_some_iff

theorem exactValue?_sign_eq_some {s : Sign} {e : Formula ν α} :
    (sign s e).exactValue? F ρ = some c ↔ ∃ a, e.exactValue? F ρ = some a ∧ s.exactEval a = c :=
  Option.map_eq_some_iff

theorem exactValue?_binary_eq_some {op : BinaryOp} {l r : Formula ν α} :
    (binary op l r).exactValue? F ρ = some c ↔
      ∃ a b, l.exactValue? F ρ = some a ∧ r.exactValue? F ρ = some b ∧ op.exactEval? a b = some c := by
  simp [exactValue?, Option.bind_eq_some_iff]

theorem exactValue?_apply_eq_some {f : Elementary} {e : Formula ν α} :
    (apply f e).exactValue? F ρ = some c ↔ ∃ a, e.exactValue? F ρ = some a ∧ F.eval? f a = some c :=
  Option.bind_eq_some_iff

theorem exactValue?_congr [BEq ν] [LawfulBEq ν] {e : Formula ν α} (h : ∀ x ∈ e.vars, ρ x = σ x) :
    e.exactValue? F ρ = e.exactValue? F σ := by
  induction e with
  | const a => rfl
  | var x => rw [exactValue?_var, exactValue?_var, h x List.mem_cons_self]
  | sign s e ih | apply f e ih => rw [exactValue?, exactValue?, ih h]
  | binary op l r ihl ihr =>
    obtain ⟨hl, hr⟩ := forall_mem_vars_binary.1 h
    rw [exactValue?, exactValue?, ihl hl, ihr hr]

theorem exactValue?_congr_of_isConstant [BEq ν] [LawfulBEq ν] {e : Formula ν α} (h : e.isConstant)
    (ρ σ : ν → K) : e.exactValue? F ρ = e.exactValue? F σ := by
  refine exactValue?_congr ?_
  simp [isConstant_iff.1 h]

/-- The value of a constant formula is one number, wherever it has a value. -/
theorem exists_forall_exactValue?_eq [BEq ν] [LawfulBEq ν] {e : Formula ν α} (h : e.isConstant)
    (F : ExactFunctions K) : ∃ b, ∀ (ρ : ν → K) c, e.exactValue? F ρ = some c → c = b := by
  refine ⟨(e.exactValue? F 0).getD 0, fun ρ c hc => ?_⟩
  rw [← exactValue?_congr_of_isConstant h ρ 0, hc, Option.getD_some]

end Formula

end Formulae
