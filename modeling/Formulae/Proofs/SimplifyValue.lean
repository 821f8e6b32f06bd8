import Formulae.Proofs.Double.Laws
import Formulae.Proofs.Equality
import Formulae.Proofs.Evaluation
import Formulae.Proofs.Redex

/-! Simplification keeps values. Where a formula and all its parts have finite values, so has what
it is simplified to, and the values are equal. A zero may change its sign on the way; finiteness is
what keeps an operation from telling the two zeros apart. -/
namespace Formulae.Formula
open Arithmetic LawfulArithmetic

variable {ν α : Type} [Arithmetic α] {env : Environment ν α} {a b : α}

def FiniteUnder (env : Environment ν α) (e : Formula ν α) : Prop :=
  ∀ n ∈ e.depthFirst, ∃ a, n.compute env = .ok a ∧ isFinite a

instance (env : Environment ν α) (e : Formula ν α) : Decidable (e.FiniteUnder env) :=
  decidable_of_iff (∀ n ∈ e.depthFirst, (n.compute env).toOption.any Arithmetic.isFinite) <| by
    refine forall₂_congr fun n _ => ?_
    cases n.compute env <;> simp [Except.toOption]

theorem FiniteUnder.isFinite {e : Formula ν α} (h : e.FiniteUnder env)
    (ha : e.compute env = .ok a) : isFinite a := by
  obtain ⟨b, hb, hfinite⟩ := h e (mem_depthFirst_self e)
  rw [ha] at hb
  cases hb
  exact hfinite

theorem finiteUnder_const : (const a : Formula ν α).FiniteUnder env ↔ Arithmetic.isFinite a := by
  simp [FiniteUnder, depthFirst]

theorem finiteUnder_sign {s : Sign} {e : Formula ν α} : (sign s e).FiniteUnder env ↔
    (∃ a, (sign s e).compute env = .ok a ∧ Arithmetic.isFinite a) ∧ e.FiniteUnder env := by
  simp only [FiniteUnder, depthFirst, List.forall_mem_cons]

theorem finiteUnder_apply {f : Elementary} {e : Formula ν α} : (apply f e).FiniteUnder env ↔
    (∃ a, (apply f e).compute env = .ok a ∧ Arithmetic.isFinite a) ∧ e.FiniteUnder env := by
  simp only [FiniteUnder, depthFirst, List.forall_mem_cons]

theorem finiteUnder_binary {op : BinaryOp} {l r : Formula ν α} :
    (binary op l r).FiniteUnder env ↔
      (∃ a, (binary op l r).compute env = .ok a ∧ Arithmetic.isFinite a) ∧
        l.FiniteUnder env ∧ r.FiniteUnder env := by
  simp only [FiniteUnder, depthFirst, List.forall_mem_cons, List.forall_mem_append]

variable [LawfulArithmetic α] [BEq ν] [LawfulBEq ν]

theorem compute_beq_of_beq {e f : Formula ν α} (heq : e == f) (he : e.FiniteUnder env)
    (hf : f.FiniteUnder env) (ha : e.compute env = .ok a) (hb : f.compute env = .ok b) :
    a == b := by
  have hfinite := he.isFinite ha
  have halike := alike_of_beq heq
  clear heq
  induction halike generalizing a b with
  | const h =>
    cases ha
    cases hb
    exact beq_of_sameConstant h hfinite
  | var h =>
    obtain rfl := eq_of_beq h
    rw [ha] at hb
    cases hb
    exact beq_refl hfinite
  | sign s _ ih =>
    obtain ⟨x, hx, rfl⟩ := compute_sign_eq_ok.1 ha
    obtain ⟨y, hy, rfl⟩ := compute_sign_eq_ok.1 hb
    have he := (finiteUnder_sign.1 he).2
    exact sign_congr s (ih he (finiteUnder_sign.1 hf).2 hx hy (he.isFinite hx)) hfinite
  | binary op _ _ ihl ihr =>
    obtain ⟨x, y, hx, hy, hdivisor, rfl⟩ := compute_binary_eq_ok.1 ha
    obtain ⟨x', y', hx', hy', -, rfl⟩ := compute_binary_eq_ok.1 hb
    obtain ⟨-, hl, hr⟩ := finiteUnder_binary.1 he
    obtain ⟨-, hl', hr'⟩ := finiteUnder_binary.1 hf
    exact binary_congr op (ihl hl hl' hx hx' (hl.isFinite hx))
      (ihr hr hr' hy hy' (hr.isFinite hy)) hdivisor hfinite
  | apply g _ ih =>
    obtain ⟨x, hx, -, rfl⟩ := compute_apply_eq_ok.1 ha
    obtain ⟨y, hy, -, rfl⟩ := compute_apply_eq_ok.1 hb
    have he := (finiteUnder_apply.1 he).2
    exact apply_congr g (ih he (finiteUnder_apply.1 hf).2 hx hy (he.isFinite hx)) hfinite

/-- A rule keeps the value of the operation that it fires on. -/
theorem outcome_value {op : BinaryOp} {l r : Formula ν α} {rule : Rule α}
    (h : Applies op l r rule) (hl : l.FiniteUnder env) (hr : r.FiniteUnder env)
    (ha : l.compute env = .ok a) (hb : r.compute env = .ok b) (hdivisor : ¬(op = .div ∧ b == 0))
    (hfinite : Arithmetic.isFinite (op.eval a b)) :
    (outcome op l r rule).FiniteUnder env ∧
      ∃ c, (outcome op l r rule).compute env = .ok c ∧ op.eval a b == c := by
  have hareg := hl.isFinite ha
  have hbreg := hr.isFinite hb
  have zero (heq : op.eval a b == 0) : (const 0 : Formula ν α).FiniteUnder env ∧
      ∃ c, (const 0 : Formula ν α).compute env = .ok c ∧ op.eval a b == c :=
    ⟨finiteUnder_const.2 (isFinite_congr heq hfinite), 0, rfl, heq⟩
  cases h with
  | fold =>
    cases ha
    cases hb
    exact ⟨finiteUnder_const.2 hfinite, _, rfl, beq_refl hfinite⟩
  | zeroAdd r h =>
    cases ha
    have hsum := binary_congr .add h (beq_refl hbreg) hdivisor hfinite
    exact ⟨hr, b, hb, beq_trans hsum (LawfulArithmetic.zero_add hbreg)⟩
  | addZero l h =>
    cases hb
    have hsum := binary_congr .add (beq_refl hareg) h hdivisor hfinite
    exact ⟨hl, a, ha, beq_trans hsum (LawfulArithmetic.add_zero hareg)⟩
  | cancel h => exact zero (sub_eq_zero hareg (compute_beq_of_beq h hl hr ha hb))
  | zeroMul r h =>
    cases ha
    have hproduct := binary_congr .mul h (beq_refl hbreg) hdivisor hfinite
    exact zero (beq_trans hproduct (LawfulArithmetic.zero_mul hbreg))
  | mulZero l h =>
    cases hb
    have hproduct := binary_congr .mul (beq_refl hareg) h hdivisor hfinite
    exact zero (beq_trans hproduct (LawfulArithmetic.mul_zero hareg))
  | oneMul r h =>
    cases ha
    have hproduct := binary_congr .mul h (beq_refl hbreg) hdivisor hfinite
    exact ⟨hr, b, hb, beq_trans hproduct (LawfulArithmetic.one_mul hbreg)⟩
  | mulOne l h =>
    cases hb
    have hproduct := binary_congr .mul (beq_refl hareg) h hdivisor hfinite
    exact ⟨hl, a, ha, beq_trans hproduct (LawfulArithmetic.mul_one hareg)⟩
  | divOne l h =>
    cases hb
    have hquotient := binary_congr .div (beq_refl hareg) h hdivisor hfinite
    exact ⟨hl, a, ha, beq_trans hquotient (LawfulArithmetic.div_one hareg)⟩

theorem combine_value {op : BinaryOp} {l r : Formula ν α} (hl : l.FiniteUnder env)
    (hr : r.FiniteUnder env) (ha : l.compute env = .ok a) (hb : r.compute env = .ok b)
    (hdivisor : ¬(op = .div ∧ b == 0)) (hfinite : Arithmetic.isFinite (op.eval a b)) :
    (combine op l r).FiniteUnder env ∧
      ∃ c, (combine op l r).compute env = .ok c ∧ op.eval a b == c := by
  rcases combine_cases op l r with ⟨rule, happlies, heq⟩ | ⟨-, heq⟩
  · rw [heq]
    exact outcome_value happlies hl hr ha hb hdivisor hfinite
  · rw [heq]
    have hc := compute_binary_eq_ok.2 ⟨a, b, ha, hb, hdivisor, rfl⟩
    exact ⟨finiteUnder_binary.2 ⟨⟨_, hc, hfinite⟩, hl, hr⟩, _, hc, beq_refl hfinite⟩

theorem pass_value {e : Formula ν α} (h : e.FiniteUnder env) (ha : e.compute env = .ok a) :
    e.pass.FiniteUnder env ∧ ∃ b, e.pass.compute env = .ok b ∧ a == b := by
  have hfinite := h.isFinite ha
  induction e generalizing a with
  | const c => exact ⟨h, a, ha, beq_refl hfinite⟩
  | var x => exact ⟨h, a, ha, beq_refl hfinite⟩
  | sign s e ih =>
    obtain ⟨x, hx, rfl⟩ := compute_sign_eq_ok.1 ha
    have he := (finiteUnder_sign.1 h).2
    obtain ⟨hpass, y, hy, heq⟩ := ih he hx (he.isFinite hx)
    cases s with
    | plus => exact ⟨hpass, y, hy, heq⟩
    | minus =>
      have hneg := sign_congr .minus heq hfinite
      have hb : (sign .minus e.pass).compute env = .ok (Sign.minus.eval y) :=
        compute_sign_eq_ok.2 ⟨y, hy, rfl⟩
      exact ⟨finiteUnder_sign.2 ⟨⟨_, hb, isFinite_congr hneg hfinite⟩, hpass⟩, _, hb, hneg⟩
  | binary op l r ihl ihr =>
    obtain ⟨x, y, hx, hy, hdivisor, rfl⟩ := compute_binary_eq_ok.1 ha
    obtain ⟨-, hl, hr⟩ := finiteUnder_binary.1 h
    obtain ⟨hlpass, x', hx', hxeq⟩ := ihl hl hx (hl.isFinite hx)
    obtain ⟨hrpass, y', hy', hyeq⟩ := ihr hr hy (hr.isFinite hy)
    have heq := binary_congr op hxeq hyeq hdivisor hfinite
    have hdivisor' : ¬(op = .div ∧ y' == 0) := fun hz => hdivisor ⟨hz.1, beq_trans hyeq hz.2⟩
    obtain ⟨hpass, c, hc, hceq⟩ :=
      combine_value hlpass hrpass hx' hy' hdivisor' (isFinite_congr heq hfinite)
    exact ⟨hpass, c, hc, beq_trans heq hceq⟩
  | apply f e ih =>
    obtain ⟨x, hx, hradicand, rfl⟩ := compute_apply_eq_ok.1 ha
    have he := (finiteUnder_apply.1 h).2
    obtain ⟨hpass, y, hy, heq⟩ := ih he hx (he.isFinite hx)
    have hvalue := apply_congr f heq hfinite
    have hradicand' : ¬(f = .sqrt ∧ below y 0) :=
      fun hneg => hradicand ⟨hneg.1, (below_congr 0 heq).trans hneg.2⟩
    have hb : (apply f e.pass).compute env = .ok (f.eval y) :=
      compute_apply_eq_ok.2 ⟨y, hy, hradicand', rfl⟩
    exact ⟨finiteUnder_apply.2 ⟨⟨_, hb, isFinite_congr hvalue hfinite⟩, hpass⟩, _, hb, hvalue⟩

/-- Where all parts of a formula have finite values, simplification introduces no fault, all parts
of the result have finite values, and its value is equal. -/
theorem simplify_value (e : Formula ν α) (limit : Nat) (h : e.FiniteUnder env) :
    (e.simplify limit).FiniteUnder env ∧ ∃ a b, e.compute env = .ok a ∧
      (e.simplify limit).compute env = .ok b ∧ a == b := by
  rw [simplify_eq_pass]
  obtain ⟨a, ha, -⟩ := h e (mem_depthFirst_self e)
  obtain ⟨hpass, b, hb, heq⟩ := pass_value h ha
  exact ⟨hpass, a, b, ha, hb, heq⟩

/-- Sine, cosine and tangent as they are at zero. -/
def atZero : Number.Double.Trigonometry := ⟨fun _ => 0.0, fun _ => 1.0, fun _ => 0.0⟩

instance : atZero.Lawful where
  sin_congr _ h := Number.Double.beq_of_agree (.refl _) h
  cos_congr _ h := Number.Double.beq_of_agree (.refl _) h
  tan_congr _ h := Number.Double.beq_of_agree (.refl _) h
  cot_congr _ h := Number.Double.beq_of_agree (.refl _) h

def quotient : Formula String (Number.Double.WithTrigonometry atZero) :=
  binary .div (binary .add (binary .mul (const 0) (var "x")) (apply .sqrt (var "y")))
    (binary .mul (apply .cos (binary .sub (var "x") (var "x"))) (const 1))

def twoVariables : Environment String (Number.Double.WithTrigonometry atZero)
  | "x" => .bound (-3.5 : Float)
  | "y" => .bound (2.25 : Float)
  | _ => .absent

theorem simplify_value_quotient : quotient.FiniteUnder twoVariables ∧
    (quotient.simplify 10).FiniteUnder twoVariables ∧ ∃ a b,
      quotient.compute twoVariables = .ok a ∧
        (quotient.simplify 10).compute twoVariables = .ok b ∧ a == b :=
  have h : quotient.FiniteUnder twoVariables := by decide +kernel
  ⟨h, simplify_value quotient 10 h⟩

end Formulae.Formula
