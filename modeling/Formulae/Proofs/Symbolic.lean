import Formulae.Formula.Symbolic
import Formulae.Number.Binary64
import Formulae.Proofs.Double.Negation
import Formulae.Proofs.Exact

/-! What symbolic terms mean. A term has a value in exact arithmetic as a formula has; the term of a
formula has the variables of the formula for symbols, and everywhere its value. -/
namespace Formulae

namespace Term

variable {K : Type} [Field K] [LinearOrder K] {F : ExactFunctions K}

/-- The two powers that formulae need: to minus one the reciprocal, to one half the root. -/
def power? (F : ExactFunctions K) (a b : K) : Option K :=
  if b = -1 then BinaryOp.div.exactEval? 1 a
  else if b = 2⁻¹ then F.eval? .sqrt a
  else none

theorem power?_neg_one (a : K) : power? F a (-1) = BinaryOp.div.exactEval? 1 a := if_pos rfl

theorem power?_half [IsStrictOrderedRing K] (a : K) : power? F a 2⁻¹ = F.eval? .sqrt a := by
  have hsign : (2⁻¹ : K) ≠ -1 := by
    have hneg : (-1 : K) < 2⁻¹ := neg_one_lt_zero.trans (inv_pos.2 two_pos)
    exact hneg.ne'
  rw [power?, if_neg hsign, if_pos rfl]

variable {ν α : Type} [Arithmetic α] {ρ : ν → K}

def exactValue? (F : ExactFunctions K) (ρ : ν → K) : Term ν α → Option K
  | symbol x => some (ρ x)
  | integer z => some z
  | rational p q => BinaryOp.div.exactEval? p q
  | inexact a => (Arithmetic.rational? a).map (↑)
  | infinity | negativeInfinity | undefined => none
  | add s t => do
    let a ← s.exactValue? F ρ
    let b ← t.exactValue? F ρ
    return a + b
  | mul s t => do
    let a ← s.exactValue? F ρ
    let b ← t.exactValue? F ρ
    return a * b
  | pow s t => do
    let a ← s.exactValue? F ρ
    let b ← t.exactValue? F ρ
    power? F a b
  | apply f t => do
    let a ← t.exactValue? F ρ
    F.eval? f a

theorem exactValue?_ofNumber (a : α) :
    (ofNumber a : Term ν α).exactValue? F ρ = (Formula.const a : Formula ν α).exactValue? F ρ := by
  rw [ofNumber, Formula.exactValue?]
  cases hrational : Arithmetic.rational? a with
  | none =>
    dsimp only
    split
    · rfl
    · split <;> rfl
  | some r =>
    dsimp only
    split
    · rename_i hwhole
      have hr : (r.num : K) = r := by
        rw [← Rat.cast_intCast, Rat.coe_int_num_of_den_eq_one hwhole]
      rw [exactValue?, hr, Option.map_some]
    · rw [exactValue?, hrational]

theorem exactValue?_mul_neg_one (t : Term ν α) :
    (mul (integer (-1)) t).exactValue? F ρ = (t.exactValue? F ρ).map (-·) := by
  rw [exactValue?]
  cases t.exactValue? F ρ with
  | none => rfl
  | some a => simp [exactValue?]

theorem exactValue?_reciprocal (t : Term ν α) :
    t.reciprocal.exactValue? F ρ = (t.exactValue? F ρ).bind (BinaryOp.div.exactEval? 1) := by
  simp only [reciprocal, exactValue?, Int.cast_neg, Int.cast_one]
  cases t.exactValue? F ρ with
  | none => rfl
  | some a => exact power?_neg_one a

theorem exactValue?_half [IsStrictOrderedRing K] :
    (rational 1 2 : Term ν α).exactValue? F ρ = some 2⁻¹ := by
  simp [exactValue?, BinaryOp.exactEval?]

theorem exactValue?_neg (t : Term ν Float) :
    t.neg.exactValue? F ρ = (t.exactValue? F ρ).map (-·) := by
  cases t with
  | integer z => simp [neg, exactValue?]
  | rational p q =>
    simp only [neg, exactValue?, BinaryOp.exactEval?, Int.cast_neg, neg_div]
    split <;> rfl
  | inexact a =>
    rw [neg, exactValue?, exactValue?, Number.Double.rational_neg]
    cases Arithmetic.rational? a with
    | none => rfl
    | some q => simp
  | infinity | negativeInfinity | undefined => rfl
  | symbol | add | mul | pow | apply => exact exactValue?_mul_neg_one _

@[simp] theorem symbols_ofNumber (a : α) : (ofNumber a : Term ν α).symbols = [] := by
  rw [ofNumber]
  split
  · split <;> rfl
  · split
    · rfl
    · split <;> rfl

@[simp] theorem symbols_neg (t : Term ν α) : t.neg.symbols = t.symbols := by
  cases t <;> rfl

theorem mem_symbols_ofFormula [BEq ν] [LawfulBEq ν] {e : Formula ν α} {x : ν} :
    x ∈ (ofFormula e).symbols ↔ x ∈ e.vars := by
  induction e with
  | const a => simp [ofFormula, Formula.vars]
  | var y => simp [ofFormula, symbols, Formula.vars]
  | sign s e ih => cases s <;> simp [ofFormula, Formula.vars, ih]
  | binary op l r ihl ihr => cases op <;> simp [ofFormula, reciprocal, symbols, ihl, ihr]
  | apply f e ih => cases f <;> simp [ofFormula, symbols, Formula.vars, ih]

/-- Each way of building a formula keeps its value when it is built of other operations. -/
theorem exactValue?_ofFormula [IsStrictOrderedRing K] (e : Formula ν Float) :
    (ofFormula e).exactValue? F ρ = e.exactValue? F ρ := by
  induction e with
  | const a => exact exactValue?_ofNumber a
  | var x => rfl
  | sign s e ih =>
    rw [Formula.exactValue?, ← ih]
    cases s with
    | plus => exact Option.map_id'.symm
    | minus => exact exactValue?_neg _
  | binary op l r ihl ihr =>
    rw [Formula.exactValue?, ← ihl, ← ihr]
    cases op with
    | add | mul => rfl
    | sub =>
      rw [ofFormula, exactValue?, exactValue?_mul_neg_one]
      cases (ofFormula l).exactValue? F ρ with
      | none => rfl
      | some a =>
        cases (ofFormula r).exactValue? F ρ with
        | none => rfl
        | some b => simp [BinaryOp.exactEval?, sub_eq_add_neg]
    | div =>
      rw [ofFormula, exactValue?, exactValue?_reciprocal]
      cases (ofFormula l).exactValue? F ρ with
      | none => rfl
      | some a =>
        cases (ofFormula r).exactValue? F ρ with
        | none => rfl
        | some b => by_cases hb : b = 0 <;> simp [BinaryOp.exactEval?, hb, div_eq_mul_inv]
  | apply f e ih =>
    rw [Formula.exactValue?, ← ih]
    cases f with
    | sqrt =>
      rw [ofFormula, exactValue?, exactValue?_half]
      cases (ofFormula e).exactValue? F ρ with
      | none => rfl
      | some a => exact power?_half a
    | sin | cos | tan | cot => rfl

end Term

namespace Formula

theorem term?_eq_ok {α : Type} [Arithmetic α] (e : Formula String α) :
    e.term? = .ok (Term.ofFormula e) := by
  have hnames : (Term.ofFormula e).symbols.findSome? Naming.odd? = none :=
    List.findSome?_eq_none_iff.2 fun _ _ => rfl
  rw [term?, hnames]

/-- Every formula has a term. Its symbols are the variables, and whatever exact numbers these stand
for, the term has a value exactly where the formula has one, and it is the same. -/
theorem term?_symbols_and_value {K : Type} [Field K] [LinearOrder K] [IsStrictOrderedRing K]
    (F : ExactFunctions K) (e : Formula String Float) :
    ∃ t, e.term? = .ok t ∧ (∀ x, x ∈ t.symbols ↔ x ∈ e.vars) ∧
      ∀ ρ, t.exactValue? F ρ = e.exactValue? F ρ :=
  ⟨Term.ofFormula e, term?_eq_ok e, fun _ => Term.mem_symbols_ofFormula,
    fun _ => Term.exactValue?_ofFormula e⟩

def signedRoot : Formula String Float :=
  sign .minus (binary .div (apply .sqrt (var "x")) (binary .sub (var "y") (const 0.5)))

theorem term?_signedRoot : ∃ t, signedRoot.term? = .ok t ∧
    (∀ x, x ∈ t.symbols ↔ x ∈ ["x", "y"]) ∧
    t.exactValue? ExactFunctions.rational (fun x => if x = "x" then 4 else 1) = some (-4) := by
  obtain ⟨t, hterm, hsymbols, hvalue⟩ := term?_symbols_and_value ExactFunctions.rational signedRoot
  refine ⟨t, hterm, hsymbols, ?_⟩
  rw [hvalue]
  decide +kernel

end Formula

end Formulae
