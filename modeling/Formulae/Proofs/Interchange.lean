import Formulae.Proofs.Double.ZeroBlind
import Formulae.Proofs.Fault
import Formulae.Proofs.Redex

/-! What equality of formulae leaves open. Equal formulae may differ in the signs of zeros and in
nothing else that matters. They are shown alike; they are simplified to equal formulae and have equal
values or the same faults, as long as the sign of a zero does not become that of an infinity: when a
quotient of constants is folded, or when a cotangent is taken. -/
namespace Formulae.Formula
open Arithmetic

variable {ν α : Type} [BEq ν] [Arithmetic α] {e f l r l' r' : Formula ν α} {op : BinaryOp}

/-- The relation holds of any two nodes at the same place of two formulae of one shape. -/
def AtPlaces (P : Formula ν α → Formula ν α → Prop) (e f : Formula ν α) : Prop :=
  ∀ p ∈ e.depthFirst.zip f.depthFirst, P p.1 p.2

section Places

variable {P : Formula ν α → Formula ν α → Prop}

omit [BEq ν] [Arithmetic α] in
theorem atPlaces_sign {s t : Sign} :
    AtPlaces P (sign s e) (sign t f) ↔ P (sign s e) (sign t f) ∧ AtPlaces P e f := by
  simp only [AtPlaces, depthFirst, List.zip_cons_cons, List.forall_mem_cons]

omit [BEq ν] [Arithmetic α] in
theorem atPlaces_apply {g h : Elementary} :
    AtPlaces P (apply g e) (apply h f) ↔ P (apply g e) (apply h f) ∧ AtPlaces P e f := by
  simp only [AtPlaces, depthFirst, List.zip_cons_cons, List.forall_mem_cons]

theorem atPlaces_binary {op' : BinaryOp} (hl : Alike l l') :
    AtPlaces P (binary op l r) (binary op' l' r') ↔
      P (binary op l r) (binary op' l' r') ∧ AtPlaces P l l' ∧ AtPlaces P r r' := by
  -- The pairs come apart at the right operands because the left ones have equally many nodes.
  have hlength : l.depthFirst.length = l'.depthFirst.length := by
    rw [length_depthFirst, length_depthFirst, hl.size_eq]
  simp only [AtPlaces, depthFirst, List.zip_cons_cons, List.zip_append hlength,
    List.forall_mem_cons, List.forall_mem_append]

end Places

section Simplification

variable [PartialEquivBEq ν] [PartialEquivBEq α]

omit [PartialEquivBEq ν] in
theorem Alike.isValue_eq (h : Alike e f) (a : α) : e.isValue a = f.isValue a := by
  cases h with
  | const h => exact sameConstant_beq_left h a
  | _ => rfl

theorem law?_congr (op : BinaryOp) (hl : Alike l l') (hr : Alike r r') :
    law? op l r = law? op l' r' := by
  cases op <;> simp only [law?, hl.isValue_eq, hr.isValue_eq, hl.beq_congr hr]

omit [PartialEquivBEq ν] [PartialEquivBEq α] in
theorem outcome_congr (rule : Rule α) (hl : Alike l l') (hr : Alike r r') :
    Alike (outcome op l r rule) (outcome op l' r' rule) := by
  cases rule with
  | fold | cancel | absorb => exact .const (sameConstant_refl _)
  | zeroAdd | oneMul => exact hr
  | addZero | mulOne | divOne => exact hl

omit [PartialEquivBEq ν] [PartialEquivBEq α] in
theorem fold?_eq_none_congr (hl : Alike l l') (hr : Alike r r') (h : fold? l r = none) :
    fold? l' r' = none := by
  cases hl with
  | const =>
    cases hr with
    | const => cases h
    | _ => rfl
  | _ => rfl

theorem combine_congr_of_fold?_eq_none (hl : Alike l l') (hr : Alike r r')
    (hfold : fold? l r = none) : Alike (combine op l r) (combine op l' r') := by
  have hrule : rule? op l' r' = rule? op l r := by
    rw [rule?, rule?, hfold, fold?_eq_none_congr hl hr hfold, law?_congr op hl hr]
  unfold combine
  rw [hrule]
  cases rule? op l r with
  | some rule => exact outcome_congr rule hl hr
  | none => exact .binary op hl hr

end Simplification

section Signs

variable [Written α] [ZeroBlind α] [PartialEquivBEq ν]

theorem combine_congr (hl : Alike l l') (hr : Alike r r')
    (hsign : ∀ a b d, l = const a → r = const b → r' = const d → op.ShowsSign a b → b = d) :
    Alike (combine op l r) (combine op l' r') := by
  cases hfold : fold? l r with
  | none => exact combine_congr_of_fold?_eq_none hl hr hfold
  | some rule =>
    unfold fold? at hfold
    split at hfold
    · cases hl with
      | const hac =>
        cases hr with
        | const hbd =>
          exact .const (ZeroBlind.binary_congr_of_sign op hac hbd (hsign _ _ _ rfl rfl rfl))
    · cases hfold

/-- Where simplification folds an operation whose value shows the sign of its zero divisor, the
other divisor has the same sign. -/
def DivisorsAgree : Formula ν α → Formula ν α → Prop
  | binary op l r, binary _ _ r' => ∀ a b d, l.pass = const a → r.pass = const b →
      r'.pass = const d → op.ShowsSign a b → b = d
  | _, _ => True

theorem Alike.pass (h : Alike e f) (hsign : AtPlaces DivisorsAgree e f) :
    Alike e.pass f.pass := by
  induction h with
  | const h => exact .const h
  | var h => exact .var h
  | sign s _ ih =>
    have hpass := ih (atPlaces_sign.1 hsign).2
    cases s with
    | plus => exact hpass
    | minus => exact .sign .minus hpass
  | binary op hl _ ihl ihr =>
    obtain ⟨hhere, hleft, hright⟩ := (atPlaces_binary hl).1 hsign
    exact combine_congr (ihl hleft) (ihr hright) hhere
  | apply g _ ih => exact .apply g (ih (atPlaces_apply.1 hsign).2)

end Signs

section Values

variable [LawfulBEq ν] [Naming ν] [Written α] [ZeroBlind α] {env : Environment ν α}

theorem Alike.render_eq (h : Alike e f) : e.render = f.render :=
  h.render_eq_of_text ZeroBlind.text_congr

theorem Alike.shown_eq (h : Alike e f) : e.shown = f.shown :=
  h.shown_eq_of_render h.render_eq

inductive SameOutcome : Except (Fault ν α) α → Except (Fault ν α) α → Prop where
  | ok {a b : α} (h : sameConstant a b) : SameOutcome (.ok a) (.ok b)
  | error {w w' : Fault ν α} (h : w.detail = w'.detail) : SameOutcome (.error w) (.error w')

omit [BEq ν] [LawfulBEq ν] [ZeroBlind α] in
theorem SameOutcome.bind {x y : Except (Fault ν α) α} {g k : α → Except (Fault ν α) α}
    (h : SameOutcome x y)
    (hnext : ∀ a b, x = .ok a → y = .ok b → sameConstant a b → SameOutcome (g a) (k b)) :
    SameOutcome (x >>= g) (y >>= k) := by
  cases h with
  | ok h => exact hnext _ _ rfl rfl h
  | error h => exact .error h

/-- Where the cotangent of a zero is taken, it is that of the same zero in the other formula. -/
def CotangentsAgree (env : Environment ν α) : Formula ν α → Formula ν α → Prop
  | apply .cot e, apply .cot f => ∀ a b, e.compute env = .ok a → f.compute env = .ok b →
      a == 0 → a = b
  | _, _ => True

theorem compute_div_congr (hl : Alike l l') (hr : Alike r r')
    (hdividend : SameOutcome (l.compute env) (l'.compute env))
    (hdivisor : SameOutcome (r.compute env) (r'.compute env)) :
    SameOutcome ((binary .div l r).compute env) ((binary .div l' r').compute env) := by
  rw [compute, compute]
  refine hdivisor.bind fun b d _ _ hbd => ?_
  rw [← sameConstant_beq_left hbd 0]
  split
  · refine .error ?_
    rw [Fault.detail, Fault.detail, hl.shown_eq, hr.shown_eq]
  · rename_i hzero
    refine hdividend.bind fun a c _ _ hac => .ok ?_
    exact ZeroBlind.binary_congr .div hac hbd fun hshows => hzero hshows.2.1

omit [BEq ν] [LawfulBEq ν] in
theorem compute_binary_congr (hop : op ≠ .div)
    (hl : SameOutcome (l.compute env) (l'.compute env))
    (hr : SameOutcome (r.compute env) (r'.compute env)) :
    SameOutcome ((binary op l r).compute env) ((binary op l' r').compute env) := by
  rw [compute, compute]
  · refine hl.bind fun a c _ _ hac => hr.bind fun b d _ _ hbd => .ok ?_
    exact ZeroBlind.binary_congr op hac hbd fun hshows => hop hshows.1
  · exact hop
  · exact hop

omit [BEq ν] [LawfulBEq ν] in
theorem compute_apply_congr {g : Elementary} (h : SameOutcome (e.compute env) (f.compute env))
    (hcot : CotangentsAgree env (apply g e) (apply g f)) :
    SameOutcome ((apply g e).compute env) ((apply g f).compute env) := by
  rw [compute, compute]
  refine h.bind fun a b ha hb hab => ?_
  rw [← ZeroBlind.below_zero_congr hab]
  split
  · rename_i hneg
    refine .error ?_
    rw [Fault.detail, Fault.detail, ZeroBlind.eq_of_below_zero hab hneg.2]
  · refine .ok (ZeroBlind.apply_congr_of_sign g hab ?_)
    rintro rfl
    exact hcot a b ha hb

theorem Alike.compute (h : Alike e f) (hcot : AtPlaces (CotangentsAgree env) e f) :
    SameOutcome (e.compute env) (f.compute env) := by
  induction h with
  | const h => exact .ok h
  | @var x y h =>
    obtain rfl := eq_of_beq h
    rw [Formula.compute]
    cases env x with
    | bound a => exact .ok (sameConstant_refl a)
    | absent | unusable => exact .error rfl
  | sign s _ ih =>
    rw [Formula.compute, Formula.compute]
    refine (ih (atPlaces_sign.1 hcot).2).bind fun a b _ _ hab => ?_
    exact .ok (ZeroBlind.sign_congr s hab)
  | binary op hl hr ihl ihr =>
    obtain ⟨-, hleft, hright⟩ := (atPlaces_binary hl).1 hcot
    by_cases hop : op = .div
    · subst hop
      exact compute_div_congr hl hr (ihl hleft) (ihr hright)
    · exact compute_binary_congr hop (ihl hleft) (ihr hright)
  | apply g _ ih =>
    obtain ⟨hhere, hrest⟩ := atPlaces_apply.1 hcot
    exact compute_apply_congr (ih hrest) hhere

end Values

open Number.Double (Trigonometry WithTrigonometry)

/-- Equal formulae are simplified to equal formulae, and have equal values or faults that tell the
same, unless the signs of two zeros become those of infinities: of folded quotients there, of
cotangents here. -/
theorem simplify_beq_and_sameOutcome [LawfulBEq ν] [Naming ν] {t : Trigonometry} [t.ZeroBlind]
    {e f : Formula ν (WithTrigonometry t)} (h : e == f) :
    (AtPlaces DivisorsAgree e f → ∀ limit, e.simplify limit == f.simplify limit) ∧
      ∀ env, AtPlaces (CotangentsAgree env) e f →
        SameOutcome (e.compute env) (f.compute env) := by
  have halike := alike_of_beq h
  refine ⟨fun hsign limit => ?_, fun env hcot => halike.compute hcot⟩
  rw [simplify_eq_pass, simplify_eq_pass]
  exact (halike.pass hsign).beq

/-- Sine, cosine and tangent of numbers so near zero that the sine and the tangent round to the
number itself and the cosine to one. -/
def nearZero : Trigonometry := ⟨id, fun _ => 1.0, id⟩

instance : nearZero.ZeroBlind where
  sin_zeros := rfl
  cos_zeros := rfl
  tan_zeros := rfl

def shifted (z : Float) : Formula String (WithTrigonometry nearZero) :=
  binary .add (apply .cot (binary .add (const (1e-9 : Float)) (const z)))
    (binary .div (const z) (var "x"))

def twos : Environment String (WithTrigonometry nearZero) := fun _ => .bound (2.0 : Float)

theorem shifted_interchange : (shifted 0.0).simplify 8 == (shifted (-0.0)).simplify 8 ∧
    SameOutcome ((shifted 0.0).compute twos) ((shifted (-0.0)).compute twos) := by
  have h : shifted 0.0 == shifted (-0.0) := by decide +kernel
  have hsign : AtPlaces DivisorsAgree (shifted 0.0) (shifted (-0.0)) := by
    simp [AtPlaces, shifted, depthFirst, DivisorsAgree, BinaryOp.ShowsSign, pass]
  have hcot : AtPlaces (CotangentsAgree twos) (shifted 0.0) (shifted (-0.0)) := by
    simp only [AtPlaces, shifted, depthFirst, List.cons_append, List.nil_append,
      List.zip_cons_cons, List.zip_nil_right, List.forall_mem_cons, CotangentsAgree, true_and]
    refine ⟨?_, fun p hp => absurd hp List.not_mem_nil⟩
    rintro a b ⟨⟩ - hzero
    exact absurd hzero (by decide +kernel)
  exact ⟨(simplify_beq_and_sameOutcome h).1 hsign 8, (simplify_beq_and_sameOutcome h).2 twos hcot⟩

def reciprocal (zero : Float) : Formula String Float := binary .div (const 1) (const zero)

def cotangent (zero : Float) : Formula String (WithTrigonometry nearZero) := apply .cot (const zero)

/-- The two zeros are equal, but not so the infinities that the reciprocal and the cotangent make of
them. -/
theorem reciprocal_and_cotangent_differ :
    (reciprocal 0.0 == reciprocal (-0.0) ∧
      ¬(reciprocal 0.0).simplify 8 == (reciprocal (-0.0)).simplify 8) ∧
    (cotangent 0.0 == cotangent (-0.0) ∧ ∃ a b, (cotangent 0.0).compute twos = .ok a ∧
      (cotangent (-0.0)).compute twos = .ok b ∧ ¬sameConstant a b) := by
  refine ⟨⟨by decide +kernel, ?_⟩, by decide +kernel, _, _, rfl, rfl, by decide +kernel⟩
  rw [simplify_eq_pass, simplify_eq_pass]
  decide +kernel

end Formulae.Formula
