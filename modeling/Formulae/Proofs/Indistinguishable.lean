import Formulae.Expression
import Formulae.Proofs.Double.ZeroBlind
import Formulae.Proofs.Skeleton

/-! Equality of formulae over doubles is an equivalence, undefined constants included, and no query
sees through it: equal formulae have the same skeleton, and their constants are the same double or
two zeros, which have one text, one hash and no problem. -/
namespace Formulae

namespace Number.Double

variable {x y : Float} {β : Type}

theorem congr_of_zeros {f : Float → β} (hzeros : f 0.0 = f (-0.0)) (h : sameConstant x y) :
    f x = f y := by
  rcases eq_or_zeros h with rfl | ⟨rfl, rfl⟩ | ⟨rfl, rfl⟩
  · rfl
  · exact hzeros
  · exact hzeros.symm

theorem zeros_beq : (0.0 : Float) == -0.0 := by decide +kernel

theorem hash_congr (h : x == y) : (Literal.float x).hash = (Literal.float y).hash := by
  have hzeros : Extended.ofFloat 0.0 = Extended.ofFloat (-0.0) := by decide +kernel
  have hvalue := congr_of_zeros hzeros (sameConstant_iff.2 (.inl h))
  simp only [Literal.hash, Literal.parts?, hvalue]

end Number.Double

namespace Formula

open Number.Double

variable {ν : Type} [BEq ν] [LawfulBEq ν] {e f : Formula ν Float}

theorem Alike.hashWith_eq {name : ν → UInt64} {number : Float → UInt64}
    (hnumber : ∀ a b : Float, a == b → number a = number b) (h : Alike e f) :
    e.hashWith name number = f.hashWith name number := by
  induction h with
  | const h =>
    have hdefined : Arithmetic.isUndefined (0.0 : Float) = false ∧
        Arithmetic.isUndefined (-0.0 : Float) = false := by decide +kernel
    have hzeros : hashConstant number 0.0 = hashConstant number (-0.0) := by
      rw [hashConstant, hashConstant, hdefined.1, hdefined.2, hnumber _ _ zeros_beq]
    exact congrArg (mixHash _) (congr_of_zeros hzeros h)
  | var h => rw [eq_of_beq h]
  | sign s _ ih | apply g _ ih => rw [hashWith, hashWith, ih]
  | binary op _ _ ihl ihr => rw [hashWith, hashWith, ihl, ihr]

variable [Naming ν]

omit [BEq ν] [LawfulBEq ν] in
theorem problem?_const_congr {a b : Float} (h : sameConstant a b) :
    (const a : Formula ν Float).problem? = (const b).problem? := by
  have hfinite : Arithmetic.isFinite (0.0 : Float) ∧ Arithmetic.isFinite (-0.0 : Float) := by
    decide +kernel
  refine congr_of_zeros (f := fun a => (const a : Formula ν Float).problem?) ?_ h
  rw [problem?, problem?, if_pos hfinite.1, if_pos hfinite.2]

theorem Alike.problems_eq (h : Alike e f) : e.problems = f.problems := by
  induction h with
  | const h =>
    rw [problems, problems, depthFirst, depthFirst, List.filterMap_cons, List.filterMap_cons,
      problem?_const_congr h]
  | var h => rw [eq_of_beq h]
  | sign s _ ih | apply g _ ih => exact ih
  | binary op _ _ ihl ihr =>
    rw [problems_binary_eq_append, problems_binary_eq_append, ihl, ihr]

structure Indistinguishable (e f : Formula ν Float) : Prop where
  text : e.text? = f.text?
  shown : e.shown = f.shown
  size : e.size = f.size
  depth : e.depth = f.depth
  complexity : ∀ (β : Type) [Add β] [OfScientific β], e.complexity β = f.complexity β
  vars : e.vars = f.vars
  isConstant : e.isConstant = f.isConstant
  isPolynomial : e.isPolynomial = f.isPolynomial
  degree : e.degree = f.degree
  usage : e.usage = f.usage
  problems : e.problems = f.problems

theorem Alike.indistinguishable (h : Alike e f) : Indistinguishable e f := by
  have hskeleton := h.skeleton_eq
  have hrender := h.render_eq_of_text text_congr_of_sameConstant
  have hclassify : e.classify = f.classify := by
    rw [← classify_skeleton, hskeleton, classify_skeleton]
  exact {
    text := h.text?_eq_of_render hrender
    shown := h.shown_eq_of_render hrender
    size := by rw [← size_skeleton, hskeleton, size_skeleton]
    depth := by rw [← depth_skeleton, hskeleton, depth_skeleton]
    complexity := fun β _ _ => by
      rw [← complexity_skeleton β e, hskeleton, complexity_skeleton]
    vars := by rw [← vars_skeleton, hskeleton, vars_skeleton]
    isConstant := by rw [← isConstant_skeleton, hskeleton, isConstant_skeleton]
    isPolynomial := by rw [isPolynomial, isPolynomial, hclassify]
    degree := by rw [degree, degree, hclassify]
    usage := by rw [← usage_skeleton, hskeleton, usage_skeleton]
    problems := h.problems_eq }

/-- Equality is an equivalence. Equal formulae have equal hashes as soon as equal numbers have, and
no query tells them apart. -/
theorem beq_equivalence_and_indistinguishable :
    Equivalence (fun e f : Formula ν Float => (e == f) = true) ∧
    ∀ e f : Formula ν Float, e == f →
      (∀ (name : ν → UInt64) (number : Float → UInt64),
        (∀ a b : Float, a == b → number a = number b) →
          e.hashWith name number = f.hashWith name number) ∧
      Indistinguishable e f := by
  refine ⟨⟨fun e => (Alike.refl e).beq, fun h => (alike_of_beq h).symm.beq, fun h h' =>
    ((alike_of_beq h).trans (alike_of_beq h')).beq⟩, fun e f h => ⟨?_, ?_⟩⟩
  · intro name number hnumber
    exact (alike_of_beq h).hashWith_eq hnumber
  · exact (alike_of_beq h).indistinguishable

def undefinedSum (z : Float) : Formula String Float :=
  binary .add (binary .mul (const z) (var "x")) (const (0.0 / 0.0))

theorem undefinedSum_indistinguishable : undefinedSum 0.0 == undefinedSum (-0.0) ∧
    (undefinedSum 0.0).hashWith Hashable.hash (fun a => (Literal.float a).hash) =
      (undefinedSum (-0.0)).hashWith Hashable.hash (fun a => (Literal.float a).hash) ∧
    Indistinguishable (undefinedSum 0.0) (undefinedSum (-0.0)) := by
  have h : undefinedSum 0.0 == undefinedSum (-0.0) := by decide +kernel
  obtain ⟨hhash, hqueries⟩ := (beq_equivalence_and_indistinguishable (ν := String)).2 _ _ h
  exact ⟨h, hhash _ _ fun _ _ => hash_congr, hqueries⟩

end Formula

end Formulae
