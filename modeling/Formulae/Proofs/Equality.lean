import Formulae.Formula.Equality
import Formulae.Formula.Render

/-! Equality of formulae, constructor by constructor. Equal formulae differ in nothing but the
constants of one value that stand in them. -/
namespace Formulae

section Constants

variable {α : Type} [Arithmetic α] {a b c : α}

theorem sameConstant_iff : sameConstant a b ↔ a == b ∨ (¬a == a ∧ ¬b == b) := by
  simp [sameConstant, Arithmetic.isUndefined]

theorem sameConstant_refl (a : α) : sameConstant a a := by
  rw [sameConstant_iff, and_self]
  exact Decidable.em _

variable [PartialEquivBEq α]

theorem sameConstant_symm (h : sameConstant a b) : sameConstant b a := by
  rw [sameConstant_iff] at h ⊢
  exact h.imp BEq.symm And.symm

theorem sameConstant_beq_left (h : sameConstant a b) (c : α) : (a == c) = (b == c) := by
  rcases sameConstant_iff.1 h with heq | ⟨ha, hb⟩
  · exact BEq.congr_left heq
  · have none_equal {a : α} (ha : ¬a == a) : (a == c) = false := by
      rw [Bool.eq_false_iff]
      exact fun hac => ha (BEq.trans hac (BEq.symm hac))
    rw [none_equal ha, none_equal hb]

theorem sameConstant_trans (h : sameConstant a b) (h' : sameConstant b c) : sameConstant a c := by
  rcases sameConstant_iff.1 h' with heq | ⟨hb, hc⟩
  · rw [sameConstant_iff, sameConstant_beq_left h]
    exact .inl heq
  · rcases sameConstant_iff.1 h with heq | ⟨ha, -⟩
    · exact absurd (BEq.trans (BEq.symm heq) heq) hb
    · exact sameConstant_iff.2 (.inr ⟨ha, hc⟩)

end Constants

namespace Formula

variable {ν α : Type} [BEq ν] [Arithmetic α]

/-- The same shape, with equal names and constants of the same values. -/
inductive Alike : Formula ν α → Formula ν α → Prop where
  | const {a b : α} (h : sameConstant a b) : Alike (const a) (const b)
  | var {x y : ν} (h : x == y) : Alike (var x) (var y)
  | sign (s : Sign) {e f : Formula ν α} (h : Alike e f) : Alike (sign s e) (sign s f)
  | binary (op : BinaryOp) {l r l' r' : Formula ν α} (hl : Alike l l') (hr : Alike r r') :
      Alike (binary op l r) (binary op l' r')
  | apply (f : Elementary) {e e' : Formula ν α} (h : Alike e e') : Alike (apply f e) (apply f e')

variable {e f g : Formula ν α}

theorem Alike.beq (h : Alike e f) : e == f := by
  induction h with
  | const h => exact h
  | var h => exact h
  | _ => simp [*]

theorem alike_of_beq (h : e == f) : Alike e f := by
  induction e generalizing f with
  | const a =>
    cases f with
    | const b => exact .const h
    | _ => cases h
  | var x =>
    cases f with
    | var y => exact .var h
    | _ => cases h
  | sign s e ih =>
    cases f with
    | sign t f =>
      simp only [sign_beq_sign, Bool.and_eq_true, decide_eq_true_eq] at h
      obtain ⟨rfl, h⟩ := h
      exact .sign s (ih h)
    | _ => cases h
  | binary op l r ihl ihr =>
    cases f with
    | binary op' l' r' =>
      simp only [binary_beq_binary, Bool.and_eq_true, decide_eq_true_eq] at h
      obtain ⟨rfl, hl, hr⟩ := h
      exact .binary op (ihl hl) (ihr hr)
    | _ => cases h
  | apply g e ih =>
    cases f with
    | apply g' e' =>
      simp only [apply_beq_apply, Bool.and_eq_true, decide_eq_true_eq] at h
      obtain ⟨rfl, h⟩ := h
      exact .apply g (ih h)
    | _ => cases h

theorem beq_iff_alike : e == f ↔ Alike e f := ⟨alike_of_beq, Alike.beq⟩

theorem Alike.size_eq (h : Alike e f) : e.size = f.size := by
  induction h with
  | const | var => rfl
  | sign s _ ih | apply f _ ih => rw [size, size, ih]
  | binary op _ _ ihl ihr => rw [size, size, ihl, ihr]

theorem Alike.refl [ReflBEq ν] (e : Formula ν α) : Alike e e := by
  induction e with
  | const a => exact .const (sameConstant_refl a)
  | var x => exact .var BEq.rfl
  | sign s e ih => exact .sign s ih
  | binary op l r ihl ihr => exact .binary op ihl ihr
  | apply f e ih => exact .apply f ih

section Equivalence

variable [PartialEquivBEq ν] [PartialEquivBEq α]

theorem Alike.symm (h : Alike e f) : Alike f e := by
  induction h with
  | const h => exact .const (sameConstant_symm h)
  | var h => exact .var (BEq.symm h)
  | sign s _ ih => exact .sign s ih
  | binary op _ _ ihl ihr => exact .binary op ihl ihr
  | apply f _ ih => exact .apply f ih

theorem Alike.trans (h : Alike e f) (h' : Alike f g) : Alike e g := by
  induction h generalizing g with
  | const h =>
    cases h' with
    | const h' => exact .const (sameConstant_trans h h')
  | var h =>
    cases h' with
    | var h' => exact .var (BEq.trans h h')
  | sign s _ ih =>
    cases h' with
    | sign _ h' => exact .sign s (ih h')
  | binary op _ _ ihl ihr =>
    cases h' with
    | binary _ hl' hr' => exact .binary op (ihl hl') (ihr hr')
  | apply f _ ih =>
    cases h' with
    | apply _ h' => exact .apply f (ih h')

theorem Alike.beq_congr {e' f' : Formula ν α} (he : Alike e e') (hf : Alike f f') :
    (e == f) = (e' == f') := by
  rw [Bool.eq_iff_iff, beq_iff_alike, beq_iff_alike]
  exact ⟨fun h => he.symm.trans (h.trans hf), fun h => he.trans (h.trans hf.symm)⟩

end Equivalence

section Texts

variable [LawfulBEq ν] [Naming ν] [Written α]

theorem Alike.render_eq_of_text
    (htext : ∀ {a b : α}, sameConstant a b → Number.text a = Number.text b) (h : Alike e f) :
    e.render = f.render := by
  induction h with
  | const h => exact congrArg Except.ok (htext h)
  | var h => exact congrArg Naming.label (eq_of_beq h)
  | sign s _ ih | apply g _ ih => rw [render, render, ih]
  | binary op _ _ ihl ihr => rw [render, render, ihl, ihr]

theorem Alike.shown_eq_of_render (h : Alike e f) (hrender : e.render = f.render) :
    e.shown = f.shown := by
  cases h with
  | var h => rw [eq_of_beq h]
  | _ => exact congrArg (Except.map Shown.text) hrender

theorem Alike.text?_eq_of_render (h : Alike e f) (hrender : e.render = f.render) :
    e.text? = f.text? := by
  cases h with
  | var h => rw [eq_of_beq h]
  | _ => exact congrArg (Except.mapError TextFault.value) hrender

end Texts

end Formula

end Formulae
