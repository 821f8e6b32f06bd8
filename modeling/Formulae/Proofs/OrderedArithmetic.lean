import Formulae.Number.Arithmetic

/-! Arithmetics in which the numbers that are defined stand in a row, and the least of a column
there: one of its numbers, below whatever bound any of them is below, unless a number is undefined;
then it is undefined too. -/
namespace Formulae
open Arithmetic

class OrderedArithmetic (α : Type) [Arithmetic α] : Prop where
  below_trans {a b c : α} : below a b → below b c → below a c
  /-- No defined number escapes to either side of a gap. -/
  below_or_below {a c : α} (b : α) : below a c → ¬isUndefined b → below a b ∨ below b c
  not_isUndefined_of_below {a b : α} : below a b → ¬isUndefined a

namespace Arithmetic

variable {α : Type} [Arithmetic α] {a b c : α} {as : List α}

/-- The lesser of two numbers, or the first of them that is undefined. -/
def lesser (a b : α) : α :=
  if isUndefined a then a else if isUndefined b then b else if below b a then b else a

theorem least_nil : least a [] = a := rfl

theorem least_cons : least a (b :: as) = least (lesser a b) as := rfl

theorem lesser_eq (a b : α) : lesser a b = a ∨ lesser a b = b := by
  unfold lesser
  split
  · exact .inl rfl
  · split
    · exact .inr rfl
    · split
      · exact .inr rfl
      · exact .inl rfl

theorem least_mem (a : α) (as : List α) : least a as ∈ a :: as := by
  induction as generalizing a with
  | nil => exact List.mem_cons_self
  | cons b bs ih =>
    rw [least_cons]
    rcases List.mem_cons.1 (ih (lesser a b)) with heq | hmem
    · rw [heq]
      rcases lesser_eq a b with hab | hab
      · rw [hab]
        exact List.mem_cons_self
      · rw [hab]
        exact List.mem_cons_of_mem a List.mem_cons_self
    · exact List.mem_cons_of_mem a (List.mem_cons_of_mem b hmem)

theorem least_headD_mem (h : b ∈ as) : least (as.headD 0) as ∈ as := by
  cases as with
  | nil => cases h
  | cons a as =>
    rw [List.headD_cons]
    rcases List.mem_cons.1 (least_mem a (a :: as)) with heq | hmem
    · rw [heq]
      exact List.mem_cons_self
    · exact hmem

theorem isUndefined_lesser_iff : isUndefined (lesser a b) ↔ isUndefined a ∨ isUndefined b := by
  unfold lesser
  by_cases ha : isUndefined a
  · simp [ha]
  · by_cases hb : isUndefined b
    · simp [ha, hb]
    · simp only [ha, hb, Bool.false_eq_true, if_false, or_self, iff_false]
      split
      · exact hb
      · exact ha

theorem isUndefined_least_iff :
    isUndefined (least a as) ↔ isUndefined a ∨ ∃ b ∈ as, isUndefined b := by
  induction as generalizing a with
  | nil => simp [least_nil]
  | cons b bs ih => simp [least_cons, ih, isUndefined_lesser_iff, or_assoc]

theorem isUndefined_least_headD_iff (h : b ∈ as) :
    isUndefined (least (as.headD 0) as) ↔ ∃ c ∈ as, isUndefined c := by
  cases as with
  | nil => cases h
  | cons a as => simp [isUndefined_least_iff]

variable [OrderedArithmetic α]
open OrderedArithmetic

theorem lesser_below (h : below a c ∨ below b c) :
    isUndefined (lesser a b) ∨ below (lesser a b) c := by
  unfold lesser
  split
  · rename_i ha
    exact .inl ha
  · rename_i ha
    split
    · rename_i hb
      exact .inl hb
    · split
      · rename_i hba
        rcases h with hac | hbc
        · exact .inr (below_trans hba hac)
        · exact .inr hbc
      · rename_i hba
        rcases h with hac | hbc
        · exact .inr hac
        · exact .inr ((below_or_below a hbc ha).resolve_left hba)

/-- A column with a number below a bound has its least number below it, unless that is undefined. -/
theorem least_below (h : below a c ∨ ∃ b ∈ as, below b c) :
    isUndefined (least a as) ∨ below (least a as) c := by
  induction as generalizing a with
  | nil =>
    rcases h with hac | ⟨b, hb, -⟩
    · exact .inr hac
    · cases hb
  | cons b bs ih =>
    rw [least_cons]
    by_cases hbc : below a c ∨ below b c
    · rcases lesser_below hbc with hundefined | hlesser
      · exact .inl (isUndefined_least_iff.2 (.inl hundefined))
      · exact ih (.inl hlesser)
    · obtain ⟨hac, hbc⟩ := not_or.1 hbc
      obtain ⟨d, hd, hdc⟩ := h.resolve_left hac
      rcases List.mem_cons.1 hd with rfl | hd
      · exact absurd hdc hbc
      · exact ih (.inr ⟨d, hd, hdc⟩)

end Arithmetic

end Formulae
