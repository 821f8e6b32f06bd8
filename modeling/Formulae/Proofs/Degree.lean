import Formulae.Formula.Analysis

/-! The rules by which a formula is a polynomial of some degree, one for each way of building it.
They derive exactly what the structural query finds, and where they derive nothing it answers that
there is no polynomial. -/
namespace Formulae.Formula

variable {ν α : Type} {e l r : Formula ν α} {m n : Nat}

inductive HasDegree : Formula ν α → Nat → Prop where
  | const (a : α) : HasDegree (const a) 0
  | var (x : ν) : HasDegree (var x) 1
  | sign (s : Sign) {e : Formula ν α} {n : Nat} (h : HasDegree e n) : HasDegree (sign s e) n
  /-- The root halves an even degree; of an odd one it is no polynomial. -/
  | sqrt {e : Formula ν α} {n : Nat} (h : HasDegree e (2 * n)) : HasDegree (apply .sqrt e) n
  | add {l r : Formula ν α} {m n : Nat} (hl : HasDegree l m) (hr : HasDegree r n) :
      HasDegree (binary .add l r) (max m n)
  | sub {l r : Formula ν α} {m n : Nat} (hl : HasDegree l m) (hr : HasDegree r n) :
      HasDegree (binary .sub l r) (max m n)
  | mul {l r : Formula ν α} {m n : Nat} (hl : HasDegree l m) (hr : HasDegree r n) :
      HasDegree (binary .mul l r) (m + n)
  | div {l r : Formula ν α} {m n : Nat} (hl : HasDegree l m) (hr : HasDegree r n)
      (hconstant : r.isConstant) : HasDegree (binary .div l r) m

theorem HasDegree.classify_eq (h : HasDegree e n) : e.classify = (true, (n : Int)) := by
  induction h with
  | const | var => rfl
  | sign s _ ih => exact ih
  | @sqrt e n _ ih =>
    have heven : (2 * n : Int) % 2 = 0 := Int.mul_emod_right 2 n
    have hhalf : (2 * n : Int) / 2 = n := Int.mul_ediv_cancel_left n (by decide)
    simp [classify, ih, heven, hhalf]
  | add _ _ ihl ihr | sub _ _ ihl ihr =>
    simp only [classify, ihl, ihr, Bool.and_self, Bool.not_true]
    exact congrArg (Prod.mk true) (by omega)
  | mul _ _ ihl ihr => simp [classify, ihl, ihr]
  | div _ _ hconstant ihl ihr => simp [classify, ihl, ihr, hconstant]

theorem exists_hasDegree_or_classify_eq (e : Formula ν α) :
    (∃ n, HasDegree e n) ∨ e.classify = notPolynomial := by
  induction e with
  | const a => exact .inl ⟨0, .const a⟩
  | var x => exact .inl ⟨1, .var x⟩
  | sign s e ih => exact ih.imp_left fun ⟨n, hn⟩ => ⟨n, .sign s hn⟩
  | apply f e ih =>
    cases f with
    | sqrt =>
      rcases ih with ⟨n, hn⟩ | hnone
      · obtain ⟨k, rfl | rfl⟩ : ∃ k, n = 2 * k ∨ n = 2 * k + 1 := ⟨n / 2, by omega⟩
        · exact .inl ⟨k, .sqrt hn⟩
        · have hodd : ((2 * k + 1 : Nat) : Int) % 2 = 1 := by omega
          exact .inr (by simp only [classify, hn.classify_eq, hodd]; rfl)
      · exact .inr (by simp [classify, hnone, notPolynomial])
    | sin | cos | tan | cot => exact .inr rfl
  | binary op l r ihl ihr =>
    rcases ihl with ⟨m, hm⟩ | hnone
    · rcases ihr with ⟨n, hn⟩ | hnone
      · cases op with
        | add => exact .inl ⟨_, .add hm hn⟩
        | sub => exact .inl ⟨_, .sub hm hn⟩
        | mul => exact .inl ⟨_, .mul hm hn⟩
        | div =>
          by_cases hconstant : r.isConstant
          · exact .inl ⟨m, .div hm hn hconstant⟩
          · exact .inr (by simp [classify, hm.classify_eq, hn.classify_eq, hconstant])
      · exact .inr (by simp [classify, hnone, notPolynomial])
    · exact .inr (by simp [classify, hnone, notPolynomial])

theorem classify_of_not_isPolynomial (h : ¬e.isPolynomial) : e.classify = notPolynomial := by
  refine (exists_hasDegree_or_classify_eq e).resolve_left ?_
  rintro ⟨n, hn⟩
  exact h (by rw [isPolynomial, hn.classify_eq])

theorem exists_hasDegree (h : e.isPolynomial) : ∃ n : Nat, e.degree = n ∧ HasDegree e n := by
  rcases exists_hasDegree_or_classify_eq e with ⟨n, hn⟩ | hnone
  · exact ⟨n, by rw [degree, hn.classify_eq], hn⟩
  · rw [isPolynomial, hnone] at h
    cases h

theorem HasDegree.eq_zero_iff (h : HasDegree e n) : n = 0 ↔ e.isConstant := by
  induction h with
  | const a => simp [isConstant]
  | var x => simp [isConstant]
  | sign s _ ih => exact ih
  | sqrt _ ih =>
    rw [isConstant, ← ih]
    omega
  | add _ _ ihl ihr | sub _ _ ihl ihr | mul _ _ ihl ihr =>
    rw [isConstant, Bool.and_eq_true, ← ihl, ← ihr]
    omega
  | div _ _ hconstant ihl _ =>
    rw [isConstant, Bool.and_eq_true, ← ihl]
    exact (and_iff_left hconstant).symm

end Formulae.Formula
