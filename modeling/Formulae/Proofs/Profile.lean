import Formulae.Formula.Traversal
import Formulae.Proofs.Degree
import Formulae.Proofs.LevelOrder
import Formulae.Proofs.Variables

/-! How the answers about one formula fit together. A polynomial has a degree and nothing else has;
the degree is zero for constants only, and no larger than the number of times that variables are
written. -/
namespace Formulae.Formula

variable {ν α : Type} {e l r : Formula ν α} {n : Nat} {op : BinaryOp}

def occurrences (e : Formula ν α) : List ν := e.depthFirst.filterMap name?

theorem occurrences_binary : (binary op l r).occurrences = l.occurrences ++ r.occurrences :=
  List.filterMap_append

theorem names_eq_filterMap (e : Formula ν α) : e.names = e.breadthFirst.filterMap name? := by
  rw [names, ofKind, List.filterMap_filter]
  congr
  funext n
  cases n <;> rfl

theorem names_perm (e : Formula ν α) : e.names.Perm e.occurrences := by
  rw [names_eq_filterMap]
  exact e.breadthFirst_perm.filterMap name?

/-- Every unit of the degree is a place where a variable is written. -/
theorem HasDegree.le_length_occurrences (h : HasDegree e n) : n ≤ e.occurrences.length := by
  induction h with
  | const | var => exact Nat.le_refl _
  | sign s _ ih => exact ih
  | @sqrt e n _ ih =>
    change n ≤ e.occurrences.length
    omega
  | add _ _ ihl ihr | sub _ _ ihl ihr | mul _ _ ihl ihr =>
    rw [occurrences_binary, List.length_append]
    omega
  | div _ _ _ ihl _ =>
    rw [occurrences_binary, List.length_append]
    omega

theorem degree_of_not_isPolynomial (h : ¬e.isPolynomial) : e.degree = -1 := by
  rw [degree, classify_of_not_isPolynomial h]
  rfl

theorem profile_eq_queries [BEq ν] (e : Formula ν α) :
    e.profile = ⟨e.vars, e.isConstant, e.isPolynomial, e.degree⟩ := by
  have hconstant : e.vars.isEmpty = e.isConstant := by
    rw [Bool.eq_iff_iff, List.isEmpty_iff, isConstant_iff]
  rw [profile, hconstant]
  rfl

/-- What is found out about a formula fits together. It is a polynomial when its degree is not
negative, and else the degree is `-1`; the degree is zero for the constants among the polynomials,
and never larger than the number of variables that are looked up; and the profile, which takes a
formula without variables for constant, has the answers of the single queries. -/
theorem degree_iff_and_profile_eq [BEq ν] (e : Formula ν α) :
    (e.isPolynomial ↔ 0 ≤ e.degree) ∧
    (¬e.isPolynomial ↔ e.degree = -1) ∧
    (e.degree = 0 ↔ e.isPolynomial ∧ e.isConstant) ∧
    e.degree ≤ e.names.length ∧
    e.profile = ⟨e.vars, e.isConstant, e.isPolynomial, e.degree⟩ := by
  rw [profile_eq_queries]
  by_cases h : e.isPolynomial
  · obtain ⟨n, hn, hdegree⟩ := exists_hasDegree h
    have hoccurrences := hdegree.le_length_occurrences
    rw [← e.names_perm.length_eq] at hoccurrences
    have hzero : (n : Int) = 0 ↔ e.isPolynomial ∧ e.isConstant := by
      rw [← hdegree.eq_zero_iff, and_iff_right h, Int.natCast_eq_zero]
    rw [hn]
    refine ⟨iff_of_true h ?_, iff_of_false (not_not_intro h) ?_, hzero, ?_, rfl⟩
    · exact Int.natCast_nonneg n
    · omega
    · exact Int.ofNat_le.2 hoccurrences
  · rw [degree_of_not_isPolynomial h]
    refine ⟨iff_of_false h ?_, iff_of_true h rfl, iff_of_false ?_ ?_, ?_, rfl⟩
    · decide
    · decide
    · exact fun hboth => h hboth.1
    · omega

end Formulae.Formula
