import Formulae.Proofs.Lookup
import Formulae.Proofs.Profile

/-! Which variables a formula has, and how often it uses each. The structural query, the look-up
through the queue and the table of uses find the variables that the depth-first listing shows. -/
namespace Formulae.Formula

variable {ν α : Type} {e : Formula ν α} {x : ν}

theorem mem_occurrences : x ∈ e.occurrences ↔ var x ∈ e.depthFirst := by
  rw [occurrences, List.mem_filterMap]
  refine ⟨?_, fun h => ⟨var x, h, rfl⟩⟩
  rintro ⟨n, hn, hname⟩
  cases n with
  | var y =>
    cases hname
    exact hn
  | const | sign | binary | apply => cases hname

theorem mem_names : x ∈ e.names ↔ var x ∈ e.depthFirst :=
  e.names_perm.mem_iff.trans mem_occurrences

section

variable [BEq ν]

theorem map_fst_usage (e : Formula ν α) : e.usage.map Prod.fst = distinct e.names := by
  simp [usage, Function.comp_def]

theorem map_snd_usage (e : Formula ν α) :
    e.usage.map Prod.snd = (distinct e.names).map fun x => e.names.count x :=
  List.map_map

variable [LawfulBEq ν]

theorem sum_count_distinct (xs : List ν) :
    ((distinct xs).map fun x => xs.count x).sum = xs.length := by
  have hmem : ∀ x ∈ xs, id x ∈ distinct xs := fun x hx => mem_distinct.2 hx
  have hclasses := (perm_flatMap_filter (nodup_distinct xs) hmem).length_eq
  rw [List.length_flatMap] at hclasses
  simp only [List.count_eq_countP, List.countP_eq_length_filter]
  exact hclasses

theorem mem_usage {n : Nat} : (x, n) ∈ e.usage ↔ 0 < n ∧ n = e.occurrences.count x := by
  rw [← e.names_perm.count_eq, usage, List.mem_map]
  constructor
  · rintro ⟨y, hy, hpair⟩
    cases hpair
    exact ⟨List.count_pos_iff.2 (mem_distinct.1 hy), rfl⟩
  · rintro ⟨hpos, rfl⟩
    exact ⟨x, mem_distinct.2 (List.count_pos_iff.1 hpos), rfl⟩

/-- The variables of a formula are the same, whether they are asked for, looked up, read off the
table of uses or off the depth-first listing; and the formula is constant when there are none. The
table has each of them once, with the number of times that the depth-first listing shows it, and
these numbers add up to the number of variables that are looked up. -/
theorem vars_agree_and_usage_counts (e : Formula ν α) :
    (∀ x, (x ∈ e.vars ↔ var x ∈ e.depthFirst) ∧ (x ∈ e.names ↔ var x ∈ e.depthFirst) ∧
      (x ∈ e.usage.map Prod.fst ↔ var x ∈ e.depthFirst)) ∧
    e.vars.Nodup ∧ (e.usage.map Prod.fst).Nodup ∧
    (e.isConstant ↔ e.vars = []) ∧
    (∀ x n, (x, n) ∈ e.usage ↔ 0 < n ∧ n = e.occurrences.count x) ∧
    (e.usage.map Prod.snd).sum = e.names.length := by
  refine ⟨fun x => ⟨mem_vars_iff, mem_names, ?_⟩, e.nodup_vars, ?_, isConstant_iff,
    fun x n => mem_usage, ?_⟩
  · rw [map_fst_usage, mem_distinct, mem_names]
  · rw [map_fst_usage]
    exact nodup_distinct _
  · rw [map_snd_usage, sum_count_distinct]

end

def twiceUsed : Formula String Float :=
  binary .mul (var "x")
    (binary .add (var "y") (apply .sin (binary .sub (const 3.0) (var "x"))))

theorem twiceUsed_usage :
    "x" ∈ twiceUsed.vars ∧ ¬twiceUsed.isConstant ∧ ("x", 2) ∈ twiceUsed.usage ∧
      ("y", 1) ∈ twiceUsed.usage ∧ (twiceUsed.usage.map Prod.snd).sum = 3 := by
  obtain ⟨hvars, -, -, hconstant, hcounts, hsum⟩ := vars_agree_and_usage_counts twiceUsed
  have hx : "x" ∈ twiceUsed.vars := (hvars "x").1.2 (mem_occurrences.1 (by decide))
  have hlength : twiceUsed.names.length = 3 := by
    rw [twiceUsed.names_perm.length_eq]
    rfl
  refine ⟨hx, fun h => List.ne_nil_of_mem hx (hconstant.1 h), (hcounts "x" 2).2 ?_,
    (hcounts "y" 1).2 ?_, hsum.trans hlength⟩
  · decide
  · decide

end Formulae.Formula
