import Formulae.Formula.Simplify
import Formulae.Formula.Traversal

/-! What simplification leaves. A redex is a plus sign or an operation to which a rule applies. One
pass leaves no redex at any depth, and a formula without one is left as it is; so the first pass is
the last that changes anything, and the limit does not matter. -/
namespace Formulae

/-- When a rule applies to an operation, whichever rules come before it. -/
inductive Applies {ν α : Type} [Arithmetic α] [BEq ν] :
    BinaryOp → Formula ν α → Formula ν α → Rule α → Prop where
  | fold (op : BinaryOp) (a b : α) : Applies op (.const a) (.const b) (.fold a b)
  | zeroAdd {a : α} (r : Formula ν α) (h : (a == 0) = true) : Applies .add (.const a) r .zeroAdd
  | addZero {b : α} (l : Formula ν α) (h : (b == 0) = true) : Applies .add l (.const b) .addZero
  | cancel {l r : Formula ν α} (h : (l == r) = true) : Applies .sub l r .cancel
  | zeroMul {a : α} (r : Formula ν α) (h : (a == 0) = true) : Applies .mul (.const a) r .absorb
  | mulZero {b : α} (l : Formula ν α) (h : (b == 0) = true) : Applies .mul l (.const b) .absorb
  | oneMul {a : α} (r : Formula ν α) (h : (a == 1) = true) : Applies .mul (.const a) r .oneMul
  | mulOne {b : α} (l : Formula ν α) (h : (b == 1) = true) : Applies .mul l (.const b) .mulOne
  | divOne {b : α} (l : Formula ν α) (h : (b == 1) = true) : Applies .div l (.const b) .divOne

namespace Formula

variable {ν α : Type} [Arithmetic α] [BEq ν]

inductive Redex : Formula ν α → Prop where
  | plus (e : Formula ν α) : Redex (sign .plus e)
  | operation {op : BinaryOp} {l r : Formula ν α} {rule : Rule α} (h : Applies op l r rule) :
      Redex (binary op l r)

def RedexFree (e : Formula ν α) : Prop := ∀ n ∈ e.depthFirst, ¬Redex n

omit [BEq ν] in
@[simp] theorem isValue_const (a b : α) : (const b : Formula ν α).isValue a = (b == a) := rfl

omit [BEq ν] in
theorem isValue_eq_true {a : α} {e : Formula ν α} (h : e.isValue a = true) :
    ∃ b, e = const b ∧ (b == a) = true := by
  cases e with
  | const b => exact ⟨b, rfl, h⟩
  | _ => cases h

theorem applies_of_fold? {op : BinaryOp} {l r : Formula ν α} {rule : Rule α}
    (h : fold? l r = some rule) : Applies op l r rule := by
  unfold fold? at h
  split at h
  · cases h
    exact .fold op _ _
  · cases h

theorem applies_of_law? {op : BinaryOp} {l r : Formula ν α} {rule : Rule α}
    (h : law? op l r = some rule) : Applies op l r rule := by
  cases op with
  | add =>
    simp only [law?] at h
    split at h
    · rename_i hl
      obtain ⟨a, rfl, ha⟩ := isValue_eq_true hl
      cases h
      exact .zeroAdd r ha
    · split at h
      · rename_i hr
        obtain ⟨b, rfl, hb⟩ := isValue_eq_true hr
        cases h
        exact .addZero l hb
      · cases h
  | sub =>
    simp only [law?] at h
    split at h
    · rename_i hlr
      cases h
      exact .cancel hlr
    · cases h
  | mul =>
    simp only [law?] at h
    split at h
    · rename_i hzero
      cases h
      rcases Bool.or_eq_true_iff.1 hzero with hl | hr
      · obtain ⟨a, rfl, ha⟩ := isValue_eq_true hl
        exact .zeroMul r ha
      · obtain ⟨b, rfl, hb⟩ := isValue_eq_true hr
        exact .mulZero l hb
    · split at h
      · rename_i hl
        obtain ⟨a, rfl, ha⟩ := isValue_eq_true hl
        cases h
        exact .oneMul r ha
      · split at h
        · rename_i hr
          obtain ⟨b, rfl, hb⟩ := isValue_eq_true hr
          cases h
          exact .mulOne l hb
        · cases h
  | div =>
    simp only [law?] at h
    split at h
    · rename_i hr
      obtain ⟨b, rfl, hb⟩ := isValue_eq_true hr
      cases h
      exact .divOne l hb
    · cases h

theorem applies_of_rule? {op : BinaryOp} {l r : Formula ν α} {rule : Rule α}
    (h : rule? op l r = some rule) : Applies op l r rule := by
  unfold rule? at h
  cases hfold : fold? l r with
  | some first =>
    rw [hfold] at h
    cases h
    exact applies_of_fold? hfold
  | none =>
    rw [hfold] at h
    exact applies_of_law? h

theorem rule?_isSome_of_law? {op : BinaryOp} {l r : Formula ν α} (h : (law? op l r).isSome) :
    (rule? op l r).isSome := by
  unfold rule?
  cases fold? l r with
  | some first => rfl
  | none => exact h

/-- Where a rule applies one is found, though perhaps an earlier one. -/
theorem rule?_isSome {op : BinaryOp} {l r : Formula ν α} {rule : Rule α}
    (h : Applies op l r rule) : (rule? op l r).isSome := by
  cases h with
  | fold => rfl
  | zeroAdd r h =>
    apply rule?_isSome_of_law?
    simp [law?, h]
  | addZero l h =>
    apply rule?_isSome_of_law?
    simp only [law?, isValue_const, h, if_true]
    split <;> rfl
  | cancel h =>
    apply rule?_isSome_of_law?
    simp [law?, h]
  | zeroMul r h | mulZero l h =>
    apply rule?_isSome_of_law?
    simp [law?, h]
  | oneMul r h =>
    apply rule?_isSome_of_law?
    simp only [law?, isValue_const, h, if_true]
    split <;> rfl
  | mulOne l h =>
    apply rule?_isSome_of_law?
    simp only [law?, isValue_const, h, if_true]
    split
    · rfl
    · split <;> rfl
  | divOne l h =>
    apply rule?_isSome_of_law?
    simp [law?, h]

/-- What an operation on simplified operands becomes: the outcome of a rule that applies, or the
operation itself, and then it is no redex. -/
theorem combine_cases (op : BinaryOp) (l r : Formula ν α) :
    (∃ rule, Applies op l r rule ∧ combine op l r = outcome op l r rule) ∨
      (¬Redex (binary op l r) ∧ combine op l r = binary op l r) := by
  unfold combine
  cases h : rule? op l r with
  | some rule => exact .inl ⟨rule, applies_of_rule? h, rfl⟩
  | none =>
    refine .inr ⟨?_, rfl⟩
    rintro (_ | happlies)
    have hsome := rule?_isSome happlies
    rw [h] at hsome
    cases hsome

theorem combine_of_not_redex {op : BinaryOp} {l r : Formula ν α} (h : ¬Redex (binary op l r)) :
    combine op l r = binary op l r := by
  rcases combine_cases op l r with ⟨rule, happlies, -⟩ | ⟨-, heq⟩
  · exact absurd (.operation happlies) h
  · exact heq

@[simp] theorem redexFree_const (a : α) : (const a : Formula ν α).RedexFree := by
  intro n hn hredex
  cases List.mem_singleton.1 hn
  cases hredex

@[simp] theorem redexFree_var (x : ν) : (var x : Formula ν α).RedexFree := by
  intro n hn hredex
  cases List.mem_singleton.1 hn
  cases hredex

theorem redexFree_sign {s : Sign} {e : Formula ν α} :
    (sign s e).RedexFree ↔ s = .minus ∧ e.RedexFree := by
  simp only [RedexFree, depthFirst, List.forall_mem_cons]
  refine and_congr_left fun _ => ⟨?_, ?_⟩
  · intro h
    cases s with
    | plus => exact absurd (.plus e) h
    | minus => rfl
  · rintro rfl hredex
    cases hredex

theorem redexFree_apply {f : Elementary} {e : Formula ν α} :
    (apply f e).RedexFree ↔ e.RedexFree := by
  simp only [RedexFree, depthFirst, List.forall_mem_cons]
  refine and_iff_right ?_
  intro hredex
  cases hredex

theorem redexFree_binary {op : BinaryOp} {l r : Formula ν α} :
    (binary op l r).RedexFree ↔ ¬Redex (binary op l r) ∧ l.RedexFree ∧ r.RedexFree := by
  simp only [RedexFree, depthFirst, List.forall_mem_cons, List.forall_mem_append]

theorem combine_redexFree {op : BinaryOp} {l r : Formula ν α} (hl : l.RedexFree)
    (hr : r.RedexFree) : (combine op l r).RedexFree := by
  rcases combine_cases op l r with ⟨rule, happlies, heq⟩ | ⟨hnot, heq⟩
  · rw [heq]
    cases happlies with
    | fold | cancel | zeroMul | mulZero => exact redexFree_const _
    | zeroAdd | oneMul => exact hr
    | addZero | mulOne | divOne => exact hl
  · rw [heq]
    exact redexFree_binary.2 ⟨hnot, hl, hr⟩

/-- One pass leaves no redex: whatever a rule returns is an operand, which has none, or a
constant. -/
theorem pass_redexFree (e : Formula ν α) : e.pass.RedexFree := by
  induction e with
  | const a => exact redexFree_const a
  | var x => exact redexFree_var x
  | sign s e ih =>
    cases s with
    | plus => exact ih
    | minus => exact redexFree_sign.2 ⟨rfl, ih⟩
  | binary op l r ihl ihr => exact combine_redexFree ihl ihr
  | apply f e ih => exact redexFree_apply.2 ih

theorem pass_of_redexFree {e : Formula ν α} (h : e.RedexFree) : e.pass = e := by
  induction e with
  | const a => rfl
  | var x => rfl
  | sign s e ih =>
    obtain ⟨rfl, he⟩ := redexFree_sign.1 h
    rw [pass, ih he]
  | binary op l r ihl ihr =>
    obtain ⟨hnot, hl, hr⟩ := redexFree_binary.1 h
    rw [pass, ihl hl, ihr hr, combine_of_not_redex hnot]
  | apply f e ih => rw [pass, ih (redexFree_apply.1 h)]

theorem pass_pass (e : Formula ν α) : e.pass.pass = e.pass := pass_of_redexFree (pass_redexFree e)

theorem rule?_of_not_redex {op : BinaryOp} {l r : Formula ν α} (h : ¬Redex (binary op l r)) :
    rule? op l r = none := by
  cases hrule : rule? op l r with
  | none => rfl
  | some rule => exact absurd (.operation (applies_of_rule? hrule)) h

theorem firings_of_redexFree {e : Formula ν α} (h : e.RedexFree) : e.firings = [] := by
  induction e with
  | const a => rfl
  | var x => rfl
  | sign s e ih => exact ih (redexFree_sign.1 h).2
  | apply f e ih => exact ih (redexFree_apply.1 h)
  | binary op l r ihl ihr =>
    obtain ⟨hnot, hl, hr⟩ := redexFree_binary.1 h
    rw [firings, ihl hl, ihr hr, pass_of_redexFree hl, pass_of_redexFree hr, rule?_of_not_redex hnot]
    rfl

theorem settle_of_redexFree (n : Nat) {e : Formula ν α} (h : e.RedexFree) :
    settle n e = ⟨e, []⟩ := by
  induction n with
  | zero => rfl
  | succ n ih =>
    rw [settle, pass_of_redexFree h, firings_of_redexFree h, ih]
    split <;> rfl

theorem simplification_eq (limit : Nat) (e : Formula ν α) :
    e.simplification limit = ⟨e.pass, e.firings⟩ := by
  rw [simplification, settle_of_redexFree _ (pass_redexFree e), List.append_nil]

theorem simplify_eq_pass (e : Formula ν α) (limit : Nat) : e.simplify limit = e.pass := by
  rw [simplify, simplification_eq]

/-- Simplification leaves no redex, and changes nothing only where there is none. -/
theorem simplify_redexFree_and_eq_self_iff (e : Formula ν α) (limit : Nat) :
    (e.simplify limit).RedexFree ∧ (e.simplify limit = e ↔ e.RedexFree) := by
  rw [simplify_eq_pass]
  refine ⟨pass_redexFree e, ?_, pass_of_redexFree⟩
  intro heq
  rw [← heq]
  exact pass_redexFree e

end Formula

end Formulae
