import Formulae.Proofs.FirstPass

/-! When simplification fails. The record of a rule shows the operands that the rule was applied to,
whatever the verbosity, and an operand may have no text: a variable on its own is shown by its name,
and a larger operand shows the names within it. This is the only way to fail: as long as no rule
meets such an operand, simplification returns. -/
namespace Formulae

variable {ν α : Type}

/-- The operands that stand on their own in the record of a rule. -/
def Rule.shown (l r : Formula ν α) : Rule α → List (Formula ν α)
  | .fold .. => []
  | .zeroAdd | .oneMul => [r]
  | .addZero | .cancel | .mulOne | .divOne => [l]
  | .absorb => [l, r]

/-- A rule applies to a simplified operation, and its record shows an operand without a text. -/
def Formula.Unreportable [Naming ν] [BEq ν] [Arithmetic α] (e : Formula ν α) (why : TextFault) :
    Prop :=
  ∃ op l r, .binary op l r ∈ e.depthFirst ∧ ∃ rule, Applies op l.pass r.pass rule ∧
    ∃ f ∈ rule.shown l.pass r.pass, f.Untold why

namespace Firing

section

variable [Naming ν] [Arithmetic α] [Written α] {w : Firing ν α} {why : TextFault}

theorem kept_eq_error_iff {law : String} {e : Formula ν α} :
    records.kept law e = .error why ↔ e.text? = .error why := by
  rw [records.kept]
  cases e.text? <;> simp [Except.map]

theorem exists_text?_of_records_eq_error (h : w.records = .error why) :
    ∃ e ∈ w.rule.shown w.left w.right, e.text? = .error why := by
  rcases w with ⟨rule, op, l, r⟩
  cases rule with
  | fold a b =>
    simp only [records] at h
    split at h <;> cases h
  | zeroAdd | oneMul => exact ⟨r, List.mem_singleton_self r, kept_eq_error_iff.1 h⟩
  | addZero | cancel | mulOne | divOne =>
    exact ⟨l, List.mem_singleton_self l, kept_eq_error_iff.1 h⟩
  | absorb =>
    rcases bind_eq_error.1 h with hl | ⟨s, -, hrest⟩
    · exact ⟨l, List.mem_cons_self, hl⟩
    · have hr := (bind_eq_error.1 hrest).resolve_right nofun
      exact ⟨r, List.mem_cons_of_mem l (List.mem_singleton_self r), hr⟩

theorem exists_records_eq_error {e : Formula ν α} (he : e ∈ w.rule.shown w.left w.right)
    (h : e.text? = .error why) : ∃ why', w.records = .error why' := by
  rcases w with ⟨rule, op, l, r⟩
  cases rule with
  | fold a b => cases he
  | zeroAdd | oneMul | addZero | cancel | mulOne | divOne =>
    cases List.mem_singleton.1 he
    exact ⟨why, kept_eq_error_iff.2 h⟩
  | absorb =>
    cases hl : l.text? with
    | error why' => exact ⟨why', bind_eq_error.2 (.inl hl)⟩
    | ok s =>
      have hr : e = r := by
        rcases List.mem_cons.1 he with rfl | hr
        · cases hl.symm.trans h
        · exact List.mem_singleton.1 hr
      exact ⟨why, bind_eq_error.2 (.inr ⟨s, hl, bind_eq_error.2 (.inl (hr ▸ h))⟩)⟩

end

theorem mem_firings_iff [BEq ν] [Arithmetic α] {e : Formula ν α} {w : Firing ν α} :
    w ∈ e.firings ↔ ∃ op l r rule, .binary op l r ∈ e.depthFirst ∧
      Formula.rule? op l.pass r.pass = some rule ∧ w = ⟨rule, op, l.pass, r.pass⟩ := by
  induction e with
  | const | var => simp [Formula.firings, Formula.depthFirst]
  | sign s e ih => simpa [Formula.firings, Formula.depthFirst] using ih
  | apply f e ih => simpa [Formula.firings, Formula.depthFirst] using ih
  | binary op l r ihl ihr =>
    simp only [Formula.firings, Formula.depthFirst, List.mem_append, List.mem_cons, ihl, ihr,
      Option.mem_toList, Option.map_eq_some_iff]
    constructor
    · rintro ((⟨op, l, r, rule, hl, h⟩ | ⟨op, l, r, rule, hr, h⟩) | ⟨rule, h, rfl⟩)
      · exact ⟨op, l, r, rule, .inr (.inl hl), h⟩
      · exact ⟨op, l, r, rule, .inr (.inr hr), h⟩
      · exact ⟨op, l, r, rule, .inl rfl, h, rfl⟩
    · rintro ⟨op, l, r, rule, heq | hl | hr, h, rfl⟩
      · cases heq
        exact .inr ⟨rule, h, rfl⟩
      · exact .inl (.inl ⟨op, l, r, rule, hl, h, rfl⟩)
      · exact .inl (.inr ⟨op, l, r, rule, hr, h, rfl⟩)

end Firing

namespace Formula

theorem Untold.ne_const [Naming ν] {e : Formula ν α} {why : TextFault} (h : e.Untold why) (a : α) :
    e ≠ const a := by
  rintro rfl
  cases h with
  | part _ hx => cases List.mem_singleton.1 hx

variable [Arithmetic α] {e l r : Formula ν α} {op : BinaryOp}

theorem isValue_of_ne_const (h : ∀ a, e ≠ const a) (a : α) : e.isValue a = false := by
  cases e with
  | const b => exact absurd rfl (h b)
  | _ => rfl

variable [BEq ν]

theorem rule?_of_left_ne_const (h : ∀ a, l ≠ const a) : rule? op l r = law? op l r := by
  cases l with
  | const a => exact absurd rfl (h a)
  | _ => rfl

theorem rule?_of_right_ne_const (h : ∀ a, r ≠ const a) : rule? op l r = law? op l r := by
  cases l with
  | const b =>
    cases r with
    | const a => exact absurd rfl (h a)
    | _ => rfl
  | _ => rfl

/-- If a rule that applies shows an operand that is no constant, so does the rule that fires. -/
theorem exists_rule?_of_applies {rule : Rule α} (h : Applies op l r rule)
    (he : e ∈ rule.shown l r) (hconst : ∀ a, e ≠ const a) :
    ∃ first, rule? op l r = some first ∧ e ∈ first.shown l r := by
  cases h with
  | fold => cases he
  | zeroAdd r h =>
    cases List.mem_singleton.1 he
    exact ⟨.zeroAdd, by simp [rule?_of_right_ne_const hconst, law?, h], he⟩
  | addZero l h | cancel h | divOne l h =>
    cases List.mem_singleton.1 he
    exact ⟨_, by simp [rule?_of_left_ne_const hconst, law?, isValue_of_ne_const hconst, h], he⟩
  | zeroMul r h =>
    obtain rfl : e = r := by simpa [Rule.shown, hconst] using he
    exact ⟨.absorb, by simp [rule?_of_right_ne_const hconst, law?, h], he⟩
  | mulZero l h =>
    obtain rfl : e = l := by simpa [Rule.shown, hconst] using he
    exact ⟨.absorb, by simp [rule?_of_left_ne_const hconst, law?, h], he⟩
  | @oneMul a r h =>
    cases List.mem_singleton.1 he
    -- Nothing keeps a number from being taken for both zero and one.
    by_cases hzero : (a == 0) = true
    · exact ⟨.absorb, by simp [rule?_of_right_ne_const hconst, law?, hzero],
        List.mem_cons_of_mem _ he⟩
    · exact ⟨.oneMul, by
        simp [rule?_of_right_ne_const hconst, law?, isValue_of_ne_const hconst, hzero, h], he⟩
  | @mulOne b l h =>
    cases List.mem_singleton.1 he
    by_cases hzero : (b == 0) = true
    · exact ⟨.absorb, by simp [rule?_of_left_ne_const hconst, law?, hzero], List.mem_cons_self⟩
    · exact ⟨.mulOne, by
        simp [rule?_of_left_ne_const hconst, law?, isValue_of_ne_const hconst, hzero, h], he⟩

variable [Naming ν] [Written α] {why : TextFault}

theorem unreportable_of_records {w : Firing ν α} (hw : w ∈ e.firings)
    (h : w.records = .error why) : e.Unreportable why := by
  obtain ⟨f, hf, htext⟩ := Firing.exists_text?_of_records_eq_error h
  obtain ⟨op, l, r, rule, hmem, hrule, rfl⟩ := Firing.mem_firings_iff.1 hw
  exact ⟨op, l, r, hmem, rule, applies_of_rule? hrule, f, hf, untold_of_text? htext⟩

theorem Unreportable.exists_records_eq_error (h : e.Unreportable why) :
    ∃ w ∈ e.firings, ∃ why', w.records = .error why' := by
  obtain ⟨op, l, r, hmem, rule, happlies, f, hf, huntold⟩ := h
  obtain ⟨first, hfirst, hshown⟩ := exists_rule?_of_applies happlies hf huntold.ne_const
  obtain ⟨why', htext⟩ := huntold.exists_text?_eq_error
  refine ⟨⟨first, op, l.pass, r.pass⟩, ?_, Firing.exists_records_eq_error hshown htext⟩
  exact Firing.mem_firings_iff.2 ⟨op, l, r, first, hmem, hfirst, rfl⟩

end Formula

namespace Expression

theorem reportAll_runIn (fired : List (Firing Name Float)) (j : Journal) :
    ((∀ w ∈ fired, ∃ rs, w.records = .ok rs) ∧
      ∃ j', (reportAll fired).runIn j = (.ok (), j')) ∨
    ∃ w ∈ fired, ∃ why j', w.records = .error why ∧
      (reportAll fired).runIn j = (.error (.text why), j') := by
  induction fired generalizing j with
  | nil => exact .inl ⟨by simp, j, rfl⟩
  | cons w fired ih =>
    cases hw : w.records with
    | error why =>
      refine .inr ⟨w, List.mem_cons_self, why, j, hw, ?_⟩
      simp only [reportAll, List.forM, hw]
      rfl
    | ok rs =>
      have hrun : (reportAll (w :: fired)).runIn j =
          (reportAll fired).runIn (rs.foldl (fun j r => j.emit r) j) := by
        rw [reportAll_cons hw, Logged.runIn_bind_of_ok (Logged.emitAll_emits rs j)]
      rw [hrun]
      rcases ih (rs.foldl (fun j r => j.emit r) j) with ⟨hall, hdone⟩ | ⟨v, hv, hfails⟩
      · exact .inl ⟨List.forall_mem_cons.2 ⟨⟨rs, hw⟩, hall⟩, hdone⟩
      · exact .inr ⟨v, List.mem_cons_of_mem w hv, hfails⟩

/-- Simplification returns what the first pass yields, unless a rule shows an operand without a
text: then it fails for want of such a text. Neither the limit matters nor the verbosity. -/
theorem simplified_returns_or_untold (e : Expression) {m : Int} (hm : 1 ≤ m) (j : Journal) :
    ((∀ why, ¬e.Unreportable why) → ∃ j', (simplified (.int m) e).runIn j = (.ok e.pass, j')) ∧
    ((∃ why, e.Unreportable why) → ∃ why j', e.Unreportable why ∧
      (simplified (.int m) e).runIn j = (.error (.text why), j')) := by
  rcases reportAll_runIn e.firings j with ⟨hall, j', hdone⟩ | ⟨w, hw, why, j', hwhy, hfails⟩
  · refine ⟨fun _ => ⟨j', simplified_int hm e hdone⟩, ?_⟩
    rintro ⟨why, hwhy⟩
    obtain ⟨w, hw, why', herror⟩ := hwhy.exists_records_eq_error
    obtain ⟨rs, hok⟩ := hall w hw
    rw [hok] at herror
    cases herror
  · have huntold : e.Unreportable why := Formula.unreportable_of_records hw hwhy
    refine ⟨fun hnone => absurd huntold (hnone why), fun _ => ⟨why, j', huntold, ?_⟩⟩
    rw [simplified, passLimit_int hm]
    simp only [Formula.simplification_eq]
    exact Logged.runIn_bind_of_error hfails

def five : Expression := .var (.value (.int 5) 0)

def namedSum : Expression := .binary .mul (.binary .add five (.var (.text "y"))) (.const 1)

def namedProduct : Expression := .binary .div (.const 1) (.binary .mul (.const 0) five)

def longSum : Expression :=
  .binary .mul (.binary .add (.var (.value (.int digitBound) 0)) (.var (.text "y"))) (.const 1)

theorem pass_sum (x y : Name) :
    Formula.pass (.binary .add (.var x) (.var y) : Expression) =
      .binary .add (.var x) (.var y) := by
  rfl

theorem five_lt_digitBound : (5 : Int).natAbs < digitBound := by decide +kernel

theorem label_digitBound :
    Naming.label (Name.value (.int digitBound) 0) = .error .tooManyDigits :=
  (Name.failsWhen_label (.value (.int digitBound) 0) .tooManyDigits).2
    ⟨Literal.overlong_digitBound, rfl⟩

theorem not_unreportable_namedSum (why : TextFault) : ¬namedSum.Unreportable why := by
  rintro ⟨op, l, r, hmem, rule, happlies, f, hf, huntold⟩
  have hnode : .binary op l r = namedSum ∨
      .binary op l r = (.binary .add five (.var (.text "y")) : Expression) := by
    simpa [namedSum, five, Formula.depthFirst] using hmem
  rcases hnode with heq | heq
  · cases heq
    cases happlies with
    | mulZero l h => cases h
    | mulOne l h =>
      cases List.mem_singleton.1 hf
      cases huntold with
      | @part _ x _ _ hx hlabel =>
        rw [five, pass_sum] at hx
        have hx : x = .value (.int 5) 0 ∨ x = .text "y" := by
          simpa [Formula.depthFirst] using hx
        obtain ⟨hlong, -⟩ := (Name.failsWhen_label x _).1 hlabel
        rcases hx with rfl | rfl
        · cases hlong with
          | int hle => exact Nat.not_le.2 five_lt_digitBound hle
        · cases hlong
  · cases heq
    cases happlies

theorem unreportable_namedProduct : namedProduct.Unreportable (.odd ⟨"int", "int"⟩) := by
  refine ⟨.mul, .const 0, five, by simp [namedProduct, Formula.depthFirst], .absorb, ?_⟩
  refine ⟨.zeroMul five (by decide), five, ?_, .odd rfl⟩
  exact List.mem_cons_of_mem _ (List.mem_singleton_self _)

theorem unreportable_longSum : longSum.Unreportable (.value .tooManyDigits) := by
  refine ⟨.mul, _, .const 1, List.mem_cons_self, .mulOne, .mulOne _ (by decide), _,
    List.mem_singleton_self _, ?_⟩
  rw [pass_sum]
  exact .part (fun y h => by cases h) (List.mem_cons_of_mem _ List.mem_cons_self) label_digitBound

/-- A name that is no text can be shown as a part of an operand, not as an operand; one with too many
digits in neither way. -/
theorem namedSum_and_namedProduct_simplified : (1 : Int) ≤ 3 ∧
    (∀ why, ¬namedSum.Unreportable why) ∧
    (∃ j', (simplified (.int 3) namedSum).runIn .initial = (.ok namedSum.pass, j')) ∧
    (∃ why, namedProduct.Unreportable why) ∧
    (∃ why j', namedProduct.Unreportable why ∧
      (simplified (.int 3) namedProduct).runIn .initial = (.error (.text why), j')) ∧
    (∃ why, longSum.Unreportable why) ∧
    ∃ why j', longSum.Unreportable why ∧
      (simplified (.int 3) longSum).runIn .initial = (.error (.text why), j') := by
  have hm : (1 : Int) ≤ 3 := by decide
  have hproduct : ∃ why, namedProduct.Unreportable why := ⟨_, unreportable_namedProduct⟩
  have hlong : ∃ why, longSum.Unreportable why := ⟨_, unreportable_longSum⟩
  refine ⟨hm, not_unreportable_namedSum, ?_, hproduct, ?_, hlong, ?_⟩
  · exact (simplified_returns_or_untold namedSum hm .initial).1 not_unreportable_namedSum
  · exact (simplified_returns_or_untold namedProduct hm .initial).2 hproduct
  · exact (simplified_returns_or_untold longSum hm .initial).2 hlong

def shiftedName : Expression := .apply .sin (.binary .add (.const 0) five)

theorem simplified_shiftedName_fails :
    (simplified (.int 8) shiftedName).runIn .initial =
      (.error (.text (.odd ⟨"int", "int"⟩)), .initial) := by
  rfl

end Expression

end Formulae
