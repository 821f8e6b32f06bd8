import Formulae.Proofs.Double.Overflow
import Formulae.Proofs.Fault
import Formulae.Proofs.NonFinite

/-! What validation under bindings finds out. It is exact: an expression is valid when its constants
are finite, its names are identifiers and it evaluates to a finite number. There are two ways in which
it fails instead. A name that is no identifier is shown, and one with too many digits cannot be; and
evaluation makes a double of every value that it reads, which may be beyond all doubles. -/
namespace Formulae

namespace Name

theorem isIdentifier_iff {x : Name} :
    Naming.isIdentifier x ↔ ∃ s, x = text s ∧ Text.isIdentifier s := by
  cases x with
  | text s => simp [Naming.isIdentifier]
  | value v mark => simp [Naming.isIdentifier]

theorem not_isIdentifier_of_overlong {x : Name} (h : x.toLiteral.Overlong) :
    ¬Naming.isIdentifier x := by
  cases x with
  | text s => cases h
  | value v mark => exact Bool.false_ne_true

end Name

theorem Bindings.environment_eq_unusable_iff {b : Bindings} {s : String} {why : ValueFault} :
    b.environment (.text s) = .unusable why ↔
      ∃ v, b.lookup s = some v ∧ v.toFloat = .error why := by
  rw [environment]
  cases b.lookup s with
  | none => simp
  | some v => cases hv : v.toFloat <;> simp [hv]

namespace Fault

variable {ν α : Type} [Naming ν] [Arithmetic α] [Written α] {w : Fault ν α}

theorem reported_of_text? {s : String} (h : w.text? = .ok s) : w.reported = w := by
  rw [reported, h]

end Fault

namespace Expression

variable {e n : Expression} {b : Bindings} {why : ValueFault}

structure WellFormed (e : Expression) : Prop where
  finite : ∀ a, .const a ∈ e.depthFirst → Arithmetic.isFinite a
  identifier : ∀ x, .var x ∈ e.depthFirst → ∃ s, x = .text s ∧ Text.isIdentifier s

def NamesOverlong (e : Expression) : Prop := ∃ x, .var x ∈ e.depthFirst ∧ x.toLiteral.Overlong

theorem problems_eq_nil_iff_wellFormed : e.problems = [] ↔ e.WellFormed := by
  rw [Formula.problems_eq_nil_iff]
  simp only [Name.isIdentifier_iff]
  exact ⟨fun h => ⟨h.1, h.2⟩, fun h => ⟨h.1, h.2⟩⟩

theorem mem_problems_notIdentifier {x : Name} :
    .notIdentifier x ∈ e.problems ↔ .var x ∈ e.depthFirst ∧ ¬Naming.isIdentifier x := by
  rw [Formula.problems, List.mem_filterMap]
  constructor
  · rintro ⟨f, hf, hproblem⟩
    cases f with
    | var y =>
      rw [Formula.problem?] at hproblem
      split at hproblem
      · cases hproblem
      · cases hproblem
        exact ⟨hf, ‹_›⟩
    | const a =>
      rw [Formula.problem?] at hproblem
      split at hproblem <;> cases hproblem
    | _ => cases hproblem
  · rintro ⟨hx, hidentifier⟩
    exact ⟨.var x, hx, by rw [Formula.problem?, if_neg hidentifier]⟩

theorem failsWhen_message (p : Problem Name Float) :
    FailsWhen p.message (∃ x, p = .notIdentifier x ∧ x.toLiteral.Overlong) := by
  cases p with
  | notFinite a => exact (FailsWhen.ok _).congr (by simp)
  | notIdentifier x => exact ((Name.failsWhen_quoted x).map _).congr (by simp)

theorem failsWhen_problemTexts (e : Expression) : FailsWhen e.problemTexts e.NamesOverlong := by
  refine (FailsWhen.mapM failsWhen_message e.problems).congr ?_
  constructor
  · rintro ⟨_, hp, x, rfl, hlong⟩
    exact ⟨x, (mem_problems_notIdentifier.1 hp).1, hlong⟩
  · rintro ⟨x, hx, hlong⟩
    have hodd := Name.not_isIdentifier_of_overlong hlong
    exact ⟨_, mem_problems_notIdentifier.2 ⟨hx, hodd⟩, x, rfl, hlong⟩

theorem problemTexts_eq_ok_nil_iff : e.problemTexts = .ok [] ↔ e.WellFormed := by
  rw [← problems_eq_nil_iff_wellFormed, Formula.problemTexts]
  cases e.problems with
  | nil => simp [pure, Except.pure]
  | cons p ps =>
    rw [List.mapM_cons]
    cases p.message with
    | error why => exact iff_of_false nofun nofun
    | ok t =>
      cases ps.mapM Problem.message with
      | error why => exact iff_of_false nofun nofun
      | ok ts => exact iff_of_false nofun nofun

namespace WellFormed

theorem part (he : e.WellFormed) (hn : n ∈ e.depthFirst) : n.WellFormed where
  finite a ha := he.finite a (Formula.mem_depthFirst_trans ha hn)
  identifier x hx := he.identifier x (Formula.mem_depthFirst_trans hx hn)

theorem render_isOk (he : e.WellFormed) : ∃ s, e.render = .ok s := by
  refine Formula.render_isOk fun x hx => ?_
  obtain ⟨s, rfl, -⟩ := he.identifier x hx
  exact ⟨s, rfl⟩

theorem shown_isOk (he : e.WellFormed) : ∃ s, e.shown = .ok s := by
  obtain ⟨s, hs⟩ := he.render_isOk
  cases e with
  | var x => exact ⟨.name x, rfl⟩
  | _ => exact ⟨.text s, congrArg (Except.map Shown.text) hs⟩

/-- A fault of a well-formed node can be told and noted. -/
theorem text?_and_note?_of_faultAt {w : Fault Name Float} (hn : n.WellFormed)
    (h : Formula.FaultAt b.environment n w) (bound : List String) :
    (∃ s, w.text? = .ok s) ∧ ∃ note, w.note? bound = .ok note := by
  cases h with
  | undefinedName =>
    obtain ⟨s, rfl, -⟩ := hn.identifier _ List.mem_cons_self
    exact ⟨⟨_, rfl⟩, _, rfl⟩
  | unusable => exact ⟨⟨_, rfl⟩, _, rfl⟩
  | @zeroDivisor l r a =>
    have hl := hn.part (Formula.mem_depthFirst_left (Formula.mem_depthFirst_self l))
    have hr := hn.part (Formula.mem_depthFirst_right (Formula.mem_depthFirst_self r))
    obtain ⟨dividend, hdividend⟩ := hl.shown_isOk
    obtain ⟨divisor, hdivisor⟩ := hr.render_isOk
    obtain ⟨quotient, hquotient⟩ := hn.render_isOk
    refine ⟨?_, _, by rw [Fault.note?, hquotient]; rfl⟩
    rw [Fault.text?, hdividend, hdivisor]
    by_cases hblank : r.isBlank
    · exact ⟨_, by rw [if_pos hblank]; rfl⟩
    · exact ⟨_, by rw [if_neg hblank]; rfl⟩
  | negativeRadicand =>
    obtain ⟨s, hs⟩ := hn.render_isOk
    exact ⟨⟨_, rfl⟩, _, by rw [Fault.note?, hs]; rfl⟩

theorem attempt_runIn {ε : Type} (he : e.WellFormed) (b : Bindings) (j : Journal) :
    ∃ j', (e.attempt b : Logged ε _).runIn j = (.ok (e.compute b.environment), j') := by
  unfold attempt
  cases hw : e.compute b.environment with
  | ok a => exact ⟨j, rfl⟩
  | error w =>
    obtain ⟨n, hn, hfault⟩ := Formula.exists_faultAt_of_compute hw
    obtain ⟨⟨s, hs⟩, note, hnote⟩ := (he.part hn).text?_and_note?_of_faultAt hfault b.names
    simp only [hnote, Fault.reported_of_text? hs]
    exact ⟨_, Logged.runIn_bind_of_ok (Logged.emitAll_emits (ε := ε) note.toList j)⟩

end WellFormed

theorem valid_runIn_of_problemTexts {b? : Option Bindings} (h : e.problemTexts = .error why)
    (j : Journal) : ((e.valid b?).runIn j).1 = .error why := by
  unfold valid
  rw [h]
  rfl

theorem valid_runIn_of_not_wellFormed {b? : Option Bindings} {texts : List String}
    (h : e.problemTexts = .ok texts) (he : ¬e.WellFormed) (j : Journal) :
    ((e.valid b?).runIn j).1 = .ok false := by
  cases texts with
  | nil => exact absurd (problemTexts_eq_ok_nil_iff.1 h) he
  | cons t ts =>
    unfold valid
    rw [h]
    rfl

def verdict : Except (Fault Name Float) Float → Except ValueFault Bool
  | .ok a => .ok (Arithmetic.isFinite a)
  | .error (.unusable why) => .error why
  | .error _ => .ok false

theorem WellFormed.valid_runIn (he : e.WellFormed) (b : Bindings) (j : Journal) :
    ((e.valid (some b)).runIn j).1 = verdict (e.compute b.environment) := by
  obtain ⟨j', hj'⟩ := he.attempt_runIn (ε := ValueFault) b j
  unfold valid
  rw [problemTexts_eq_ok_nil_iff.2 he]
  refine (congrArg Prod.fst (Logged.runIn_bind_of_ok hj')).trans ?_
  cases e.compute b.environment with
  | ok a => rfl
  | error w => cases w <;> rfl

theorem verdict_eq_ok_true_iff {x : Except (Fault Name Float) Float} :
    verdict x = .ok true ↔ ∃ a, x = .ok a ∧ Arithmetic.isFinite a := by
  cases x with
  | ok a => simp [verdict]
  | error w => cases w <;> simp [verdict]

theorem verdict_eq_error_iff {x : Except (Fault Name Float) Float} :
    verdict x = .error why ↔ x = .error (.unusable why) := by
  cases x with
  | ok a => simp [verdict]
  | error w => cases w <;> simp [verdict]

theorem WellFormed.not_namesOverlong (he : e.WellFormed) : ¬e.NamesOverlong := by
  rintro ⟨x, hx, hlong⟩
  obtain ⟨s, rfl, -⟩ := he.identifier x hx
  cases hlong

theorem exists_overflows_of_compute (hb : ∀ p ∈ b, p.2.lifts) (he : e.WellFormed)
    (h : e.compute b.environment = .error (.unusable why)) :
    ∃ s v, .var (.text s) ∈ e.depthFirst ∧ b.lookup s = some v ∧ v.Overflows why := by
  obtain ⟨n, hn, hfault⟩ := Formula.exists_faultAt_of_compute h
  cases hfault with
  | unusable hx =>
    obtain ⟨s, rfl, -⟩ := he.identifier _ hn
    obtain ⟨v, hv, hwhy⟩ := Bindings.environment_eq_unusable_iff.1 hx
    obtain ⟨before, after, heq, -⟩ := List.lookup_eq_some_iff.1 hv
    have hlifts : v.lifts := hb (s, v) (by simp [heq])
    exact ⟨s, v, hn, hv, (Literal.toFloat_eq_error_iff hlifts).1 hwhy⟩

theorem valid_runIn_eq_ok_true_iff (e : Expression) (b : Bindings) (j : Journal) :
    ((e.valid (some b)).runIn j).1 = .ok true ↔
      e.WellFormed ∧ ∃ a, e.compute b.environment = .ok a ∧ Arithmetic.isFinite a := by
  by_cases he : e.WellFormed
  · rw [he.valid_runIn, verdict_eq_ok_true_iff, and_iff_right he]
  · refine iff_of_false (fun htrue => ?_) (fun h => he h.1)
    cases htexts : e.problemTexts with
    | error why => cases (valid_runIn_of_problemTexts htexts j).symm.trans htrue
    | ok texts => cases (valid_runIn_of_not_wellFormed htexts he j).symm.trans htrue

theorem valid_runIn_eq_error_iff (e : Expression) (b : Bindings) (j : Journal) :
    ((e.valid (some b)).runIn j).1 = .error why ↔ (e.NamesOverlong ∧ .tooManyDigits = why) ∨
      (e.WellFormed ∧ e.compute b.environment = .error (.unusable why)) := by
  by_cases he : e.WellFormed
  · rw [he.valid_runIn, verdict_eq_error_iff, and_iff_right he]
    exact (or_iff_right fun h => he.not_namesOverlong h.1).symm
  · rw [or_iff_left fun h => he h.1, ← failsWhen_problemTexts e why]
    cases htexts : e.problemTexts with
    | error why' =>
      rw [valid_runIn_of_problemTexts htexts, Except.error.injEq, Except.error.injEq]
    | ok texts =>
      rw [valid_runIn_of_not_wellFormed htexts he]
      exact iff_of_false nofun nofun

/-- Under bindings to real numbers an expression is valid exactly when its constants are finite, its
names are identifiers and it evaluates to a finite number. Validation fails exactly when a name has
too many digits to be shown, or when evaluation of an expression without problems runs into a value
that is no double, and then one of its names is bound to a number that overflows. -/
theorem valid_eq_ok_true_iff_and_eq_error_iff (e : Expression) {b : Bindings}
    (hb : ∀ p ∈ b, p.2.lifts) (j : Journal) :
    (((e.valid (some b)).runIn j).1 = .ok true ↔
      e.WellFormed ∧ ∃ a, e.compute b.environment = .ok a ∧ Arithmetic.isFinite a) ∧
    (∀ why, ((e.valid (some b)).runIn j).1 = .error why ↔
      (e.NamesOverlong ∧ .tooManyDigits = why) ∨
      (e.WellFormed ∧ e.compute b.environment = .error (.unusable why))) ∧
    ∀ why, ((e.valid (some b)).runIn j).1 = .error why →
      (e.NamesOverlong ∧ .tooManyDigits = why) ∨
      ∃ s v, .var (.text s) ∈ e.depthFirst ∧ b.lookup s = some v ∧ v.Overflows why := by
  refine ⟨valid_runIn_eq_ok_true_iff e b j, fun why => valid_runIn_eq_error_iff e b j, ?_⟩
  intro why h
  refine ((valid_runIn_eq_error_iff e b j).1 h).imp_right fun hfault => ?_
  exact exists_overflows_of_compute hb hfault.1 hfault.2

def slope : Expression :=
  .binary .div (.var (.text "x")) (.binary .sub (.var (.text "y")) (.const 2.0))

/-- A third for `x`, and the whole number just below all that overflow for `y`. -/
def steep : Bindings :=
  [("x", .fraction (mkRat 1 3)), ("y", .int (Nat.pow 2 1024 - Nat.pow 2 970 - 1 : Nat))]

def unprintable : Expression := .var (.value (.int digitBound) 0)

theorem unprintable_namesOverlong : unprintable.NamesOverlong :=
  ⟨.value (.int digitBound) 0, List.mem_cons_self, Literal.overlong_digitBound⟩

theorem slope_valid : (∀ p ∈ steep, p.2.lifts) ∧
    ((slope.valid (some steep)).runIn .initial).1 = .ok true ∧
    ((unprintable.valid (some steep)).runIn .initial).1 = .error .tooManyDigits := by
  have hb : ∀ p ∈ steep, p.2.lifts := by decide
  have hwellFormed : slope.WellFormed := problems_eq_nil_iff_wellFormed.1 (by decide +kernel)
  have hvalue : ∃ a, slope.compute steep.environment = .ok a ∧ Arithmetic.isFinite a :=
    verdict_eq_ok_true_iff.1 (by decide +kernel)
  refine ⟨hb, ?_, ?_⟩
  · exact (valid_eq_ok_true_iff_and_eq_error_iff slope hb .initial).1.2 ⟨hwellFormed, hvalue⟩
  · obtain ⟨-, herror, -⟩ := valid_eq_ok_true_iff_and_eq_error_iff unprintable hb .initial
    exact (herror _).2 (.inl ⟨unprintable_namesOverlong, rfl⟩)

def huge : Bindings := [("x", .int (Nat.pow 10 400))]

/-- Validation gives no answer, though all that is bound is a whole number. -/
theorem valid_huge_eq_error : (∀ p ∈ huge, p.2.lifts) ∧
    ((Expression.valid (some huge) (.var (.text "x"))).runIn .initial).1 =
      .error .integerTooLarge := by
  refine ⟨by decide, ?_⟩
  decide +kernel

end Expression

end Formulae
