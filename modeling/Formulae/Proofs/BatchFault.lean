import Formulae.Proofs.Batch
import Formulae.Proofs.Double.Order
import Formulae.Proofs.Fault

/-! The fault of a table against the faults of its rows. Columns stop at the first node where any row
is bad, and a row that is bad there gets no further either; so a fault of the table is one of a row,
met at the same node. Only the value of a radicand is taken from the whole column, the least of it:
that is the value of a row as long as no row makes the radicand undefined. -/
namespace Formulae
open List (Forall₂)
open Arithmetic

namespace Formula

variable {ν α : Type} [Arithmetic α] {w : Fault ν α}

section Columns

variable {count : Nat} {column : ν → Binding (List α)}

theorem columns_sign_eq_error {s : Sign} {e : Formula ν α} :
    (sign s e).columns count column = .error w ↔ e.columns count column = .error w := by
  rw [columns, bind_eq_error]
  simp [pure, Except.pure]

theorem columns_div_eq_error {l r : Formula ν α} :
    (binary .div l r).columns count column = .error w ↔
      r.columns count column = .error w ∨ ∃ bs, r.columns count column = .ok bs ∧
        (((∃ b ∈ bs, b == 0) ∧ .zeroDivisor l r = w) ∨
          ((¬∃ b ∈ bs, b == 0) ∧ l.columns count column = .error w)) := by
  rw [columns, bind_eq_error]
  refine or_congr_right (exists_congr fun bs => and_congr_right fun _ => ?_)
  rw [← List.any_eq_true]
  by_cases hbs : bs.any (· == 0) = true
  · simp [hbs]
  · simp [hbs, bind_eq_error, pure, Except.pure]

theorem columns_binary_eq_error {op : BinaryOp} {l r : Formula ν α} (hop : op ≠ .div) :
    (binary op l r).columns count column = .error w ↔ l.columns count column = .error w ∨
      ∃ as, l.columns count column = .ok as ∧ r.columns count column = .error w := by
  rw [columns, bind_eq_error]
  · simp [bind_eq_error, pure, Except.pure]
  · exact hop

theorem columns_apply_eq_error {f : Elementary} {e : Formula ν α} :
    (apply f e).columns count column = .error w ↔ e.columns count column = .error w ∨
      ∃ as, e.columns count column = .ok as ∧ (f = .sqrt ∧ ∃ a ∈ as, below a 0) ∧
        .negativeRadicand e (least (as.headD 0) as) = w := by
  rw [columns, bind_eq_error]
  refine or_congr_right (exists_congr fun as => and_congr_right fun _ => ?_)
  rw [← List.any_eq_true]
  by_cases has : f = .sqrt ∧ as.any (below · 0) = true
  · rw [if_pos has, and_iff_right has, Except.error.injEq]
  · rw [if_neg has]
    simp only [pure, Except.pure, reduceCtorEq, has, false_and]

end Columns

section Rows

variable {envs : List (Environment ν α)} {column : ν → Binding (List α)}

/-- How a fault of a table tells of a fault of a row: it is the same one, or they are at the same
root, and the table reports the least radicand of all rows. That is the row's own, or undefined. -/
inductive Tells (envs : List (Environment ν α)) : Fault ν α → Fault ν α → Prop where
  | same {w : Fault ν α} (h : ∀ e a, w ≠ .negativeRadicand e a) : Tells envs w w
  | radicand {e : Formula ν α} {as : List α} {a : α} (has : Tabulates envs e as) (ha : a ∈ as)
      (hneg : below a 0)
      (hleast : isUndefined (least (as.headD 0) as) ∨ a = least (as.headD 0) as) :
      Tells envs (.negativeRadicand e (least (as.headD 0) as)) (.negativeRadicand e a)

variable [OrderedArithmetic α]

theorem exists_mem_least {as : List α} (h : ∃ a ∈ as, below a 0) : ∃ a ∈ as, below a 0 ∧
    (isUndefined (least (as.headD 0) as) ∨ a = least (as.headD 0) as) := by
  obtain ⟨a, ha, hneg⟩ := h
  rcases least_below (.inr ⟨a, ha, hneg⟩) with hundefined | hleast
  · exact ⟨a, ha, hneg, .inl hundefined⟩
  · exact ⟨_, least_headD_mem ha, hleast, .inr rfl⟩

/-- By induction on the formula: the rows of a part that has columns have values there, so a row
that is bad at a node reaches it. -/
theorem exists_row_of_columns_error
    (hcolumn : ∀ x as, column x = .bound as → Tabulates envs (.var x) as)
    (hfault : ∀ x w, (var x).columns envs.length column = .error w →
      (∀ e a, w ≠ .negativeRadicand e a) ∧ ∀ env ∈ envs, (var x).compute env = .error w)
    (hrows : envs ≠ []) {e : Formula ν α} (h : e.columns envs.length column = .error w) :
    ∃ env ∈ envs, ∃ v, e.compute env = .error v ∧ Tells envs w v := by
  induction e with
  | const a => cases h
  | var x =>
    obtain ⟨env, henv⟩ := List.exists_mem_of_ne_nil _ hrows
    obtain ⟨hother, hall⟩ := hfault x w h
    exact ⟨env, henv, w, hall env henv, .same hother⟩
  | sign s e ih =>
    obtain ⟨env, henv, v, hv, htells⟩ := ih (columns_sign_eq_error.1 h)
    exact ⟨env, henv, v, compute_sign_eq_error.2 hv, htells⟩
  | binary op l r ihl ihr =>
    by_cases hop : op = .div
    · subst hop
      rcases columns_div_eq_error.1 h with hr | ⟨bs, hbs, ⟨⟨b, hb, hz⟩, rfl⟩ | ⟨hnonzero, hl⟩⟩
      · obtain ⟨env, henv, v, hv, htells⟩ := ihr hr
        exact ⟨env, henv, v, compute_div_eq_error.2 (.inl hv), htells⟩
      · obtain ⟨env, henv, hrb⟩ := exists_left_of_mem (tabulates_of_columns hcolumn hbs) hb
        exact ⟨env, henv, _, compute_div_eq_error.2 (.inr ⟨b, hrb, .inl ⟨hz, rfl⟩⟩), .same nofun⟩
      · obtain ⟨env, henv, v, hv, htells⟩ := ihl hl
        obtain ⟨b, hb, hrb⟩ := exists_right_of_mem (tabulates_of_columns hcolumn hbs) henv
        have hz : ¬b == 0 := fun hz => hnonzero ⟨b, hb, hz⟩
        exact ⟨env, henv, v, compute_div_eq_error.2 (.inr ⟨b, hrb, .inr ⟨hz, hv⟩⟩), htells⟩
    · rcases (columns_binary_eq_error hop).1 h with hl | ⟨as, has, hr⟩
      · obtain ⟨env, henv, v, hv, htells⟩ := ihl hl
        exact ⟨env, henv, v, (compute_binary_eq_error hop).2 (.inl hv), htells⟩
      · obtain ⟨env, henv, v, hv, htells⟩ := ihr hr
        obtain ⟨a, -, hla⟩ := exists_right_of_mem (tabulates_of_columns hcolumn has) henv
        exact ⟨env, henv, v, (compute_binary_eq_error hop).2 (.inr ⟨a, hla, hv⟩), htells⟩
  | apply f e ih =>
    rcases columns_apply_eq_error.1 h with he | ⟨as, has, ⟨rfl, hany⟩, rfl⟩
    · obtain ⟨env, henv, v, hv, htells⟩ := ih he
      exact ⟨env, henv, v, compute_apply_eq_error.2 (.inl hv), htells⟩
    · have htable := tabulates_of_columns hcolumn has
      obtain ⟨a, ha, hneg, hleast⟩ := exists_mem_least hany
      obtain ⟨env, henv, hea⟩ := exists_left_of_mem htable ha
      exact ⟨env, henv, _, compute_apply_eq_error.2 (.inr ⟨a, hea, ⟨rfl, hneg⟩, rfl⟩),
        .radicand htable ha hneg hleast⟩

end Rows

end Formula

namespace Samples

variable {α : Type} [Arithmetic α] {s : Samples String α} {x : String} {w : Fault String α}

theorem var_error_of_columns
    (h : (Formula.var x).columns s.rows.length s.column = .error w) :
    w = .undefinedName x ∧
      ∀ env ∈ s.rows.map s.environment, (Formula.var x).compute env = .error w := by
  unfold Formula.columns column lookup at h
  simp only [Naming.unsearchable?] at h
  cases hx : position? s.names x with
  | some i => simp [hx] at h
  | none =>
    rw [hx] at h
    cases h
    refine ⟨rfl, List.forall_mem_map.2 fun row _ => ?_⟩
    refine Formula.compute_var_eq_error.2 (.inl ⟨?_, rfl⟩)
    unfold environment lookup
    simp [Naming.unsearchable?, hx]

end Samples

namespace Formula

variable {ν α : Type} [Arithmetic α] [OrderedArithmetic α] {w : Fault String α}

theorem exists_row_of_evaluate_error {s : Samples String α} {e : Formula String α}
    (hrows : s.rows ≠ []) (h : e.evaluate s = .error w) :
    ∃ row ∈ s.rows, ∃ v, e.compute (s.environment row) = .error v ∧
      Tells (s.rows.map s.environment) w v := by
  have hlength : (s.rows.map s.environment).length = s.rows.length := List.length_map _
  have hfault (x : String) (w : Fault String α)
      (hx : (var x).columns (s.rows.map s.environment).length s.column = .error w) :
      (∀ e a, w ≠ .negativeRadicand e a) ∧
        ∀ env ∈ s.rows.map s.environment, (var x).compute env = .error w := by
    rw [hlength] at hx
    obtain ⟨rfl, hall⟩ := Samples.var_error_of_columns hx
    exact ⟨nofun, hall⟩
  have hcolumns : e.columns (s.rows.map s.environment).length s.column = .error w := by
    rw [hlength]
    exact h
  obtain ⟨env, henv, v, hv, htells⟩ := exists_row_of_columns_error
    (fun x as has => s.tabulates_column has) hfault (mt List.map_eq_nil_iff.1 hrows) hcolumns
  obtain ⟨row, hrow, rfl⟩ := List.mem_map.1 henv
  exact ⟨row, hrow, v, hv, htells⟩

omit [OrderedArithmetic α] in
theorem isUndefined_least_iff_row {s : Samples String α} {f : Formula String α} {as : List α} {a : α}
    (has : Tabulates (s.rows.map s.environment) f as) (ha : a ∈ as) :
    isUndefined (least (as.headD 0) as) ↔
      ∃ row ∈ s.rows, ∃ c, f.compute (s.environment row) = .ok c ∧ isUndefined c := by
  rw [isUndefined_least_headD_iff ha]
  constructor
  · rintro ⟨c, hc, hundefined⟩
    obtain ⟨env, henv, hfc⟩ := exists_left_of_mem has hc
    obtain ⟨row, hrow, rfl⟩ := List.mem_map.1 henv
    exact ⟨row, hrow, c, hfc, hundefined⟩
  · rintro ⟨row, hrow, c, hfc, hundefined⟩
    obtain ⟨d, hd, hfd⟩ := exists_right_of_mem has (List.mem_map_of_mem hrow)
    rw [hfc] at hfd
    cases hfd
    exact ⟨c, hd, hundefined⟩

/-- The fault of a table with rows is the fault of a row, unless it is a negative radicand that some
row makes undefined; then the undefined number is reported, and no row has that fault. A row with a
negative value of the radicand there is in either case, and its fault is at the same root. -/
theorem evaluate_error_iff_row {s : Samples String α} {e : Formula String α} (hrows : s.rows ≠ [])
    (h : e.evaluate s = .error w) :
    ((∃ row ∈ s.rows, e.compute (s.environment row) = .error w) ↔
      ∀ f u, w = .negativeRadicand f u →
        ¬∃ row ∈ s.rows, ∃ c, f.compute (s.environment row) = .ok c ∧ isUndefined c) ∧
    ∀ f u, w = .negativeRadicand f u → ∃ row ∈ s.rows, ∃ a,
      e.compute (s.environment row) = .error (.negativeRadicand f a) ∧
        f.compute (s.environment row) = .ok a ∧ below a 0 ∧ (isUndefined u ∨ a = u) := by
  obtain ⟨row, hrow, v, hv, htells⟩ := exists_row_of_evaluate_error hrows h
  cases htells with
  | same hother =>
    refine ⟨⟨fun _ f u hw => absurd hw (hother f u), fun _ => ⟨row, hrow, hv⟩⟩, ?_⟩
    intro f u hw
    exact absurd hw (hother f u)
  | @radicand f as a has ha hneg hleast =>
    refine ⟨⟨?_, ?_⟩, ?_⟩
    · rintro ⟨row', -, herror⟩ f' u hw
      cases hw
      rw [← isUndefined_least_iff_row has ha]
      exact OrderedArithmetic.not_isUndefined_of_below (radicand_of_compute_error herror).2
    · intro hdefined
      have hnot := hdefined _ _ rfl
      rw [← isUndefined_least_iff_row has ha] at hnot
      rw [← hleast.resolve_left hnot]
      exact ⟨row, hrow, hv⟩
    · intro f' u hw
      cases hw
      exact ⟨row, hrow, a, hv, (radicand_of_compute_error hv).1, hneg, hleast⟩

def rootQuotient : Formula String Float :=
  binary .div (apply .sqrt (var "x")) (var "y")

def negativeRows : Samples String Float :=
  ⟨["x", "y"], [#v[4.0, 2.0], #v[-1.0, 1.0], #v[-9.0, 3.0]]⟩

theorem evaluate_negativeRows : negativeRows.rows ≠ [] ∧
    rootQuotient.evaluate negativeRows = .error (.negativeRadicand (var "x") (-9.0)) ∧
      ∃ row ∈ negativeRows.rows, rootQuotient.compute (negativeRows.environment row) =
        .error (.negativeRadicand (var "x") (-9.0)) := by
  have hrows : negativeRows.rows ≠ [] := nofun
  have h : rootQuotient.evaluate negativeRows =
    .error (.negativeRadicand (var "x") (-9.0)) := rfl
  have hdefined : ∀ row ∈ negativeRows.rows,
      ((var "x").compute (negativeRows.environment row)).toOption.all (!isUndefined ·) := by
    decide +kernel
  refine ⟨hrows, h, (evaluate_error_iff_row hrows h).1.2 ?_⟩
  rintro f u hw ⟨row, hrow, c, hc, hundefined⟩
  cases hw
  have hnot := hdefined row hrow
  rw [hc] at hnot
  simp [Except.toOption, hundefined] at hnot

def undefinedRow : Samples String Float := ⟨["x"], [#v[-1.0], #v[0.0 / 0.0]]⟩

/-- A table may report a radicand that is negative in no row. -/
theorem exists_evaluate_error_of_no_row : ∃ (s : Samples String Float) (e : Formula String Float)
    (w : Fault String Float), s.rows ≠ [] ∧ e.evaluate s = .error w ∧
      ¬∃ row ∈ s.rows, e.compute (s.environment row) = .error w := by
  refine ⟨undefinedRow, apply .sqrt (var "x"), .negativeRadicand (var "x") (0.0 / 0.0), nofun, rfl, ?_⟩
  rintro ⟨row, -, herror⟩
  exact absurd (radicand_of_compute_error herror).2 (by decide)

end Formula

end Formulae
