import Mathlib.Data.List.Forall2
import Formulae.Formula.Samples
import Formulae.Proofs.Evaluation
import Formulae.Proofs.Variables

/-! Evaluation on whole columns against evaluation row by row. The two meet a bad row at different
nodes, so only success is compared node by node: the columns of all parts of a formula exist exactly
when its variables have columns and every row has a value, and then they list these values. -/
namespace Formulae
open List (Forall₂)

namespace Formula

variable {ν α : Type} [Arithmetic α]

abbrev Tabulates (envs : List (Environment ν α)) (e : Formula ν α) (as : List α) : Prop :=
  Forall₂ (fun env a => e.compute env = .ok a) envs as

section Entries

variable {ρ β γ δ : Type} {P : ρ → β → Prop} {Q : ρ → γ → Prop} {R : ρ → δ → Prop}
variable {rs : List ρ} {bs : List β} {cs : List γ}

theorem forall₂_map_of_mem {f : β → δ} (h : Forall₂ P rs bs)
    (hf : ∀ r, ∀ b ∈ bs, P r b → R r (f b)) : Forall₂ R rs (bs.map f) := by
  induction h with
  | nil => exact .nil
  | cons hp _ ih =>
    refine .cons (hf _ _ List.mem_cons_self hp) (ih ?_)
    intro r b hb
    exact hf r b (List.mem_cons_of_mem _ hb)

theorem forall₂_zipWith_of_mem {f : β → γ → δ} (h : Forall₂ P rs bs) (h' : Forall₂ Q rs cs)
    (hf : ∀ r b, ∀ c ∈ cs, P r b → Q r c → R r (f b c)) :
    Forall₂ R rs (List.zipWith f bs cs) := by
  induction h generalizing cs with
  | nil => exact .nil
  | cons hp _ ih =>
    cases h' with
    | cons hq htail =>
      refine .cons (hf _ _ _ List.mem_cons_self hp hq) (ih htail ?_)
      intro r b c hc
      exact hf r b c (List.mem_cons_of_mem _ hc)

theorem exists_left_of_mem {b : β} (h : Forall₂ P rs bs) (hb : b ∈ bs) : ∃ r ∈ rs, P r b := by
  induction h with
  | nil => cases hb
  | @cons r b' rs bs hp _ ih =>
    rcases List.mem_cons.1 hb with rfl | htail
    · exact ⟨r, List.mem_cons_self, hp⟩
    · obtain ⟨r', hr', hp'⟩ := ih htail
      exact ⟨r', List.mem_cons_of_mem r hr', hp'⟩

theorem exists_right_of_mem {r : ρ} (h : Forall₂ P rs bs) (hr : r ∈ rs) : ∃ b ∈ bs, P r b :=
  exists_left_of_mem h.flip hr

end Entries

section Columns

variable {count : Nat} {column : ν → Binding (List α)} {as cs : List α}

theorem columns_var_eq_ok {x : ν} :
    (var x).columns count column = .ok as ↔ column x = .bound as := by
  rw [columns]
  cases column x <;> simp

theorem columns_sign_eq_ok {s : Sign} {e : Formula ν α} :
    (sign s e).columns count column = .ok cs ↔
      ∃ as, e.columns count column = .ok as ∧ as.map s.eval = cs := by
  rw [columns]
  cases e.columns count column <;> simp [bind, Except.bind, pure, Except.pure]

theorem columns_binary_eq_ok {op : BinaryOp} {l r : Formula ν α} :
    (binary op l r).columns count column = .ok cs ↔ ∃ as bs, l.columns count column = .ok as ∧
      r.columns count column = .ok bs ∧ ¬(op = .div ∧ ∃ b ∈ bs, b == 0) ∧
        List.zipWith op.eval as bs = cs := by
  cases op with
  | div =>
    rw [columns]
    cases r.columns count column with
    | error w => simp [bind, Except.bind]
    | ok bs =>
      by_cases hbs : bs.any (· == 0) = true
      · have hzero : ∃ b ∈ bs, (b == 0) = true := List.any_eq_true.1 hbs
        constructor
        · simp [bind, Except.bind, hbs]
        · rintro ⟨as, bs', -, hr, hdivisor, -⟩
          cases hr
          exact absurd ⟨rfl, hzero⟩ hdivisor
      · have hzero : ¬∃ b ∈ bs, (b == 0) = true := fun h => hbs (List.any_eq_true.2 h)
        cases l.columns count column with
        | error w => simp [bind, Except.bind, hbs]
        | ok as =>
          simp only [bind, Except.bind, pure, Except.pure, hbs, Bool.false_eq_true, if_false,
            Except.ok.injEq, exists_and_left, exists_eq_left', hzero, not_false_eq_true, true_and]
          rfl
  | add | sub | mul =>
    rw [columns]
    · cases l.columns count column <;> cases r.columns count column <;>
        simp [bind, Except.bind, pure, Except.pure]
    · simp

theorem columns_apply_eq_ok {f : Elementary} {e : Formula ν α} :
    (apply f e).columns count column = .ok cs ↔ ∃ as, e.columns count column = .ok as ∧
      ¬(f = .sqrt ∧ ∃ a ∈ as, Arithmetic.below a 0) ∧ as.map f.eval = cs := by
  rw [columns]
  cases e.columns count column with
  | error w => simp [bind, Except.bind]
  | ok as =>
    by_cases has : f = .sqrt ∧ as.any (Arithmetic.below · 0) = true
    · have hneg : f = .sqrt ∧ ∃ a ∈ as, Arithmetic.below a 0 = true :=
        ⟨has.1, List.any_eq_true.1 has.2⟩
      simp only [bind, Except.bind, has, and_self, if_true, Except.ok.injEq, exists_eq_left', hneg,
        not_true_eq_false, false_and, reduceCtorEq]
    · have hneg : ¬(f = .sqrt ∧ ∃ a ∈ as, Arithmetic.below a 0 = true) :=
        fun h => has ⟨h.1, List.any_eq_true.2 h.2⟩
      simp only [bind, Except.bind, pure, Except.pure, has, if_false, Except.ok.injEq,
        exists_eq_left', hneg, not_false_eq_true, true_and]

theorem column_of_columns [BEq ν] [LawfulBEq ν] {e : Formula ν α} {x : ν}
    (h : e.columns count column = .ok cs) (hx : x ∈ e.vars) : ∃ as, column x = .bound as := by
  induction e generalizing cs with
  | const a => cases hx
  | var y =>
    cases List.mem_singleton.1 hx
    exact ⟨cs, columns_var_eq_ok.1 h⟩
  | sign s e ih =>
    obtain ⟨as, has, -⟩ := columns_sign_eq_ok.1 h
    exact ih has hx
  | binary op l r ihl ihr =>
    obtain ⟨as, bs, has, hbs, -, -⟩ := columns_binary_eq_ok.1 h
    rcases mem_vars_binary.1 hx with hl | hr
    · exact ihl has hl
    · exact ihr hbs hr
  | apply f e ih =>
    obtain ⟨as, has, -, -⟩ := columns_apply_eq_ok.1 h
    exact ih has hx

end Columns

section Rows

variable {envs : List (Environment ν α)} {column : ν → Binding (List α)} {as : List α}

theorem tabulates_const (envs : List (Environment ν α)) (a : α) :
    Tabulates envs (.const a) (List.replicate envs.length a) := by
  induction envs with
  | nil => exact .nil
  | cons env envs ih => exact .cons rfl ih

theorem tabulates_of_columns
    (hcolumn : ∀ x as, column x = .bound as → Tabulates envs (.var x) as)
    {e : Formula ν α} (h : e.columns envs.length column = .ok as) : Tabulates envs e as := by
  induction e generalizing as with
  | const a =>
    cases h
    exact tabulates_const envs a
  | var x => exact hcolumn x as (columns_var_eq_ok.1 h)
  | sign s e ih =>
    obtain ⟨as, has, rfl⟩ := columns_sign_eq_ok.1 h
    refine forall₂_map_of_mem (ih has) ?_
    intro env a _ ha
    exact compute_sign_eq_ok.2 ⟨a, ha, rfl⟩
  | binary op l r ihl ihr =>
    obtain ⟨as, bs, has, hbs, hdivisor, rfl⟩ := columns_binary_eq_ok.1 h
    refine forall₂_zipWith_of_mem (ihl has) (ihr hbs) ?_
    intro env a b hb hla hrb
    exact compute_binary_eq_ok.2 ⟨a, b, hla, hrb, fun hz => hdivisor ⟨hz.1, b, hb, hz.2⟩, rfl⟩
  | apply f e ih =>
    obtain ⟨as, has, hradicand, rfl⟩ := columns_apply_eq_ok.1 h
    refine forall₂_map_of_mem (ih has) ?_
    intro env a ha hea
    exact compute_apply_eq_ok.2 ⟨a, hea, fun hneg => hradicand ⟨hneg.1, a, ha, hneg.2⟩, rfl⟩

variable [BEq ν] [LawfulBEq ν]

theorem columns_isOk (hcolumn : ∀ x as, column x = .bound as → Tabulates envs (.var x) as)
    {e : Formula ν α} (hvars : ∀ x ∈ e.vars, ∃ as, column x = .bound as)
    (hrows : ∀ env ∈ envs, ∃ a, e.compute env = .ok a) :
    ∃ as, e.columns envs.length column = .ok as := by
  induction e with
  | const a => exact ⟨_, rfl⟩
  | var x =>
    obtain ⟨as, has⟩ := hvars x List.mem_cons_self
    exact ⟨as, columns_var_eq_ok.2 has⟩
  | sign s e ih =>
    obtain ⟨as, has⟩ := ih hvars fun env henv => by
      obtain ⟨c, hc⟩ := hrows env henv
      obtain ⟨a, ha, -⟩ := compute_sign_eq_ok.1 hc
      exact ⟨a, ha⟩
    exact ⟨_, columns_sign_eq_ok.2 ⟨as, has, rfl⟩⟩
  | binary op l r ihl ihr =>
    have hparts : ∀ env ∈ envs, ∃ a b, l.compute env = .ok a ∧ r.compute env = .ok b ∧
        ¬(op = .div ∧ b == 0) := by
      intro env henv
      obtain ⟨c, hc⟩ := hrows env henv
      obtain ⟨a, b, ha, hb, hdivisor, -⟩ := compute_binary_eq_ok.1 hc
      exact ⟨a, b, ha, hb, hdivisor⟩
    obtain ⟨as, has⟩ := ihl (fun x hx => hvars x (mem_vars_binary.2 (.inl hx))) fun env henv => by
      obtain ⟨a, b, ha, -, -⟩ := hparts env henv
      exact ⟨a, ha⟩
    obtain ⟨bs, hbs⟩ := ihr (fun x hx => hvars x (mem_vars_binary.2 (.inr hx))) fun env henv => by
      obtain ⟨a, b, -, hb, -⟩ := hparts env henv
      exact ⟨b, hb⟩
    refine ⟨_, columns_binary_eq_ok.2 ⟨as, bs, has, hbs, ?_, rfl⟩⟩
    rintro ⟨hop, b, hb, hz⟩
    obtain ⟨env, henv, hrb⟩ := exists_left_of_mem (tabulates_of_columns hcolumn hbs) hb
    obtain ⟨-, b', -, hrb', hdivisor⟩ := hparts env henv
    rw [hrb] at hrb'
    cases hrb'
    exact hdivisor ⟨hop, hz⟩
  | apply f e ih =>
    have hpart : ∀ env ∈ envs, ∃ a, e.compute env = .ok a ∧
        ¬(f = .sqrt ∧ Arithmetic.below a 0) := by
      intro env henv
      obtain ⟨c, hc⟩ := hrows env henv
      obtain ⟨a, ha, hradicand, -⟩ := compute_apply_eq_ok.1 hc
      exact ⟨a, ha, hradicand⟩
    obtain ⟨as, has⟩ := ih hvars fun env henv => by
      obtain ⟨a, ha, -⟩ := hpart env henv
      exact ⟨a, ha⟩
    refine ⟨_, columns_apply_eq_ok.2 ⟨as, has, ?_, rfl⟩⟩
    rintro ⟨hf, a, ha, hneg⟩
    obtain ⟨env, henv, hea⟩ := exists_left_of_mem (tabulates_of_columns hcolumn has) ha
    obtain ⟨a', hea', hradicand⟩ := hpart env henv
    rw [hea] at hea'
    cases hea'
    exact hradicand ⟨hf, hneg⟩

end Rows

end Formula

namespace Samples

variable {α : Type} {s : Samples String α} {x : String}

theorem position?_isSome {names : List String} : (position? names x).isSome ↔ x ∈ names := by
  unfold position?
  rw [List.find?_isSome, List.mem_iff_get]
  simp

theorem last_of_position? {names : List String} {i : Fin names.length}
    (h : position? names x = some i) : names.get i = x ∧ ∀ j, i < j → names.get j ≠ x := by
  obtain ⟨hi, before, after, hsplit, hbefore⟩ := List.find?_eq_some_iff_append.1 h
  refine ⟨eq_of_beq hi, ?_⟩
  intro j hij hj
  have hmem : j ∈ before ++ i :: after := by
    rw [← hsplit]
    simp
  have hdecreasing : (before ++ i :: after).Pairwise (· > ·) := by
    rw [← hsplit, List.pairwise_reverse]
    exact List.pairwise_lt_finRange _
  rcases List.mem_append.1 hmem with hj' | hj'
  · have hdiffers := hbefore j hj'
    rw [hj, beq_self_eq_true] at hdiffers
    cases hdiffers
  · have hafter := (List.pairwise_append.1 hdecreasing).2.1
    rcases List.mem_cons.1 hj' with rfl | hj''
    · exact absurd hij (Fin.lt_irrefl _)
    · exact absurd hij (Fin.lt_asymm ((List.pairwise_cons.1 hafter).1 j hj''))

theorem position?_eq_some {names : List String} {i : Fin names.length} :
    position? names x = some i ↔ names.get i = x ∧ ∀ j, i < j → names.get j ≠ x := by
  refine ⟨last_of_position?, ?_⟩
  rintro ⟨hi, hlast⟩
  obtain ⟨k, hk⟩ := Option.isSome_iff_exists.1 (position?_isSome.2 (hi ▸ List.get_mem names i))
  obtain ⟨hkx, hklast⟩ := last_of_position? hk
  have hki : k = i := by
    apply Fin.le_antisymm
    · exact Fin.not_lt.1 fun hik => hlast k hik hkx
    · exact Fin.not_lt.1 fun hki => hklast i hki hi
  rw [hk, hki]

theorem column_eq_bound {as : List α} : s.column x = .bound as ↔
    ∃ i, position? s.names x = some i ∧ s.rows.map (fun row => row.get i) = as := by
  unfold column lookup
  simp only [Naming.unsearchable?]
  cases position? s.names x <;> simp [Binding.ofOption]

theorem environment_eq_bound {row : Vector α s.names.length} {a : α} :
    s.environment row x = .bound a ↔ ∃ i, position? s.names x = some i ∧ row.get i = a := by
  unfold environment lookup
  simp only [Naming.unsearchable?]
  cases position? s.names x <;> simp [Binding.ofOption]

theorem tabulates_column (s : Samples String α) [Arithmetic α] {as : List α}
    (h : s.column x = .bound as) : Formula.Tabulates (s.rows.map s.environment) (.var x) as := by
  obtain ⟨i, hi, rfl⟩ := column_eq_bound.1 h
  rw [Formula.Tabulates, List.forall₂_map_left_iff, List.forall₂_map_right_iff, List.forall₂_same]
  intro row _
  exact Formula.compute_var_eq_ok.2 (environment_eq_bound.2 ⟨i, hi, rfl⟩)

theorem exists_column_iff : (∃ as, s.column x = .bound as) ↔ x ∈ s.names := by
  rw [← position?_isSome, Option.isSome_iff_exists]
  constructor
  · rintro ⟨as, has⟩
    obtain ⟨i, hi, -⟩ := column_eq_bound.1 has
    exact ⟨i, hi⟩
  · rintro ⟨i, hi⟩
    exact ⟨_, column_eq_bound.2 ⟨i, hi, rfl⟩⟩

end Samples

namespace Formula

variable {α : Type} [Arithmetic α]

theorem tabulates_of_evaluate {s : Samples String α} {e : Formula String α} {as : List α}
    (h : e.evaluate s = .ok as) : Tabulates (s.rows.map s.environment) e as := by
  refine tabulates_of_columns (fun x bs hbs => s.tabulates_column hbs) ?_
  rw [List.length_map]
  exact h

theorem evaluate_isOk_iff (s : Samples String α) (e : Formula String α) :
    (∃ as, e.evaluate s = .ok as) ↔ (∀ x ∈ e.vars, x ∈ s.names) ∧
      ∀ row ∈ s.rows, ∃ a, e.compute (s.environment row) = .ok a := by
  constructor
  · rintro ⟨as, has⟩
    refine ⟨fun x hx => Samples.exists_column_iff.1 (column_of_columns has hx), ?_⟩
    intro row hrow
    obtain ⟨a, -, ha⟩ :=
      exists_right_of_mem (tabulates_of_evaluate has) (List.mem_map_of_mem hrow)
    exact ⟨a, ha⟩
  · rintro ⟨hvars, hrows⟩
    have hok : ∃ as, e.columns (s.rows.map s.environment).length s.column = .ok as :=
      columns_isOk (fun x bs hbs => s.tabulates_column hbs)
        (fun x hx => Samples.exists_column_iff.2 (hvars x hx)) (List.forall_mem_map.2 hrows)
    rw [List.length_map] at hok
    exact hok

/-- A name stands for its last column. On a table with rows, evaluation succeeds exactly when it
does in every row; on an empty one, exactly when all variables have columns. The values are those of
the rows, in order. -/
theorem evaluate_agrees_with_compute (s : Samples String α) (e : Formula String α) :
    (∀ row x a, s.environment row x = .bound a ↔
      ∃ i, (s.names.get i = x ∧ ∀ j, i < j → s.names.get j ≠ x) ∧ row.get i = a) ∧
    (s.rows ≠ [] → ((∃ as, e.evaluate s = .ok as) ↔
      ∀ row ∈ s.rows, ∃ a, e.compute (s.environment row) = .ok a)) ∧
    (s.rows = [] → ((∃ as, e.evaluate s = .ok as) ↔ ∀ x ∈ e.vars, x ∈ s.names)) ∧
    ∀ as, e.evaluate s = .ok as →
      Forall₂ (fun row a => e.compute (s.environment row) = .ok a) s.rows as := by
  refine ⟨?_, ?_, ?_, ?_⟩
  · intro row x a
    simp only [Samples.environment_eq_bound, Samples.position?_eq_some]
  · intro hrows
    rw [evaluate_isOk_iff]
    refine ⟨And.right, fun hvalues => ⟨?_, hvalues⟩⟩
    intro x hx
    obtain ⟨row, hrow⟩ := List.exists_mem_of_ne_nil _ hrows
    obtain ⟨a, ha⟩ := hvalues row hrow
    obtain ⟨v, hv⟩ := bound_of_compute ha hx
    obtain ⟨i, hi, -⟩ := Samples.environment_eq_bound.1 hv
    exact Samples.position?_isSome.1 (Option.isSome_iff_exists.2 ⟨i, hi⟩)
  · intro hrows
    rw [evaluate_isOk_iff, hrows]
    refine and_iff_left ?_
    intro row hrow
    cases hrow
  · intro as has
    exact List.forall₂_map_left_iff.1 (tabulates_of_evaluate has)

end Formula

end Formulae
