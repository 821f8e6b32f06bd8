import Formulae.Formula.Traversal
import Formulae.Proofs.Evaluation
import Formulae.Proofs.Texts

/-! Which faults a formula runs into. A node is at fault when it is a variable without a value, a
quotient whose divisor is zero, or a root of something negative. A formula has a value exactly when
none of its nodes, reached or not, is at fault; and the fault that it runs into first is that of one
of them. -/
namespace Formulae

namespace Fault

variable {ν α : Type}

/-- What a fault tells: a name, the operands of a quotient as they are shown, or a function with the
value that it refuses. -/
inductive Detail (ν α : Type) where
  | name (x : ν)
  | operands (dividend divisor : Except ValueFault (Shown ν))
  | domain (function : String) (value : α)
  | unusable (why : ValueFault)

def detail [Naming ν] [Arithmetic α] [Written α] : Fault ν α → Detail ν α
  | undefinedName x => .name x
  | zeroDivisor dividend divisor => .operands dividend.shown divisor.shown
  | negativeRadicand _ a => .domain (Elementary.display .sqrt) a
  | unusable why => .unusable why

end Fault

namespace Formula
open Arithmetic

variable {ν α : Type} [Arithmetic α] {env : Environment ν α} {w : Fault ν α} {a : α}

theorem compute_var_eq_error {x : ν} : (var x).compute env = .error w ↔
    (env x = .absent ∧ .undefinedName x = w) ∨ ∃ why, env x = .unusable why ∧ .unusable why = w := by
  rw [compute]
  cases env x <;> simp

theorem compute_sign_eq_error {s : Sign} {e : Formula ν α} :
    (sign s e).compute env = .error w ↔ e.compute env = .error w := by
  rw [compute, bind_eq_error]
  simp [pure, Except.pure]

theorem compute_div_eq_error {l r : Formula ν α} : (binary .div l r).compute env = .error w ↔
    r.compute env = .error w ∨ ∃ b, r.compute env = .ok b ∧
      ((b == 0 ∧ .zeroDivisor l r = w) ∨ (¬b == 0 ∧ l.compute env = .error w)) := by
  rw [compute, bind_eq_error]
  refine or_congr_right (exists_congr fun b => and_congr_right fun _ => ?_)
  by_cases hb : (b == 0) = true
  · simp [hb]
  · simp [hb, bind_eq_error, pure, Except.pure]

theorem compute_binary_eq_error {op : BinaryOp} {l r : Formula ν α} (hop : op ≠ .div) :
    (binary op l r).compute env = .error w ↔
      l.compute env = .error w ∨ ∃ a, l.compute env = .ok a ∧ r.compute env = .error w := by
  rw [compute, bind_eq_error]
  · simp [bind_eq_error, pure, Except.pure]
  · exact hop

theorem compute_apply_eq_error {f : Elementary} {e : Formula ν α} :
    (apply f e).compute env = .error w ↔ e.compute env = .error w ∨
      ∃ a, e.compute env = .ok a ∧ (f = .sqrt ∧ below a 0) ∧ .negativeRadicand e a = w := by
  rw [compute, bind_eq_error]
  refine or_congr_right (exists_congr fun a => and_congr_right fun _ => ?_)
  by_cases ha : f = .sqrt ∧ below a 0 = true
  · simp [ha]
  · simp [ha, pure, Except.pure]

/-- The node itself is at fault; its operands have the values that this takes. -/
inductive FaultAt (env : Environment ν α) : Formula ν α → Fault ν α → Prop where
  | undefinedName {x : ν} (h : env x = .absent) : FaultAt env (var x) (.undefinedName x)
  | unusable {x : ν} {why : ValueFault} (h : env x = .unusable why) :
      FaultAt env (var x) (.unusable why)
  | zeroDivisor {l r : Formula ν α} {b : α} (h : r.compute env = .ok b) (hb : b == 0) :
      FaultAt env (binary .div l r) (.zeroDivisor l r)
  | negativeRadicand {e : Formula ν α} {a : α} (h : e.compute env = .ok a) (ha : below a 0) :
      FaultAt env (apply .sqrt e) (.negativeRadicand e a)

/-- The fault that a formula runs into is that of one of its nodes. -/
theorem exists_faultAt_of_compute {e : Formula ν α} (h : e.compute env = .error w) :
    ∃ n ∈ e.depthFirst, FaultAt env n w := by
  induction e with
  | const a => cases h
  | var x =>
    refine ⟨var x, List.mem_cons_self, ?_⟩
    rcases compute_var_eq_error.1 h with ⟨hx, rfl⟩ | ⟨why, hx, rfl⟩
    · exact .undefinedName hx
    · exact .unusable hx
  | sign s e ih =>
    obtain ⟨n, hn, hfault⟩ := ih (compute_sign_eq_error.1 h)
    exact ⟨n, List.mem_cons_of_mem _ hn, hfault⟩
  | binary op l r ihl ihr =>
    have left (hl : l.compute env = .error w) : ∃ n ∈ (binary op l r).depthFirst, FaultAt env n w := by
      obtain ⟨n, hn, hfault⟩ := ihl hl
      exact ⟨n, mem_depthFirst_left hn, hfault⟩
    have right (hr : r.compute env = .error w) :
        ∃ n ∈ (binary op l r).depthFirst, FaultAt env n w := by
      obtain ⟨n, hn, hfault⟩ := ihr hr
      exact ⟨n, mem_depthFirst_right hn, hfault⟩
    by_cases hop : op = .div
    · subst hop
      rcases compute_div_eq_error.1 h with hr | ⟨b, hb, ⟨hz, rfl⟩ | ⟨-, hl⟩⟩
      · exact right hr
      · exact ⟨_, List.mem_cons_self, .zeroDivisor hb hz⟩
      · exact left hl
    · rcases (compute_binary_eq_error hop).1 h with hl | ⟨a, -, hr⟩
      · exact left hl
      · exact right hr
  | apply f e ih =>
    rcases compute_apply_eq_error.1 h with he | ⟨a, ha, ⟨rfl, hneg⟩, rfl⟩
    · obtain ⟨n, hn, hfault⟩ := ih he
      exact ⟨n, List.mem_cons_of_mem _ hn, hfault⟩
    · exact ⟨_, List.mem_cons_self, .negativeRadicand ha hneg⟩

theorem radicand_of_compute_error {e f : Formula ν α}
    (h : e.compute env = .error (.negativeRadicand f a)) : f.compute env = .ok a ∧ below a 0 := by
  obtain ⟨n, -, hfault⟩ := exists_faultAt_of_compute h
  cases hfault with
  | negativeRadicand hf hneg => exact ⟨hf, hneg⟩

/-- All nodes of a formula with a value have one: none is skipped. -/
theorem compute_of_mem_depthFirst {e n : Formula ν α} (h : e.compute env = .ok a)
    (hn : n ∈ e.depthFirst) : ∃ c, n.compute env = .ok c := by
  induction e generalizing a with
  | const | var =>
    cases List.mem_singleton.1 hn
    exact ⟨a, h⟩
  | sign s e ih =>
    rcases List.mem_cons.1 hn with rfl | hn
    · exact ⟨a, h⟩
    · obtain ⟨b, hb, -⟩ := compute_sign_eq_ok.1 h
      exact ih hb hn
  | binary op l r ihl ihr =>
    rcases List.mem_cons.1 hn with rfl | hn
    · exact ⟨a, h⟩
    · obtain ⟨b, c, hb, hc, -, -⟩ := compute_binary_eq_ok.1 h
      rcases List.mem_append.1 hn with hl | hr
      · exact ihl hb hl
      · exact ihr hc hr
  | apply f e ih =>
    rcases List.mem_cons.1 hn with rfl | hn
    · exact ⟨a, h⟩
    · obtain ⟨b, hb, -, -⟩ := compute_apply_eq_ok.1 h
      exact ih hb hn

theorem compute_of_faultAt {n : Formula ν α} (h : FaultAt env n w) : n.compute env = .error w := by
  cases h with
  | undefinedName hx => exact compute_var_eq_error.2 (.inl ⟨hx, rfl⟩)
  | unusable hx => exact compute_var_eq_error.2 (.inr ⟨_, hx, rfl⟩)
  | zeroDivisor hr hb => exact compute_div_eq_error.2 (.inr ⟨_, hr, .inl ⟨hb, rfl⟩⟩)
  | negativeRadicand he ha => exact compute_apply_eq_error.2 (.inr ⟨_, he, ⟨rfl, ha⟩, rfl⟩)

/-- The order of evaluation decides which fault is met, not whether one is. -/
theorem compute_isOk_iff {e : Formula ν α} :
    (∃ a, e.compute env = .ok a) ↔ ∀ n ∈ e.depthFirst, ∀ w, ¬FaultAt env n w := by
  constructor
  · rintro ⟨a, ha⟩ n hn w hfault
    obtain ⟨c, hc⟩ := compute_of_mem_depthFirst ha hn
    cases (compute_of_faultAt hfault).symm.trans hc
  · intro h
    cases he : e.compute env with
    | ok a => exact ⟨a, rfl⟩
    | error w =>
      obtain ⟨n, hn, hfault⟩ := exists_faultAt_of_compute he
      exact absurd hfault (h n hn w)

section Bindings

variable {b : ν → Option α}

omit [Arithmetic α] in
theorem ofValues_eq_absent_iff {x : ν} : Environment.ofValues b x = .absent ↔ b x = none := by
  unfold Environment.ofValues
  cases b x <;> simp

theorem compute_ofValues_isOk_iff {e : Formula ν α} : (∃ a, e.compute (.ofValues b) = .ok a) ↔
    (∀ x, var x ∈ e.depthFirst → ∃ a, b x = some a) ∧
    (∀ l r a, binary .div l r ∈ e.depthFirst → r.compute (.ofValues b) = .ok a → ¬a == 0) ∧
    ∀ f a, apply .sqrt f ∈ e.depthFirst → f.compute (.ofValues b) = .ok a → ¬below a 0 := by
  rw [compute_isOk_iff]
  constructor
  · intro h
    refine ⟨?_, ?_, ?_⟩
    · intro x hx
      rw [← Option.ne_none_iff_exists']
      exact fun hb => h _ hx _ (.undefinedName (ofValues_eq_absent_iff.2 hb))
    · exact fun l r a hn ha hz => h _ hn _ (.zeroDivisor ha hz)
    · exact fun f a hn ha hneg => h _ hn _ (.negativeRadicand ha hneg)
  · rintro ⟨hvars, hdivisors, hradicands⟩ n hn w hfault
    cases hfault with
    | undefinedName hx =>
      obtain ⟨a, ha⟩ := hvars _ hn
      simp [ofValues_eq_absent_iff, ha] at hx
    | unusable hx =>
      obtain ⟨a, ha⟩ := hvars _ hn
      simp [Environment.ofValues, ha] at hx
    | zeroDivisor hr hz => exact hdivisors _ _ _ hn hr hz
    | negativeRadicand he hneg => exact hradicands _ _ hn he hneg

variable [Naming ν] [Written α]

theorem detail_of_compute_ofValues {e : Formula ν α}
    (h : e.compute (.ofValues b) = .error w) :
    (∃ x, w.detail = .name x ∧ var x ∈ e.depthFirst ∧ b x = none) ∨
    (∃ l r a, w.detail = .operands l.shown r.shown ∧ binary .div l r ∈ e.depthFirst ∧
      r.compute (.ofValues b) = .ok a ∧ a == 0) ∨
    ∃ f a, w.detail = .domain "Sqrt" a ∧ apply .sqrt f ∈ e.depthFirst ∧
      f.compute (.ofValues b) = .ok a ∧ below a 0 := by
  obtain ⟨n, hn, hfault⟩ := exists_faultAt_of_compute h
  cases hfault with
  | undefinedName hx => exact .inl ⟨_, rfl, hn, ofValues_eq_absent_iff.1 hx⟩
  | @unusable x why hx =>
    unfold Environment.ofValues at hx
    cases hb : b x <;> simp [hb] at hx
  | zeroDivisor hr hz => exact .inr (.inl ⟨_, _, _, rfl, hn, hr, hz⟩)
  | negativeRadicand he hneg => exact .inr (.inr ⟨_, _, rfl, hn, he, hneg⟩)

/-- Where names stand for numbers a formula has a value exactly when all its variables are bound, no
divisor is zero and no radicand is negative. Otherwise it runs into one of three faults, each of
which tells of a node at fault: its name, its operands as they are shown, or the value of its
radicand. -/
theorem compute_isOk_iff_and_detail (b : ν → Option α) (e : Formula ν α) :
    ((∃ a, e.compute (.ofValues b) = .ok a) ↔
      (∀ x, var x ∈ e.depthFirst → ∃ a, b x = some a) ∧
      (∀ l r a, binary .div l r ∈ e.depthFirst → r.compute (.ofValues b) = .ok a → ¬a == 0) ∧
      ∀ f a, apply .sqrt f ∈ e.depthFirst → f.compute (.ofValues b) = .ok a → ¬below a 0) ∧
    ∀ w, e.compute (.ofValues b) = .error w →
      (∃ x, w.detail = .name x ∧ var x ∈ e.depthFirst ∧ b x = none) ∨
      (∃ l r a, w.detail = .operands l.shown r.shown ∧ binary .div l r ∈ e.depthFirst ∧
        r.compute (.ofValues b) = .ok a ∧ a == 0) ∨
      ∃ f a, w.detail = .domain "Sqrt" a ∧ apply .sqrt f ∈ e.depthFirst ∧
        f.compute (.ofValues b) = .ok a ∧ below a 0 := by
  refine ⟨compute_ofValues_isOk_iff, ?_⟩
  intro w h
  exact detail_of_compute_ofValues h

end Bindings

end Formula

end Formulae
