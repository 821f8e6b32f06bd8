import Formulae.Proofs.Exact
import Formulae.RationalFunction

/-! Formulae that are found equivalent have the same exact value wherever both have one: the quotient
of polynomials that is worked out of a formula takes the formula's values. -/
namespace Formulae

variable {K : Type} [Field K]

namespace Monomial

def eval (xs : List K) (m : Monomial) : K := (List.zipWith (· ^ ·) xs m).prod

@[simp] theorem eval_nil (m : Monomial) : eval ([] : List K) m = 1 := rfl

@[simp] theorem eval_cons (x : K) (xs : List K) (i : Nat) (m : Monomial) :
    eval (x :: xs) (i :: m) = x ^ i * eval xs m := by
  simp [eval]

theorem eval_zero (xs : List K) (n : Nat) : eval xs (List.replicate n 0) = 1 := by
  induction xs generalizing n with
  | nil => rfl
  | cons x xs ih =>
    cases n with
    | zero => rfl
    | succ n => simp [List.replicate_succ, ih]

theorem eval_add {xs : List K} {m m' : Monomial} (hm : m.length = xs.length)
    (hm' : m'.length = xs.length) :
    eval xs (List.zipWith (· + ·) m m') = eval xs m * eval xs m' := by
  induction xs generalizing m m' with
  | nil => simp
  | cons x xs ih =>
    obtain ⟨i, m, rfl⟩ := List.exists_cons_of_length_eq_add_one hm
    obtain ⟨j, m', rfl⟩ := List.exists_cons_of_length_eq_add_one hm'
    rw [List.zipWith_cons_cons, eval_cons, eval_cons, eval_cons,
      ih (Nat.succ.inj hm) (Nat.succ.inj hm'), pow_add, mul_mul_mul_comm]

variable {ν : Type} [BEq ν] [LawfulBEq ν] {names : List ν} {x : ν}

def single (names : List ν) (x : ν) : Monomial := names.map fun y => if y == x then 1 else 0

theorem eval_single_of_not_mem (ρ : ν → K) (hx : x ∉ names) :
    eval (names.map ρ) (single names x) = 1 := by
  have hzero : single names x = List.replicate names.length 0 :=
    List.map_eq_replicate_iff.2 fun y hy => if_neg (by rintro h; exact hx (eq_of_beq h ▸ hy))
  rw [hzero, eval_zero]

theorem eval_single (ρ : ν → K) (hnodup : names.Nodup) (hx : x ∈ names) :
    eval (names.map ρ) (single names x) = ρ x := by
  induction names with
  | nil => cases hx
  | cons y names ih =>
    obtain ⟨hy, hnodup⟩ := List.nodup_cons.1 hnodup
    rw [single, List.map_cons, List.map_cons, eval_cons, ← single]
    by_cases hyx : y = x
    · subst hyx
      rw [eval_single_of_not_mem ρ hy, if_pos BEq.rfl, pow_one, mul_one]
    · have hmem : x ∈ names := (List.mem_cons.1 hx).resolve_left (Ne.symm hyx)
      rw [ih hnodup hmem, if_neg (by simpa using hyx), pow_zero, one_mul]

end Monomial

namespace SparsePolynomial

def HasArity (n : Nat) (p : SparsePolynomial) : Prop := ∀ t ∈ p, t.1.length = n

def timesTerm (s : Monomial × Rat) (q : SparsePolynomial) : SparsePolynomial :=
  q.map fun t => (List.zipWith (· + ·) s.1 t.1, s.2 * t.2)

theorem mul_eq_foldl (p q : SparsePolynomial) :
    p.mul q = p.foldl (fun sum s => add sum (timesTerm s q)) [] := by
  simp only [mul, add, timesTerm, List.foldl_map]

variable {n : Nat} {m : Monomial} {c : Rat} {p q : SparsePolynomial}

namespace HasArity

theorem addTerm (hm : m.length = n) (hp : p.HasArity n) :
    HasArity n (SparsePolynomial.addTerm m c p) := by
  induction p with
  | nil =>
    rw [SparsePolynomial.addTerm]
    split
    · exact hp
    · exact List.forall_mem_cons.2 ⟨hm, hp⟩
  | cons t p ih =>
    obtain ⟨ht, hp⟩ := List.forall_mem_cons.1 hp
    rw [SparsePolynomial.addTerm]
    split
    · split
      · exact hp
      · exact List.forall_mem_cons.2 ⟨ht, hp⟩
    · exact List.forall_mem_cons.2 ⟨ht, ih hp⟩

theorem add (hp : p.HasArity n) (hq : q.HasArity n) : (p.add q).HasArity n := by
  rw [SparsePolynomial.add]
  induction q generalizing p with
  | nil => exact hp
  | cons t q ih =>
    obtain ⟨ht, hq⟩ := List.forall_mem_cons.1 hq
    exact ih (hp.addTerm ht) hq

theorem neg (hp : p.HasArity n) : p.neg.HasArity n := by
  rintro _ ht
  obtain ⟨t, hmem, rfl⟩ := List.mem_map.1 ht
  exact hp t hmem

theorem timesTerm {s : Monomial × Rat} (hs : s.1.length = n) (hq : q.HasArity n) :
    (q.timesTerm s).HasArity n := by
  rintro _ ht
  obtain ⟨t, hmem, rfl⟩ := List.mem_map.1 ht
  rw [List.length_zipWith, hs, hq t hmem, min_self]

theorem mul (hp : p.HasArity n) (hq : q.HasArity n) : (p.mul q).HasArity n := by
  have run {sum p : SparsePolynomial} (hsum : sum.HasArity n) (hp : p.HasArity n) :
      HasArity n (p.foldl (fun sum s => sum.add (q.timesTerm s)) sum) := by
    induction p generalizing sum with
    | nil => exact hsum
    | cons s p ih =>
      obtain ⟨hs, hp⟩ := List.forall_mem_cons.1 hp
      exact ih (hsum.add (hq.timesTerm hs)) hp
  rw [mul_eq_foldl]
  exact run nofun hp

theorem constant (n : Nat) (c : Rat) : (constant n c).HasArity n :=
  addTerm List.length_replicate nofun

end HasArity

def eval (xs : List K) (p : SparsePolynomial) : K :=
  (p.map fun t => (t.2 : K) * Monomial.eval xs t.1).sum

variable {xs : List K}

@[simp] theorem eval_nil : eval xs [] = 0 := rfl

@[simp] theorem eval_cons (t : Monomial × Rat) (p : SparsePolynomial) :
    eval xs (t :: p) = t.2 * Monomial.eval xs t.1 + eval xs p :=
  List.sum_cons

@[simp] theorem eval_neg : eval xs p.neg = -eval xs p := by
  induction p with
  | nil => simp [neg]
  | cons t p ih =>
    rw [neg] at ih ⊢
    rw [List.map_cons, eval_cons, eval_cons, ih]
    push_cast
    ring

variable [CharZero K]

theorem eval_addTerm : eval xs (addTerm m c p) = c * Monomial.eval xs m + eval xs p := by
  induction p with
  | nil =>
    rw [addTerm]
    split
    · simp [*]
    · exact eval_cons _ _
  | cons t p ih =>
    rw [addTerm, eval_cons]
    split
    · rename_i hm
      have hsum : c * Monomial.eval xs m + (t.2 * Monomial.eval xs t.1 + eval xs p) =
          ((t.2 + c : Rat) : K) * Monomial.eval xs m + eval xs p := by
        rw [hm]
        push_cast
        ring
      rw [hsum]
      split
      · simp [*]
      · rw [eval_cons, hm]
    · rw [eval_cons, ih]
      ring

@[simp] theorem eval_add : eval xs (p.add q) = eval xs p + eval xs q := by
  rw [add]
  induction q generalizing p with
  | nil => simp
  | cons t q ih =>
    rw [List.foldl_cons, ih, eval_addTerm, eval_cons]
    ring

@[simp] theorem eval_sub : eval xs (p.sub q) = eval xs p - eval xs q := by
  rw [sub, eval_add, eval_neg, sub_eq_add_neg]

@[simp] theorem eval_constant (n : Nat) (c : Rat) : eval xs (constant n c) = c := by
  rw [constant, eval_addTerm, Monomial.eval_zero]
  simp

theorem eval_timesTerm {s : Monomial × Rat} (hs : s.1.length = xs.length)
    (hq : q.HasArity xs.length) :
    eval xs (timesTerm s q) = s.2 * Monomial.eval xs s.1 * eval xs q := by
  induction q with
  | nil => simp [timesTerm]
  | cons t q ih =>
    obtain ⟨ht, hq⟩ := List.forall_mem_cons.1 hq
    have htail := ih hq
    rw [timesTerm] at htail ⊢
    rw [List.map_cons, eval_cons, eval_cons, htail, Monomial.eval_add hs ht]
    push_cast
    ring

theorem eval_mul (hp : p.HasArity xs.length) (hq : q.HasArity xs.length) :
    eval xs (p.mul q) = eval xs p * eval xs q := by
  have run (sum : SparsePolynomial) {p : SparsePolynomial} (hp : p.HasArity xs.length) :
      eval xs (p.foldl (fun sum s => add sum (timesTerm s q)) sum) =
        eval xs sum + eval xs p * eval xs q := by
    induction p generalizing sum with
    | nil => simp
    | cons s p ih =>
      obtain ⟨hs, hp⟩ := List.forall_mem_cons.1 hp
      rw [List.foldl_cons, ih _ hp, eval_add, eval_timesTerm hs hq, eval_cons]
      ring
  rw [mul_eq_foldl, run [] hp, eval_nil, zero_add]

end SparsePolynomial

namespace RationalFunction

/-- At the given numbers the quotient has a value, which is `c`. -/
structure Takes (xs : List K) (a : RationalFunction) (c : K) : Prop where
  num_arity : a.num.HasArity xs.length
  den_arity : a.den.HasArity xs.length
  den_ne_zero : a.den.eval xs ≠ 0
  num_eval : a.num.eval xs = c * a.den.eval xs

namespace Takes

open SparsePolynomial (eval_mul)

variable {xs : List K} {a b : RationalFunction} {c d : K}

theorem neg (ha : a.Takes xs c) : a.neg.Takes xs (-c) where
  num_arity := ha.num_arity.neg
  den_arity := ha.den_arity
  den_ne_zero := ha.den_ne_zero
  num_eval := by simp [RationalFunction.neg, ha.num_eval]

theorem inv (ha : a.Takes xs c) (hc : c ≠ 0) : a.inv.Takes xs c⁻¹ where
  num_arity := ha.den_arity
  den_arity := ha.num_arity
  den_ne_zero := by
    rw [RationalFunction.inv, ha.num_eval]
    exact mul_ne_zero hc ha.den_ne_zero
  num_eval := by rw [RationalFunction.inv, ha.num_eval, inv_mul_cancel_left₀ hc]

variable [CharZero K]

theorem ofPolynomial {n : Nat} {p : SparsePolynomial} (hn : xs.length = n) (hp : p.HasArity n)
    (hc : p.eval xs = c) : (ofPolynomial n p).Takes xs c where
  num_arity := hn ▸ hp
  den_arity := hn ▸ .constant n 1
  den_ne_zero := by simp [RationalFunction.ofPolynomial]
  num_eval := by simp [RationalFunction.ofPolynomial, hc]

theorem eval_den_mul_ne_zero (ha : a.Takes xs c) (hb : b.Takes xs d) :
    (a.den.mul b.den).eval xs ≠ 0 := by
  rw [eval_mul ha.den_arity hb.den_arity]
  exact mul_ne_zero ha.den_ne_zero hb.den_ne_zero

theorem add (ha : a.Takes xs c) (hb : b.Takes xs d) : (a.add b).Takes xs (c + d) where
  num_arity := (ha.num_arity.mul hb.den_arity).add (hb.num_arity.mul ha.den_arity)
  den_arity := ha.den_arity.mul hb.den_arity
  den_ne_zero := ha.eval_den_mul_ne_zero hb
  num_eval := by
    rw [RationalFunction.add, SparsePolynomial.eval_add, eval_mul ha.num_arity hb.den_arity,
      eval_mul hb.num_arity ha.den_arity, eval_mul ha.den_arity hb.den_arity, ha.num_eval,
      hb.num_eval]
    ring

theorem mul (ha : a.Takes xs c) (hb : b.Takes xs d) : (a.mul b).Takes xs (c * d) where
  num_arity := ha.num_arity.mul hb.num_arity
  den_arity := ha.den_arity.mul hb.den_arity
  den_ne_zero := ha.eval_den_mul_ne_zero hb
  num_eval := by
    rw [RationalFunction.mul, eval_mul ha.num_arity hb.num_arity,
      eval_mul ha.den_arity hb.den_arity, ha.num_eval, hb.num_eval]
    ring

theorem eval [LinearOrder K] {op : BinaryOp} {v : K} (ha : a.Takes xs c) (hb : b.Takes xs d)
    (h : op.exactEval? c d = some v) : (RationalFunction.eval op a b).Takes xs v := by
  cases op with
  | add =>
    cases h
    exact ha.add hb
  | sub =>
    cases h
    rw [sub_eq_add_neg]
    exact ha.add hb.neg
  | mul =>
    cases h
    exact ha.mul hb
  | div =>
    obtain ⟨hd, rfl⟩ := BinaryOp.exactEval?_div_eq_some.1 h
    rw [div_eq_mul_inv]
    exact ha.mul (hb.inv hd)

theorem unique (h : a.same b) (ha : a.Takes xs c) (hb : b.Takes xs d) : c = d := by
  rw [same, Bool.and_eq_true, List.isEmpty_iff] at h
  have hzero := congrArg (SparsePolynomial.eval xs) h.2
  rw [SparsePolynomial.eval_sub, eval_mul ha.num_arity hb.den_arity,
    eval_mul hb.num_arity ha.den_arity, ha.num_eval, hb.num_eval, SparsePolynomial.eval_nil] at hzero
  have hdifference : (c - d) * (a.den.eval xs * b.den.eval xs) = 0 := by
    rw [← hzero]
    ring
  have hdens := mul_ne_zero ha.den_ne_zero hb.den_ne_zero
  exact sub_eq_zero.1 ((mul_eq_zero.1 hdifference).resolve_right hdens)

end Takes

end RationalFunction

namespace Formula

open RationalFunction

variable {ν α : Type} [BEq ν] [LawfulBEq ν] [Arithmetic α] [LinearOrder K] [IsStrictOrderedRing K]
  {F : ExactFunctions K} {ρ : ν → K} {e : Formula ν α} {c : K}

theorem takes_of_ofFormula? {names : List ν} (hnodup : names.Nodup) {f : RationalFunction}
    (hnames : ∀ x ∈ e.vars, x ∈ names) (hf : ofFormula? names e = some f)
    (hc : e.exactValue? F ρ = some c) : f.Takes (names.map ρ) c := by
  have hlength : (names.map ρ).length = names.length := List.length_map ρ
  induction e generalizing f c with
  | const a =>
    obtain ⟨q, hq, rfl⟩ := exactValue?_const_eq_some.1 hc
    rw [ofFormula?, hq] at hf
    cases hf
    exact .ofPolynomial hlength (.constant _ q) (SparsePolynomial.eval_constant _ q)
  | var x =>
    cases hf
    cases hc
    refine .ofPolynomial hlength (fun t ht => ?_) ?_
    · cases List.mem_singleton.1 ht
      exact List.length_map _
    · have hx := Monomial.eval_single ρ hnodup (hnames x List.mem_cons_self)
      rw [SparsePolynomial.eval_cons, ← Monomial.single, hx]
      simp
  | sign s e ih =>
    obtain ⟨a, ha, rfl⟩ := exactValue?_sign_eq_some.1 hc
    cases s with
    | plus => exact ih hnames hf ha
    | minus =>
      obtain ⟨g, hg, rfl⟩ := Option.map_eq_some_iff.1 hf
      exact (ih hnames hg ha).neg
  | binary op l r ihl ihr =>
    obtain ⟨hl, hr⟩ := forall_mem_vars_binary.1 hnames
    obtain ⟨a, b, ha, hb, hop⟩ := exactValue?_binary_eq_some.1 hc
    simp only [ofFormula?, Option.bind_eq_bind, Option.bind_eq_some_iff] at hf
    obtain ⟨g, hg, g', hg', hf⟩ := hf
    cases hf
    exact (ihl hl hg ha).eval (ihr hr hg' hb) hop
  | apply f e => cases hf

/-- Formulae that are found equivalent have the same exact value wherever both have one. -/
theorem exactValue?_eq_of_equivalent {a b : Formula ν α} (h : a.equivalent b) (F : ExactFunctions K)
    (ρ : ν → K) {c d : K} (hc : a.exactValue? F ρ = some c) (hd : b.exactValue? F ρ = some d) :
    c = d := by
  have hnodup := nodup_distinct (a.vars ++ b.vars)
  rw [equivalent] at h
  split at h
  · rename_i f g hf hg
    have hfc := takes_of_ofFormula? hnodup (by simp +contextual) hf hc
    have hgd := takes_of_ofFormula? hnodup (by simp +contextual) hg hd
    exact hfc.unique h hgd
  · cases h

example : (binary .div (binary .mul (var "x") (var "y")) (var "x") : Formula String Float).equivalent
    (binary .sub (var "y") (const 0)) := by
  decide +kernel

end Formula

end Formulae
