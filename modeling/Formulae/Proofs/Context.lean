import Formulae.Proofs.FirstPass

/-! Formulae with a hole. Simplification works from the leaves to the root, so all that it sees of a
part is what the part is simplified to: parts that are simplified to the same formula can stand for
each other, and simplifying one early does not change the result. -/
namespace Formulae

/-- A formula with a hole in the place of one of its parts. -/
inductive Context (ν α : Type) where
  | hole
  | sign (s : Sign) (C : Context ν α)
  | left (op : BinaryOp) (C : Context ν α) (r : Formula ν α)
  | right (op : BinaryOp) (l : Formula ν α) (C : Context ν α)
  | apply (f : Elementary) (C : Context ν α)

namespace Context

variable {ν α : Type}

def fill : Context ν α → Formula ν α → Formula ν α
  | hole, e => e
  | sign s C, e => .sign s (C.fill e)
  | left op C r, e => .binary op (C.fill e) r
  | right op l C, e => .binary op l (C.fill e)
  | apply f C, e => .apply f (C.fill e)

theorem exists_fill_eq_of_mem {e n : Formula ν α} (h : n ∈ e.depthFirst) :
    ∃ C : Context ν α, C.fill n = e := by
  induction e with
  | const | var =>
    cases List.mem_singleton.1 h
    exact ⟨hole, rfl⟩
  | sign s e ih =>
    rcases List.mem_cons.1 h with rfl | h
    · exact ⟨hole, rfl⟩
    · obtain ⟨C, hC⟩ := ih h
      exact ⟨sign s C, by rw [fill, hC]⟩
  | binary op l r ihl ihr =>
    rcases List.mem_cons.1 h with rfl | h
    · exact ⟨hole, rfl⟩
    · rcases List.mem_append.1 h with hl | hr
      · obtain ⟨C, hC⟩ := ihl hl
        exact ⟨left op C r, by rw [fill, hC]⟩
      · obtain ⟨C, hC⟩ := ihr hr
        exact ⟨right op l C, by rw [fill, hC]⟩
  | apply f e ih =>
    rcases List.mem_cons.1 h with rfl | h
    · exact ⟨hole, rfl⟩
    · obtain ⟨C, hC⟩ := ih h
      exact ⟨apply f C, by rw [fill, hC]⟩

variable [Arithmetic α] [BEq ν]

/-- A pass sees of the part in the hole only what the part itself is simplified to. -/
theorem pass_fill_congr (C : Context ν α) {e f : Formula ν α} (h : e.pass = f.pass) :
    (C.fill e).pass = (C.fill f).pass := by
  induction C with
  | hole => exact h
  | sign s C ih =>
    cases s with
    | plus => exact ih
    | minus => exact congrArg (Formula.sign .minus) ih
  | left op C r ih => exact congrArg (Formula.combine op · r.pass) ih
  | right op l C ih => exact congrArg (Formula.combine op l.pass) ih
  | apply f C ih => exact congrArg (Formula.apply f) ih

theorem pass_fill_pass (C : Context ν α) (e : Formula ν α) :
    (C.fill e.pass).pass = (C.fill e).pass :=
  C.pass_fill_congr (Formula.pass_pass e)

end Context

namespace Formula

variable {ν α : Type} [Naming ν] {C : Context ν α} {e f : Formula ν α}

theorem HasTexts.refill (h : (C.fill e).HasTexts) (hf : f.HasTexts) : (C.fill f).HasTexts := by
  induction C with
  | hole => exact hf
  | sign s C ih => exact hasTexts_sign.2 (ih (hasTexts_sign.1 h))
  | left op C r ih =>
    obtain ⟨hC, hr⟩ := hasTexts_binary.1 h
    exact hasTexts_binary.2 ⟨ih hC, hr⟩
  | right op l C ih =>
    obtain ⟨hl, hC⟩ := hasTexts_binary.1 h
    exact hasTexts_binary.2 ⟨hl, ih hC⟩
  | apply f C ih => exact hasTexts_apply.2 (ih (hasTexts_apply.1 h))

theorem HasTexts.of_fill (h : (C.fill e).HasTexts) : e.HasTexts := by
  induction C with
  | hole => exact h
  | sign s C ih => exact ih (hasTexts_sign.1 h)
  | left op C r ih => exact ih (hasTexts_binary.1 h).1
  | right op l C ih => exact ih (hasTexts_binary.1 h).2
  | apply f C ih => exact ih (hasTexts_apply.1 h)

end Formula

namespace Expression

/-- Every part of an expression fills a hole in it. Simplifying what fills a hole, under any limit,
and then the whole gives in every journal what simplifying the whole at once gives. -/
theorem simplified_fill_simplified (f : Expression) (hf : f.HasTexts) :
    (∀ e ∈ f.depthFirst, ∃ C : Context Name Float, C.fill e = f) ∧
    ∀ (C : Context Name Float) (e : Expression), C.fill e = f →
      ∀ early limit : Int, 1 ≤ early → 1 ≤ limit → ∃ part whole : Expression,
        (∃ rs, (simplified (.int early) e).Emits part rs) ∧
        (∃ rs, (simplified (.int limit) (C.fill part)).Emits whole rs) ∧
        ∃ rs, (simplified (.int limit) f).Emits whole rs := by
  refine ⟨fun e he => Context.exists_fill_eq_of_mem he, ?_⟩
  rintro C e rfl early limit hearly hlimit
  have hpart : e.HasTexts := hf.of_fill
  obtain ⟨rs, hfirst, -⟩ := exists_simplified_emits hpart
  obtain ⟨rs', hthen, -⟩ := exists_simplified_emits (hf.refill hpart.pass)
  obtain ⟨rs'', hatonce, -⟩ := exists_simplified_emits hf
  refine ⟨e.pass, (C.fill e).pass, ⟨rs, hfirst early hearly⟩, ⟨rs', ?_⟩, rs'', hatonce limit hlimit⟩
  rw [← C.pass_fill_pass e]
  exact hthen limit hlimit

def difference : Context Name Float :=
  .left .div (.apply .sin (.left .sub .hole (.var (.text "x"))))
    (.binary .mul (.const 1) (.var (.text "y")))

def padded : Expression :=
  .binary .add (.binary .mul (.const 0) (.var (.text "y"))) (.var (.text "x"))

/-- What fills the hole becomes a variable, and only then is it equal to what is subtracted. -/
theorem padded_simplified : (difference.fill padded).HasTexts ∧
    (∃ rs, (simplified (.int 3) padded).Emits (.var (.text "x")) rs) ∧
    (∃ rs, (simplified (.int 8) (difference.fill (.var (.text "x")))).Emits
      (.binary .div (.apply .sin (.const 0)) (.var (.text "y"))) rs) ∧
    ∃ rs, (simplified (.int 8) (difference.fill padded)).Emits
      (.binary .div (.apply .sin (.const 0)) (.var (.text "y"))) rs := by
  have hx : (Formula.var (.text "x") : Expression).HasTexts := Formula.hasTexts_var.2 rfl
  have hy : (Formula.var (.text "y") : Expression).HasTexts := Formula.hasTexts_var.2 rfl
  have hpadded : padded.HasTexts := Formula.hasTexts_binary.2
    ⟨Formula.hasTexts_binary.2 ⟨Formula.hasTexts_const _, hy⟩, hx⟩
  have hwhole : (difference.fill padded).HasTexts := Formula.hasTexts_binary.2
    ⟨Formula.hasTexts_apply.2 (Formula.hasTexts_binary.2 ⟨hpadded, hx⟩),
      Formula.hasTexts_binary.2 ⟨Formula.hasTexts_const _, hy⟩⟩
  obtain ⟨-, hstaged⟩ := simplified_fill_simplified _ hwhole
  obtain ⟨part, whole, ⟨rs, hpart⟩, hrest, hatonce⟩ :=
    hstaged difference padded rfl 3 8 (by decide) (by decide)
  obtain rfl : part = .var (.text "x") := by
    obtain ⟨_, hpass, -⟩ := exists_simplified_emits hpadded
    exact hpart.result_eq (hpass 3 (by decide))
  obtain rfl : whole = .binary .div (.apply .sin (.const 0)) (.var (.text "y")) := by
    obtain ⟨_, hpass, -⟩ := exists_simplified_emits hwhole
    obtain ⟨_, hwhole⟩ := hatonce
    refine (hwhole.result_eq (hpass 8 (by decide))).trans ?_
    simp only [difference, padded, Context.fill, Formula.pass]
    rfl
  exact ⟨hwhole, ⟨rs, hpart⟩, hrest, hatonce⟩

end Expression

end Formulae
