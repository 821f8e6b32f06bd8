import Formulae.Proofs.Redex

/-! What deleting leaves of a formula. A node may go and leave one of its operands, and a binary
operation may go and leave a constant; nothing is added, doubled or moved. Simplification does no
more than that, so its result is never larger nor deeper, and what is written in it was written in
the formula, in the same order. -/
namespace Formulae

inductive Label (ν : Type) where
  | symbol (s : String)
  | name (x : ν)
  deriving DecidableEq, Repr

namespace Formula

variable {ν α : Type}

def label? : Formula ν α → Option (Label ν)
  | const _ => none
  | var x => some (.name x)
  | e => some (.symbol e.head.symbol)

def labels (e : Formula ν α) : List (Label ν) := e.depthFirst.filterMap label?

theorem labels_binary (op : BinaryOp) (l r : Formula ν α) :
    (binary op l r).labels = .symbol op.symbol :: (l.labels ++ r.labels) :=
  congrArg (Label.symbol op.symbol :: ·) List.filterMap_append

theorem name_mem_labels {e : Formula ν α} {x : ν} :
    .name x ∈ e.labels ↔ var x ∈ e.depthFirst := by
  rw [labels, List.mem_filterMap]
  constructor
  · rintro ⟨n, hn, hlabel⟩
    cases n with
    | var y =>
      cases hlabel
      exact hn
    | _ => cases hlabel
  · intro h
    exact ⟨var x, h, rfl⟩

/-- `Remnant f e`: deleting nodes of `e` leaves `f`. -/
inductive Remnant : Formula ν α → Formula ν α → Prop where
  | refl (e : Formula ν α) : Remnant e e
  | const (a : α) (op : BinaryOp) (l r : Formula ν α) : Remnant (const a) (binary op l r)
  | operand (s : Sign) {f e : Formula ν α} (h : Remnant f e) : Remnant f (sign s e)
  | left (op : BinaryOp) {f l : Formula ν α} (r : Formula ν α) (h : Remnant f l) :
      Remnant f (binary op l r)
  | right (op : BinaryOp) {f r : Formula ν α} (l : Formula ν α) (h : Remnant f r) :
      Remnant f (binary op l r)
  | sign (s : Sign) {f e : Formula ν α} (h : Remnant f e) : Remnant (sign s f) (sign s e)
  | apply (g : Elementary) {f e : Formula ν α} (h : Remnant f e) :
      Remnant (apply g f) (apply g e)
  | binary (op : BinaryOp) {l r l' r' : Formula ν α} (hl : Remnant l' l) (hr : Remnant r' r) :
      Remnant (binary op l' r') (binary op l r)

namespace Remnant

variable {f e : Formula ν α}

theorem size_le (h : Remnant f e) : f.size ≤ e.size := by
  induction h with
  | refl => exact Nat.le_refl _
  | const => simp only [size]; omega
  | operand | left | right => simp only [size]; omega
  | sign | apply | binary => simp only [size]; omega

theorem eq_of_size_eq (h : Remnant f e) (hsize : f.size = e.size) : f = e := by
  induction h with
  | refl => rfl
  | const a op l r =>
    have := l.size_pos
    simp only [size] at hsize
    omega
  | operand s h =>
    have := h.size_le
    simp only [size] at hsize
    omega
  | left op r h | right op l h =>
    have := h.size_le
    simp only [size] at hsize
    omega
  | sign s _ ih | apply g _ ih =>
    simp only [size] at hsize
    rw [ih (by omega)]
  | binary op hl hr ihl ihr =>
    have := hl.size_le
    have := hr.size_le
    simp only [size] at hsize
    rw [ihl (by omega), ihr (by omega)]

theorem depth_le (h : Remnant f e) : f.depth ≤ e.depth := by
  induction h with
  | refl => exact Nat.le_refl _
  | const => simp only [depth]; omega
  | operand | left | right => simp only [depth]; omega
  | sign | apply | binary => simp only [depth]; omega

theorem labels_sublist (h : Remnant f e) : f.labels.Sublist e.labels := by
  induction h with
  | refl => exact List.Sublist.refl _
  | const => exact List.nil_sublist _
  | operand s _ ih => exact ih.cons _
  | left op r _ ih =>
    rw [labels_binary]
    exact (ih.trans (List.sublist_append_left _ _)).cons _
  | right op l _ ih =>
    rw [labels_binary]
    exact (ih.trans (List.sublist_append_right _ _)).cons _
  | sign s _ ih | apply g _ ih => exact ih.cons_cons _
  | binary op _ _ ihl ihr =>
    rw [labels_binary, labels_binary]
    exact (ihl.append ihr).cons_cons _

theorem mem_var (h : Remnant f e) {x : ν} (hx : var x ∈ f.depthFirst) : var x ∈ e.depthFirst :=
  name_mem_labels.1 (h.labels_sublist.subset (name_mem_labels.2 hx))

end Remnant

variable [Arithmetic α] [BEq ν]

theorem remnant_combine {op : BinaryOp} {l r l' r' : Formula ν α} (hl : Remnant l' l)
    (hr : Remnant r' r) : Remnant (combine op l' r') (binary op l r) := by
  rcases combine_cases op l' r' with ⟨rule, happlies, heq⟩ | ⟨-, heq⟩
  · rw [heq]
    cases happlies with
    | fold | cancel | zeroMul | mulZero => exact .const _ _ l r
    | zeroAdd | oneMul => exact .right _ l hr
    | addZero | mulOne | divOne => exact .left _ r hl
  · rw [heq]
    exact .binary op hl hr

theorem remnant_pass (e : Formula ν α) : Remnant e.pass e := by
  induction e with
  | const | var => exact .refl _
  | sign s e ih =>
    cases s with
    | plus => exact .operand .plus ih
    | minus => exact .sign .minus ih
  | apply g e ih => exact .apply g ih
  | binary op l r ihl ihr => exact remnant_combine ihl ihr

/-- Simplification only deletes: the result has fewer nodes unless it is the formula itself, it is
no deeper, and its labels are some of those of the formula, in the same order. -/
theorem simplify_only_deletes (e : Formula ν α) (limit : Nat) :
    (e.simplify limit).size ≤ e.size ∧
    ((e.simplify limit).size = e.size ↔ e.simplify limit = e) ∧
    (e.simplify limit).depth ≤ e.depth ∧
    (e.simplify limit).labels.Sublist e.labels := by
  rw [simplify_eq_pass]
  have h := remnant_pass e
  exact ⟨h.size_le, ⟨h.eq_of_size_eq, congrArg size⟩, h.depth_le, h.labels_sublist⟩

end Formula

end Formulae
