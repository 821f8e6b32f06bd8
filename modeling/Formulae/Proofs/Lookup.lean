import Mathlib.Algebra.Ring.Nat
import Mathlib.Data.List.FinRange
import Formulae.Formula.Traversal
import Formulae.Proofs.LevelOrder

/-! What is looked up by kind and by symbol. The nodes of the five kinds stand at places of their
own in the breadth-first listing, and no place is left over; the symbols of a kind tell its nodes
apart in the same way. There is one leaf more than there are binary operations. -/
namespace Formulae

theorem Kind.mem_all (k : Kind) : k ∈ Kind.all := by
  cases k <;> decide

/-- Sorting into classes neither loses a member nor repeats one: each goes into the class that it
belongs to, and into no other. -/
theorem perm_flatMap_filter {β κ : Type} [BEq κ] [LawfulBEq κ] {f : β → κ} {ks : List κ}
    {xs : List β} (hks : ks.Nodup) (hf : ∀ x ∈ xs, f x ∈ ks) :
    (ks.flatMap fun k => xs.filter fun x => f x == k).Perm xs := by
  induction xs with
  | nil => simp
  | cons x xs ih =>
    -- The class of `x` stands at one place of `ks`, and only there is the class larger than before.
    obtain ⟨as, bs, rfl⟩ := List.append_of_mem (hf x List.mem_cons_self)
    obtain ⟨-, hbs, hdisjoint⟩ := List.nodup_append.1 hks
    have hbefore : ∀ k ∈ as, f x ≠ k := fun k hk h => hdisjoint k hk _ List.mem_cons_self h.symm
    have hafter : ∀ k ∈ bs, f x ≠ k := fun k hk h => (List.nodup_cons.1 hbs).1 (h ▸ hk)
    have hother : ∀ k, f x ≠ k →
        ((x :: xs).filter fun y => f y == k) = xs.filter fun y => f y == k :=
      fun k hk => List.filter_cons_of_neg (by simpa using hk)
    have hrest := ih fun y hy => hf y (List.mem_cons_of_mem x hy)
    rw [List.flatMap_append, List.flatMap_cons] at hrest ⊢
    rw [List.flatMap_congr fun k hk => hother k (hbefore k hk),
      List.flatMap_congr fun k hk => hother k (hafter k hk), List.filter_cons_of_pos (by simp)]
    exact List.perm_middle.trans (hrest.cons x)

namespace Formula

variable {ν α : Type}

theorem mem_ofKind {e n : Formula ν α} {k : Kind} :
    n ∈ e.ofKind k ↔ n ∈ e.breadthFirst ∧ n.kind = k := by
  rw [ofKind, List.mem_filter, decide_eq_true_iff]

def places (e : Formula ν α) (k : Kind) : List (Fin e.breadthFirst.length) :=
  (List.finRange e.breadthFirst.length).filter fun i => e.breadthFirst[i].kind == k

theorem places_increasing (e : Formula ν α) (k : Kind) : (e.places k).Pairwise (· < ·) :=
  (List.pairwise_lt_finRange _).filter _

theorem map_places (e : Formula ν α) (k : Kind) :
    (e.places k).map (fun i => e.breadthFirst[i]) = e.ofKind k := by
  have hall : (List.finRange e.breadthFirst.length).map (fun i => e.breadthFirst[i]) =
      e.breadthFirst := List.map_getElem_finRange e.breadthFirst
  calc (e.places k).map (fun i => e.breadthFirst[i])
      = ((List.finRange e.breadthFirst.length).map fun i => e.breadthFirst[i]).filter
          fun n => n.kind == k := by rw [List.filter_map]; rfl
    _ = e.ofKind k := by rw [hall]; rfl

theorem places_perm (e : Formula ν α) :
    (Kind.all.flatMap e.places).Perm (List.finRange e.breadthFirst.length) :=
  perm_flatMap_filter (by decide) fun i _ => Kind.mem_all _

theorem sum_length_ofKind (e : Formula ν α) :
    (Kind.all.map fun k => (e.ofKind k).length).sum = e.size := by
  have hplaces := e.places_perm.length_eq
  rw [List.length_flatMap, List.length_finRange] at hplaces
  simp only [← map_places, List.length_map]
  exact hplaces.trans e.length_breadthFirst

/-- What is read off the nodes of a kind and shows the whole node loses none of them. -/
theorem map_filterMap_ofKind {β : Type} {f : Formula ν α → Option β} {g : β → Formula ν α}
    {k : Kind} (h : ∀ n : Formula ν α, n.kind = k → (f n).map g = some n) (e : Formula ν α) :
    ((e.ofKind k).filterMap f).map g = e.ofKind k := by
  rw [List.map_filterMap, List.filterMap_congr fun n hn => h n (mem_ofKind.1 hn).2,
    List.filterMap_some]

theorem map_const_constants (e : Formula ν α) : e.constants.map const = e.ofKind .const := by
  refine map_filterMap_ofKind (fun n hn => ?_) e
  cases n with
  | const a => rfl
  | var | sign | binary | apply => cases hn

theorem map_var_names (e : Formula ν α) : e.names.map var = e.ofKind .var := by
  refine map_filterMap_ofKind (fun n hn => ?_) e
  cases n with
  | var x => rfl
  | const | sign | binary | apply => cases hn

def tally (k : Kind) (nodes : List (Formula ν α)) : Nat := nodes.countP fun n => n.kind = k

theorem length_ofKind (e : Formula ν α) (k : Kind) :
    (e.ofKind k).length = tally k e.breadthFirst :=
  List.countP_eq_length_filter.symm

theorem tally_concat (k : Kind) (nodes : List (Formula ν α)) (e : Formula ν α) :
    tally k (nodes ++ [e]) = tally k nodes + tally k [e] :=
  List.countP_append

/-- A leaf has no operands, a binary operation has two, and any other node has one. -/
theorem tally_add_length_children (e : Formula ν α) :
    tally .const [e] + tally .var [e] + e.children.length = tally .binary [e] + 1 := by
  cases e <;> rfl

namespace Service

/-- The leaves that were served and the formulae that wait are `m` more than the binary operations
that were served. -/
def Balanced (m : Nat) (s : Service ν α) : Prop :=
  tally .const s.served + tally .var s.served + s.queue.length = tally .binary s.served + m

theorem turn_balanced {m : Nat} (s t : Service ν α) (h : s.turn = some t) (hs : s.Balanced m) :
    t.Balanced m := by
  rcases s with ⟨served, _ | ⟨e, queue⟩⟩
  · cases h
  · cases h
    have hchildren := e.tally_add_length_children
    simp only [Balanced, tally_concat, List.length_append, List.length_cons] at hs ⊢
    omega

end Service

/-- A formula has one leaf more than binary operations. -/
theorem length_leaves (e : Formula ν α) :
    e.constants.length + e.names.length = (e.ofKind .binary).length + 1 := by
  have hstart : (⟨[], [e]⟩ : Service ν α).Balanced 1 := rfl
  have hend : tally .const e.breadthFirst + tally .var e.breadthFirst =
      tally .binary e.breadthFirst + 1 :=
    (Service.ends ⟨[], [e]⟩).preserves hstart Service.turn_balanced
  rw [length_ofKind, ← hend, ← length_ofKind, ← length_ofKind, ← map_const_constants,
    ← map_var_names, List.length_map, List.length_map]

theorem withSymbol_symbol (e : Formula ν α) (h : Head) :
    e.withSymbol h.symbol = (e.ofKind h.kind).filter fun n => n.head == h := by
  rw [withSymbol, ofKind, List.filter_filter]
  refine List.filter_congr fun n _ => ?_
  rw [Bool.eq_iff_iff, Bool.and_eq_true, beq_iff_eq, beq_iff_eq, decide_eq_true_iff]
  refine ⟨fun hsymbol => ?_, ?_⟩
  · have hhead := Head.symbol_injective hsymbol
    exact ⟨hhead, congrArg Head.kind hhead⟩
  · rintro ⟨hhead, -⟩
    rw [hhead]

theorem withSymbol_sublist (e : Formula ν α) (h : Head) :
    (e.withSymbol h.symbol).Sublist (e.ofKind h.kind) := by
  rw [withSymbol_symbol]
  exact List.filter_sublist

theorem withSymbol_perm (e : Formula ν α) (k : Kind) :
    ((Head.all.filter fun h => h.kind == k).flatMap fun h => e.withSymbol h.symbol).Perm
      (e.ofKind k) := by
  have hfind : ∀ h ∈ Head.all.filter fun h => h.kind == k,
      e.withSymbol h.symbol = (e.ofKind k).filter fun n => n.head == h := by
    intro h hh
    rw [withSymbol_symbol, eq_of_beq (List.mem_filter.1 hh).2]
  have hnodup : Head.all.Nodup := by decide
  rw [List.flatMap_congr hfind]
  refine perm_flatMap_filter (hnodup.filter _) fun n hn => ?_
  exact List.mem_filter.2 ⟨Head.mem_all _, beq_iff_eq.2 (mem_ofKind.1 hn).2⟩

/-- The nodes of the five kinds are listed in the order in which the breadth-first listing has
them, at places that together are all places, each of them once; so their numbers add up to the
size. There is one constant or variable more than there are binary operations. The symbols of the
binary operations find these and nothing else, though two of them are written like signs, and the
words for the two signs find all that are signs. -/
theorem ofKind_partition_and_symbols (e : Formula ν α) :
    (∀ k, (e.ofKind k).Sublist e.breadthFirst ∧ (e.places k).Pairwise (· < ·) ∧
      (e.places k).map (fun i => e.breadthFirst[i]) = e.ofKind k) ∧
    (Kind.all.flatMap e.places).Perm (List.finRange e.breadthFirst.length) ∧
    (Kind.all.map fun k => (e.ofKind k).length).sum = e.size ∧
    (e.constants.map const = e.ofKind .const ∧ e.names.map var = e.ofKind .var) ∧
    e.constants.length + e.names.length = (e.ofKind .binary).length + 1 ∧
    (∀ op : BinaryOp, (e.withSymbol op.symbol).Sublist (e.ofKind .binary)) ∧
    (BinaryOp.all.flatMap fun op => e.withSymbol op.symbol).Perm (e.ofKind .binary) ∧
    (e.withSymbol "pos" ++ e.withSymbol "neg").Perm (e.ofKind .sign) := by
  have hbinary : (Head.all.filter fun h => h.kind == .binary) = BinaryOp.all.map .binary := rfl
  have hsign : (Head.all.filter fun h => h.kind == .sign) = [.sign .plus, .sign .minus] := rfl
  have hoperations := e.withSymbol_perm .binary
  have hsigns := e.withSymbol_perm .sign
  rw [hbinary, List.flatMap_map] at hoperations
  rw [hsign, List.flatMap_cons, List.flatMap_singleton] at hsigns
  exact ⟨fun k => ⟨List.filter_sublist, e.places_increasing k, e.map_places k⟩, e.places_perm,
    e.sum_length_ofKind, ⟨e.map_const_constants, e.map_var_names⟩, e.length_leaves,
    fun op => e.withSymbol_sublist (.binary op), hoperations, hsigns⟩

end Formula

end Formulae
