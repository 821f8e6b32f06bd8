import Formulae.Proofs.Double.Comparison
import Formulae.Proofs.Spelling

/-! The text of a double. The shortest decimal number of a double is its own, and texts read back, so
finite doubles have the same text exactly when they are equal. -/
namespace Formulae.Number

def signed (negative : Bool) (cs : List Char) : List Char := if negative then '-' :: cs else cs

theorem toList_sign_append (negative : Bool) (cs : List Char) :
    (Format.sign negative ++ String.ofList cs).toList = signed negative cs := by
  cases negative <;> simp [Format.sign, signed]

theorem signed_inj {b b' : Bool} {cs cs' : List Char} (h : StartsWithDigit cs)
    (h' : StartsWithDigit cs') (heq : signed b cs = signed b' cs') : b = b' ∧ cs = cs' := by
  obtain ⟨c, r, rfl, hc⟩ := h
  obtain ⟨c', r', rfl, hc'⟩ := h'
  cases b with
  | false =>
    cases b' with
    | false => exact ⟨rfl, heq⟩
    | true =>
      cases heq
      cases hc
  | true =>
    cases b' with
    | false =>
      cases heq
      cases hc'
    | true =>
      cases heq
      exact ⟨rfl, rfl⟩

namespace Double

variable {x y : Float}

theorem parts_of_isFinite (h : Arithmetic.isFinite x) :
    ∃ b m e, Binary64.parts x = .finite b m e ∧ Canonical m e := by
  rw [parts_eq_ofUnpacked]
  rcases isFinite_cases h with ⟨s, hs⟩ | ⟨s, m, e, hm, hs, hcanonical⟩
  · rw [hs]
    exact ⟨_, _, _, rfl, by decide, by decide, by decide, .inr rfl⟩
  · rw [hs]
    exact ⟨_, _, _, rfl, hcanonical⟩

/-- The text of a double is that of a whole number or that of its shortest decimal number. -/
inductive TextOf (x : Float) (cs : List Char) : Prop where
  | whole (z : Int) (value : Arithmetic.rational? x = some z)
    (chars : cs = signed (z < 0) (Nat.toDigits 10 z.natAbs))
  | decimal (b : Bool) (m : Nat) (e : Int) (parts : Binary64.parts x = .finite b m e)
    (canonical : Canonical m e) (chars : cs = signed b (Format.readable.layout (shortest m e)))

theorem textOf_text (h : Arithmetic.isFinite x) : TextOf x (Number.text x).toList := by
  obtain ⟨r, hr⟩ := Option.isSome_iff_exists.1 h
  unfold Number.text
  rw [hr]
  dsimp only
  split
  · rename_i hwhole
    refine .whole r.num ?_ (toList_sign_append _ _)
    rw [hr, ← Rat.den_eq_one_iff r |>.1 hwhole.1]
    simp
  · obtain ⟨b, m, e, hparts, hcanonical⟩ := parts_of_isFinite h
    refine .decimal b m e hparts hcanonical ?_
    change (Format.readable.text x).toList = _
    unfold Format.text
    rw [hparts]
    exact toList_sign_append _ _

theorem startsWithDigit_toDigits (n : Nat) : StartsWithDigit (Nat.toDigits 10 n) := by
  obtain ⟨c, cs, h⟩ := List.exists_cons_of_ne_nil (Nat.toDigits_ne_nil (n := n) (b := 10))
  exact ⟨c, cs, h, isDigit_of_mem_toDigits (by rw [h]; exact List.mem_cons_self)⟩

theorem startsWithDigit_layout (s : Scientific) : StartsWithDigit (Format.readable.layout s) := by
  obtain ⟨p, hp⟩ := Spelling.spells_layout s
  rw [← hp.chars]
  exact Spelling.startsWithDigit_chars hp.proper

theorem layout_ne_toDigits (s : Scientific) (n : Nat) :
    Format.readable.layout s ≠ Nat.toDigits 10 n := by
  intro h
  obtain ⟨p, hp⟩ := Spelling.spells_layout s
  obtain ⟨c, hc, hmark⟩ := Spelling.exists_mark hp.proper
  rw [hp.chars, h] at hc
  exact hmark (isDigit_of_mem_toDigits hc)

theorem value_eq_of_layout_eq {s s' : Scientific}
    (h : Format.readable.layout s = Format.readable.layout s') : s.value = s'.value := by
  obtain ⟨p, hp⟩ := Spelling.spells_layout s
  obtain ⟨p', hp'⟩ := Spelling.spells_layout s'
  have hread := Spelling.unsigned?_chars hp.proper
  rw [hp.chars, h, ← hp'.chars, Spelling.unsigned?_chars hp'.proper] at hread
  rw [← hp.value, ← hp'.value, Option.some.inj hread]

theorem rational_eq_of_textOf {cs : List Char} (h : TextOf x cs) (h' : TextOf y cs) :
    Arithmetic.rational? x = Arithmetic.rational? y := by
  cases h with
  | whole z hz hchars =>
    cases h' with
    | whole z' hz' hchars' =>
      obtain ⟨hsign, hdigits⟩ := signed_inj (startsWithDigit_toDigits _)
        (startsWithDigit_toDigits _) (hchars.symm.trans hchars')
      have habs := congrArg Text.ofDigits hdigits
      rw [ofDigits_toDigits, ofDigits_toDigits] at habs
      have hneg := decide_eq_decide.1 hsign
      rw [hz, hz', show z = z' by omega]
    | decimal b m e _ _ hchars' =>
      obtain ⟨-, hlayout⟩ := signed_inj (startsWithDigit_toDigits _) (startsWithDigit_layout _)
        (hchars.symm.trans hchars')
      exact absurd hlayout.symm (layout_ne_toDigits _ _)
  | decimal b m e hparts hcanonical hchars =>
    cases h' with
    | whole z' _ hchars' =>
      obtain ⟨-, hlayout⟩ := signed_inj (startsWithDigit_layout _) (startsWithDigit_toDigits _)
        (hchars.symm.trans hchars')
      exact absurd hlayout (layout_ne_toDigits _ _)
    | decimal b' m' e' hparts' hcanonical' hchars' =>
      obtain ⟨rfl, hlayout⟩ := signed_inj (startsWithDigit_layout _) (startsWithDigit_layout _)
        (hchars.symm.trans hchars')
      obtain ⟨rfl, rfl⟩ :=
        shortest_injective hcanonical hcanonical' (value_eq_of_layout_eq hlayout)
      exact congrArg Binary64.Parts.rational? (hparts.trans hparts'.symm)

theorem text_congr (h : x == y) : Number.text x = Number.text y := by
  have hagree := (beq_iff.1 h).1
  have hrational : Arithmetic.rational? x = Arithmetic.rational? y := by
    rw [rational_eq, rational_eq, rational_congr hagree]
  cases hx : unpack x with
  | zero s =>
    have hzero : Arithmetic.rational? x = some 0 := by rw [rational_eq, hx, rational_zero]
    unfold Number.text
    rw [← hrational, hzero]
    rfl
  | _ =>
    rw [hx] at hagree
    generalize hy : unpack y = v at hagree
    cases hagree
    rw [unpack_injective (hx.trans hy.symm)]

theorem text_eq_iff (hx : Arithmetic.isFinite x) (hy : Arithmetic.isFinite y) :
    Number.text x = Number.text y ↔ x == y := by
  refine ⟨fun h => ?_, text_congr⟩
  obtain ⟨r, hr⟩ := Option.isSome_iff_exists.1 hx
  have htext := textOf_text hy
  rw [← h] at htext
  have hrational := rational_eq_of_textOf (textOf_text hx) htext
  exact beq_of_agree (agree_of_rational hr (hrational ▸ hr)) hx

theorem text_eq_signed (h : Arithmetic.isFinite x) : ∃ b cs, (Number.text x).toList = signed b cs ∧
    StartsWithDigit cs ∧ ∀ c ∈ cs, isNumeric c := by
  cases textOf_text h with
  | whole z _ hchars =>
    refine ⟨_, _, hchars, startsWithDigit_toDigits _, ?_⟩
    intro c hc
    simp [isNumeric, isDigit_of_mem_toDigits hc]
  | decimal b m e _ _ hchars =>
    refine ⟨_, _, hchars, startsWithDigit_layout _, ?_⟩
    intro c hc
    obtain ⟨p, hp⟩ := Spelling.spells_layout (shortest m e)
    rw [← hp.chars] at hc
    exact Spelling.isNumeric_of_mem_chars hp.proper hc

theorem isNumeric_of_mem_text (h : Arithmetic.isFinite x) {c : Char}
    (hc : c ∈ (Number.text x).toList) : isNumeric c := by
  obtain ⟨b, cs, htext, -, hnumeric⟩ := text_eq_signed h
  rw [htext] at hc
  cases b with
  | false => exact hnumeric c hc
  | true =>
    rcases List.mem_cons.1 hc with rfl | hc
    · rfl
    · exact hnumeric c hc

theorem exists_head_text (h : Arithmetic.isFinite x) :
    ∃ c cs, (Number.text x).toList = c :: cs ∧ (c = '-' ∨ c.isDigit) := by
  obtain ⟨b, cs, htext, ⟨c, r, rfl, hc⟩, -⟩ := text_eq_signed h
  cases b with
  | false => exact ⟨c, r, htext, .inr hc⟩
  | true => exact ⟨'-', c :: r, htext, .inl rfl⟩

end Double

end Formulae.Number
