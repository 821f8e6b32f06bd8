import Formulae.Number.Numeral
import Formulae.Proofs.Double.Shortest

/-! How decimal numbers are spelled. Whatever the layout, the text is digits, perhaps with a point or
an exponent, and it reads back as a decimal number of the same value. -/
namespace Formulae.Number

theorem ofDigits_append (cs ds : List Char) :
    Text.ofDigits (cs ++ ds) = 10 ^ ds.length * Text.ofDigits cs + Text.ofDigits ds := by
  change Nat.ofDigitChars 10 (cs ++ ds) 0 = _
  rw [Nat.ofDigitChars_append, Nat.ofDigitChars_eq_ofDigitChars_zero]
  rfl

theorem ofDigits_zeros (n : Nat) : Text.ofDigits (Format.zeros n) = 0 := by
  change Nat.ofDigitChars 10 (List.replicate n '0') 0 = 0
  rw [Nat.ofDigitChars_replicate_zero, Nat.mul_zero]

theorem ofDigits_toDigits (n : Nat) : Text.ofDigits (Nat.toDigits 10 n) = n :=
  Nat.ofDigitChars_toDigits (by decide) (by decide)

theorem ofDigits_padded (width n : Nat) : Text.ofDigits (Format.padded width n) = n := by
  unfold Format.padded
  dsimp only
  rw [ofDigits_append, ofDigits_zeros, Nat.mul_zero, Nat.zero_add, ofDigits_toDigits]

theorem isDigit_of_mem_toDigits {n : Nat} {c : Char} (h : c ∈ Nat.toDigits 10 n) : c.isDigit :=
  Nat.isDigit_of_mem_toDigits (by decide) (by decide) h

theorem isDigit_of_mem_zeros {n : Nat} {c : Char} (h : c ∈ Format.zeros n) : c.isDigit := by
  rw [List.eq_of_mem_replicate h]
  decide

theorem isDigit_of_mem_padded {width n : Nat} {c : Char} (h : c ∈ Format.padded width n) :
    c.isDigit := by
  rcases List.mem_append.1 h with hzero | hdigit
  · exact isDigit_of_mem_zeros hzero
  · exact isDigit_of_mem_toDigits hdigit

theorem padded_ne_nil (width n : Nat) : Format.padded width n ≠ [] :=
  List.append_ne_nil_of_right_ne_nil _ Nat.toDigits_ne_nil

def isNumeric (c : Char) : Bool := c.isDigit || c ∈ ['.', 'e', '+', '-']

def StartsWithDigit (cs : List Char) : Prop := ∃ c r, cs = c :: r ∧ c.isDigit

theorem splitSign_sign (negative : Bool) (cs : List Char) :
    Numeral.splitSign ((if negative then '-' else '+') :: cs) = (negative, cs) := by
  cases negative <;> rfl

theorem exponent?_exponent (e : Int) : Numeral.exponent? (Format.readable.exponent e) = some e := by
  have hdigits : (Format.padded 2 e.natAbs).all Char.isDigit = true :=
    List.all_eq_true.2 fun _ => isDigit_of_mem_padded
  have hexponent : Format.readable.exponent e =
      'e' :: (if decide (e < 0) then '-' else '+') :: Format.padded 2 e.natAbs := by
    simp [Format.exponent, Format.readable]
  rw [hexponent, Numeral.exponent?, splitSign_sign]
  dsimp only
  rw [if_pos ⟨.inl rfl, padded_ne_nil 2 _, hdigits⟩, ofDigits_padded]
  simp only [decide_eq_true_eq]
  congr 1
  split <;> omega

/-- A numeral without its sign: digits, further digits after a point, and an exponent. -/
structure Spelling where
  whole : List Char
  fraction : List Char
  exponent? : Option Int

namespace Spelling

def point : List Char → List Char
  | [] => []
  | c :: cs => '.' :: c :: cs

def suffix : Option Int → List Char
  | none => []
  | some e => Format.readable.exponent e

def chars (p : Spelling) : List Char := p.whole ++ (point p.fraction ++ suffix p.exponent?)

def scientific (p : Spelling) : Scientific :=
  ⟨Text.ofDigits (p.whole ++ p.fraction), p.exponent?.getD 0 - p.fraction.length⟩

/-- The digits are digits, one stands in front, and not all of the text is digits. -/
structure Proper (p : Spelling) : Prop where
  whole_ne_nil : p.whole ≠ []
  whole_digits : ∀ c ∈ p.whole, c.isDigit
  fraction_digits : ∀ c ∈ p.fraction, c.isDigit
  marked : p.fraction ≠ [] ∨ p.exponent?.isSome

variable {p : Spelling}

theorem exponent?_suffix (e? : Option Int) : Numeral.exponent? (suffix e?) = some (e?.getD 0) := by
  cases e? with
  | none => rfl
  | some e => exact exponent?_exponent e

theorem suffix_of_cons {e? : Option Int} {c : Char} {cs : List Char} (h : suffix e? = c :: cs) :
    c = 'e' := by
  cases e? with
  | none => cases h
  | some e =>
    cases h
    rfl

theorem takeWhile_suffix (e? : Option Int) : (suffix e?).takeWhile Char.isDigit = [] ∧
    (suffix e?).dropWhile Char.isDigit = suffix e? := by
  cases e? with
  | none => exact ⟨rfl, rfl⟩
  | some e => exact ⟨rfl, rfl⟩

theorem unsigned?_chars (h : p.Proper) : Numeral.unsigned? p.chars = some p.scientific := by
  obtain ⟨whole, fraction, e?⟩ := p
  have hwhole := h.whole_digits
  have hfraction := h.fraction_digits
  dsimp only at hwhole hfraction
  obtain ⟨htake, hdrop⟩ := takeWhile_suffix e?
  have hexponent := exponent?_suffix e?
  have hempty : whole.isEmpty = false := List.isEmpty_eq_false_iff.2 h.whole_ne_nil
  unfold Numeral.unsigned? chars scientific
  dsimp only
  rw [List.takeWhile_append_of_pos hwhole, List.dropWhile_append_of_pos hwhole]
  cases fraction with
  | nil =>
    rw [point, List.nil_append, htake, hdrop, List.append_nil]
    split
    · rename_i hpoint
      exact absurd (suffix_of_cons hpoint) (by decide)
    · rw [hempty, hexponent, List.append_nil]
      rfl
  | cons c cs =>
    have hpoint : (point (c :: cs) ++ suffix e?).takeWhile Char.isDigit = [] ∧
        (point (c :: cs) ++ suffix e?).dropWhile Char.isDigit = '.' :: (c :: cs ++ suffix e?) :=
      ⟨rfl, rfl⟩
    rw [hpoint.1, hpoint.2, List.append_nil]
    split
    · rename_i r hr
      rw [← (List.cons.inj hr).2, List.takeWhile_append_of_pos hfraction,
        List.dropWhile_append_of_pos hfraction, htake, hdrop, hempty, hexponent, List.append_nil]
      rfl
    · rename_i hother
      exact absurd rfl (hother _)

theorem point_of_ne_nil {cs : List Char} (h : cs ≠ []) : point cs = '.' :: cs := by
  cases cs with
  | nil => exact absurd rfl h
  | cons c cs => rfl

theorem length_zeros (n : Nat) : (Format.zeros n).length = n := List.length_replicate

/-- `p` spells `cs` and is worth `r`. -/
structure Spells (p : Spelling) (cs : List Char) (r : Rat) : Prop where
  proper : p.Proper
  chars : p.chars = cs
  value : p.scientific.value = r

variable {ds : List Char}

theorem spells_below_one (n : Nat) (hnil : ds ≠ []) (hdigits : ∀ c ∈ ds, c.isDigit) :
    Spells ⟨Format.zeros 1, Format.zeros n ++ ds, none⟩ ('0' :: '.' :: Format.zeros n ++ ds)
      (Text.ofDigits ds * (10 : Rat) ^ (-(n : Int) - ds.length)) := by
  have hfraction : Format.zeros n ++ ds ≠ [] := List.append_ne_nil_of_right_ne_nil _ hnil
  have hcoefficient :
      Text.ofDigits (Format.zeros 1 ++ (Format.zeros n ++ ds)) = Text.ofDigits ds := by
    rw [ofDigits_append, ofDigits_append, ofDigits_zeros, ofDigits_zeros]
    omega
  have hexponent : 0 - ((Format.zeros n ++ ds).length : Int) = -(n : Int) - ds.length := by
    rw [List.length_append, length_zeros]
    omega
  refine ⟨⟨nofun, fun c => isDigit_of_mem_zeros, ?_, .inl hfraction⟩, ?_, ?_⟩
  · intro c hc
    exact (List.mem_append.1 hc).elim isDigit_of_mem_zeros (hdigits c)
  · rw [chars, point_of_ne_nil hfraction, suffix, List.append_nil]
    rfl
  · rw [Scientific.value, scientific, hcoefficient]
    dsimp only [Option.getD_none]
    rw [hexponent]

theorem spells_whole (n : Nat) (hnil : ds ≠ []) (hdigits : ∀ c ∈ ds, c.isDigit) :
    Spells ⟨ds ++ Format.zeros n, Format.zeros 1, none⟩ (ds ++ Format.zeros n ++ ['.', '0'])
      (Text.ofDigits ds * (10 : Rat) ^ n) := by
  have hcoefficient : Text.ofDigits (ds ++ Format.zeros n ++ Format.zeros 1) =
      10 * (10 ^ n * Text.ofDigits ds) := by
    rw [ofDigits_append, ofDigits_append, ofDigits_zeros, ofDigits_zeros, length_zeros,
      length_zeros]
    rfl
  refine ⟨⟨?_, ?_, fun c => isDigit_of_mem_zeros, .inl nofun⟩, rfl, ?_⟩
  · exact List.append_ne_nil_of_left_ne_nil hnil _
  · intro c hc
    exact (List.mem_append.1 hc).elim (hdigits c) isDigit_of_mem_zeros
  · rw [Scientific.value, scientific, hcoefficient]
    dsimp only [Option.getD_none]
    rw [length_zeros]
    push_cast
    norm_num
    ring

theorem spells_between {n : Nat} (hpos : 0 < n) (hlt : n < ds.length)
    (hdigits : ∀ c ∈ ds, c.isDigit) :
    Spells ⟨ds.take n, ds.drop n, none⟩ (ds.take n ++ '.' :: ds.drop n)
      (Text.ofDigits ds * (10 : Rat) ^ ((n : Int) - ds.length)) := by
  have hfraction : ds.drop n ≠ [] := fun h => by
    have := List.drop_eq_nil_iff.1 h
    omega
  have hexponent : 0 - ((ds.drop n).length : Int) = n - ds.length := by
    rw [List.length_drop]
    omega
  refine ⟨⟨?_, ?_, ?_, .inl hfraction⟩, ?_, ?_⟩
  · intro h
    rcases List.take_eq_nil_iff.1 h with hzero | rfl
    · omega
    · exact absurd hlt (Nat.not_lt_zero n)
  · exact fun c hc => hdigits c (List.mem_of_mem_take hc)
  · exact fun c hc => hdigits c (List.mem_of_mem_drop hc)
  · rw [chars, point_of_ne_nil hfraction, suffix, List.append_nil]
  · rw [Scientific.value, scientific]
    dsimp only [Option.getD_none]
    rw [List.take_append_drop, hexponent]

theorem spells_positional (places : Int) (hnil : ds ≠ []) (hdigits : ∀ c ∈ ds, c.isDigit) :
    ∃ p, Spells p (Format.readable.positional ds places)
      (Text.ofDigits ds * (10 : Rat) ^ (places - ds.length)) := by
  unfold Format.positional
  by_cases hsmall : places ≤ 0
  · rw [if_pos hsmall]
    have hspells := spells_below_one (-places).toNat hnil hdigits
    rw [show -((-places).toNat : Int) = places by omega] at hspells
    exact ⟨_, hspells⟩
  · rw [if_neg hsmall]
    dsimp only
    by_cases hwhole : ds.length ≤ places.toNat
    · rw [if_pos hwhole]
      have hspells := spells_whole (places.toNat - ds.length) hnil hdigits
      rw [← zpow_natCast,
        show ((places.toNat - ds.length : Nat) : Int) = places - ds.length by omega] at hspells
      exact ⟨_, hspells⟩
    · rw [if_neg hwhole]
      have hspells := spells_between (show 0 < places.toNat by omega) (by omega) hdigits
      rw [show (places.toNat : Int) = places by omega] at hspells
      exact ⟨_, hspells⟩

theorem spells_scientific (e : Int) (hnil : ds ≠ [])
    (hdigits : ∀ c ∈ ds, c.isDigit) : ∃ p, Spells p (Format.readable.scientific ds e)
      (Text.ofDigits ds * (10 : Rat) ^ (e + 1 - ds.length)) := by
  cases ds with
  | nil => exact absurd rfl hnil
  | cons d ds =>
    refine ⟨⟨[d], ds, some e⟩, ⟨nofun, ?_, ?_, .inr rfl⟩, ?_, ?_⟩
    · intro c hc
      rw [List.mem_singleton.1 hc]
      exact hdigits d List.mem_cons_self
    · exact fun c hc => hdigits c (List.mem_cons_of_mem d hc)
    · cases ds with
      | nil => rfl
      | cons c cs => rfl
    · have hexponent : e - (ds.length : Int) = e + 1 - ((d :: ds).length : Int) := by
        rw [List.length_cons]
        omega
      rw [← hexponent]
      rfl

theorem spells_layout (s : Scientific) : ∃ p, Spells p (Format.readable.layout s) s.value := by
  have hnil : s.digits ≠ [] := Nat.toDigits_ne_nil
  have hdigits : ∀ c ∈ s.digits, c.isDigit := fun _ => isDigit_of_mem_toDigits
  have hvalue : s.value = Text.ofDigits s.digits *
      (10 : Rat) ^ (s.leadingExponent + 1 - s.digits.length) := by
    have hexponent : s.leadingExponent + 1 - s.digits.length = s.exponent := by
      unfold Scientific.leadingExponent
      omega
    rw [hexponent, Scientific.digits, ofDigits_toDigits]
    rfl
  rw [hvalue]
  unfold Format.layout
  dsimp only
  split
  · exact spells_positional _ hnil hdigits
  · exact spells_scientific _ hnil hdigits

theorem isNumeric_of_mem_chars (h : p.Proper) {c : Char} (hc : c ∈ p.chars) : isNumeric c := by
  have hdigit {c : Char} (h : c.isDigit) : isNumeric c := by simp [isNumeric, h]
  rcases List.mem_append.1 hc with hwhole | hrest
  · exact hdigit (h.whole_digits c hwhole)
  rcases List.mem_append.1 hrest with hpoint | hsuffix
  · cases hfraction : p.fraction with
    | nil =>
      rw [hfraction] at hpoint
      cases hpoint
    | cons d ds =>
      rw [point_of_ne_nil (by rw [hfraction]; exact nofun)] at hpoint
      rcases List.mem_cons.1 hpoint with rfl | hdigits
      · rfl
      · exact hdigit (h.fraction_digits c hdigits)
  · cases hexponent : p.exponent? with
    | none =>
      rw [hexponent] at hsuffix
      cases hsuffix
    | some e =>
      rw [hexponent] at hsuffix
      rcases List.mem_cons.1 hsuffix with rfl | hsign
      · rfl
      rcases List.mem_cons.1 hsign with rfl | hdigits
      · split <;> rfl
      · exact hdigit (isDigit_of_mem_padded hdigits)

theorem startsWithDigit_chars (h : p.Proper) : StartsWithDigit p.chars := by
  obtain ⟨c, cs, hwhole⟩ := List.exists_cons_of_ne_nil h.whole_ne_nil
  refine ⟨c, cs ++ (point p.fraction ++ suffix p.exponent?), ?_, ?_⟩
  · rw [chars, hwhole, List.cons_append]
  · exact h.whole_digits c (by rw [hwhole]; exact List.mem_cons_self)

/-- A point or an exponent tells the text from that of a whole number. -/
theorem exists_mark (h : p.Proper) : ∃ c ∈ p.chars, ¬c.isDigit := by
  rcases h.marked with hfraction | hexponent
  · refine ⟨'.', ?_, by decide⟩
    rw [chars, point_of_ne_nil hfraction]
    exact List.mem_append_right _ (List.mem_append_left _ List.mem_cons_self)
  · obtain ⟨e, he⟩ := Option.isSome_iff_exists.1 hexponent
    refine ⟨'e', ?_, by decide⟩
    rw [chars, he]
    exact List.mem_append_right _ (List.mem_append_right _ List.mem_cons_self)

end Spelling

end Formulae.Number
