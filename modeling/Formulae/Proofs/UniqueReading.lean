import Formulae.Proofs.Double.ZeroBlind
import Formulae.Proofs.Texts

/-! Formulae are uniquely readable. A formula begins with a word, which is a number, a name, a sign
or a function, and goes on with a parenthesis unless it is a number or a name. The word ends where a
parenthesis or a blank begins, and what follows tells the leaves from the rest, so that the text is
taken apart in one way only. -/
namespace Formulae

/-- Names that are identifiers are shown as such, and are equal when they are shown alike. -/
class LawfulNaming (ν : Type) [Naming ν] [BEq ν] : Prop where
  isIdentifier_label {x : ν} :
    Naming.isIdentifier x → ∃ s, Naming.label x = .ok s ∧ Text.isIdentifier s
  label_eq_iff {x y : ν} : Naming.isIdentifier x → Naming.isIdentifier y →
    (Naming.label x = Naming.label y ↔ x == y)
  odd?_eq_none {x : ν} : Naming.isIdentifier x → Naming.odd? x = none

instance : LawfulNaming String where
  isIdentifier_label {s} h := ⟨s, rfl, h⟩
  label_eq_iff {s t} _ _ := Except.ok.injEq s t ▸ beq_iff_eq.symm
  odd?_eq_none _ := rfl

instance : LawfulNaming Name where
  isIdentifier_label {x} h := by
    cases x with
    | text s => exact ⟨s, rfl, h⟩
    | value v mark => cases h
  label_eq_iff {x y} hx hy := by
    cases x with
    | text s =>
      cases y with
      | text t => exact Except.ok.injEq s t ▸ beq_iff_eq.symm
      | value v mark => cases hy
    | value v mark => cases hx
  odd?_eq_none {x} h := by
    cases x with
    | text s => rfl
    | value v mark => cases h

section Names

variable {ν : Type} [Naming ν]

def Naming.word (x : ν) : String :=
  match Naming.label x with
  | .ok s => s
  | .error _ => ""

theorem Naming.word_of_label {x : ν} {s : String} (h : Naming.label x = .ok s) :
    Naming.word x = s := by
  rw [word, h]

namespace LawfulNaming

variable [BEq ν] [LawfulNaming ν] {x y : ν}

theorem label_eq_word (h : Naming.isIdentifier x) : Naming.label x = .ok (Naming.word x) := by
  obtain ⟨s, hs, -⟩ := isIdentifier_label h
  rw [Naming.word_of_label hs, hs]

theorem isIdentifier_word (h : Naming.isIdentifier x) : Text.isIdentifier (Naming.word x) := by
  obtain ⟨s, hs, hidentifier⟩ := isIdentifier_label h
  rwa [Naming.word_of_label hs]

theorem word_eq_iff (hx : Naming.isIdentifier x) (hy : Naming.isIdentifier y) :
    Naming.word x = Naming.word y ↔ x == y := by
  rw [← label_eq_iff hx hy, label_eq_word hx, label_eq_word hy, Except.ok.injEq]

end LawfulNaming

end Names

def isWord (c : Char) : Bool := c ∉ ['(', ')', ' ']

theorem isWord_of {p : Char → Bool} (hopen : p '(' = false) (hclose : p ')' = false)
    (hblank : p ' ' = false) {c : Char} (h : p c) : isWord c := by
  refine decide_eq_true fun hc => ?_
  simp only [List.mem_cons, List.not_mem_nil, or_false] at hc
  rcases hc with rfl | rfl | rfl
  · exact absurd h (by simp [hopen])
  · exact absurd h (by simp [hclose])
  · exact absurd h (by simp [hblank])

theorem isWord_of_isNumeric {c : Char} (h : Number.isNumeric c) : isWord c :=
  isWord_of (by decide) (by decide) (by decide) h

theorem isWord_of_isIdentifierContinue {c : Char} (h : Text.isIdentifierContinue c) : isWord c :=
  isWord_of (by decide) (by decide) (by decide) h

theorem not_isIdentifierStart_of_isDigit {c : Char} (h : c.isDigit) :
    ¬Text.isIdentifierStart c := by
  obtain ⟨hge, hle⟩ := Char.isDigit_iff_toNat.1 h
  have hascii : c.toNat < 128 := Nat.lt_of_le_of_lt hle (by decide)
  have hletter : c.isAlpha = false := by
    have hval : c.toNat = c.val.toNat := rfl
    simp only [Char.reduceToNat] at hge hle
    simp [Char.isAlpha, Char.isUpper, Char.isLower, UInt32.le_iff_toNat_le]
    omega
  unfold Text.isIdentifierStart
  rw [if_pos hascii, hletter, Bool.false_or, beq_iff_eq]
  rintro rfl
  exact absurd h (by decide)

theorem isWord_of_mem_identifier {s : String} (h : Text.isIdentifier s) {c : Char}
    (hc : c ∈ s.toList) : isWord c := by
  unfold Text.isIdentifier at h
  split at h
  · cases h
  · rename_i d ds hs
    rw [hs] at hc
    simp only [Bool.and_eq_true, List.all_eq_true] at h
    rcases List.mem_cons.1 hc with rfl | hc
    · exact isWord_of_isIdentifierContinue (Text.isIdentifierContinue_of_start h.1)
    · exact isWord_of_isIdentifierContinue (h.2 c hc)

/-- A word ends where a character begins that is part of none. -/
theorem word_unique {w w' r r' : List Char} (hw : ∀ c ∈ w, isWord c) (hw' : ∀ c ∈ w', isWord c)
    (hr : r.takeWhile isWord = []) (hr' : r'.takeWhile isWord = []) (h : w ++ r = w' ++ r') :
    w = w' ∧ r = r' := by
  have htake := congrArg (List.takeWhile isWord) h
  rw [List.takeWhile_append_of_pos hw, List.takeWhile_append_of_pos hw', hr, hr', List.append_nil,
    List.append_nil] at htake
  subst htake
  exact ⟨rfl, List.append_cancel_left h⟩

/-- What may follow a formula: nothing, a blank or a closing parenthesis. -/
def Ends (r : List Char) : Prop := ∀ c cs, r = c :: cs → c = ' ' ∨ c = ')'

theorem ends_nil : Ends [] := nofun

theorem ends_blank (cs : List Char) : Ends (' ' :: cs) := by
  rintro c r ⟨⟩
  exact .inl rfl

theorem ends_close (cs : List Char) : Ends (')' :: cs) := by
  rintro c r ⟨⟩
  exact .inr rfl

theorem Ends.ne_open {r : List Char} (h : Ends r) (cs : List Char) : r ≠ '(' :: cs := by
  intro hr
  rcases h _ _ hr with hc | hc <;> cases hc

theorem Ends.takeWhile {r : List Char} (h : Ends r) : r.takeWhile isWord = [] := by
  cases r with
  | nil => rfl
  | cons c cs => rcases h c cs rfl with rfl | rfl <;> rfl

namespace Formula

variable {ν : Type} [Naming ν]

def wording : Formula ν Float → String
  | const a => Number.text a
  | var x => Naming.word x
  | sign s e => s.symbol ++ "(" ++ e.wording ++ ")"
  | binary op l r => "(" ++ l.wording ++ " " ++ op.symbol ++ " " ++ r.wording ++ ")"
  | apply f e => f.display ++ "(" ++ e.wording ++ ")"

def lead : Formula ν Float → String
  | const a => Number.text a
  | var x => Naming.word x
  | sign s _ => s.symbol
  | binary _ _ _ => ""
  | apply f _ => f.display

def tail : Formula ν Float → List Char
  | const _ | var _ => []
  | sign _ e | apply _ e => '(' :: (e.wording.toList ++ [')'])
  | binary op l r =>
    '(' :: (l.wording.toList ++ ' ' :: (op.symbol.toList ++ ' ' :: (r.wording.toList ++ [')'])))

theorem toList_wording (e : Formula ν Float) : e.wording.toList = e.lead.toList ++ e.tail := by
  cases e <;> simp [wording, lead, tail, String.toList_append]

theorem takeWhile_tail (e : Formula ν Float) {r : List Char} (hr : Ends r) :
    (e.tail ++ r).takeWhile isWord = [] := by
  cases e with
  | const a => exact hr.takeWhile
  | var x => exact hr.takeWhile
  | _ => rfl

theorem problems_const {a : Float} :
    (const a : Formula ν Float).problems = [] ↔ Arithmetic.isFinite a := by
  simp [problems, depthFirst, problem?]

theorem problems_var {x : ν} :
    (var x : Formula ν Float).problems = [] ↔ Naming.isIdentifier x := by
  simp [problems, depthFirst, problem?]

theorem problems_sign {s : Sign} {e : Formula ν Float} :
    (sign s e).problems = [] ↔ e.problems = [] := by
  simp [problems, depthFirst, problem?]

theorem problems_apply {f : Elementary} {e : Formula ν Float} :
    (apply f e).problems = [] ↔ e.problems = [] := by
  simp [problems, depthFirst, problem?]

theorem problems_binary {op : BinaryOp} {l r : Formula ν Float} :
    (binary op l r).problems = [] ↔ l.problems = [] ∧ r.problems = [] := by
  rw [problems_binary_eq_append, List.append_eq_nil_iff]

variable [BEq ν] [LawfulNaming ν]

theorem isWord_of_mem_lead {e : Formula ν Float} (he : e.problems = []) :
    ∀ c ∈ e.lead.toList, isWord c := by
  intro c hc
  cases e with
  | const a =>
    have ha := problems_const.1 he
    exact isWord_of_isNumeric (Number.Double.isNumeric_of_mem_text ha hc)
  | var x =>
    exact isWord_of_mem_identifier (LawfulNaming.isIdentifier_word (problems_var.1 he)) hc
  | sign s e =>
    have hall : s.symbol.toList.all isWord = true := by cases s <;> decide
    exact List.all_eq_true.1 hall c hc
  | binary op l r =>
    rw [lead, String.toList_empty] at hc
    cases hc
  | apply f e =>
    have hall : f.display.toList.all isWord = true := by cases f <;> decide
    exact List.all_eq_true.1 hall c hc

/-- A number begins with a digit or a sign, a name with neither. -/
theorem text_ne_word {a : Float} {x : ν} (ha : Arithmetic.isFinite a)
    (hx : Naming.isIdentifier x) : Number.text a ≠ Naming.word x := by
  intro h
  obtain ⟨c, cs, htext, hc⟩ := Number.Double.exists_head_text ha
  have hidentifier := LawfulNaming.isIdentifier_word hx
  rw [Text.isIdentifier, ← h, htext] at hidentifier
  have hstart := (Bool.and_eq_true_iff.1 hidentifier).1
  rcases hc with rfl | hdigit
  · revert hstart
    decide
  · exact not_isIdentifierStart_of_isDigit hdigit hstart

theorem symbol_ne_empty (s : Sign) : s.symbol ≠ "" := by
  cases s <;> decide

theorem display_ne_empty (f : Elementary) : f.display ≠ "" := by
  cases f <;> decide

theorem symbol_ne_display (s : Sign) (f : Elementary) : s.symbol ≠ f.display := by
  cases s <;> cases f <;> decide

theorem sign_symbol_injective {s t : Sign} (h : s.symbol = t.symbol) : s = t := by
  cases s <;> cases t <;> first | rfl | exact absurd h (by decide)

theorem display_injective {f g : Elementary} (h : f.display = g.display) : f = g := by
  cases f <;> cases g <;> first | rfl | exact absurd h (by decide)

theorem operation_unique {op op' : BinaryOp} {cs cs' : List Char}
    (h : op.symbol.toList ++ ' ' :: cs = op'.symbol.toList ++ ' ' :: cs') : op = op' ∧ cs = cs' := by
  cases op <;> cases op' <;> cases h <;> exact ⟨rfl, rfl⟩

theorem lead_eq_and_tail_eq {a b : Formula ν Float} (ha : a.problems = []) (hb : b.problems = [])
    {r r' : List Char} (hr : Ends r) (hr' : Ends r')
    (h : a.wording.toList ++ r = b.wording.toList ++ r') :
    a.lead = b.lead ∧ a.tail ++ r = b.tail ++ r' := by
  rw [toList_wording, toList_wording, List.append_assoc, List.append_assoc] at h
  obtain ⟨hlead, htail⟩ := word_unique (isWord_of_mem_lead ha) (isWord_of_mem_lead hb)
    (takeWhile_tail a hr) (takeWhile_tail b hr') h
  exact ⟨String.toList_inj.1 hlead, htail⟩

/-- Formulae that begin the same text, up to where a formula may end, are equal. -/
theorem beq_of_wording_append {a b : Formula ν Float} (ha : a.problems = []) (hb : b.problems = [])
    {r r' : List Char} (hr : Ends r) (hr' : Ends r')
    (h : a.wording.toList ++ r = b.wording.toList ++ r') : a == b ∧ r = r' := by
  induction a generalizing b r r' with
  | const x =>
    obtain ⟨hlead, htail⟩ := lead_eq_and_tail_eq ha hb hr hr' h
    cases b with
    | const y =>
      have heq := (Number.Double.text_eq_iff (problems_const.1 ha) (problems_const.1 hb)).1 hlead
      exact ⟨Bool.or_eq_true_iff.2 (.inl heq), htail⟩
    | var y => exact absurd hlead (text_ne_word (problems_const.1 ha) (problems_var.1 hb))
    | _ => exact absurd htail (hr.ne_open _)
  | var x =>
    obtain ⟨hlead, htail⟩ := lead_eq_and_tail_eq ha hb hr hr' h
    cases b with
    | const y => exact absurd hlead.symm (text_ne_word (problems_const.1 hb) (problems_var.1 ha))
    | var y =>
      have heq := (LawfulNaming.word_eq_iff (problems_var.1 ha) (problems_var.1 hb)).1 hlead
      exact ⟨heq, htail⟩
    | _ => exact absurd htail (hr.ne_open _)
  | sign s e ih =>
    obtain ⟨hlead, htail⟩ := lead_eq_and_tail_eq ha hb hr hr' h
    cases b with
    | sign t f =>
      have hrest : e.wording.toList ++ ')' :: r = f.wording.toList ++ ')' :: r' := by
        simpa [tail] using htail
      obtain ⟨heq, hclose⟩ :=
        ih (problems_sign.1 ha) (problems_sign.1 hb) (ends_close r) (ends_close r') hrest
      rw [sign_beq_sign, heq, sign_symbol_injective hlead, decide_eq_true rfl]
      exact ⟨rfl, (List.cons.inj hclose).2⟩
    | binary op l m => exact absurd hlead (symbol_ne_empty s)
    | apply g f => exact absurd hlead (symbol_ne_display s g)
    | _ => exact absurd htail.symm (hr'.ne_open _)
  | binary op l m ihl ihm =>
    obtain ⟨hlead, htail⟩ := lead_eq_and_tail_eq ha hb hr hr' h
    cases b with
    | sign t f => exact absurd hlead.symm (symbol_ne_empty t)
    | binary op' l' m' =>
      obtain ⟨hl, hm⟩ := problems_binary.1 ha
      obtain ⟨hl', hm'⟩ := problems_binary.1 hb
      have hrest : l.wording.toList ++ ' ' :: (op.symbol.toList ++ ' ' ::
            (m.wording.toList ++ ')' :: r)) =
          l'.wording.toList ++ ' ' :: (op'.symbol.toList ++ ' ' ::
            (m'.wording.toList ++ ')' :: r')) := by
        simpa [tail] using htail
      obtain ⟨hleq, hblank⟩ := ihl hl hl' (ends_blank _) (ends_blank _) hrest
      obtain ⟨hop, hright⟩ := operation_unique (List.cons.inj hblank).2
      obtain ⟨hmeq, hclose⟩ := ihm hm hm' (ends_close r) (ends_close r') hright
      rw [binary_beq_binary, hleq, hmeq, hop, decide_eq_true rfl]
      exact ⟨rfl, (List.cons.inj hclose).2⟩
    | apply g f => exact absurd hlead.symm (display_ne_empty g)
    | _ => exact absurd htail.symm (hr'.ne_open _)
  | apply f e ih =>
    obtain ⟨hlead, htail⟩ := lead_eq_and_tail_eq ha hb hr hr' h
    cases b with
    | sign t f' => exact absurd hlead.symm (symbol_ne_display t f)
    | binary op l m => exact absurd hlead (display_ne_empty f)
    | apply g e' =>
      have hrest : e.wording.toList ++ ')' :: r = e'.wording.toList ++ ')' :: r' := by
        simpa [tail] using htail
      obtain ⟨heq, hclose⟩ :=
        ih (problems_apply.1 ha) (problems_apply.1 hb) (ends_close r) (ends_close r') hrest
      rw [apply_beq_apply, heq, display_injective hlead, decide_eq_true rfl]
      exact ⟨rfl, (List.cons.inj hclose).2⟩
    | _ => exact absurd htail.symm (hr'.ne_open _)

theorem wording_congr {a b : Formula ν Float} (ha : a.problems = []) (hb : b.problems = [])
    (h : a == b) : a.wording = b.wording := by
  have halike := alike_of_beq h
  clear h
  induction halike with
  | const h => exact Number.Double.text_congr_of_sameConstant h
  | var h => exact (LawfulNaming.word_eq_iff (problems_var.1 ha) (problems_var.1 hb)).2 h
  | sign s _ ih => rw [wording, wording, ih (problems_sign.1 ha) (problems_sign.1 hb)]
  | binary op _ _ ihl ihr =>
    obtain ⟨hl, hr⟩ := problems_binary.1 ha
    obtain ⟨hl', hr'⟩ := problems_binary.1 hb
    rw [wording, wording, ihl hl hl', ihr hr hr']
  | apply f _ ih => rw [wording, wording, ih (problems_apply.1 ha) (problems_apply.1 hb)]

theorem render_eq_wording {e : Formula ν Float} (he : e.problems = []) :
    e.render = .ok e.wording := by
  induction e with
  | const a => rfl
  | var x => exact LawfulNaming.label_eq_word (problems_var.1 he)
  | sign s e ih =>
    rw [render, ih (problems_sign.1 he)]
    rfl
  | binary op l r ihl ihr =>
    obtain ⟨hl, hr⟩ := problems_binary.1 he
    rw [render, ihl hl, ihr hr]
    rfl
  | apply f e ih =>
    rw [render, ih (problems_apply.1 he)]
    rfl

theorem text?_eq_wording {e : Formula ν Float} (he : e.problems = []) :
    e.text? = .ok e.wording := by
  have hrender := render_eq_wording he
  cases e with
  | var x =>
    rw [text?, LawfulNaming.odd?_eq_none (problems_var.1 he)]
    exact congrArg (Except.mapError TextFault.value) hrender
  | _ => exact congrArg (Except.mapError TextFault.value) hrender

/-- Formulae without problems all have a text, and two have the same one exactly when they are
equal. -/
theorem text?_eq_iff_beq {a b : Formula ν Float} (ha : a.problems = []) (hb : b.problems = []) :
    (∃ s, a.text? = .ok s) ∧ (a.text? = b.text? ↔ a == b) := by
  have hatext := text?_eq_wording ha
  have hbtext := text?_eq_wording hb
  refine ⟨⟨_, hatext⟩, ?_⟩
  rw [hatext, hbtext, Except.ok.injEq]
  constructor
  · intro h
    exact (beq_of_wording_append ha hb ends_nil ends_nil (by rw [h])).1
  · exact wording_congr ha hb

def negativeNumber : Expression :=
  binary .sub (const (-3)) (sign .plus (var (.text "Sin")))

def negatedNumber : Expression :=
  binary .sub (sign .minus (const 3)) (apply .sin (var (.text "x")))

theorem text?_negativeNumber : negativeNumber.problems = [] ∧ negatedNumber.problems = [] ∧
    (∃ s, negativeNumber.text? = .ok s) ∧
      (negativeNumber.text? = negatedNumber.text? ↔ negativeNumber == negatedNumber) :=
  have h : negativeNumber.problems = [] := by decide +kernel
  have h' : negatedNumber.problems = [] := by decide +kernel
  ⟨h, h', text?_eq_iff_beq h h'⟩

end Formula

end Formulae
