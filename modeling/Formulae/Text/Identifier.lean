import Formulae.Text.Table.IdentifierStart
import Formulae.Text.Table.IdentifierContinue

/-! Identifiers: a letter or an underscore, then letters, digits, marks and underscores. -/
namespace Formulae.Text

def isIdentifierStart (c : Char) : Bool :=
  if c.toNat < 128 then c.isAlpha || c == '_' else Table.identifierStart.has c

def isIdentifierContinue (c : Char) : Bool :=
  if c.toNat < 128 then c.isAlphanum || c == '_'
  else Table.identifierStart.has c || Table.identifierContinue.has c

def isIdentifier (s : String) : Bool :=
  match s.toList with
  | [] => false
  | c :: cs => isIdentifierStart c && cs.all isIdentifierContinue

theorem isIdentifierContinue_of_start {c : Char} (h : isIdentifierStart c = true) :
    isIdentifierContinue c = true := by
  unfold isIdentifierStart at h
  unfold isIdentifierContinue
  split at h
  · rename_i hc
    rw [if_pos hc]
    simp only [Char.isAlphanum, Bool.or_eq_true] at h ⊢
    rcases h with h | h
    · exact .inl (.inl h)
    · exact .inr h
  · rename_i hc
    rw [if_neg hc, h, Bool.true_or]

end Formulae.Text
