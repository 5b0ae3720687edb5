import FaultResponse.Text.Basic
import FaultResponse.Text.Ranges
/-! # Blank text — which messages count as empty

    A message made of blank characters tells its reader nothing, so a fallback
    takes its place.  The blank characters are Unicode's white space together
    with the four separator controls U+001C to U+001F. -/

namespace FaultResponse.Text

/-- The blank characters, as closed ranges of code points. -/
def blankRanges : List (Nat × Nat) :=
  [(0x09, 0x0D), (0x1C, 0x20), (0x85, 0x85), (0xA0, 0xA0), (0x1680, 0x1680),
   (0x2000, 0x200A), (0x2028, 0x2029), (0x202F, 0x202F), (0x205F, 0x205F),
   (0x3000, 0x3000)]

/-- A character is blank when its code point lies in one of the ranges. -/
def isBlankChar (c : Char) : Bool :=
  liesIn blankRanges c

/-- Whatever core takes for white space is blank. -/
theorem isBlankChar_of_isWhitespace {c : Char} (h : c.isWhitespace = true) :
    isBlankChar c = true := by
  simp only [Char.isWhitespace, Bool.or_eq_true, decide_eq_true_eq] at h
  rcases h with ((h | h) | h) | h <;> subst h <;> decide

/-- Half of a pair is never blank. -/
def isBlankLetter : Letter → Bool
  | .char c => isBlankChar c
  | .half _ => false

/-- A text is blank when every letter of it is; the empty text is blank. -/
def isBlank (t : Text) : Bool :=
  t.letters.all isBlankLetter

@[simp] theorem isBlank_append (s t : Text) :
    isBlank (s ++ t) = (isBlank s && isBlank t) := by
  unfold isBlank
  rw [letters_append, List.all_append]

/-- An absent text is blank as well. -/
def isBlank? : Option Text → Bool
  | none => true
  | some s => isBlank s

end FaultResponse.Text
