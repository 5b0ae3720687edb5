import FaultResponse.Text.Basic
/-! # Letter case — folding names to ASCII letters

    Header names, media types, level names and setting names are compared
    without regard to case.  Every name they are compared with is ASCII, so a
    case map has to be exact only where its result is one ASCII letter: the
    ASCII letters themselves and the three letters outside ASCII whose other
    case lies inside it.  Every other character is kept, and a kept character
    matches no ASCII name. -/

namespace FaultResponse.Text

/-- The small letter of an ASCII capital or of the Kelvin sign U+212A. -/
def lowerChar (c : Char) : Char :=
  if c = '\u212A' then 'k' else c.toLower

/-- The capital of an ASCII small letter, of the dotless i U+0131 or of the
    long s U+017F. -/
def upperChar (c : Char) : Char :=
  if c = '\u0131' then 'I' else if c = '\u017F' then 'S' else c.toUpper

/-- The text in small letters. -/
def lower (s : String) : String :=
  String.ofList (s.toList.map lowerChar)

/-- The text in capitals. -/
def upper (s : String) : String :=
  String.ofList (s.toList.map upperChar)

/-- A text with the characters of it in small letters. -/
def folded (t : Text) : Text :=
  ⟨t.letters.map fun
    | .char c => .char (lowerChar c)
    | .half n => .half n⟩

/-- Whether the first list stands somewhere inside the second. -/
def occursIn {α : Type} [BEq α] (part : List α) : List α → Bool
  | [] => part.isEmpty
  | c :: cs => part.isPrefixOf (c :: cs) || occursIn part cs

/-- Whether the first text stands somewhere inside the second. -/
def contains (t part : Text) : Bool :=
  occursIn part.letters t.letters

end FaultResponse.Text
