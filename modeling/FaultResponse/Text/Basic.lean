/-! # Texts — characters, and halves of pairs that stand alone

    Exceptions, guidance and log records carry texts.  A text is a list of letters, and
    nearly every letter is a character.  But a text may also hold one half of a surrogate
    pair without the other: a code point that is no character.  Such a text is kept,
    compared, appended to and logged like any other one.  It only has no octets, so it can
    never be sent. -/

namespace FaultResponse

/-- A letter of a text. -/
inductive Letter
  | char (c : Char)
  /-- Half of a surrogate pair, which stands that far behind the first of them. -/
  | half (n : Fin 0x800)
  deriving DecidableEq, Repr

namespace Letter

/-- The first code point that is half of a pair. -/
def firstHalf : Nat := 0xD800

/-- The code point of a letter. -/
def code : Letter → Nat
  | char c => c.toNat
  | half n => firstHalf + n

/-- The character that a letter is, if it is one. -/
def char? : Letter → Option Char
  | char c => some c
  | half _ => none

end Letter

/-- A text. -/
structure Text where
  letters : List Letter
  deriving DecidableEq, Repr

namespace Text

/-- The text of a string: all its letters are characters. -/
def ofString (s : String) : Text :=
  ⟨s.toList.map .char⟩

instance : Coe String Text := ⟨ofString⟩

instance : Inhabited Text := ⟨⟨[]⟩⟩

instance : Append Text := ⟨fun s t => ⟨s.letters ++ t.letters⟩⟩

/-- Whether a text has no letters. -/
def isEmpty (t : Text) : Bool :=
  t.letters.isEmpty

/-- Texts one after another, with a text between any two of them. -/
def joined (between : Text) : List Text → Text
  | [] => ""
  | [t] => t
  | t :: rest => t ++ between ++ joined between rest

/-- The characters of a text, without the halves between them. -/
def characters (t : Text) : String :=
  String.ofList (t.letters.filterMap Letter.char?)

/-- Every letter of the text is a character. -/
def IsString (t : Text) : Prop :=
  ∃ s : String, t = s

/-! ## Letters and strings -/

@[simp] theorem letters_ofString (s : String) : (ofString s).letters = s.toList.map .char := rfl

@[simp] theorem letters_append (s t : Text) : (s ++ t).letters = s.letters ++ t.letters := rfl

theorem ext {s t : Text} (h : s.letters = t.letters) : s = t := by
  obtain ⟨letters⟩ := s
  exact congrArg Text.mk h

/-- The characters of a string are all of it. -/
@[simp] theorem characters_ofString (s : String) : (ofString s).characters = s := by
  have hchar : Letter.char? ∘ Letter.char = some := rfl
  rw [characters, letters_ofString, List.filterMap_map, hchar, List.filterMap_some,
    String.ofList_toList]

@[simp] theorem ofString_inj {s t : String} : ofString s = ofString t ↔ s = t := by
  constructor
  · intro h
    rw [← characters_ofString s, h, characters_ofString]
  · rintro rfl
    rfl

theorem isEmpty_iff {t : Text} : t.isEmpty = true ↔ t = "" := by
  unfold isEmpty
  rw [List.isEmpty_iff]
  constructor
  · intro h
    exact ext h
  · rintro rfl
    rfl

@[simp] theorem append_eq_empty_iff {s t : Text} : s ++ t = "" ↔ s = "" ∧ t = "" := by
  rw [← isEmpty_iff, ← isEmpty_iff, ← isEmpty_iff]
  simp [isEmpty]

end Text

end FaultResponse
