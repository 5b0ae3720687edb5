import FaultResponse.Text.Quoted
/-! # Character sets — texts that have octets

    A text goes out in a set of characters.  Headers go out in a set that has one octet for
    each member, bodies in the set of all characters.  A text with any other letter cannot
    be sent; the report of that names the first run of letters that the set lacks, and
    where it begins. -/

namespace FaultResponse.Text

/-- A set of characters. -/
inductive Charset
  | ascii
  | latin1
  /-- All characters. -/
  | utf8
  deriving DecidableEq, Repr

namespace Charset

/-- The name of the set. -/
def name : Charset → String
  | ascii => "ascii"
  | latin1 => "latin-1"
  | utf8 => "utf-8"

/-- The first code point that is too high for the set. -/
def limit : Charset → Nat
  | ascii => 128
  | latin1 => 256
  | utf8 => 0x110000

/-- Whether a letter belongs to the set. -/
def has (s : Charset) : Letter → Bool
  | .char c => decide (c.toNat < s.limit)
  | .half _ => false

/-- Why a letter does not belong to the set. -/
def lackText : Charset → String
  | utf8 => "surrogates not allowed"
  | s => "ordinal not in range(" ++ toString s.limit ++ ")"

end Charset

/-- A run of letters that a set lacks, and its position in the text. -/
structure Unencodable where
  charset : Charset
  position : Nat
  run : List Letter
  deriving DecidableEq, Repr

namespace Unencodable

/-- Where the run stands, and which letter it is when it is a single one. -/
def place (u : Unencodable) : String :=
  match u.run with
  | [l] =>
    "character '" ++ String.ofList (escapeCode l.code) ++ "' in position " ++ toString u.position
  | run =>
    "characters in position " ++ toString u.position ++ "-"
      ++ toString (u.position + run.length - 1)

/-- The wording. -/
def message (u : Unencodable) : String :=
  "'" ++ u.charset.name ++ "' codec can't encode " ++ u.place ++ ": " ++ u.charset.lackText

end Unencodable

namespace Charset

/-- The first run of a text that the set lacks. -/
def lack? (s : Charset) (t : Text) : Option Unencodable :=
  let rest := t.letters.dropWhile s.has
  if rest.isEmpty then none
  else some ⟨s, t.letters.length - rest.length, rest.takeWhile fun l => !s.has l⟩

/-- A text lacks nothing exactly when every letter of it belongs to the set. -/
theorem lack?_eq_none_iff {s : Charset} {t : Text} :
    s.lack? t = none ↔ ∀ l ∈ t.letters, s.has l = true := by
  have all_iff (ls : List Letter) : ls.dropWhile s.has = [] ↔ ∀ l ∈ ls, s.has l = true := by
    induction ls with
    | nil => simp
    | cons l rest ih => by_cases hl : s.has l = true <;> simp [List.dropWhile, hl, ih]
  rw [← all_iff]
  cases h : t.letters.dropWhile s.has <;> simp [lack?, h]

/-- The first lack among the names and values of headers, in the order in which they
    are sent. -/
def headerLack? (s : Charset) : List (String × String) → Option Unencodable
  | [] => none
  | (name, value) :: rest =>
    (s.lack? name).or ((s.lack? value).or (headerLack? s rest))

/-- The characters are the letters that the set of all characters has. -/
theorem utf8_has_iff {l : Letter} : utf8.has l = true ↔ ∃ c, l = .char c := by
  cases l with
  | char c =>
      have hvalid : c.toNat < 0x110000 := by
        rcases c.valid with h | ⟨-, h⟩
        · exact Nat.lt_trans h (by decide)
        · exact h
      exact iff_of_true (decide_eq_true hvalid) ⟨c, rfl⟩
  | half n => exact iff_of_false Bool.false_ne_true nofun

/-- A text that lacks nothing is the string of its characters. -/
theorem ofString_characters {t : Text} (h : utf8.lack? t = none) : ofString t.characters = t := by
  have hread (ls : List Letter) (hls : ∀ l ∈ ls, utf8.has l = true) :
      (ls.filterMap Letter.char?).map .char = ls := by
    induction ls with
    | nil => rfl
    | cons l rest ih =>
        obtain ⟨c, rfl⟩ := utf8_has_iff.mp (hls l List.mem_cons_self)
        exact congrArg _ (ih fun l hl => hls l (List.mem_cons_of_mem _ hl))
  refine ext ?_
  rw [letters_ofString, characters, String.toList_ofList]
  exact hread t.letters (lack?_eq_none_iff.mp h)

/-- **A TEXT HAS OCTETS** exactly when it is a string. -/
theorem utf8_lack?_eq_none_iff {t : Text} : utf8.lack? t = none ↔ t.IsString := by
  constructor
  · intro h
    exact ⟨t.characters, (ofString_characters h).symm⟩
  · rintro ⟨s, rfl⟩
    refine lack?_eq_none_iff.mpr ?_
    intro l hl
    obtain ⟨c, -, rfl⟩ := List.mem_map.mp hl
    exact utf8_has_iff.mpr ⟨c, rfl⟩

/-- A string is a text in which no half of a pair stands alone. -/
theorem isString_iff {t : Text} : t.IsString ↔ ∀ n, Letter.half n ∉ t.letters := by
  rw [← utf8_lack?_eq_none_iff, lack?_eq_none_iff]
  constructor
  · intro h n hn
    exact Bool.false_ne_true (h _ hn)
  · intro h l hl
    cases l with
    | char c => exact utf8_has_iff.mpr ⟨c, rfl⟩
    | half n => exact absurd hl (h n)

end Charset

end FaultResponse.Text
