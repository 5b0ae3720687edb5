import FaultResponse.Text.Basic
import FaultResponse.Text.Hidden
/-! # Quoted text — a text written as a literal

    The text stands between quotes, in single ones unless it holds a single
    quote and no double one.  The quote in use and the backslash are escaped,
    line feed, carriage return and tab have short escapes, and every other hidden
    character is written by its code point, as is half of a pair.  So a literal is a
    string, whatever the text. -/

namespace FaultResponse.Text

/-- One hexadecimal digit. -/
def hexDigit (n : Nat) : Char :=
  if n < 10 then Char.ofNat (48 + n) else Char.ofNat (87 + n)

/-- The lowest `width` hexadecimal digits of a number. -/
def hexDigits : Nat → Nat → List Char
  | 0, _ => []
  | width + 1, n => hexDigits width (n / 16) ++ [hexDigit (n % 16)]

/-- A code point, in the shortest of the three escapes. -/
def escapeCode (n : Nat) : List Char :=
  if n < 0x100 then '\\' :: 'x' :: hexDigits 2 n
  else if n < 0x10000 then '\\' :: 'u' :: hexDigits 4 n
  else '\\' :: 'U' :: hexDigits 8 n

/-- One character between quotes of the given kind. -/
def escapeChar (mark c : Char) : List Char :=
  if c = mark ∨ c = '\\' then ['\\', c]
  else if c = '\n' then ['\\', 'n']
  else if c = '\r' then ['\\', 'r']
  else if c = '\t' then ['\\', 't']
  else if isHidden c then escapeCode c.toNat
  else [c]

/-- One letter between quotes of the given kind. -/
def escapeLetter (mark : Char) : Letter → List Char
  | .char c => escapeChar mark c
  | .half n => escapeCode (Letter.half n).code

/-- The quote to use for a text. -/
def quoteMark (letters : List Letter) : Char :=
  if letters.contains (.char '\'') && !letters.contains (.char '"') then '"' else '\''

/-- The text as a literal. -/
def quoted (t : Text) : String :=
  let mark := quoteMark t.letters
  String.ofList (mark :: t.letters.flatMap (escapeLetter mark) ++ [mark])

end FaultResponse.Text
