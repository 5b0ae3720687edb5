/-! # UTF-8 — octets of a text, and a text from any octets

    `encode` writes a text as octets.  `decode` reads any octets whatever: each
    well-formed sequence gives its character, and each longest piece that begins
    a character but cannot be completed, or begins none, gives one U+FFFD.

    The reader is a machine that takes one octet at a time.  Between characters
    it looks at the first octet only; inside a character it knows how many
    octets are owed and in which range the next one must lie.  An octet outside
    that range ends the piece and is then read as a first octet itself, so no
    octet is ever skipped. -/

namespace FaultResponse.Text.Utf8

/-- One octet from a number below 256. -/
abbrev octet (n : Nat) : UInt8 := UInt8.ofNat n

/-- The octets of one character: one to four of them, by its code point. -/
def encodeChar (c : Char) : List UInt8 :=
  let n := c.toNat
  if n < 0x80 then [octet n]
  else if n < 0x800 then [octet (0xC0 + n / 64), octet (0x80 + n % 64)]
  else if n < 0x10000 then
    [octet (0xE0 + n / 4096), octet (0x80 + n / 64 % 64), octet (0x80 + n % 64)]
  else
    [octet (0xF0 + n / 262144), octet (0x80 + n / 4096 % 64),
     octet (0x80 + n / 64 % 64), octet (0x80 + n % 64)]

/-- The octets of a text. -/
def encode (s : String) : List UInt8 :=
  s.toList.flatMap encodeChar

/-- The character that stands for a piece which is no character. -/
def replacement : Char := '\uFFFD'

/-- Where the reader stands between two octets. -/
inductive State
  /-- Between characters. -/
  | start
  /-- Inside a character: `owed + 1` octets are missing, the next one lies between
      `low` and `high`, and `value` holds the bits read so far. -/
  | within (owed low high value : Nat)
  deriving DecidableEq, Repr

/-- The first octet of a character: what it completes, and the state it leaves. -/
def first (n : Nat) : List Char × State :=
  if n < 0x80 then ([Char.ofNat n], .start)
  else if 0xC2 ≤ n ∧ n ≤ 0xDF then ([], .within 0 0x80 0xBF (n - 0xC0))
  else if n = 0xE0 then ([], .within 1 0xA0 0xBF 0)
  else if n = 0xED then ([], .within 1 0x80 0x9F 0xD)
  else if 0xE1 ≤ n ∧ n ≤ 0xEF then ([], .within 1 0x80 0xBF (n - 0xE0))
  else if n = 0xF0 then ([], .within 2 0x90 0xBF 0)
  else if 0xF1 ≤ n ∧ n ≤ 0xF3 then ([], .within 2 0x80 0xBF (n - 0xF0))
  else if n = 0xF4 then ([], .within 2 0x80 0x8F 4)
  else ([replacement], .start)

/-- One octet, from any state.  A refused octet closes the open piece with one
    replacement and starts afresh. -/
def step : State → Nat → List Char × State
  | .start, n => first n
  | .within owed low high value, n =>
    if low ≤ n ∧ n ≤ high then
      let value := value * 64 + (n - 0x80)
      match owed with
      | 0 => ([Char.ofNat value], .start)
      | owed + 1 => ([], .within owed 0x80 0xBF value)
    else
      (replacement :: (first n).1, (first n).2)

/-- What is left to write when the octets end: a piece cut short is one
    replacement. -/
def finish : State → List Char
  | .start => []
  | .within .. => [replacement]

/-- The characters read from a state on. -/
def run : State → List UInt8 → List Char
  | q, [] => finish q
  | q, b :: bs => (step q b.toNat).1 ++ run (step q b.toNat).2 bs

/-- The text of any octets. -/
def decode (bytes : List UInt8) : String :=
  String.ofList (run .start bytes)

/-! ## Cutting -/

/-- What the first octets of a text hold: the characters that fit as a whole, and the
    octets of the one that the cut goes through. -/
def cut : Nat → List Char → List Char × List UInt8
  | _, [] => ([], [])
  | n, c :: rest =>
    if (encodeChar c).length ≤ n then
      let later := cut (n - (encodeChar c).length) rest
      (c :: later.1, later.2)
    else ([], (encodeChar c).take n)

/-- The text of the first octets; a character that the cut goes through is replaced. -/
def clip (n : Nat) (s : String) : String :=
  let kept := cut n s.toList
  String.ofList (kept.1 ++ if kept.2.isEmpty then [] else [replacement])

end FaultResponse.Text.Utf8
