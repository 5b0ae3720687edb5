import FaultResponse.OrderedMap
import FaultResponse.Text.Quoted
/-! # Values — the data that exceptions and responses carry

    An argument of an exception, an additional attribute or a field of a foreign
    response is one of six kinds of value.  A value is written in three ways: as
    plain text (`text`), as a literal inside a larger value (`literal`), and as
    a compact document on the wire (`json`). -/

namespace FaultResponse

/-- A value without identity: a scalar, a list, or fields in order. -/
inductive Value
  | null
  | bool (b : Bool)
  | int (n : Int)
  | text (s : Text)
  | list (items : List Value)
  | object (fields : List (String × Value))
  deriving Repr, Inhabited

/-- Named values in the order in which they were given. -/
abbrev Attributes := OrderedMap String Value

namespace Value

/-- An optional text: `null` when it is absent. -/
def ofText? : Option Text → Value
  | none => null
  | some s => text s

/-- Optional fields: `null` when there are none. -/
def ofAttributes? : Option Attributes → Value
  | none => null
  | some fields => object fields

/-- The integer that a value is; truth values count as one and zero. -/
def asInt? : Value → Option Int
  | int n => some n
  | bool true => some 1
  | bool false => some 0
  | _ => none

/-! ## Equality -/

mutual

/-- Equality of values is decided member by member. -/
def decEq : (a b : Value) → Decidable (a = b)
  | null, null => isTrue rfl
  | bool a, bool b =>
    if h : a = b then isTrue (congrArg bool h) else isFalse fun e => h (by cases e; rfl)
  | int a, int b =>
    if h : a = b then isTrue (congrArg int h) else isFalse fun e => h (by cases e; rfl)
  | text a, text b =>
    if h : a = b then isTrue (congrArg text h) else isFalse fun e => h (by cases e; rfl)
  | list a, list b =>
    match decEqList a b with
    | isTrue h => isTrue (congrArg list h)
    | isFalse h => isFalse fun e => h (by cases e; rfl)
  | object a, object b =>
    match decEqFields a b with
    | isTrue h => isTrue (congrArg object h)
    | isFalse h => isFalse fun e => h (by cases e; rfl)
  | null, bool _ | null, int _ | null, text _ | null, list _ | null, object _
  | bool _, null | bool _, int _ | bool _, text _ | bool _, list _ | bool _, object _
  | int _, null | int _, bool _ | int _, text _ | int _, list _ | int _, object _
  | text _, null | text _, bool _ | text _, int _ | text _, list _ | text _, object _
  | list _, null | list _, bool _ | list _, int _ | list _, text _ | list _, object _
  | object _, null | object _, bool _ | object _, int _ | object _, text _
  | object _, list _ => isFalse fun e => by cases e

/-- Equality of lists of values. -/
def decEqList : (a b : List Value) → Decidable (a = b)
  | [], [] => isTrue rfl
  | [], _ :: _ | _ :: _, [] => isFalse fun e => by cases e
  | a :: as, b :: bs =>
    match decEq a b, decEqList as bs with
    | isTrue h, isTrue t => isTrue (by rw [h, t])
    | isFalse h, _ => isFalse fun e => h (by cases e; rfl)
    | _, isFalse t => isFalse fun e => t (by cases e; rfl)

/-- Equality of named values, order included. -/
def decEqFields : (a b : List (String × Value)) → Decidable (a = b)
  | [], [] => isTrue rfl
  | [], _ :: _ | _ :: _, [] => isFalse fun e => by cases e
  | (k, a) :: as, (l, b) :: bs =>
    if hk : k = l then
      match decEq a b, decEqFields as bs with
      | isTrue h, isTrue t => isTrue (by rw [hk, h, t])
      | isFalse h, _ => isFalse fun e => h (by cases e; rfl)
      | _, isFalse t => isFalse fun e => t (by cases e; rfl)
    else isFalse fun e => hk (by cases e; rfl)

end

instance : DecidableEq Value := decEq

/-! ## Literals -/

mutual

/-- The value as it stands inside a larger one: texts are quoted. -/
def literal : Value → String
  | null => "None"
  | bool true => "True"
  | bool false => "False"
  | int n => toString n
  | text s => Text.quoted s
  | list items => "[" ++ ", ".intercalate (literals items) ++ "]"
  | object fields => "\x7b" ++ ", ".intercalate (fieldLiterals fields) ++ "\x7d"

/-- The literals of a list. -/
def literals : List Value → List String
  | [] => []
  | v :: vs => literal v :: literals vs

/-- The literals of named values, each behind its name. -/
def fieldLiterals : List (String × Value) → List String
  | [] => []
  | (k, v) :: rest => (Text.quoted k ++ ": " ++ literal v) :: fieldLiterals rest

end

/-- The value on its own: a text is written as it is, all else as a literal. -/
def toText : Value → Text
  | text s => s
  | v => literal v

/-- The value as an optional text: `null` is none. -/
def toText? : Value → Option Text
  | null => none
  | v => some v.toText

/-- Several values in brackets. -/
def tuple (items : List Value) : String :=
  "(" ++ ", ".intercalate (literals items) ++ ")"

/-! ## Compact documents -/

/-- One character of a text in a document: only quotes, backslashes and controls
    are escaped. -/
def jsonChar (c : Char) : List Char :=
  if c = '"' ∨ c = '\\' then ['\\', c]
  else if c = '\n' then ['\\', 'n']
  else if c = '\r' then ['\\', 'r']
  else if c = '\t' then ['\\', 't']
  else if c.toNat = 0x08 then ['\\', 'b']
  else if c.toNat = 0x0C then ['\\', 'f']
  else if c.toNat < 0x20 then '\\' :: 'u' :: Text.hexDigits 4 c.toNat
  else [c]

/-- One letter of a text in a document. -/
def jsonLetter : Letter → List Letter
  | .char c => (jsonChar c).map .char
  | .half n => [.half n]

/-- A text in a document. -/
def jsonText (t : Text) : Text :=
  "\"" ++ ⟨t.letters.flatMap jsonLetter⟩ ++ "\""

mutual

/-- The value as a document without spaces. -/
def json : Value → Text
  | null => "null"
  | bool true => "true"
  | bool false => "false"
  | int n => toString n
  | text s => jsonText s
  | list items => "[" ++ Text.joined "," (jsonItems items) ++ "]"
  | object fields => "\x7b" ++ Text.joined "," (jsonFields fields) ++ "\x7d"

/-- The documents of a list. -/
def jsonItems : List Value → List Text
  | [] => []
  | v :: vs => json v :: jsonItems vs

/-- The members of an object, each behind its name. -/
def jsonFields : List (String × Value) → List Text
  | [] => []
  | (k, v) :: rest => (jsonText k ++ ":" ++ json v) :: jsonFields rest

end

end Value

end FaultResponse
