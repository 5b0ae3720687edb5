import FaultResponse.Failure
/-! # Path templates — the paths that a route answers

    A template is a path in which parameters may stand between braces: a name, and
    after a colon the kind of text that it takes.  Everything else stands for
    itself, also a brace that begins no parameter.  A path matches a template as a
    whole, except that a line feed at its very end is passed over.

    Each piece of a template takes as much of the path as the pieces behind it leave
    to it.  A piece that takes a whole number also reads it, and a number that is too
    long cannot be read: whether the path is covered stays open then. -/

namespace FaultResponse

/-- Why a path is no template. -/
inductive TemplateError
  /-- It does not begin with a slash. -/
  | notRooted
  /-- A parameter is of a kind that does not exist. -/
  | unknownKind (kind : String)
  /-- Parameters come more than once. -/
  | repeated (names : List String) (path : String)
  deriving DecidableEq, Repr

namespace PathTemplate

/-! ## Reading a template -/

/-- A part of a template: a character that stands for itself, or a parameter. -/
inductive Token
  | char (c : Char)
  | parameter (name kind : String)
  deriving DecidableEq, Repr

/-- Whether a character may begin a name. -/
def isNameStart (c : Char) : Bool :=
  c.isAlpha || c == '_'

/-- Whether the characters are a name. -/
def isName : List Char → Bool
  | [] => false
  | c :: rest => isNameStart c && rest.all fun d => isNameStart d || d.isDigit

/-- The kind of a parameter that names none. -/
def plainKind : String := "str"

/-- The parameter that stands between two braces, if it is one. -/
def parameter? (inner : List Char) : Option Token :=
  let name := inner.takeWhile (· ≠ ':')
  if isName name then
    match inner.drop name.length with
    | [] => some (.parameter (String.ofList name) plainKind)
    | _ :: kind =>
      if isName kind then some (.parameter (String.ofList name) (String.ofList kind)) else none
  else none

/-- The parts of a path; `held` holds what follows an open brace. -/
def scan : Option (List Char) → List Char → List Token
  | none, [] => []
  | some held, [] => .char '\x7b' :: held.map .char
  | none, c :: rest => if c = '\x7b' then scan (some []) rest else .char c :: scan none rest
  | some held, c :: rest =>
    if c = '\x7d' then
      match parameter? held with
      | some p => p :: scan none rest
      | none => (.char '\x7b' :: held.map .char) ++ .char c :: scan none rest
    else if c = '\x7b' then (.char '\x7b' :: held.map .char) ++ scan (some []) rest
    else scan (some (held ++ [c])) rest

/-! ## Patterns -/

/-- Which characters a place of a pattern takes. -/
inductive CharKind
  | only (c : Char)
  | digit
  | hexDigit
  | notSlash
  | notLineFeed
  deriving DecidableEq, Repr

/-- Whether a character is of the kind. -/
def CharKind.takes : CharKind → Char → Bool
  | only d, c => c == d
  | digit, c => c.isDigit
  | hexDigit, c => c.isDigit || ('a' ≤ c && c ≤ 'f') || ('A' ≤ c && c ≤ 'F')
  | notSlash, c => c != '/'
  | notLineFeed, c => c != '\n'

/-- A place of a pattern. -/
inductive Place
  /-- One character. -/
  | one (k : CharKind)
  /-- One character or none. -/
  | optional (k : CharKind)
  /-- Any number of characters. -/
  | many (k : CharKind)
  /-- A point and digits, or nothing. -/
  | fraction
  deriving DecidableEq, Repr

/-- What may be left of a text behind any number of characters of a kind, the longest
    run first; `found` is what is left behind shorter runs. -/
def restsOfMany (k : CharKind) (found : List (List Char)) : List Char → List (List Char)
  | [] => [] :: found
  | c :: rest =>
    if k.takes c then restsOfMany k ((c :: rest) :: found) rest else (c :: rest) :: found

/-- What may be left of a text behind a place; first where the place takes most. -/
def Place.rests : Place → List Char → List (List Char)
  | one k, c :: rest => if k.takes c then [rest] else []
  | one _, [] => []
  | optional k, c :: rest => if k.takes c then [rest, c :: rest] else [c :: rest]
  | optional _, [] => [[]]
  | many k, cs => restsOfMany k [] cs
  | fraction, '.' :: d :: rest =>
    if d.isDigit then restsOfMany .digit ['.' :: d :: rest] rest else ['.' :: d :: rest]
  | fraction, cs => [cs]

/-- What may be left of a text behind places one after another. -/
def restsOf : List Place → List Char → List (List Char)
  | [], cs => [cs]
  | p :: places, cs => (p.rests cs).flatMap (restsOf places)

/-- One part of a template, as a pattern. -/
structure Piece where
  places : List Place
  /-- Whether the text that it takes is read as a whole number. -/
  isNumber : Bool
  deriving DecidableEq, Repr

/-- A character that stands for itself. -/
def Piece.char (c : Char) : Piece :=
  ⟨[.one (.only c)], false⟩

/-- What a piece notes: how many digits its number has, if it takes one. -/
def Piece.note (p : Piece) (cs rest : List Char) (noted : List Nat) : List Nat :=
  if p.isNumber then (cs.length - rest.length) :: noted else noted

/-- How many digits the whole numbers of a text have, in order, if it matches pieces
    one after another. -/
def digitCounts? : List Piece → List Char → Option (List Nat)
  | [], rest => if rest.isEmpty || rest == ['\n'] then some [] else none
  | p :: pieces, cs =>
    (restsOf p.places cs).findSome? fun rest => (digitCounts? pieces rest).map (p.note cs rest)

/-- One character or more. -/
def atLeastOne (k : CharKind) : List Place :=
  [.one k, .many k]

/-- The places of a number in the usual grouping of 32 hexadecimal digits. -/
def uuidPlaces : List Place :=
  let group (n : Nat) : List Place := List.replicate n (.one .hexDigit)
  let dash : List Place := [.optional (.only '-')]
  group 8 ++ dash ++ group 4 ++ dash ++ group 4 ++ dash ++ group 4 ++ dash ++ group 12

/-- The kinds of parameters and the piece for each of them. -/
def kinds : List (String × Piece) :=
  [("str", ⟨atLeastOne .notSlash, false⟩), ("path", ⟨[.many .notLineFeed], false⟩),
   ("int", ⟨atLeastOne .digit, true⟩), ("float", ⟨atLeastOne .digit ++ [.fraction], false⟩),
   ("uuid", ⟨uuidPlaces, false⟩)]

/-- The names of the parameters. -/
def names : List Token → List String
  | [] => []
  | .char _ :: rest => names rest
  | .parameter name _ :: rest => name :: names rest

/-- The pieces of all parts. -/
def piecesOf : List Token → Except TemplateError (List Piece)
  | [] => .ok []
  | .char c :: rest =>
    match piecesOf rest with
    | .ok ps => .ok (.char c :: ps)
    | .error e => .error e
  | .parameter _ kind :: rest =>
    match kinds.lookup kind with
    | none => .error (.unknownKind kind)
    | some own =>
      match piecesOf rest with
      | .ok ps => .ok (own :: ps)
      | .error e => .error e

/-- The names that come more than once, each of them once. -/
def repeats : List String → List String
  | [] => []
  | name :: rest =>
    if rest.contains name then name :: (repeats rest).filter (· != name) else repeats rest

end PathTemplate

/-- The paths that a route answers. -/
structure PathTemplate where
  pieces : List PathTemplate.Piece
  deriving DecidableEq, Repr

namespace PathTemplate

/-- Read a template. -/
def ofPath (path : String) : Except TemplateError PathTemplate :=
  if path.startsWith "/" then
    let tokens := scan none path.toList
    match piecesOf tokens, repeats (names tokens) with
    | .error e, _ => .error e
    | .ok ps, [] => .ok ⟨ps⟩
    | .ok _, names => .error (.repeated (names.mergeSort fun a b => decide (a ≤ b)) path)
  else .error .notRooted

/-- The template without parameters. -/
def exact (path : String) : PathTemplate :=
  ⟨path.toList.map .char⟩

/-- Whether a path matches the template; a number in it that is too long is an error. -/
def covers (t : PathTemplate) (path : String) : Except Failure Bool :=
  match digitCounts? t.pieces path.toList with
  | none => .ok false
  | some counts =>
    match counts.find? (Failure.digitLimit < ·) with
    | some digits => .error (.numberTooLong digits)
    | none => .ok true

/-- A path matches its own characters, and no number is read on the way. -/
theorem digitCounts?_map_char (cs : List Char) : digitCounts? (cs.map .char) cs = some [] := by
  induction cs with
  | nil => rfl
  | cons c rest ih =>
    simp [digitCounts?, Piece.char, Piece.note, restsOf, Place.rests, CharKind.takes, ih]

/-- A template without parameters covers its own path. -/
theorem covers_exact (path : String) : (exact path).covers path = .ok true := by
  simp [covers, exact, digitCounts?_map_char]

end PathTemplate

namespace TemplateError

/-- The name of the exception class that reports the error. -/
def name : TemplateError → String
  | notRooted | unknownKind _ => "AssertionError"
  | repeated .. => "ValueError"

/-- The wording. -/
def message : TemplateError → String
  | notRooted => "Routed paths must start with '/'"
  | unknownKind kind => "Unknown path convertor '" ++ kind ++ "'"
  | repeated names path =>
    "Duplicated param name" ++ (if names.length = 1 then "" else "s") ++ " "
      ++ ", ".intercalate names ++ " at path " ++ path

end TemplateError

end FaultResponse
