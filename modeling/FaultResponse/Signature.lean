import FaultResponse.Text.Utf8
/-! # Signatures — which arguments a constructor takes

    A signature lists parameters by name: those that must be given, those that
    may be, and those that are given by name only.  A call is described by how
    many arguments it gives by position and which ones by name.  A call that does
    not fit is refused for the first reason that applies: a name that is not
    known, too many arguments, a missing one, a missing named one. -/

namespace FaultResponse

/-- The parameters of a constructor besides the exception itself. -/
structure Signature where
  /-- The class that the constructor belongs to. -/
  owner : String
  required : List String := []
  optional : List String := []
  /-- The parameters that are given by name only. -/
  named : List String := []
  /-- Whether those have to be given. -/
  namedRequired : Bool := false
  deriving DecidableEq, Repr

/-- Why a constructor refuses a call. -/
inductive Refusal
  /-- No parameter has that name. -/
  | unexpected (owner name : String)
  /-- More arguments are given than the constructor takes, the exception counted;
      `named` of its named ones are given as well. -/
  | tooMany (owner : String) (least most given named : Nat)
  /-- These parameters are not given. -/
  | missing (owner : String) (names : List String)
  /-- These parameters, which are given by name only, are not given. -/
  | missingNamed (owner : String) (names : List String)
  /-- The class has no constructor of its own and takes nothing. -/
  | takesNone (cls : String)
  /-- The class takes arguments by position only. -/
  | takesNoNames (cls : String)
  /-- A class with a few named arguments does not have that one. -/
  | unknownName (cls name : String)
  deriving DecidableEq, Repr

namespace Refusal

/-- A word in the plural unless it counts one. -/
def plural (n : Nat) (word : String) : String :=
  if n = 1 then word else word ++ "s"

/-- Names in quotes, as a list in a sentence. -/
def enumerate : List String → String
  | [] => ""
  | [a] => "'" ++ a ++ "'"
  | [a, b] => "'" ++ a ++ "' and '" ++ b ++ "'"
  | a :: rest => "'" ++ a ++ "', " ++ enumerateRest rest
where
  /-- The names behind the first of at least three. -/
  enumerateRest : List String → String
    | [] => ""
    | [a] => "and '" ++ a ++ "'"
    | a :: rest => "'" ++ a ++ "', " ++ enumerateRest rest

/-- How many arguments a constructor takes. -/
def range (least most : Nat) : String :=
  if least = most then toString most ++ " positional " ++ plural most "argument"
  else "from " ++ toString least ++ " to " ++ toString most ++ " positional arguments"

/-- How many arguments a call gives. -/
def amount (given named : Nat) : String :=
  if named = 0 then toString given ++ (if given = 1 then " was" else " were")
  else
    toString given ++ " positional " ++ plural given "argument" ++ " (and " ++ toString named
      ++ " keyword-only " ++ plural named "argument" ++ ") were"

/-- How much of the name of a class is shown. -/
def shownName (cls : String) : String :=
  Text.Utf8.clip 200 cls

/-- The wording. -/
def message : Refusal → String
  | unexpected owner name =>
    owner ++ ".__init__() got an unexpected keyword argument '" ++ name ++ "'"
  | tooMany owner least most given named =>
    owner ++ ".__init__() takes " ++ range least most ++ " but " ++ amount given named ++ " given"
  | missing owner names =>
    owner ++ ".__init__() missing " ++ toString names.length ++ " required positional "
      ++ plural names.length "argument" ++ ": " ++ enumerate names
  | missingNamed owner names =>
    owner ++ ".__init__() missing " ++ toString names.length ++ " required keyword-only "
      ++ plural names.length "argument" ++ ": " ++ enumerate names
  | takesNone cls => shownName cls ++ "() takes no arguments"
  | takesNoNames cls => shownName cls ++ "() takes no keyword arguments"
  | unknownName cls name =>
    "'" ++ name ++ "' is an invalid keyword argument for " ++ cls ++ "()"

end Refusal

namespace Signature

/-- The parameters that an argument can reach by its position. -/
def positional (s : Signature) : List String :=
  s.required ++ s.optional

/-- Whether an argument can be given by that name. -/
def knows (s : Signature) (name : String) : Bool :=
  s.positional.contains name || s.named.contains name

/-- The required parameters that a call leaves out. -/
def missing (s : Signature) (given : Nat) (names : List String) : List String :=
  (s.required.drop given).filter fun p => !names.contains p

/-- The required named parameters that a call leaves out. -/
def missingNamed (s : Signature) (names : List String) : List String :=
  if s.namedRequired then s.named.filter fun p => !names.contains p else []

/-- Why a call with that many arguments by position, and these by name, is refused,
    if it is.  The exception itself counts as one argument more. -/
def refusal? (s : Signature) (given : Nat) (names : List String) : Option Refusal :=
  match names.find? (fun n => !s.knows n) with
  | some name => some (.unexpected s.owner name)
  | none =>
    if s.positional.length < given then
      some (.tooMany s.owner (s.required.length + 1) (s.positional.length + 1) (given + 1)
        (names.filter fun n => s.named.contains n).length)
    else
      match s.missing given names, s.missingNamed names with
      | [], [] => none
      | [], named => some (.missingNamed s.owner named)
      | positional, _ => some (.missing s.owner positional)

end Signature

end FaultResponse
