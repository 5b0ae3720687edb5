import FaultResponse.Class.Kind
import FaultResponse.Misuse
/-! # Failures — why an operation did not return

    A failure is a cause.  Its kind decides which guard catches it, its message
    is what a log or a caller reads; both are functions of the cause. -/

namespace FaultResponse

/-- Why an operation did not return. -/
inductive Failure
  /-- Code outside this library raised an exception of that kind. -/
  | raised (kind : Kind) (text : Text)
  /-- An object of that class has no such field. -/
  | missingField (owner field : String)
  /-- The body of a response was read again after a read of it had failed. -/
  | bodyConsumed
  /-- The body of a response was read for the first time after it was closed. -/
  | bodyClosed
  /-- The body of a response arrives in a way that a blocking read cannot take. -/
  | bodyAsynchronous
  /-- A stop signal left the place that was to answer it. -/
  | stopEscaped (place : String)
  /-- An exception was recorded on a scope that had been torn down. -/
  | scopeFinalized (requestId : String)
  /-- An error was sent on a closed channel. -/
  | channelClosed
  /-- An error was sent on a channel that already holds one of that status. -/
  | channelCommitted (status : Int)
  /-- A channel was rendered before any error was sent on it. -/
  | nothingSent
  /-- A declared status is no HTTP status. -/
  | statusOutOfRange (status : Int)
  /-- A phrase was asked for that the standard does not give. -/
  | statusUnknown (status : Int)
  /-- A class lists one base twice. -/
  | repeatedBase (name : String)
  /-- No lineage keeps the order of every base; these classes block each other. -/
  | unorderedBases (blocked : List String)
  /-- Two bases store fields of their own in incompatible ways. -/
  | storageConflict
  /-- The octets of a text end inside a character, of which these are there. -/
  | cutCharacter (position : Nat) (octets : List UInt8)
  /-- A whole number is written with more digits than are read. -/
  | numberTooLong (digits : Nat)
  /-- Nothing has been given that name. -/
  | unknownName (name : String)
  /-- Inputs were given of which nothing can be made. -/
  | misuse (m : Misuse)
  /-- A layer got no response from the application inside it. -/
  | noResponse
  /-- A layer failed while the application inside it was failing. -/
  | failedTogether
  deriving DecidableEq, Repr

namespace Failure

/-- The kind that a guard sees. -/
def kind : Failure → Kind
  | raised k _ => k
  | missingField .. => Known.attributeError.kind
  | bodyConsumed => Known.streamConsumed.kind
  | bodyClosed => Known.streamClosed.kind
  | bodyAsynchronous | stopEscaped _ => Known.runtimeError.kind
  | scopeFinalized _ => Known.scopeFinalized.kind
  | channelClosed | channelCommitted _ => Known.responseCommitted.kind
  | nothingSent | noResponse => Known.runtimeError.kind
  | statusOutOfRange _ | statusUnknown _ | numberTooLong _ => Known.valueError.kind
  | repeatedBase _ | unorderedBases _ | storageConflict => Known.typeError.kind
  | cutCharacter .. => Internal.decodeError.kind
  | unknownName _ => Known.keyError.kind
  | misuse m => m.reporter.elim Known.kind Internal.kind
  | failedTogether => Internal.group.kind

/-- The text of every exception that reports a consumed body. -/
def consumedText : String :=
  "Attempted to read or stream some content, but the content has already been streamed. "
    ++ "For requests, this could be due to passing a generator as request content, and then "
    ++ "receiving a redirect response or a secondary request as part of an authentication flow."
    ++ "For responses, this could be due to attempting to stream the response content more "
    ++ "than once."

/-- The text of every exception that reports a closed body. -/
def closedText : String :=
  "Attempted to read or stream content, but the stream has been closed."

/-- The report of bases that contradict each other, in full. -/
def unorderedText (blocked : List String) : String :=
  "Cannot create a consistent method resolution\norder (MRO) for bases "
    ++ ", ".intercalate blocked

/-- How many octets of that report are kept. -/
def reportSize : Nat := 999

/-- The failure of bases that contradict each other.  Where the report would end inside
    a character, it cannot be read, and that is the failure. -/
def ofUnordered (blocked : List String) : Failure :=
  match (Text.Utf8.cut reportSize (unorderedText blocked).toList).2 with
  | [] => .unorderedBases blocked
  | octets => .cutCharacter (reportSize - octets.length) octets

/-- What stands at the place where the octets of a text end inside a character. -/
def cutText (position : Nat) : List UInt8 → String
  | [octet] =>
    "byte 0x" ++ String.ofList (Text.hexDigits 2 octet.toNat) ++ " in position "
      ++ toString position
  | octets =>
    "bytes in position " ++ toString position ++ "-" ++ toString (position + octets.length - 1)

/-- How many digits of a whole number are read. -/
def digitLimit : Nat := 4300

/-- The wording. -/
def message : Failure → Text
  | raised _ text => text
  | missingField owner field =>
    "'" ++ Text.Utf8.clip 50 owner ++ "' object has no attribute '" ++ field ++ "'"
  | bodyConsumed => consumedText
  | bodyClosed => closedText
  | bodyAsynchronous => "Attempted to call an sync iterator on an async stream."
  | stopEscaped place => place ++ " raised StopIteration"
  | scopeFinalized id => "Diagnostic scope " ++ id ++ " is already finalized"
  | channelClosed => "Response channel is closed"
  | channelCommitted status => "Response already committed with status " ++ toString status
  | nothingSent => "No error was sent on this channel"
  | statusOutOfRange status => "HTTP status out of range: " ++ toString status
  | statusUnknown status => toString status ++ " is not a valid HTTPStatus"
  | repeatedBase name => "duplicate base class " ++ name
  | unorderedBases names => Text.Utf8.clip reportSize (unorderedText names)
  | storageConflict => "multiple bases have instance lay-out conflict"
  | cutCharacter position octets =>
    "'utf-8' codec can't decode " ++ cutText position octets ++ ": unexpected end of data"
  | numberTooLong digits =>
    "Exceeds the limit (" ++ toString digitLimit ++ " digits) for integer string conversion: "
      ++ "value has " ++ toString digits ++ " digits; "
      ++ "use sys.set_int_max_str_digits() to increase the limit"
  | unknownName name => Text.quoted name
  | misuse m => m.message
  | noResponse => "No response returned."
  | failedTogether => "unhandled errors in a TaskGroup (2 sub-exceptions)"

/-- The name of the exception class that reports the failure. -/
def name (f : Failure) : String :=
  f.kind.name

/-- The failure as it is seen outside the place that it leaves.  Inside a place that
    answers step by step a stop signal would pass for the end, so it does not get
    out as one. -/
def leaving (place : String) (f : Failure) : Failure :=
  if f.kind.is .stopIteration then .stopEscaped place else f

/-- Whether a guard for ordinary exceptions catches the failure. -/
def isOrdinary (f : Failure) : Bool :=
  f.kind.isOrdinary

/-- The failure as it leaves a layer that waits for the application inside it.  An
    ordinary exception passes, and so does a signal, which nothing holds up.  By any
    other failure the layer is left without a response, which makes it fail as well. -/
def throughLayer (f : Failure) : Failure :=
  if f.isOrdinary || f.kind.isSignal then f else .failedTogether

end Failure

end FaultResponse
