import FaultResponse.Class.Known
import FaultResponse.Signature
import FaultResponse.Text.Charset
/-! # Misuse — inputs of which no exception, response, header or body can be made

    A constructor that cannot use its inputs raises an exception of a known class
    in the place of what it was asked for. -/

namespace FaultResponse

/-- Why inputs are refused. -/
inductive Misuse
  /-- The constructor of an exception does not take these arguments. -/
  | arguments (r : Refusal)
  /-- A count of octets does not fit into a machine word. -/
  | countTooLarge
  /-- A text stands where attributes belong. -/
  | textForAttributes
  /-- A header or a body has letters that cannot be sent. -/
  | unencodable (u : Text.Unencodable)
  /-- A class name has a NUL in it. -/
  | nullInName
  /-- A body that arrives asynchronously was closed by a caller that waits. -/
  | closedAsynchronously
  /-- What was to be raised is no exception. -/
  | notRaisable
  deriving DecidableEq, Repr

namespace Misuse

/-- The class of the exception that reports the misuse. -/
def reporter : Misuse → Known ⊕ Internal
  | arguments _ | notRaisable => .inl .typeError
  | countTooLarge | textForAttributes | nullInName => .inl .valueError
  | unencodable _ => .inr .encodeError
  | closedAsynchronously => .inl .runtimeError

/-- The wording. -/
def message : Misuse → String
  | arguments r => r.message
  | countTooLarge => "cannot fit 'int' into an index-sized integer"
  | textForAttributes => "dictionary update sequence element #0 has length 1; 2 is required"
  | unencodable u => u.message
  | nullInName => "type name must not contain null characters"
  | closedAsynchronously => "Attempted to call an sync close on an async stream."
  | notRaisable => "exceptions must derive from BaseException"

end Misuse

end FaultResponse
