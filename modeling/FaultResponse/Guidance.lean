import FaultResponse.Fault.Basic
/-! # Guidance — what an operator adds to messages

    An operator may attach a text to classes of exceptions.  The first entry that
    has a text and whose class the exception belongs to is appended to the
    message, on a line of its own.  An absent message stays absent. -/

namespace FaultResponse

/-- Texts for classes, in order. -/
structure Guidance where
  entries : OrderedMap ClassId Text := []
  deriving DecidableEq, Repr

namespace Guidance

/-- The guidance that a list of classes and texts describes. -/
def ofPairs (pairs : List (ClassId × Text)) : Guidance :=
  ⟨OrderedMap.ofPairs pairs⟩

/-- Whether an entry has something to say about an exception. -/
def speaksTo (e : Fault) (entry : ClassId × Text) : Bool :=
  e.cls.isA entry.1 && !entry.2.isEmpty

/-- The text for an exception: the first one that is not empty. -/
def textFor? (g : Guidance) (e : Fault) : Option Text :=
  (g.entries.find? (speaksTo e)).map (·.2)

/-- Append the text for an exception to a message. -/
def append (g : Guidance) (e : Fault) (message : Text) : Text :=
  match g.textFor? e with
  | some extra => message ++ "\n" ++ extra
  | none => message

end Guidance

/-- The last step before a message is sent. -/
inductive Decorator
  /-- Append an operator's guidance. -/
  | guidance (g : Guidance)
  /-- Answer the same, whatever the message. -/
  | constant (s : Option Text)
  /-- Fail. -/
  | failing (f : Failure)

namespace Decorator

/-- The decorator without guidance. -/
def plain : Decorator :=
  guidance {}

/-- The message to send for an exception. -/
def decorate (d : Decorator) (e : Fault) (message : Option Text) :
    Except Failure (Option Text) :=
  match d with
  | guidance g => .ok (message.map (g.append e))
  | constant s => .ok s
  | failing f => .error f

/-- Without guidance every message is sent as it is. -/
@[simp] theorem decorate_plain (e : Fault) (message : Option Text) :
    plain.decorate e message = .ok message := by
  cases message <;> simp [plain, decorate, Guidance.append, Guidance.textFor?]

end Decorator

end FaultResponse
