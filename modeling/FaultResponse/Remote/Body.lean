import FaultResponse.Failure
import FaultResponse.Store
/-! # Bodies — what a read of a received response gives, once and again

    A body is either held in full or still to be read from a stream.  A read
    that succeeds leaves the body held, so every later read gives the same
    octets.  A read that fails half-way leaves nothing to read, so every later
    read fails for that reason.  A body that was closed before its first read,
    or that only arrives asynchronously, fails in the same way at every read. -/

namespace FaultResponse

/-- How far the body of a received response has been read. -/
inductive Body
  /-- All octets are held. -/
  | held (octets : List UInt8)
  /-- The pieces still to come, and the failure that follows them, if any. -/
  | unread (chunks : List (List UInt8)) (fails : Option Failure)
  /-- An earlier read failed. -/
  | spent
  /-- The response was closed before it was read. -/
  | closed
  /-- The body cannot be read while the caller waits. -/
  | asynchronous
  deriving DecidableEq, Repr

namespace Body

/-- The place that a failure in the middle of a stream leaves. -/
def streamPlace : String := "generator"

/-- Read the body: the octets or a failure, and the body afterwards. -/
def read : Body → Except Failure (List UInt8) × Body
  | held octets => (.ok octets, held octets)
  | unread chunks none => (.ok chunks.flatten, held chunks.flatten)
  | unread _ (some f) => (.error (f.leaving streamPlace), spent)
  | spent => (.error .bodyConsumed, spent)
  | closed => (.error .bodyClosed, closed)
  | asynchronous => (.error .bodyAsynchronous, asynchronous)

/-- **A body that was read once stays readable**, with the same octets. -/
theorem read_again {b : Body} {octets : List UInt8} (h : b.read.1 = .ok octets) :
    b.read.2 = held octets := by
  cases b with
  | held o => simpa [read] using h
  | unread chunks fails =>
      cases fails with
      | none => simpa [read] using h
      | some f => simp [read] at h
  | spent => simp [read] at h
  | closed => simp [read] at h
  | asynchronous => simp [read] at h

/-- From the second read on, reading changes nothing. -/
theorem read_settled (b : Body) : b.read.2.read.2 = b.read.2 := by
  cases b with
  | unread chunks fails => cases fails <;> rfl
  | held | spent | closed | asynchronous => rfl

end Body

/-- How a body arrives with its response. -/
inductive Arrival
  /-- All octets at once. -/
  | content (octets : List UInt8)
  /-- Piece by piece, with the failure behind the last piece, if any. -/
  | stream (chunks : List (List UInt8)) (fails : Option Failure)
  /-- Piece by piece, but only for a reader that does not wait. -/
  | asynchronous

/-- The body of a response at its arrival.  Closing the response takes away what is
    still to come, not what is already here. -/
def Arrival.body (closed : Bool) : Arrival → Body
  | content octets => .held octets
  | stream chunks fails => if closed then .closed else .unread chunks fails
  | asynchronous => .asynchronous

/-- The number of a received response; exceptions that share a response share it. -/
abbrev BodyId := Nat

/-- The bodies of all received responses. -/
abbrev Bodies := Store BodyId Body

end FaultResponse
