import FaultResponse.Failure
import FaultResponse.Http.Response
/-! # Response channels — at most one error per response

    A channel takes one error.  The first one that arrives while the channel is
    open commits it; every further one, and every one after closing, is refused
    and changes nothing.  A committed channel renders as plain text, if the text of the
    error has octets. -/

namespace FaultResponse

/-- A buffered channel: the error that was sent, and whether the channel is closed. -/
structure Channel where
  sent : Option (Int × Text) := none
  closed : Bool := false
  deriving DecidableEq, Repr

namespace Channel

/-- Whether an error was sent. -/
def committed (c : Channel) : Bool :=
  c.sent.isSome

/-- Send an error. -/
def send (c : Channel) (status : Int) (message : Text) : Except Failure Channel :=
  if c.closed then .error .channelClosed
  else
    match c.sent with
    | some earlier => .error (.channelCommitted earlier.1)
    | none => .ok { c with sent := some (status, message) }

/-- **At most one error.** A channel takes an error exactly when it is open and
    holds none, and then it holds that one. -/
theorem send_eq_ok_iff {c d : Channel} {status : Int} {message : Text} :
    c.send status message = .ok d ↔
      c.closed = false ∧ c.committed = false ∧
        d = { c with sent := some (status, message) } := by
  obtain ⟨sent, closed⟩ := c
  cases closed <;> cases sent <;> simp [send, committed, eq_comm]

/-- Close the channel; what was sent stays. -/
def close (c : Channel) : Channel :=
  { c with closed := true }

/-- Render the error that was sent. -/
def render (c : Channel) : Except Failure Http.Response :=
  match c.sent with
  | some (status, message) =>
    (Http.plain status message).mapError fun u => .misuse (.unencodable u)
  | none => .error .nothingSent

theorem render_of_empty {c : Channel} (h : c.sent = none) : c.render = .error .nothingSent := by
  simp only [render, h]

/-- What is rendered is composed of a message that is a string. -/
theorem render_eq_ok_iff {c : Channel} {r : Http.Response} :
    c.render = .ok r ↔ ∃ status, ∃ body : String, c.sent = some (status, (body : Text)) ∧
      r = Http.compose status [] (some Http.plainType) body := by
  unfold render
  cases c.sent with
  | none => exact iff_of_false nofun nofun
  | some error =>
      show (Http.plain error.1 error.2).mapError _ = .ok r ↔ _
      rw [Http.mapError_eq_ok_iff, Http.plain, Http.render_eq_ok_iff]
      constructor
      · rintro ⟨body, hbody, rfl⟩
        exact ⟨error.1, body, congrArg (fun m => some (error.1, m)) hbody, rfl⟩
      · rintro ⟨status, body, herror, rfl⟩
        obtain rfl := Option.some.inj herror
        exact ⟨body, rfl, rfl⟩

theorem render_of_string {c : Channel} {status : Int} {body : String}
    (h : c.sent = some (status, (body : Text))) :
    c.render = .ok (Http.compose status [] (some Http.plainType) body) :=
  render_eq_ok_iff.mpr ⟨status, body, h, rfl⟩

/-- A message that is no string is taken all the same, and does not go out. -/
theorem render_of_not_isString {c : Channel} {status : Int} {message : Text}
    (h : c.sent = some (status, message)) (hno : ¬ message.IsString) :
    ∃ u, c.render = .error (.misuse (.unencodable u)) := by
  obtain ⟨u, hu⟩ := Http.render_of_not_isString hno status [] (some Http.plainType)
  refine ⟨u, ?_⟩
  simp only [render, h, Http.plain, hu]
  rfl

theorem render_of_half {c : Channel} {status : Int} {message : Text}
    (h : c.sent = some (status, message)) {n : Fin 0x800} (hn : .half n ∈ message.letters) :
    ∃ u, c.render = .error (.misuse (.unencodable u)) := by
  refine render_of_not_isString h ?_
  intro hs
  exact Text.Charset.isString_iff.mp hs n hn

end Channel

/-- A place where an error can be sent: a channel, or one that refuses every write
    for a reason of its own. -/
inductive Sink
  | sound (c : Channel)
  | failing (c : Channel) (f : Failure)
  deriving DecidableEq, Repr

namespace Sink

/-- The channel behind the place. -/
def channel : Sink → Channel
  | sound c | failing c _ => c

/-- Send an error. -/
def send : Sink → Int → Text → Except Failure Sink
  | sound c, status, message =>
    match c.send status message with
    | .ok d => .ok (sound d)
    | .error f => .error f
  | failing _ f, _, _ => .error f

/-- Close the channel. -/
def close : Sink → Sink
  | sound c => sound c.close
  | failing c f => failing c.close f

end Sink

end FaultResponse
