import FaultResponse.Http.Status
import FaultResponse.Text.Case
import FaultResponse.Text.Charset
import FaultResponse.Text.Utf8
import FaultResponse.Value
/-! # HTTP responses — status, headers and a text

    A response that is rendered here gets two headers unless they are given: the
    type of its body, and the number of octets of it.  Statuses that forbid a
    body get no length.  Only a text that has octets can be a body. -/

namespace FaultResponse.Http

/-- A response.  Header names are in small letters; a name may come twice. -/
structure Response where
  status : Int
  headers : List (String × String)
  body : String
  deriving DecidableEq, Repr

/-- The media type of plain texts. -/
def plainMediaType : String := "text/plain"

/-- The type of plain texts as responses give it, with their encoding. -/
def plainType : String := plainMediaType ++ "; charset=utf-8"

/-- The media type of documents. -/
def jsonType : String := "application/json"

/-- Whether responses of a status tell the length of their body. -/
def hasLength (status : Int) : Bool :=
  !(decide (status < 200) || decide (status = 204) || decide (status = 304))

/-- The number of octets of a body. -/
def lengthOf (body : String) : Nat :=
  (Text.Utf8.encode body).length

/-- Whether a header of that name is given. -/
def hasHeader (headers : List (String × String)) (name : String) : Bool :=
  headers.any fun h => h.1 == name

/-- A response with a body and the given headers; `type` is the type of the body. -/
def compose (status : Int) (given : List (String × String)) (type : Option String)
    (body : String) : Response :=
  let length :=
    if hasLength status && !hasHeader given "content-length" then
      [("content-length", toString (lengthOf body))]
    else []
  let typed :=
    match type with
    | some t => if hasHeader given "content-type" then [] else [("content-type", t)]
    | none => []
  ⟨status, given ++ length ++ typed, body⟩

/-- Render a text as a body, unless some letter of it has no octets. -/
def render (status : Int) (given : List (String × String)) (type : Option String)
    (body : Text) : Except Text.Unencodable Response :=
  match Text.Charset.utf8.lack? body with
  | some u => .error u
  | none => .ok (compose status given type body.characters)

/-- A string always goes out. -/
theorem render_ofString (status : Int) (given : List (String × String)) (type : Option String)
    (s : String) : render status given type s = .ok (compose status given type s) := by
  have hlack : Text.Charset.utf8.lack? s = none :=
    Text.Charset.utf8_lack?_eq_none_iff.mpr ⟨s, rfl⟩
  simp only [render, hlack, Text.characters_ofString]

/-- A text that is no string never does. -/
theorem render_of_not_isString {body : Text} (h : ¬ body.IsString) (status : Int)
    (given : List (String × String)) (type : Option String) :
    ∃ u, render status given type body = .error u := by
  rw [← Text.Charset.utf8_lack?_eq_none_iff, ← ne_eq, Option.ne_none_iff_exists'] at h
  obtain ⟨u, hu⟩ := h
  exact ⟨u, by simp only [render, hu]⟩

/-- What goes out is composed of a string. -/
theorem render_eq_ok_iff {status : Int} {given : List (String × String)} {type : Option String}
    {body : Text} {r : Response} :
    render status given type body = .ok r ↔
      ∃ s : String, body = s ∧ r = compose status given type s := by
  constructor
  · intro h
    by_cases hbody : body.IsString
    · obtain ⟨s, rfl⟩ := hbody
      exact ⟨s, rfl, Except.ok.inj (h.symm.trans (render_ofString status given type s))⟩
    · obtain ⟨u, hu⟩ := render_of_not_isString hbody status given type
      exact nomatch h.symm.trans hu
  · rintro ⟨s, rfl, rfl⟩
    exact render_ofString status given type s

/-- Success does not depend on how a failure is told. -/
theorem mapError_eq_ok_iff {ε ε' α : Type} {x : Except ε α} {f : ε → ε'} {a : α} :
    x.mapError f = .ok a ↔ x = .ok a := by
  cases x with
  | error u => exact iff_of_false nofun nofun
  | ok b => exact ⟨fun h => congrArg _ (Except.ok.inj h), fun h => congrArg _ (Except.ok.inj h)⟩

/-- A plain text. -/
def plain (status : Int) (body : Text) : Except Text.Unencodable Response :=
  render status [] (some plainType) body

/-- A document. -/
def json (status : Int) (document : Value) : Except Text.Unencodable Response :=
  render status [] (some jsonType) document.json

/-- Give one header a value: it replaces the first header of that name, all later
    ones of that name are dropped, and a new name is appended. -/
def setHeader (name value : String) : List (String × String) → List (String × String)
  | [] => [(name, value)]
  | h :: rest =>
    if h.1 = name then (name, value) :: rest.filter (fun g => !decide (g.1 = name))
    else h :: setHeader name value rest

/-- Give one header of a response a value. -/
def Response.set (r : Response) (name value : String) : Response :=
  { r with headers := setHeader name value r.headers }

/-- The first header of a name, in any case. -/
def findHeader (headers : List (String × String)) (name : String) : Option String :=
  (headers.find? fun h => decide (Text.lower h.1 = name)).map (·.2)

end FaultResponse.Http
