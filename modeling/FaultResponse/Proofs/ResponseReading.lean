import FaultResponse.Proofs.Rereading
/-! # Reading a response — what it declares, and how a read of it ends

    Whether a body is read depends on the headers, and what comes of it on the reading
    operation.  Both are described here by the data alone, for the responses of every
    client alike:

    * `announcesJson_iff`: a response announces JSON by the first of its pairs that is
      named content type, and by no other;
    * `readBody_comes`: a read ends in one of four ways, each with its outcome and its
      records, so that `unread_iff` and the lemmas about records go by cases on it. -/

namespace FaultResponse

/-- A search that goes on after every failed start finds what stands anywhere. -/
theorem Text.occursIn_iff_infix {α : Type} [BEq α] [LawfulBEq α] {part s : List α} :
    occursIn part s = true ↔ part <:+: s := by
  induction s with
  | nil =>
      show part.isEmpty = true ↔ part <:+: []
      rw [List.isEmpty_iff, List.infix_nil]
  | cons c cs ih =>
      show (part.isPrefixOf (c :: cs) || occursIn part cs) = true ↔ part <:+: c :: cs
      rw [Bool.or_eq_true, List.isPrefixOf_iff_prefix, ih, List.infix_cons_iff]

/-! ## The content type -/

/-- The pairs of another client's headers, as far as they can be listed. -/
def ForeignHeaders.listed : ForeignHeaders → List (HeaderItem × HeaderItem)
  | .pairs items => items
  | .absent | .failing _ => []

namespace Response

/-- The header pairs in their order. -/
def headerPairs : Response → List (HeaderItem × HeaderItem)
  | known k => k.headers.map fun h => (.text h.1, .text h.2)
  | foreign k => k.headers.listed

/-- A name that is a text and, in small letters, the name of the content type. -/
def NamesContentType (name : HeaderItem) : Prop :=
  ∃ s, name = .text s ∧ s.folded = "content-type"

/-- The first pair that is named content type has a text for its value, and in it, in
    small letters, the media type of JSON documents stands somewhere. -/
def DeclaresJson (r : Response) : Prop :=
  ∃ before name value after, r.headerPairs = before ++ (name, .text value) :: after ∧
    NamesContentType name ∧ (∀ p ∈ before, ¬ NamesContentType p.1) ∧
    ("application/json" : Text).letters <:+: value.folded.letters

theorem isContentType_iff {name : HeaderItem} :
    isContentType name = true ↔ NamesContentType name := by
  cases name with
  | other =>
      constructor
      · intro h
        exact nomatch h
      · rintro ⟨s, hs, -⟩
        exact nomatch hs
  | text s =>
      show decide (s.folded = contentTypeHeader) = true ↔ _
      rw [decide_eq_true_iff]
      constructor
      · intro h
        exact ⟨s, rfl, h⟩
      · rintro ⟨t, ht, h⟩
        obtain rfl := HeaderItem.text.inj ht
        exact h

theorem headerText_eq_some_iff {item : HeaderItem} {s : Text} :
    headerText item = some s ↔ item = .text s := by
  cases item with
  | other => exact ⟨nofun, nofun⟩
  | text t =>
      show some t = some s ↔ HeaderItem.text t = .text s
      rw [Option.some.injEq, HeaderItem.text.injEq]

/-- A pair of that name hides every later one, also where its own value is no text. -/
theorem findContentType_eq_some_iff {items : List (HeaderItem × HeaderItem)} {value : Text} :
    findContentType items = some value ↔
      ∃ before name after, items = before ++ (name, .text value) :: after ∧
        NamesContentType name ∧ ∀ p ∈ before, ¬ NamesContentType p.1 := by
  show (items.find? fun item => isContentType item.1).bind (fun item => headerText item.2)
    = some value ↔ _
  rw [Option.bind_eq_some_iff]
  constructor
  · rintro ⟨⟨name, item⟩, hfind, hitem⟩
    obtain rfl := headerText_eq_some_iff.mp hitem
    obtain ⟨hname, before, after, hsplit, hbefore⟩ := List.find?_eq_some_iff_append.mp hfind
    refine ⟨before, name, after, hsplit, isContentType_iff.mp hname, ?_⟩
    intro p hp hnamed
    have hnot := hbefore p hp
    rw [isContentType_iff.mpr hnamed] at hnot
    exact nomatch hnot
  · rintro ⟨before, name, after, hsplit, hname, hbefore⟩
    refine ⟨(name, .text value), ?_, rfl⟩
    refine List.find?_eq_some_iff_append.mpr
      ⟨isContentType_iff.mpr hname, before, after, hsplit, ?_⟩
    intro p hp
    cases hc : isContentType p.1 with
    | false => rfl
    | true => exact absurd (isContentType_iff.mp hc) (hbefore p hp)

theorem isJson_eq_true_iff {type : Option Text} :
    isJson type = true ↔
      ∃ value, type = some value ∧
        ("application/json" : Text).letters <:+: value.folded.letters := by
  cases type with
  | none => exact ⟨nofun, fun ⟨_, h, _⟩ => nomatch h⟩
  | some value =>
      show Text.occursIn (jsonMediaType : Text).letters value.folded.letters = true ↔ _
      rw [Text.occursIn_iff_infix]
      constructor
      · intro h
        exact ⟨value, rfl, h⟩
      · rintro ⟨v, hv, h⟩
        obtain rfl := Option.some.inj hv
        exact h

/-- Headers that are listed at all give the content type that stands in them. -/
theorem findContentType_of_contentType {r : Response} {type : Option Text}
    (h : r.contentType = .ok type) : findContentType r.headerPairs = type := by
  cases r with
  | known k => exact Except.ok.inj h
  | foreign k =>
      show findContentType k.headers.listed = type
      unfold contentType at h
      cases hk : k.headers with
      | absent | pairs =>
          simp only [hk] at h
          exact Except.ok.inj h
      | failing f =>
          simp only [hk] at h
          cases ha : f.kind.is .attributeError with
          | true =>
              rw [ha] at h
              exact Except.ok.inj h
          | false =>
              rw [ha] at h
              exact nomatch h

theorem announcesJson_iff {r : Response} : r.AnnouncesJson ↔ r.DeclaresJson := by
  constructor
  · rintro ⟨type, htype, hjson⟩
    obtain ⟨value, rfl, hvalue⟩ := isJson_eq_true_iff.mp hjson
    obtain ⟨before, name, after, hsplit, hname, hbefore⟩ :=
      findContentType_eq_some_iff.mp (findContentType_of_contentType htype)
    exact ⟨before, name, value, after, hsplit, hname, hbefore, hvalue⟩
  · rintro ⟨before, name, value, after, hsplit, hname, hbefore, hvalue⟩
    cases ht : r.contentType with
    | ok type =>
        have hfind : findContentType r.headerPairs = some value :=
          findContentType_eq_some_iff.mpr ⟨before, name, after, hsplit, hname, hbefore⟩
        rw [findContentType_of_contentType ht] at hfind
        exact ⟨type, ht, isJson_eq_true_iff.mpr ⟨value, hfind, hvalue⟩⟩
    | error f =>
        -- headers that cannot be listed have no pairs that could declare anything
        obtain ⟨hk, -⟩ := contentType_eq_error_iff.mp ht
        have hnone : ForeignHeaders.listed _ = _ := hsplit
        rw [hk] at hnone
        exact absurd hnone.symm (List.append_ne_nil_of_right_ne_nil _ (List.cons_ne_nil _ _))

end Response

/-! ## The body -/

namespace ForeignRead

/-- The reading operation that gives these octets, or fails so. -/
def ofRead : Except Failure (List UInt8) → ForeignRead
  | .ok octets => .value (.octets octets)
  | .error f => .failing f

/-- There is nothing to call: no reading operation, or none that a look for it finds. -/
inductive Uncallable : ForeignRead → Prop
  | absent : Uncallable .absent
  | hidden {f : Failure} : f.kind.is .attributeError = true → Uncallable (.hidden f)

/-- The failure gets out of the reading, or of the look for it. -/
inductive Loses : ForeignRead → Failure → Prop
  | failing {f : Failure} : f.kind.is .httpError = false → f.kind.is .runtimeError = false →
      f.kind.is .osError = false → Loses (.failing f) f
  | hidden {f : Failure} : f.kind.is .attributeError = false → Loses (.hidden f) f

/-- The record that is written of a reading, if there is nothing to call or its failure
    is expected. -/
inductive Notes (typeName : String) : ForeignRead → LogRecord → Prop
  | uncallable {read : ForeignRead} : read.Uncallable →
      Notes typeName read (Response.noBodyRecord typeName)
  | caught {f : Failure} :
      f.kind.is .httpError = true ∨ f.kind.is .runtimeError = true ∨ f.kind.is .osError = true →
      Notes typeName (.failing f) (Response.unreadableRecord f)

theorem isReadFailure_eq_false_iff {f : Failure} :
    Response.isReadFailure f = false ↔
      f.kind.is .httpError = false ∧ f.kind.is .runtimeError = false ∧
        f.kind.is .osError = false := by
  show (f.kind.is .httpError || f.kind.is .runtimeError || f.kind.is .osError) = false ↔ _
  rw [Bool.or_eq_false_iff, Bool.or_eq_false_iff, and_assoc]

theorem isReadFailure_eq_true_iff {f : Failure} :
    Response.isReadFailure f = true ↔
      f.kind.is .httpError = true ∨ f.kind.is .runtimeError = true ∨
        f.kind.is .osError = true := by
  show (f.kind.is .httpError || f.kind.is .runtimeError || f.kind.is .osError) = true ↔ _
  rw [Bool.or_eq_true, Bool.or_eq_true, or_assoc]

/-- How a reading ends, and the records that it leaves. -/
inductive Comes (typeName : String) :
    ForeignRead → Except Failure (Option Text) → List LogRecord → Prop
  | value (v : ReadValue) : Comes typeName (.value v) (.ok (Response.bodyText v)) []
  | uncallable {read : ForeignRead} : read.Uncallable →
      Comes typeName read (.ok none) [Response.noBodyRecord typeName]
  | caught {f : Failure} : Response.isReadFailure f = true →
      Comes typeName (.failing f) (.ok none) [Response.unreadableRecord f]
  | lost {read : ForeignRead} {f : Failure} : read.Loses f → Comes typeName read (.error f) []

section

variable {typeName : String} {read : ForeignRead} {log : List LogRecord}

variable {outcome : Except Failure (Option Text)}

theorem Comes.error_iff (h : Comes typeName read outcome log) (f : Failure) :
    outcome = .error f ↔ read.Loses f := by
  constructor
  · rintro rfl
    cases h with
    | lost hl => exact hl
  · intro hl
    cases hl with
    | failing hhttp hruntime hos =>
        have hf := isReadFailure_eq_false_iff.mpr ⟨hhttp, hruntime, hos⟩
        cases h with
        | uncallable hu => exact nomatch hu
        | caught hf' => exact nomatch hf.symm.trans hf'
        | lost hl =>
            cases hl with
            | failing => rfl
    | hidden hf =>
        cases h with
        | uncallable hu =>
            cases hu with
            | hidden hf' => exact nomatch hf.symm.trans hf'
        | lost hl =>
            cases hl with
            | hidden => rfl

/-- What is lost leaves no record. -/
theorem Comes.log_of_error {f : Failure} (h : Comes typeName read (.error f) log) : log = [] := by
  cases h with
  | lost hl => rfl

theorem Comes.notes_of_mem (h : Comes typeName read outcome log) {record : LogRecord}
    (hr : record ∈ log) : read.Notes typeName record := by
  cases h with
  | value v => exact nomatch hr
  | uncallable hu =>
      obtain rfl := List.mem_singleton.mp hr
      exact .uncallable hu
  | caught hf =>
      obtain rfl := List.mem_singleton.mp hr
      exact .caught (isReadFailure_eq_true_iff.mp hf)
  | lost hl => exact nomatch hr

/-- A reading that leaves a record leaves no other one. -/
theorem Comes.log_of_notes (h : Comes typeName read outcome log) {record : LogRecord}
    (hn : read.Notes typeName record) : log = [record] := by
  cases hn with
  | uncallable hu =>
      cases h with
      | value v => exact nomatch hu
      | uncallable => rfl
      | caught => exact nomatch hu
      | lost hl =>
          cases hu with
          | absent => exact nomatch hl
          | hidden hf =>
              cases hl with
              | hidden hf' => exact nomatch hf.symm.trans hf'
  | caught hf =>
      cases h with
      | uncallable hu => exact nomatch hu
      | caught => rfl
      | lost hl =>
          cases hl with
          | failing hhttp hruntime hos =>
              have hf' := isReadFailure_eq_false_iff.mpr ⟨hhttp, hruntime, hos⟩
              exact nomatch (isReadFailure_eq_true_iff.mpr hf).symm.trans hf'

theorem Notes.severity {record : LogRecord} (h : read.Notes typeName record) :
    record.severity = .debug := by
  cases h with
  | uncallable => rfl
  | caught => rfl

end

end ForeignRead

namespace Response

/-- What reading the body gives, described alike for the responses of all clients. -/
def reading (bodies : Bodies) : Response → ForeignRead
  | known k => .ofRead (bodies k.body).read.1
  | foreign k => k.read

theorem afterFailure_comes (typeName : String) (f : Failure) (bodies : Bodies) :
    ForeignRead.Comes typeName (.failing f) (afterFailure f bodies).outcome
      (afterFailure f bodies).log := by
  unfold afterFailure
  cases hf : isReadFailure f with
  | true => exact .caught hf
  | false =>
      obtain ⟨hhttp, hruntime, hos⟩ := ForeignRead.isReadFailure_eq_false_iff.mp hf
      exact .lost (.failing hhttp hruntime hos)

/-- **A READ ENDS IN ONE OF FOUR WAYS**, and its reading tells in which. -/
theorem readBody_comes (r : Response) (bodies : Bodies) :
    (r.reading bodies).Comes r.typeName (r.readBody bodies).outcome (r.readBody bodies).log := by
  cases r with
  | known k =>
      show (ForeignRead.ofRead (bodies k.body).read.1).Comes _ _ _
      cases hb : (bodies k.body).read.1 with
      | ok octets =>
          rw [readBody_known_of_ok hb]
          exact .value (.octets octets)
      | error f =>
          rw [readBody_known_of_error hb]
          exact afterFailure_comes _ f _
  | foreign k =>
      show k.read.Comes k.typeName _ _
      unfold readBody
      cases hr : k.read with
      | absent =>
          simp only [hr]
          exact .uncallable .absent
      | value v =>
          simp only [hr]
          exact .value v
      | failing f =>
          simp only [hr]
          exact afterFailure_comes k.typeName f bodies
      | hidden f =>
          simp only [hr]
          cases hf : f.kind.is .attributeError with
          | true => exact .uncallable (.hidden hf)
          | false => exact .lost (.hidden hf)

theorem unread_iff {r : Response} {bodies : Bodies} {f : Failure} :
    r.Unread bodies f ↔ (r.reading bodies).Loses f := by
  rw [← readBody_eq_error_iff]
  exact (r.readBody_comes bodies).error_iff f

end Response

end FaultResponse
