import FaultResponse.Proofs.ContextContract
import FaultResponse.Proofs.Replacement
/-! # Body text — how the octets of a JSON response are told

    The body of a failed call is told as a text, however its octets arrive.  Two things
    have to come together:

    * `remoteContext_of_octets`: once the octets are read, what is told depends on them
      and on nothing else, neither on the pieces in which they came nor on the client;
    * the reading of the octets themselves (`Octets`, `Replacement`): it has no failures,
      gives a text back from its own octets, and keeps what is ASCII. -/

namespace FaultResponse

namespace Fault

variable {e : Fault} {r : Response} {bodies : Bodies}

/-- The body that is told of a failed call. -/
def bodyTold (e : Fault) (bodies : Bodies) : Except Failure (Option Text) :=
  (e.remoteContext bodies).outcome.map RemoteContext.body

/-- **OCTETS ARE TOLD BY THEIR TEXT**, wherever they were read from. -/
theorem bodyTold_of_octets {url : Option Text} {octets : List UInt8}
    (hr : e.response? = .ok (some r)) (hu : e.remoteUrl (some r) = .ok url)
    (hj : r.DeclaresJson) (hread : r.reading bodies = .value (.octets octets)) :
    e.bodyTold bodies = .ok (some (Text.Utf8.decode octets)) := by
  obtain ⟨type, ht, hjson⟩ := Response.announcesJson_iff.mpr hj
  have hcomes := r.readBody_comes bodies
  rw [hread] at hcomes
  unfold bodyTold
  rw [remoteContext_of_told hr hu ht, if_pos hjson, Traced.outcome_map]
  generalize (r.readBody bodies).outcome = outcome, (r.readBody bodies).log = log at hcomes ⊢
  cases hcomes with
  | value v => rfl
  | uncallable hu => exact nomatch hu
  | lost hl => exact nomatch hl

/-- A response of the known client gives the octets that it holds or that come. -/
theorem bodyTold_of_arrival {k : KnownResponse} {url : Option Text} {a : Arrival}
    {octets : List UInt8} (hr : e.response? = .ok (some (.known k)))
    (hu : e.remoteUrl (some (.known k)) = .ok url) (hj : (Response.known k).DeclaresJson)
    (ha : (a.body false).read.1 = .ok octets) :
    e.bodyTold (bodies.set k.body (a.body false)) = .ok (some (Text.Utf8.decode octets)) := by
  refine bodyTold_of_octets hr hu hj ?_
  show ForeignRead.ofRead (bodies.set k.body (a.body false) k.body).read.1 = _
  rw [Store.set_self, ha]
  rfl

end Fault

/-! ## The whole -/

/-- **BODY TEXT IS EXACT**, for every failed call whose address is known and whose response
    declares JSON.  However the octets are divided among the pieces of a stream, they are
    told as they are when the response holds them at once.  The octets of a text are told
    as that text.  And any octets have a text: it is the one that reads each character and
    puts one replacement for each longest piece that is none, its ASCII characters are the
    octets below 0x80 in their order, and its own octets are told as the same text again.
    A response of another client whose read gives octets is told alike. -/
theorem body_text_is_exact {e : Fault} {k : KnownResponse} {url : Option Text}
    (hr : e.response? = .ok (some (.known k))) (hu : e.remoteUrl (some (.known k)) = .ok url)
    (hj : (Response.known k).DeclaresJson) (bodies : Bodies) :
    let told : Arrival → Except Failure (Option Text) := fun a =>
      e.bodyTold (bodies.set k.body (a.body false))
    (∀ octets chunks, chunks.flatten = octets →
      told (.stream chunks none) = told (.content octets)) ∧
    (∀ s : String, told (.content s.toUTF8.data.toList) = .ok (some s)) ∧
    (∀ octets, ∃ text : String, told (.content octets) = .ok (some text) ∧
      (∀ characters, Text.Utf8.Reads octets characters ↔ text.toList = characters) ∧
      text.toList.filter (fun c => c.toNat < 0x80)
        = (octets.filter fun b => b.toNat < 0x80).map (fun b => Char.ofNat b.toNat) ∧
      told (.content text.toUTF8.data.toList) = .ok (some text)) ∧
    ∀ (other : Fault) (f : ForeignResponse) (address : Option Text) (octets : List UInt8),
      other.response? = .ok (some (.foreign f)) →
      other.remoteUrl (some (.foreign f)) = .ok address → (Response.foreign f).DeclaresJson →
      f.read = .value (.octets octets) →
      ∀ later, other.bodyTold later = told (.content octets) := by
  intro told
  have hheld : ∀ octets, told (.content octets) = .ok (some (Text.Utf8.decode octets)) :=
    fun octets => Fault.bodyTold_of_arrival hr hu hj rfl
  have htext : ∀ s : String, told (.content s.toUTF8.data.toList) = .ok (some s) := by
    intro s
    rw [hheld, ← Text.Utf8.encode_eq, Text.Utf8.decode_encode]
  refine ⟨?_, htext, ?_, ?_⟩
  · rintro octets chunks rfl
    rw [hheld]
    exact Fault.bodyTold_of_arrival hr hu hj rfl
  · intro octets
    have hreads : ∀ characters, Text.Utf8.Reads octets characters ↔
        (Text.Utf8.decode octets).toList = characters := by
      intro characters
      rw [Text.Utf8.reads_iff, Text.Utf8.decode, String.toList_ofList]
    exact ⟨Text.Utf8.decode octets, hheld octets, hreads, ((hreads _).mpr rfl).ascii, htext _⟩
  · intro other f address octets hr' hu' hj' hread later
    rw [hheld]
    exact Fault.bodyTold_of_octets hr' hu' hj' hread

/-- A stream that is cut in the middle of its byte order mark and holds two octets that are
    no characters: the mark is told, and each of the two is replaced. -/
theorem divided_mark_is_told :
    let e := Fault.streaming .remoteCallError
    let k : KnownResponse :=
      { body := 0, status := 503, headers := [("content-type", "application/json")], url := none }
    let bodies : Bodies := fun _ => .closed
    e.response? = .ok (some (.known k)) ∧
      e.remoteUrl (some (.known k)) = .ok (some "https://quota.test/check") ∧
      (Response.known k).DeclaresJson ∧
      e.bodyTold (bodies.set 0 (.unread [[0xEF, 0xBB], [0xBF, 0xC0], [0xFF, 0x41]] none))
        = .ok (some "\uFEFF\uFFFD\uFFFDA") ∧
      e.bodyTold (bodies.set 0 (.held "\uFEFF\uFFFD\uFFFDA".toUTF8.data.toList))
        = .ok (some "\uFEFF\uFFFD\uFFFDA") := by
  intro e k bodies
  have hj : (Response.known k).DeclaresJson :=
    Response.announcesJson_iff.mp ⟨some "application/json", rfl, by decide⟩
  obtain ⟨hchunks, htext, -⟩ := body_text_is_exact (e := e) (k := k) rfl rfl hj bodies
  refine ⟨rfl, rfl, hj, ?_, htext _⟩
  exact (hchunks [0xEF, 0xBB, 0xBF, 0xC0, 0xFF, 0x41] [[0xEF, 0xBB], [0xBF, 0xC0], [0xFF, 0x41]]
    rfl).trans (by decide)

end FaultResponse
