import FaultResponse.Proofs.Noninterference
import FaultResponse.Service.Settings
/-! # The frame of guidance — what an operator's texts cannot change

    Guidance comes last: a classification makes a draft, which asks for no decorator, and
    guidance works on its message (`classify_guided`).  So two runs that differ in the
    guidance only draft alike, and it is enough to compare what is issued:

    * `issue_guided`: a text goes behind the message that is sent without guidance, or
      nothing changes at all, also where a stand-in is sent;
    * `guidance_changes_the_message_only`: so whether there is a verdict, or what failure
      there is, and everything else about it are out of reach. -/

namespace FaultResponse

/-- What guidance may make of a verdict: nothing else, or the same with the text of an
    entry behind its message, on a line of its own.  The entry has a text, and it is for a
    class of the exception that the verdict keeps. -/
inductive Verdict.Guided (g : Guidance) (v : Verdict) : Verdict → Prop
  | same : Guided g v v
  | appended {cls : ClassId} {text : Text} {kept : Fault} : (cls, text) ∈ g.entries →
      text ≠ "" → v.subject = some kept → kept.cls.isA cls = true →
      Guided g v { v with message := v.message ++ "\n" ++ text }

namespace Classifier

variable (c : Classifier) (g : Guidance)

/-- A draft without a message is sent with its stand-in, which no guidance is looked up
    for; any other message is sent as it is, or with a text behind it. -/
theorem issue_guided (d : Draft) : (c.issue {} d).Guided g (c.issue g d) := by
  cases hm : d.message with
  | none =>
      have hsame : c.issue g d = c.issue {} d := by
        unfold issue
        rw [hm]
        rfl
      rw [hsame]
      exact .same
  | some m =>
      have hplain : (c.issue {} d).message = m := by
        show (d.message.map (Guidance.append {} d.subject)).getD _ = m
        rw [hm]
        rfl
      have hissue : c.issue g d = { c.issue {} d with message := g.append d.subject m } := by
        unfold issue
        rw [hm]
        rfl
      rcases g.append_cases d.subject m with hsame | ⟨⟨cls, text⟩, hentry, hcls, htext, hmore⟩
      · rw [hissue, hsame, ← hplain]
        exact .same
      · have htext' : text ≠ "" := by
          rintro rfl
          exact nomatch htext
        rw [hissue, hmore, ← hplain]
        exact .appended hentry htext' rfl hcls

/-- Two classifications that differ in the guidance fail alike, or both return. -/
theorem guided_cases (r : Registry) (e : Fault) (bodies : Bodies) :
    (∃ f, ((c.guided g).classify r e bodies).outcome = .error f ∧
      ((c.guided {}).classify r e bodies).outcome = .error f) ∨
    ∃ v w, ((c.guided g).classify r e bodies).outcome = .ok v ∧
      ((c.guided {}).classify r e bodies).outcome = .ok w ∧ w.Guided g v := by
  rw [c.classify_guided g, c.classify_guided {}, Traced.outcome_map, Traced.outcome_map]
  cases (c.drafted r e bodies).outcome with
  | error f => exact Or.inl ⟨f, rfl, rfl⟩
  | ok d => exact Or.inr ⟨_, _, rfl, rfl, c.issue_guided g d⟩

end Classifier

/-- With guidance disabled the settings describe the judge that has none. -/
theorem Settings.judge_of_disabled {s : Settings} (h : s.guidanceEnabled = false) (g : Guidance) :
    s.judge g = s.judge {} := by
  unfold judge classifier
  rw [h]
  rfl

/-- **GUIDANCE CHANGES THE MESSAGE ONLY.**  With any guidance a classification fails
    exactly if it does without, and with the same failure; it reads the same bodies and
    writes the same records.  Where there are verdicts, they agree in category, status,
    log entry, context and the exception kept; the message is the same, or has the text of
    an entry for that exception behind it, on a line of its own.  Where guidance is
    disabled it does not even do that. -/
theorem guidance_changes_the_message_only (c : Classifier) (g : Guidance) (r : Registry)
    (e : Fault) (bodies : Bodies) :
    let guided := (c.guided g).classify r e bodies
    let plain := (c.guided {}).classify r e bodies
    ((∃ f, guided.outcome = .error f ∧ plain.outcome = .error f) ∨
      ∃ v w, guided.outcome = .ok v ∧ plain.outcome = .ok w ∧ w.Guided g v) ∧
    guided.bodies = plain.bodies ∧ guided.log = plain.log ∧
    ∀ s : Settings, s.guidanceEnabled = false → ∀ rs : Registries,
      (s.judge g).classify rs e bodies = (s.judge {}).classify rs e bodies := by
  intro guided plain
  refine ⟨c.guided_cases g r e bodies, ?_, ?_, ?_⟩
  · show ((c.guided g).classify r e bodies).bodies = ((c.guided {}).classify r e bodies).bodies
    rw [c.classify_guided g, c.classify_guided {}, Traced.bodies_map, Traced.bodies_map]
  · show ((c.guided g).classify r e bodies).log = ((c.guided {}).classify r e bodies).log
    rw [c.classify_guided g, c.classify_guided {}, Traced.log_map, Traced.log_map]
  · intro s hs rs
    rw [Settings.judge_of_disabled hs]

/-- Guidance for a timeout, behind an entry without a text, gives its message a second
    line and changes nothing else; while guidance is disabled it gives none. -/
theorem timeouts_get_a_second_line :
    let g : Guidance := .ofPairs [(.known .osError, ""), (.known .timeoutError, "Try again later")]
    let e : Fault := .ofText .timeoutError "late"
    let off : Settings := { guidanceEnabled := false }
    (∃ v w, ((({} : Classifier).guided g).classify .empty e (fun _ => .closed)).outcome = .ok v ∧
      ((({} : Classifier).guided {}).classify .empty e (fun _ => .closed)).outcome = .ok w ∧
      w.Guided g v ∧ w.message = "late" ∧ v.message = "late\nTry again later") ∧
    off.guidanceEnabled = false ∧
    (off.judge g).classify .empty e (fun _ => .closed)
      = (off.judge {}).classify .empty e (fun _ => .closed) := by
  intro g e off
  obtain ⟨hcases, -, -, hoff⟩ :=
    guidance_changes_the_message_only {} g .empty e (fun _ => .closed)
  refine ⟨?_, rfl, hoff off rfl .empty⟩
  rcases hcases with ⟨f, hf, -⟩ | ⟨v, w, hv, hw, hguided⟩
  · exact nomatch hf
  · refine ⟨v, w, hv, hw, hguided, ?_, ?_⟩
    · obtain rfl := Except.ok.inj hw
      rfl
    · obtain rfl := Except.ok.inj hv
      rfl

end FaultResponse
