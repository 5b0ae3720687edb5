import FaultResponse.Proofs.Payload
import FaultResponse.Proofs.VerdictShape
import FaultResponse.Service.Settings
/-! # The reach of guidance — whose entries a client gets to see

    An entry speaks to an exception when it is for a class of it and has a text, and the
    first entry that speaks is appended.  Every draft of an exception with a message has
    a message to append it to (`message_of_told`), so guidance for the exception that the
    draft keeps always arrives.

    Mostly that is the exception that was raised.  A failed remote call with a response
    keeps one that carries the context instead, and guidance is looked up for the class
    of that one: `guidance_reaches_the_client_iff`. -/

namespace FaultResponse

/-! ## The first entry that speaks -/

namespace Guidance

variable {g : Guidance} {e : Fault} {x m : Text}

/-- The text of the first entry that is for a class of the exception and not empty. -/
def FirstFor (g : Guidance) (e : Fault) (x : Text) : Prop :=
  ∃ before cls after, g.entries = before ++ (cls, x) :: after ∧
    e.cls.isA cls = true ∧ x ≠ "" ∧
    ∀ entry ∈ before, e.cls.isA entry.1 = true → entry.2 = ("" : Text)

theorem speaksTo_iff {entry : ClassId × Text} :
    speaksTo e entry = true ↔ e.cls.isA entry.1 = true ∧ entry.2 ≠ "" := by
  unfold speaksTo
  rw [Bool.and_eq_true, Bool.not_eq_true', Bool.eq_false_iff, ne_eq, Text.isEmpty_iff]

theorem speaksTo_eq_false_iff {entry : ClassId × Text} :
    speaksTo e entry = false ↔ (e.cls.isA entry.1 = true → entry.2 = "") := by
  rw [Bool.eq_false_iff, ne_eq, speaksTo_iff, not_and, ne_eq, Decidable.not_not]

/-- The search stops at the first entry that speaks. -/
theorem textFor?_eq_some_iff : g.textFor? e = some x ↔ g.FirstFor e x := by
  unfold textFor?
  constructor
  · intro h
    obtain ⟨⟨cls, y⟩, hfind, rfl⟩ := Option.map_eq_some_iff.mp h
    obtain ⟨hspeaks, before, after, hcut, hbefore⟩ := List.find?_eq_some_iff_append.mp hfind
    obtain ⟨hcls, hx⟩ := speaksTo_iff.mp hspeaks
    refine ⟨before, cls, after, hcut, hcls, hx, ?_⟩
    intro entry hentry
    exact speaksTo_eq_false_iff.mp (by simpa using hbefore entry hentry)
  · rintro ⟨before, cls, after, hcut, hcls, hx, hbefore⟩
    refine Option.map_eq_some_iff.mpr ⟨(cls, x), ?_, rfl⟩
    refine List.find?_eq_some_iff_append.mpr ⟨speaksTo_iff.mpr ⟨hcls, hx⟩, before, after, hcut, ?_⟩
    intro entry hentry
    simpa using speaksTo_eq_false_iff.mpr (hbefore entry hentry)

theorem append_of_firstFor (h : g.FirstFor e x) (m : Text) :
    g.append e m = m ++ "\n" ++ x :=
  append_of_some (textFor?_eq_some_iff.mpr h) m

end Guidance

/-! ## Drafts with a message -/

namespace Classifier

variable {c : Classifier} {r : Registry} {e : Fault} {bodies : Bodies} {d : Draft} {m : Text}

theorem declaredDraft_message_isSome (c : Classifier) (r : Registry) (category : Category)
    (e : Fault) (m : Text) :
    ∃ told, (c.declaredDraft r category e (some m)).message = some told := by
  rw [declaredDraft_message]
  cases hb : Text.isBlank? (some m) with
  | true => exact ⟨_, unlessBlank_of_blank hb _⟩
  | false => exact ⟨m, unlessBlank_of_told hb _⟩

/-- **NO MESSAGE GETS LOST**: an exception that has a message leads to a draft that has
    one, though it need not be the same. -/
theorem message_of_told (hm : e.message = .ok (some m)) (hd : c.Drafts r e bodies d) :
    ∃ told, d.message = some told := by
  cases hd with
  | denied => exact ⟨_, rfl⟩
  | outright _ hm' =>
      obtain rfl := Except.ok.inj (hm.symm.trans hm')
      exact ⟨m, rfl⟩
  | declared _ hm' =>
      obtain rfl := Except.ok.inj (hm.symm.trans hm')
      exact c.declaredDraft_message_isSome r e.category e m
  | unanswered _ _ hm' =>
      obtain rfl := Except.ok.inj (hm.symm.trans hm')
      exact c.declaredDraft_message_isSome r .remoteFailure e m
  | relayed _ _ _ hm' =>
      obtain rfl := Except.ok.inj (hm.symm.trans hm')
      exact ⟨m, rfl⟩

theorem message_of_relayed (hrelayed : e.isRelayed = true) (hm : e.message = .ok (some m))
    (hd : c.Drafts r e bodies d) : d.message = some m := by
  obtain ⟨hc, response, hr⟩ := Fault.response_of_isRelayed hrelayed
  obtain ⟨x, m', status, -, hm', -, rfl⟩ := drafts_of_response hc hr hd
  exact (Except.ok.inj (hm.symm.trans hm')).symm

end Classifier

/-! ## The whole -/

/-- With guidance enabled the settings describe a classifier that is guided by it. -/
theorem Settings.judge_of_enabled {s : Settings} (h : s.guidanceEnabled = true) (g : Guidance) :
    s.judge g = .classifier
      (Classifier.guided { accessDenied := s.accessDenied, fallback := s.fallback } g)
      .shared := by
  unfold judge classifier
  rw [if_pos h]
  rfl

/-- **GUIDANCE REACHES THE CLIENT**, unless a received response keeps it back.  Where
    guidance is enabled and an exception has a message, the text of the first entry that
    speaks to it ends the message of its verdict, on a line of its own, in every category
    and whatever is declared.  A failed remote call with a response is the exception: what
    is appended there is what speaks to the exception that carries the context, so the
    text arrives exactly if that happens to end the message. -/
theorem guidance_reaches_the_client_iff {s : Settings} {g : Guidance} (rs : Registries)
    {e : Fault} {m x : Text} {bodies : Bodies} {v : Verdict} (hon : s.guidanceEnabled = true)
    (hm : e.message = .ok (some m)) (hx : g.FirstFor e x)
    (hv : ((s.judge g).classify rs e bodies).outcome = .ok v) :
    (∃ body, v.message = body ++ "\n" ++ x) ↔
      (e.isRelayed = true → ∃ kept, v.subject = some kept ∧
        kept.cls = Known.remoteContextError.toClass ∧
        ∃ body, g.append kept m = body ++ "\n" ++ x) := by
  let c : Classifier := { accessDenied := s.accessDenied, fallback := s.fallback }
  have hguided : ((c.guided g).classify (rs .shared) e bodies).outcome = .ok v := by
    rw [Settings.judge_of_enabled hon] at hv
    exact hv
  obtain ⟨d, hd, rfl⟩ := c.classify_guided_iff.mp hguided
  have hissued : ∀ {told}, d.message = some told →
      (c.issue g d).message = g.append d.subject told := by
    intro told htold
    unfold Classifier.issue
    rw [htold]
    rfl
  rcases Classifier.subject_of_drafts hd with ⟨hrelayed, hcls⟩ | ⟨hown, hsubject⟩
  · rw [hissued (Classifier.message_of_relayed hrelayed hm hd)]
    constructor
    · intro hends _
      exact ⟨d.subject, rfl, hcls, hends⟩
    · intro h
      obtain ⟨kept, hkept, -, hends⟩ := h hrelayed
      obtain rfl : d.subject = kept := Option.some.inj hkept
      exact hends
  · obtain ⟨told, htold⟩ := Classifier.message_of_told hm hd
    constructor
    · intro _ hrelayed
      exact nomatch hown.symm.trans hrelayed
    · intro _
      refine ⟨told, ?_⟩
      rw [hissued htold, hsubject, Guidance.append_of_firstFor hx]

/-- Guidance for a timeout arrives, behind an entry that has no text. -/
theorem guidance_for_timeouts_arrives :
    let g : Guidance := .ofPairs [(.known .osError, ""), (.known .timeoutError, "Try again later")]
    let e : Fault := .ofText .timeoutError "late"
    g.FirstFor e "Try again later" ∧ e.message = .ok (some "late") ∧
      ∃ v, ((({} : Settings).judge g).classify .empty e (fun _ => .closed)).outcome = .ok v ∧
        ∃ body, v.message = body ++ "\n" ++ "Try again later" := by
  intro g e
  have hfirst : g.FirstFor e "Try again later" := by
    refine ⟨[(.known .osError, "")], .known .timeoutError, [], rfl, by decide, by decide, ?_⟩
    intro entry hentry _
    rw [List.mem_singleton.mp hentry]
  have hm : e.message = .ok (some "late") := rfl
  have hv : ((({} : Settings).judge g).classify .empty e (fun _ => .closed)).outcome = .ok _ := rfl
  refine ⟨hfirst, hm, _, hv, (guidance_reaches_the_client_iff .empty rfl hm hfirst hv).mpr ?_⟩
  intro hrelayed
  exact nomatch hrelayed

/-- Guidance for failed remote calls does not arrive when the call got a response. -/
theorem guidance_for_remote_calls_is_lost :
    let g : Guidance := .ofPairs [(.known .remoteCallError, "Try again later")]
    let e : Fault := .documented (.value (.text "down"))
    ({} : Settings).guidanceEnabled = true ∧ e.message = .ok (some "quota service failed") ∧
      g.FirstFor e "Try again later" ∧
      ∃ v, ((({} : Settings).judge g).classify .empty e (fun _ => .closed)).outcome = .ok v ∧
        v.status = 503 ∧ v.message = "quota service failed" ∧
        ¬ ∃ body, v.message = body ++ "\n" ++ "Try again later" := by
  intro g e
  have hfirst : g.FirstFor e "Try again later" := by
    refine ⟨[], .known .remoteCallError, [], rfl, by decide, by decide, ?_⟩
    intro entry hentry
    exact nomatch hentry
  refine ⟨rfl, rfl, hfirst, _, rfl, rfl, rfl, ?_⟩
  rintro ⟨body, hends⟩
  have hline : Letter.char '\n' ∈ (body ++ "\n" ++ "Try again later").letters := by simp
  rw [← hends] at hline
  exact absurd hline (by decide)

end FaultResponse
