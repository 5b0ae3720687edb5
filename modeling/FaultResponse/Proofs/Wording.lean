import FaultResponse.Proofs.GuidanceReach
import FaultResponse.Proofs.NearestDeclaration
/-! # Wording — which text a client is told, and from where it comes

    Every exception that is not a denied access takes one of two paths.  It is looked up
    (`LooksUp`), and then a blank message gives way to what is declared; or its message is
    passed on (`PassesOn`), blank or not, and only an absent one gives way.  The route:

    * `wording_of_drafts`: the draft of an exception on either path, in terms of its message;
    * `standsIn_of_blank`: what stands in for a blank message is the reason or the phrase of
      the nearest declaration, or the fallback where nothing is declared;
    * `adds_append`: guidance adds a line behind a text, or nothing, and takes nothing away;
    * `no_message_is_lost`: what is told, for every message and on both paths. -/

namespace FaultResponse

/-! ## Two paths -/

namespace Fault

/-- The declared lookup answers for the exception. -/
inductive LooksUp (e : Fault) : Prop
  | illegalState : e.category = .illegalState → LooksUp e
  | generic : e.category = .generic → LooksUp e
  | unanswered : e.category = .remoteFailure → e.response? = .ok none → LooksUp e

/-- The message of the exception is passed on as it is. -/
inductive PassesOn (e : Fault) : Prop
  | notFound : e.category = .notFound → PassesOn e
  | invalidRequest : e.category = .invalidRequest → PassesOn e
  | relayed : e.isRelayed = true → PassesOn e

variable {e : Fault}

theorem PassesOn.not_looksUp (h : e.PassesOn) : ¬ e.LooksUp := by
  intro hl
  cases h with
  | notFound hc | invalidRequest hc =>
      cases hl with
      | illegalState hc' | generic hc' | unanswered hc' => exact nomatch hc.symm.trans hc'
  | relayed hr =>
      obtain ⟨hc, response, hresponse⟩ := response_of_isRelayed hr
      cases hl with
      | illegalState hc' | generic hc' => exact nomatch hc.symm.trans hc'
      | unanswered _ hnone => exact nomatch Except.ok.inj (hresponse.symm.trans hnone)

end Fault

/-! ## What guidance adds -/

/-- A text as guidance sends it on for an exception: as it is where no entry speaks, else
    with the text of the first entry that does on a line of its own. -/
inductive Guidance.Adds (g : Guidance) (e : Fault) (text : Text) : Text → Prop
  | nothing : (∀ x, ¬ g.FirstFor e x) → Adds g e text text
  | line {x : Text} : g.FirstFor e x → Adds g e text (text ++ "\n" ++ x)

theorem Guidance.adds_append (g : Guidance) (e : Fault) (text : Text) :
    g.Adds e text (g.append e text) := by
  cases hx : g.textFor? e with
  | some x =>
      rw [append_of_firstFor (textFor?_eq_some_iff.mp hx)]
      exact .line (textFor?_eq_some_iff.mp hx)
  | none =>
      have hnone : ∀ x, ¬ g.FirstFor e x := by
        intro x hfirst
        exact nomatch hx.symm.trans (textFor?_eq_some_iff.mpr hfirst)
      rw [append_of_none hx]
      exact .nothing hnone

namespace Classifier

variable {c : Classifier} {g : Guidance} {r : Registry} {e : Fault} {bodies : Bodies}
  {d : Draft} {m : Option Text}

/-! ## What stands in -/

/-- The text that takes the place of a blank message in the declared lookup. -/
inductive StandsIn (c : Classifier) (r : Registry) (e : Fault) : Text → Prop
  /-- The nearest declaration has a reason. -/
  | reason {cls : ClassId} {d : Declaration} : r.Reaches cls e.cls.lineage → r cls = some d →
      d.reason ≠ "" → StandsIn c r e d.reason
  /-- It has none. -/
  | phrase {cls : ClassId} {d : Declaration} : r.Reaches cls e.cls.lineage → r cls = some d →
      d.reason = "" → StandsIn c r e (Http.phrase d.status)
  /-- There is no declaration. -/
  | fallback : (∀ cls ∈ e.cls.lineage, r cls = none) → StandsIn c r e c.fallback

theorem standsIn_of_find {d : Declaration} (h : r.find e.cls.lineage = some d) (c : Classifier) :
    c.StandsIn r e d.standIn := by
  obtain ⟨cls, hreaches, hcls⟩ := Registry.exists_of_find_eq_some h
  show c.StandsIn r e (if d.reason.isEmpty then d.phrase else d.reason)
  cases hr : d.reason.isEmpty with
  | true => exact .phrase hreaches hcls (Text.isEmpty_iff.mp hr)
  | false =>
      refine .reason hreaches hcls ?_
      rw [ne_eq, ← Text.isEmpty_iff, hr]
      exact Bool.false_ne_true

theorem standsIn_of_lookup (c : Classifier) (r : Registry) (e : Fault) :
    c.StandsIn r e ((r.find e.cls.lineage).elim c.fallback Declaration.standIn) := by
  cases hd : r.find e.cls.lineage with
  | none => exact .fallback (Registry.find_eq_none_iff.mp hd)
  | some d => exact standsIn_of_find hd c

/-- **WHAT STANDS IN** for a blank message, in the lookup for any category. -/
theorem standsIn_of_blank (h : Text.isBlank? m = true) (c : Classifier) (r : Registry)
    (category : Category) (e : Fault) :
    ∃ t, c.StandsIn r e t ∧ (c.declaredDraft r category e m).message = some t := by
  refine ⟨_, c.standsIn_of_lookup r e, ?_⟩
  rw [declaredDraft_message, unlessBlank_of_blank h]

theorem declaredDraft_keeps {t : Text} (h : Text.isBlank t = false) (c : Classifier)
    (r : Registry) (category : Category) (e : Fault) :
    (c.declaredDraft r category e (some t)).message = some t := by
  have hb : Text.isBlank? (some t) = false := h
  rw [declaredDraft_message, unlessBlank_of_told hb]

/-! ## Drafts -/

theorem passesOn_of_outright {status : Int} (hs : e.category.outrightStatus? = some status) :
    e.PassesOn := by
  rcases Category.outright_cases hs with ⟨hc, -⟩ | ⟨hc, -⟩
  · exact .notFound hc
  · exact .invalidRequest hc

/-- **THE WORDING OF A DRAFT**: looked up, or the message as it is. -/
theorem wording_of_drafts (hc : e.category ≠ .accessDenied) (hm : e.message = .ok m)
    (hd : c.Drafts r e bodies d) :
    (e.LooksUp ∧ ∃ category, d.message = (c.declaredDraft r category e m).message) ∨
      (e.PassesOn ∧ d.message = m) := by
  cases hd with
  | denied hc' => exact absurd hc' hc
  | outright hs hm' =>
      obtain rfl := Except.ok.inj (hm.symm.trans hm')
      exact Or.inr ⟨passesOn_of_outright hs, rfl⟩
  | declared hcat hm' =>
      obtain rfl := Except.ok.inj (hm.symm.trans hm')
      refine Or.inl ⟨?_, e.category, rfl⟩
      rcases hcat with hcat | hcat
      · exact .illegalState hcat
      · exact .generic hcat
  | unanswered hcat hr hm' =>
      obtain rfl := Except.ok.inj (hm.symm.trans hm')
      exact Or.inl ⟨.unanswered hcat hr, .remoteFailure, rfl⟩
  | relayed hcat hr _ hm' =>
      obtain rfl := Except.ok.inj (hm.symm.trans hm')
      exact Or.inr ⟨.relayed (Fault.isRelayed_of_response hcat hr), rfl⟩

/-- On every path but the relayed one an exception that tells its message has a draft. -/
theorem exists_drafts (h : e.LooksUp ∨ e.category.outrightStatus?.isSome = true)
    (hm : e.message = .ok m) (c : Classifier) (r : Registry) (bodies : Bodies) :
    ∃ d, c.Drafts r e bodies d := by
  rcases h with hl | hs
  · cases hl with
    | illegalState hc => exact ⟨_, .declared (Or.inl hc) hm⟩
    | generic hc => exact ⟨_, .declared (Or.inr hc) hm⟩
    | unanswered hc hr => exact ⟨_, .unanswered hc hr hm⟩
  · obtain ⟨status, hs⟩ := Option.isSome_iff_exists.mp hs
    exact ⟨_, .outright hs hm⟩

/-! ## The whole -/

/-- How a verdict words the message of an exception, for the exception that it keeps. -/
structure Words (c : Classifier) (g : Guidance) (r : Registry) (e : Fault) (m : Option Text)
    (v : Verdict) (kept : Fault) : Prop where
  /-- What can be read is told, in every category. -/
  own : ∀ t, m = some t → Text.isBlank t = false → g.Adds kept t v.message
  /-- What is blank gives way in the declared lookup. -/
  standIn : e.LooksUp → Text.isBlank? m = true →
    ∃ t, c.StandsIn r e t ∧ g.Adds kept t v.message
  /-- Elsewhere it is told. -/
  blank : e.PassesOn → ∀ t, m = some t → Text.isBlank t = true → g.Adds kept t v.message
  /-- Where there is nothing to tell, guidance adds nothing. -/
  absent : e.PassesOn → m = none →
    v.message = if v.status = 500 then c.fallback else Http.phrase v.status

theorem words_of_drafts (hc : e.category ≠ .accessDenied) (hm : e.message = .ok m)
    (hd : c.Drafts r e bodies d) : c.Words g r e m (c.issue g d) d.subject := by
  have htold : ∀ t, d.message = some t → g.Adds d.subject t (c.issue g d).message := by
    intro t ht
    rw [c.message_issue_of_told ht]
    exact g.adds_append d.subject t
  rcases wording_of_drafts hc hm hd with ⟨hl, category, hmessage⟩ | ⟨hp, hmessage⟩
  · have hpasses : ¬ e.PassesOn := fun hp => hp.not_looksUp hl
    refine ⟨?_, ?_, fun hp => absurd hp hpasses, fun hp => absurd hp hpasses⟩
    · rintro t rfl hb
      exact htold t (hmessage.trans (c.declaredDraft_keeps hb r category e))
    · intro _ hb
      obtain ⟨t, hstands, ht⟩ := c.standsIn_of_blank hb r category e
      exact ⟨t, hstands, htold t (hmessage.trans ht)⟩
  · refine ⟨?_, fun hl => absurd hl hp.not_looksUp, ?_, ?_⟩
    · intro t ht _
      exact htold t (hmessage.trans ht)
    · intro _ t ht _
      exact htold t (hmessage.trans ht)
    · intro _ hnone
      exact c.message_issue_of_untold (hmessage.trans hnone)

end Classifier

/-- **NO MESSAGE IS LOST OR INVENTED**, whatever is declared and whatever guidance there is.
    An exception that is not a denied access and tells its message gets a verdict, unless a
    response has to be relayed for it.  A verdict tells a message that can be read as it is,
    with guidance behind it at most.  A blank one gives way to the reason or the phrase of
    the nearest declaration, or to the fallback, in the declared lookup; on the other paths
    it is told as it is, and an absent one gives way to the phrase of the status, or to the
    fallback at 500, without guidance. -/
theorem no_message_is_lost (c : Classifier) (g : Guidance) (r : Registry) {e : Fault}
    {m : Option Text} (bodies : Bodies) (hc : e.category ≠ .accessDenied)
    (hm : e.message = .ok m) :
    (e.LooksUp ∨ e.PassesOn ∧ e.isRelayed = false →
      ∃ v, ((c.guided g).classify r e bodies).outcome = .ok v) ∧
    ∀ v, ((c.guided g).classify r e bodies).outcome = .ok v →
      ∃ kept, v.subject = some kept ∧ c.Words g r e m v kept := by
  constructor
  · intro h
    have hpath : e.LooksUp ∨ e.category.outrightStatus?.isSome = true := by
      rcases h with hl | ⟨hp, hr⟩
      · exact Or.inl hl
      · cases hp with
        | notFound hcat | invalidRequest hcat =>
            refine Or.inr ?_
            rw [hcat]
            rfl
        | relayed hr' => exact nomatch hr.symm.trans hr'
    obtain ⟨d, hd⟩ := Classifier.exists_drafts hpath hm c r bodies
    exact ⟨_, c.classify_guided_iff.mpr ⟨d, hd, rfl⟩⟩
  · intro v hv
    obtain ⟨d, hd, rfl⟩ := c.classify_guided_iff.mp hv
    exact ⟨d.subject, rfl, Classifier.words_of_drafts hc hm hd⟩

/-- A blank message of an error of the runtime gives way to the reason that is declared for
    all exceptions, with guidance behind it; that of a missing page is told. -/
theorem blank_message_gives_way :
    let c : Classifier := {}
    let g : Guidance := .ofPairs [(.known .runtimeError, "Try again later")]
    let r := Registry.empty.set (.known .exception) (some ⟨409, "busy", rfl⟩)
    let late : Fault := .ofText .runtimeError " \t"
    let missing : Fault := ⟨Known.notFound.toClass, Details.ofMessage (some " \t")⟩
    (late.category ≠ .accessDenied ∧ late.message = .ok (some " \t") ∧
      ∃ v kept, ((c.guided g).classify r late fun _ => .closed).outcome = .ok v ∧
        v.message = "busy\nTry again later" ∧ v.subject = some kept ∧
        ∃ t, c.StandsIn r late t ∧ g.Adds kept t v.message) ∧
    missing.category ≠ .accessDenied ∧ missing.message = .ok (some " \t") ∧
      ∃ v kept, ((c.guided g).classify r missing fun _ => .closed).outcome = .ok v ∧
        v.message = " \t" ∧ v.subject = some kept ∧ g.Adds kept " \t" v.message := by
  intro c g r late missing
  have hlate : ((c.guided g).classify r late fun _ => .closed).outcome = .ok _ := rfl
  have hmissing : ((c.guided g).classify r missing fun _ => .closed).outcome = .ok _ := rfl
  have hc : late.category ≠ .accessDenied := by decide
  have hc' : missing.category ≠ .accessDenied := by decide
  obtain ⟨kept, hkept, hwords⟩ := (no_message_is_lost c g r (m := some " \t") _ hc rfl).2 _ hlate
  obtain ⟨kept', hkept', hwords'⟩ :=
    (no_message_is_lost c g r (m := some " \t") _ hc' rfl).2 _ hmissing
  refine ⟨⟨hc, rfl, _, kept, hlate, rfl, hkept, ?_⟩, hc', rfl, _, kept', hmissing, rfl, hkept', ?_⟩
  · exact hwords.standIn (.generic rfl) (by decide)
  · exact hwords'.blank (.notFound rfl) _ rfl (by decide)

end FaultResponse
