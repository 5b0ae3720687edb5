import FaultResponse.Proofs.Draft
/-! # Blank messages — when a client is told nothing at 500

    Four ways lead to 500: no declaration at all, a declared 500, a response that
    answered 500, and a remote call without a response.  Each way has a text to fall
    back on, and two of them do not ask whether what they send instead is blank:

    * a relayed message is sent as it is, unless it is absent;
    * a declared reason takes the place of a blank message, blank or not.

    `isBlank_append_iff` says what guidance can mend, `blank_draft_iff` that there is no
    third way, and `blank_at_500_iff` puts the two together. -/

namespace FaultResponse

/-! ## Where a blank message comes from -/

/-- The two ways in which an exception that is answered with 500 has a blank message. -/
inductive Fault.BlankSource (r : Registry) (e : Fault) : Prop
  /-- Its own message is relayed, and it is blank without being absent. -/
  | relayed {m : Text} : e.isRelayed = true → e.message = .ok (some m) →
      Text.isBlank m = true → BlankSource r e
  /-- It has no message to tell, and the reason that is declared for it is blank. -/
  | reason {m : Option Text} {d : Declaration} : e.isRelayed = false → e.message = .ok m →
      Text.isBlank? m = true → r.find e.cls.lineage = some d → d.reason.isEmpty = false →
      Text.isBlank d.reason = true → BlankSource r e

/-- A text that is there and blank. -/
def IsBlankText (message : Option Text) : Prop :=
  ∃ m, message = some m ∧ Text.isBlank m = true

/-! ## Drafts at 500 -/

/-- A category with a status of its own is never answered with 500. -/
theorem Category.outrightStatus?_ne {c : Category} {status : Int}
    (h : c.outrightStatus? = some status) : status ≠ 500 := by
  rcases outright_cases h with ⟨-, rfl⟩ | ⟨-, rfl⟩ <;> decide

/-- The stand-in for a message is blank at 500 only as a declared reason. -/
theorem Declaration.isBlank_standIn_iff {d : Declaration} (h : d.status = 500) :
    Text.isBlank d.standIn = true ↔ d.reason.isEmpty = false ∧ Text.isBlank d.reason = true := by
  unfold standIn phrase
  rw [h]
  cases hr : d.reason.isEmpty with
  | true =>
      rw [if_pos rfl]
      constructor
      · intro hb; exact absurd hb (by decide)
      · rintro ⟨hn, -⟩; exact nomatch hn
  | false => simp

namespace Classifier

/-- What takes the place of a blank message is blank if the stand-in is. -/
theorem isBlankText_unlessBlank_iff {m : Option Text} {standIn : Text} :
    IsBlankText (unlessBlank m standIn) ↔
      Text.isBlank? m = true ∧ Text.isBlank standIn = true := by
  unfold IsBlankText
  cases hm : Text.isBlank? m with
  | true =>
      rw [unlessBlank_of_blank hm]
      simp
  | false =>
      rw [unlessBlank_of_told hm]
      constructor
      · rintro ⟨t, rfl, ht⟩
        exact nomatch hm.symm.trans ht
      · rintro ⟨h, -⟩
        exact nomatch h

variable {c : Classifier} {r : Registry} {e : Fault} {bodies : Bodies} {d : Draft}

/-- The fourth rule has a blank message at 500 only for the sake of a blank reason. -/
theorem isBlankText_declaredDraft_iff (hf : Text.isBlank c.fallback = false)
    {category : Category} {m : Option Text}
    (hs : (c.declaredDraft r category e m).status = 500) :
    IsBlankText (c.declaredDraft r category e m).message ↔
      Text.isBlank? m = true ∧ ∃ d, r.find e.cls.lineage = some d ∧ d.reason.isEmpty = false ∧
        Text.isBlank d.reason = true := by
  cases hd : r.find e.cls.lineage with
  | none =>
      rw [c.declaredDraft_of_none hd]
      simp only [isBlankText_unlessBlank_iff, hf]
      simp
  | some d =>
      rw [c.declaredDraft_of_find hd] at hs ⊢
      simp only [isBlankText_unlessBlank_iff, d.isBlank_standIn_iff hs, Option.some.injEq,
        exists_eq_left']

/-- What the fourth rule declares about an exception that has no message is blank at 500
    exactly when the exception is a blank source. -/
theorem blank_declared_iff (hf : Text.isBlank c.fallback = false) {category : Category}
    {m : Option Text} (hm : e.message = .ok m) (hr : e.isRelayed = false)
    (hs : (c.declaredDraft r category e m).status = 500) :
    IsBlankText (c.declaredDraft r category e m).message ↔ e.BlankSource r := by
  rw [isBlankText_declaredDraft_iff hf hs]
  constructor
  · rintro ⟨hb, d, hd, hne, hd'⟩
    exact .reason hr hm hb hd hne hd'
  · intro h
    cases h with
    | relayed hr' => exact nomatch hr.symm.trans hr'
    | reason _ hm' hb hd hne hd' =>
        obtain rfl := Except.ok.inj (hm.symm.trans hm')
        exact ⟨hb, _, hd, hne, hd'⟩

/-- **NO THIRD WAY**: a draft at 500 has a blank message exactly when its exception is a
    blank source. -/
theorem blank_draft_iff (hf : Text.isBlank c.fallback = false) (hd : c.Drafts r e bodies d)
    (hs : d.status = 500) : IsBlankText d.message ↔ e.BlankSource r := by
  cases hd with
  -- the first two rules never answer with 500
  | denied hc => exact absurd hs (by decide : (403 : Int) ≠ 500)
  | outright ho hm => exact absurd hs (Category.outrightStatus?_ne ho)
  | declared hc hm =>
      have hr : e.isRelayed = false := by
        apply Fault.isRelayed_of_category
        rcases hc with hc | hc <;> (rw [hc]; decide)
      exact blank_declared_iff hf hm hr hs
  | unanswered hc hr hm => exact blank_declared_iff hf hm (Fault.isRelayed_of_no_response hr) hs
  | relayed hc hr hx hm ht =>
      -- here the message is sent as it is, so an absent one is not a blank one
      have hrelayed := Fault.isRelayed_of_response hc hr
      constructor
      · rintro ⟨m, rfl, hb⟩
        exact .relayed hrelayed hm hb
      · intro h
        cases h with
        | relayed _ hm' hb => exact ⟨_, Except.ok.inj (hm.symm.trans hm'), hb⟩
        | reason hr' => exact nomatch hrelayed.symm.trans hr'

end Classifier

/-! ## Guidance -/

/-- Guidance that has nothing to add for an exception that could be read. -/
def Guidance.QuietOn (g : Guidance) (e : Fault) : Prop :=
  ∀ extra, g.textFor? e = some extra → Text.isBlank extra = true

/-- Guidance mends a blank message unless it is quiet. -/
theorem Guidance.isBlank_append_iff {g : Guidance} {e : Fault} {m : Text} :
    Text.isBlank (g.append e m) = true ↔ Text.isBlank m = true ∧ g.QuietOn e := by
  unfold QuietOn
  cases hx : g.textFor? e with
  | none => simp [append_of_none hx]
  | some extra =>
      have hline : Text.isBlank "\n" = true := by decide
      simp [append_of_some hx, hline]

/-- At 500 a verdict is blank when its draft has a blank message that guidance does not
    mend; without any message the fallback is sent. -/
theorem Classifier.isBlank_issue_iff {c : Classifier} (hf : Text.isBlank c.fallback = false)
    {g : Guidance} {d : Draft} (hs : d.status = 500) :
    Text.isBlank (c.issue g d).message = true ↔ IsBlankText d.message ∧ g.QuietOn d.subject := by
  unfold IsBlankText
  cases hm : d.message with
  | none =>
      have hstand : c.standIn d.status = c.fallback := if_pos hs
      rw [c.message_issue_of_untold hm, hstand, hf]
      exact iff_of_false nofun (by rintro ⟨⟨m, hm', -⟩, -⟩; exact nomatch hm')
  | some m =>
      rw [c.message_issue_of_told hm, Guidance.isBlank_append_iff]
      simp

/-! ## The account -/

/-- **BLANK AT 500**: with a fallback that can be read, a verdict at 500 is blank exactly
    when its exception relays a blank message or has only a blank reason to show, and
    guidance is quiet on the exception that is kept. -/
theorem blank_at_500_iff (c : Classifier) (g : Guidance) (r : Registry) (e : Fault)
    (bodies : Bodies) {v : Verdict} (hf : Text.isBlank c.fallback = false)
    (hv : ((c.guided g).classify r e bodies).outcome = .ok v) (hs : v.status = 500) :
    Text.isBlank v.message = true ↔
      e.BlankSource r ∧ ∀ kept, v.subject = some kept → g.QuietOn kept := by
  obtain ⟨d, hd, rfl⟩ := c.classify_guided_iff.mp hv
  have hs' : d.status = 500 := hs
  have hkept : (∀ kept, (c.issue g d).subject = some kept → g.QuietOn kept) ↔
      g.QuietOn d.subject := by
    constructor
    · intro h
      exact h d.subject rfl
    · intro h kept hk
      obtain rfl : d.subject = kept := Option.some.inj hk
      exact h
  rw [Classifier.isBlank_issue_iff hf hs', Classifier.blank_draft_iff hf hd hs', hkept]

/-- A failed remote call without a word, whose response answered 500. -/
def Fault.wordless : Fault :=
  ⟨Known.remoteCallError.toClass,
    { Details.ofMessage (some "") with
      url := some (some "https://quota.test/check")
      response := some (some (.foreign
        { typeName := "RelayResponse", status := .value (.int 500), url := .absent
          headers := .absent, read := .absent })) }⟩

/-- The blank message is relayed. -/
theorem wordless_is_relayed :
    let c : Classifier := {}
    let bodies : Bodies := fun _ => .closed
    Text.isBlank c.fallback = false ∧
      ∃ v, ((c.guided {}).classify .empty Fault.wordless bodies).outcome = .ok v ∧
        v.status = 500 ∧ Text.isBlank v.message = true := by
  intro c bodies
  have hf : Text.isBlank c.fallback = false := by decide
  have hv : ((c.guided {}).classify .empty Fault.wordless bodies).outcome = .ok _ := rfl
  have hsource : Fault.wordless.BlankSource .empty :=
    .relayed (m := "") (by decide) rfl (by decide)
  refine ⟨hf, _, hv, rfl, (blank_at_500_iff c {} .empty Fault.wordless bodies hf hv rfl).mpr ?_⟩
  refine ⟨hsource, ?_⟩
  intro kept _ extra h
  exact nomatch h

/-- A registry that declares 500 for missing keys, with a blank reason. -/
def Registry.blankReason : Registry :=
  Registry.empty.set (.known .keyError) (some ⟨500, "  ", by decide⟩)

/-- A missing key that names none is answered with the blank reason. -/
theorem blank_reason_is_sent :
    ∃ v, ((Classifier.guided {} {}).classify .blankReason ⟨Known.keyError.toClass, {}⟩
        (fun _ => .closed)).outcome = .ok v ∧
      v.status = 500 ∧ v.message = "  " ∧ Text.isBlank v.message = true :=
  ⟨_, rfl, rfl, rfl, by decide⟩

end FaultResponse
