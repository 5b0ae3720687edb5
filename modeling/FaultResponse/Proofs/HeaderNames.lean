import FaultResponse.Service.Application
/-! # Header names — in small letters, wherever a response comes from

    A header is replaced by its exact name, while clients compare names in any case.
    The two agree on names in small letters, and every response has only such names:

    * `isSmall_smallLetters`: the names that a route gives go out small; each run of the
      table of capitals ends clear of the letters that have a small form among the ASCII
      ones;
    * `Router.small_route`: so do the names of every answer of the routes.

    What setting does to the headers of one name is `named_setHeader_self` and
    `named_setHeader_of_ne`; `secure_carries` puts them together for all headers that are
    set on every response. -/

namespace FaultResponse

/-! ## Small names -/

namespace Text

/-- A name that is the same in small letters. -/
def IsSmall (s : String) : Prop :=
  lower s = s

instance (s : String) : Decidable (IsSmall s) :=
  inferInstanceAs (Decidable (lower s = s))

/-- A character that has no small form among the ASCII letters, other than itself. -/
def IsSmallChar (c : Char) : Prop :=
  c.toNat ≠ 0x212A ∧ (c.toNat < 0x41 ∨ 0x5A < c.toNat)

theorem lowerChar_of_small {c : Char} (h : IsSmallChar c) : lowerChar c = c := by
  obtain ⟨hkelvin, hcapital⟩ := h
  have hk : c ≠ '\u212A' := by
    rintro rfl
    exact hkelvin rfl
  have hcap : ¬ (0x41 ≤ c.toNat ∧ c.toNat ≤ 0x5A) := by omega
  unfold lowerChar Char.toLower
  rw [if_neg hk]
  exact dif_neg hcap

/-- A number that is no character stands for the first one. -/
theorem toNat_ofNat_cases (n : Nat) : (Char.ofNat n).toNat = n ∨ (Char.ofNat n).toNat = 0 := by
  unfold Char.ofNat
  by_cases h : n.isValidChar
  · rw [dif_pos h]
    exact Or.inl (UInt32.toNat_ofNatLT ..)
  · rw [dif_neg h]
    exact Or.inr rfl

/-- Whether the small letters of a run of capitals are clear of the ASCII capitals and of
    the Kelvin sign. -/
def endsSmall (run : Nat × Nat × Nat × Int) : Bool :=
  decide (0x5A < run.1 + run.2.2.2 ∧
    (run.2.1 + run.2.2.2 < 0x212A ∨ 0x212A < run.1 + run.2.2.2))

theorem capitalRuns_endSmall : capitalRuns.all endsSmall = true := by
  decide +kernel

/-- A small letter is small, whatever it is the small letter of. -/
theorem smallLetter_isSmall (c : Char) : IsSmallChar (smallLetter c) := by
  unfold smallLetter
  cases hfound : capitalRuns.find? (inRun c.toNat) with
  | none =>
      -- the ASCII capitals and the Kelvin sign each stand in a run
      have hnone := List.find?_eq_none.mp hfound
      have hcapital := hnone (0x41, 0x5A, 1, 32) (by decide +kernel)
      have hkelvin := hnone (0x212A, 0x212A, 1, -8383) (by decide +kernel)
      simp only [inRun, Bool.and_eq_true, decide_eq_true_eq] at hcapital hkelvin
      show c.toNat ≠ 0x212A ∧ (c.toNat < 0x41 ∨ 0x5A < c.toNat)
      omega
  | some run =>
      have hin : inRun c.toNat run = true := List.find?_some hfound
      have hsmall : endsSmall run = true :=
        List.all_eq_true.mp capitalRuns_endSmall run (List.mem_of_find?_eq_some hfound)
      simp only [inRun, Bool.and_eq_true, decide_eq_true_eq] at hin
      simp only [endsSmall, decide_eq_true_eq] at hsmall
      show IsSmallChar (Char.ofNat (c.toNat + run.2.2.2).toNat)
      unfold IsSmallChar
      rcases toNat_ofNat_cases (c.toNat + run.2.2.2).toNat with h | h
      · rw [h]
        omega
      · rw [h]
        omega

theorem smallForm_isSmall (before : List Char) (c : Char) (after : List Char) :
    ∀ d ∈ smallForm before c after, IsSmallChar d := by
  unfold smallForm
  by_cases hi : c = '\u0130'
  · rw [if_pos hi]
    simp [IsSmallChar]
  · rw [if_neg hi]
    by_cases hs : c = '\u03A3'
    · rw [if_pos hs]
      cases endsWord before after with
      | true => simp [IsSmallChar]
      | false => simp [IsSmallChar]
    · rw [if_neg hs]
      intro d hd
      rw [List.mem_singleton.mp hd]
      exact smallLetter_isSmall c

/-- A text of small characters is small. -/
theorem isSmall_ofList {chars : List Char} (h : ∀ c ∈ chars, IsSmallChar c) :
    IsSmall (String.ofList chars) := by
  have hmap : chars.map lowerChar = chars :=
    (List.map_congr_left fun c hc => lowerChar_of_small (h c hc)).trans (List.map_id' chars)
  unfold IsSmall lower
  rw [String.toList_ofList, hmap]

/-- **SMALL LETTERS** have no other small form. -/
theorem isSmall_smallLetters (s : String) : IsSmall (smallLetters s) := by
  refine isSmall_ofList ?_
  -- a final sigma depends on what stands before it, so that is general in the induction
  generalize ([] : List Char) = before
  induction s.toList generalizing before with
  | nil => exact fun d hd => nomatch hd
  | cons c rest ih =>
      intro d hd
      rcases List.mem_append.mp hd with hd | hd
      · exact smallForm_isSmall before c rest d hd
      · exact ih (c :: before) d hd

end Text

/-! ## The headers of one name -/

namespace Http

/-- The headers of a name, in any case. -/
def named (headers : List (String × String)) (name : String) : List (String × String) :=
  headers.filter fun h => decide (Text.lower h.1 = name)

/-- Headers whose names are small. -/
def SmallNamed (headers : List (String × String)) : Prop :=
  ∀ h ∈ headers, Text.IsSmall h.1

instance (headers : List (String × String)) : Decidable (SmallNamed headers) :=
  inferInstanceAs (Decidable (∀ h ∈ headers, Text.IsSmall h.1))

variable {headers : List (String × String)} {name value : String}

theorem SmallNamed.append {more : List (String × String)} (h : SmallNamed headers)
    (h' : SmallNamed more) : SmallNamed (headers ++ more) := by
  intro x hx
  rcases List.mem_append.mp hx with hx | hx
  · exact h x hx
  · exact h' x hx

/-- Setting a header keeps other names, and brings its own. -/
theorem SmallNamed.setHeader (h : SmallNamed headers) (hname : Text.IsSmall name) :
    SmallNamed (setHeader name value headers) := by
  induction headers with
  | nil =>
      intro x hx
      rw [List.mem_singleton.mp hx]
      exact hname
  | cons g rest ih =>
      have hrest : SmallNamed rest := fun x hx => h x (List.mem_cons_of_mem _ hx)
      intro x hx
      unfold Http.setHeader at hx
      by_cases hg : g.1 = name
      · rw [if_pos hg] at hx
        rcases List.mem_cons.mp hx with rfl | hx
        · exact hname
        · exact hrest x (List.mem_filter.mp hx).1
      · rw [if_neg hg] at hx
        rcases List.mem_cons.mp hx with rfl | hx
        · exact h x List.mem_cons_self
        · exact ih hrest x hx

theorem named_cons_of_pos {g : String × String} (h : Text.lower g.1 = name) :
    named (g :: headers) name = g :: named headers name :=
  List.filter_cons_of_pos (decide_eq_true h)

theorem named_cons_of_neg {g : String × String} (h : Text.lower g.1 ≠ name) :
    named (g :: headers) name = named headers name :=
  List.filter_cons_of_neg (ne_true_of_eq_false (decide_eq_false h))

/-- A header that is set stands there once, whatever stood under its name. -/
theorem named_setHeader_self (h : SmallNamed headers) (hname : Text.IsSmall name) :
    named (setHeader name value headers) name = [(name, value)] := by
  have hset : Text.lower (name, value).1 = name := hname
  induction headers with
  | nil => exact named_cons_of_pos hset
  | cons g rest ih =>
      have hrest : SmallNamed rest := fun x hx => h x (List.mem_cons_of_mem _ hx)
      unfold setHeader
      by_cases hg : g.1 = name
      · -- what stood further on under this name is dropped
        have hnone : named (rest.filter fun x => !decide (x.1 = name)) name = [] := by
          refine List.filter_eq_nil_iff.mpr ?_
          intro x hx
          obtain ⟨hmem, hx⟩ := List.mem_filter.mp hx
          rw [hrest x hmem]
          simpa using hx
        rw [if_pos hg, named_cons_of_pos hset, hnone]
      · have hlower : Text.lower g.1 ≠ name := by
          rw [h g List.mem_cons_self]
          exact hg
        rw [if_neg hg, named_cons_of_neg hlower]
        exact ih hrest

/-- Setting a header leaves those of another name alone. -/
theorem named_setHeader_of_ne {other : String} (hname : Text.IsSmall name)
    (hne : other ≠ name) :
    named (setHeader name value headers) other = named headers other := by
  have hlower : ∀ x : String × String, x.1 = name → Text.lower x.1 ≠ other := by
    rintro x rfl
    rw [hname]
    exact Ne.symm hne
  induction headers with
  | nil => exact named_cons_of_neg (hlower (name, value) rfl)
  | cons g rest ih =>
      unfold setHeader
      by_cases hg : g.1 = name
      · -- what is dropped further on is not of the other name
        have hkept : named (rest.filter fun x => !decide (x.1 = name)) other
            = named rest other := by
          unfold named
          rw [List.filter_filter]
          refine List.filter_congr ?_
          intro x _
          by_cases hx : x.1 = name
          · rw [decide_eq_false (hlower x hx)]
            rfl
          · rw [decide_eq_false hx]
            exact Bool.and_true _
        rw [if_pos hg, named_cons_of_neg (hlower (name, value) rfl), hkept,
          named_cons_of_neg (hlower g hg)]
      · rw [if_neg hg]
        unfold named at ih ⊢
        rw [List.filter_cons, List.filter_cons, ih]

end Http

/-! ## The answers of routes -/

namespace Http

theorem small_nil : SmallNamed [] := by
  intro x hx
  exact nomatch hx

/-- A response adds small names only. -/
theorem small_compose {given : List (String × String)} (h : SmallNamed given) (status : Int)
    (type : Option String) (body : String) :
    SmallNamed (compose status given type body).headers := by
  have hlength : ∀ length : String, SmallNamed [("content-length", length)] := by
    intro length x hx
    rw [List.mem_singleton.mp hx]
    show Text.lower "content-length" = "content-length"
    decide
  have htype : ∀ t : String, SmallNamed [("content-type", t)] := by
    intro t x hx
    rw [List.mem_singleton.mp hx]
    show Text.lower "content-type" = "content-type"
    decide
  unfold compose
  refine (h.append ?_).append ?_
  · cases hasLength status && !hasHeader given "content-length" with
    | true => exact hlength _
    | false => exact small_nil
  · cases type with
    | none => exact small_nil
    | some t =>
        cases hasHeader given "content-type" with
        | true => exact small_nil
        | false => exact htype t

theorem small_render {given : List (String × String)} (h : SmallNamed given) {status : Int}
    {type : Option String} {body : Text} {r : Response}
    (hr : render status given type body = .ok r) : SmallNamed r.headers := by
  obtain ⟨s, -, rfl⟩ := render_eq_ok_iff.mp hr
  exact small_compose h status type s

end Http

/-- A document that goes out. -/
theorem small_document {status : Int} {document : Value} {r : Http.Response}
    (h : rendered (Http.json status document) = .ok r) : Http.SmallNamed r.headers :=
  Http.small_render Http.small_nil (rendered_eq_ok_iff.mp h)

theorem small_refuse {status : Int} {detail : Value} {r : Http.Response}
    (h : refuse status detail = .ok r) : Http.SmallNamed r.headers := by
  unfold refuse at h
  cases hs : refusesSilently status with
  | true =>
      rw [hs, if_pos rfl] at h
      obtain rfl := Except.ok.inj h
      exact Http.small_compose Http.small_nil status none ""
  | false =>
      rw [hs, if_neg Bool.false_ne_true] at h
      exact small_document h

/-- A text goes out with the names that its route gives in small letters. -/
theorem Route.small_sendText {status : Int} {given : List (String × String)} {body : Text}
    {r : Http.Response} (h : sendText status given body = .ok r) : Http.SmallNamed r.headers := by
  have hgiven : Http.SmallNamed (givenHeaders given) := by
    intro x hx
    obtain ⟨g, -, rfl⟩ := List.mem_map.mp hx
    exact Text.isSmall_smallLetters g.1
  unfold sendText at h
  cases hr : Http.render status (givenHeaders given) (some Http.plainType) body with
  | error u =>
      rw [hr] at h
      exact nomatch h
  | ok r' =>
      rw [hr] at h
      cases hl : Text.Charset.latin1.headerLack? (givenHeaders given) with
      | some u =>
          rw [hl] at h
          exact nomatch h
      | none =>
          rw [hl] at h
          obtain rfl := Except.ok.inj h
          exact Http.small_render hgiven hr

theorem Route.small_answer {reply : Reply} {scope : Option Scope} {i : Intake}
    {r : Http.Response} (h : (answer reply scope i).outcome = .ok r) :
    Http.SmallNamed r.headers := by
  cases reply with
  | raising spec =>
      unfold answer at h
      cases hb : Fault.build spec i with
      | error m =>
          simp only [hb] at h
          exact nomatch h
      | ok built =>
          simp only [hb] at h
          exact nomatch h
  | text status given body => exact small_sendText h
  | echoId => exact small_document h
  | refusal status detail =>
      unfold answer at h
      cases hd : detailOf status detail with
      | error f =>
          simp only [hd] at h
          exact nomatch h
      | ok detail =>
          simp only [hd] at h
          exact small_refuse h
  | health s => exact small_document h

theorem Route.small_run {x : Route} {scope : Option Scope} {i : Intake} {r : Http.Response}
    (h : (x.run scope i).outcome = .ok r) : Http.SmallNamed r.headers := by
  unfold run at h
  cases scope with
  | none => exact small_answer h
  | some s =>
      cases hp : Preparation.runAll s i x.before with
      | mk raised left =>
          simp only [hp] at h
          cases raised with
          | some e => exact nomatch h
          | none => exact small_answer h

namespace Router

theorem small_refuseMethod {allowed : List String} {r : Http.Response}
    (h : refuseMethod allowed = .ok r) : Http.SmallNamed r.headers := by
  refine Http.small_render ?_ (rendered_eq_ok_iff.mp h)
  intro x hx
  rw [List.mem_singleton.mp hx]
  show Text.lower "allow" = "allow"
  decide

theorem small_redirect (location : String) : Http.SmallNamed (redirect location).headers := by
  have hname : Text.IsSmall "location" := by decide
  exact (Http.small_compose Http.small_nil 307 none "").setHeader hname

theorem small_answerUncovered {routes : List Route} {request : Request} {r : Http.Response}
    (h : answerUncovered routes request = .ok r) : Http.SmallNamed r.headers := by
  unfold answerUncovered at h
  cases hr : redirection? routes request with
  | error f =>
      rw [hr] at h
      exact nomatch h
  | ok location =>
      rw [hr] at h
      cases location with
      | none => exact small_refuse h
      | some location =>
          obtain rfl := Except.ok.inj h
          exact small_redirect location

/-- **THE ANSWERS OF ROUTES** have small names. -/
theorem small_route {routes : List Route} {request : Request} {scope : Option Scope}
    {i : Intake} {r : Http.Response} (h : (route routes request scope i).outcome = .ok r) :
    Http.SmallNamed r.headers := by
  unfold route at h
  cases hf : find request routes with
  | error f =>
      simp only [hf] at h
      exact nomatch h
  | ok found =>
      cases found with
      | allowed x =>
          simp only [hf] at h
          exact Route.small_run h
      | refused x =>
          simp only [hf] at h
          exact small_refuseMethod h
      | nothing =>
          simp only [hf] at h
          exact small_answerUncovered h

end Router

/-! ## What every response carries -/

namespace Security

variable {r : Http.Response}

theorem small_setAll (h : Http.SmallNamed r.headers) {given : List (String × String)}
    (hgiven : Http.SmallNamed given) : Http.SmallNamed (setAll r given).headers := by
  induction given generalizing r with
  | nil => exact h
  | cons g rest ih =>
      have hset : Http.SmallNamed (r.set g.1 g.2).headers :=
        h.setHeader (hgiven g List.mem_cons_self)
      exact ih hset fun x hx => hgiven x (List.mem_cons_of_mem _ hx)

/-- A name that is not set keeps its headers. -/
theorem named_setAll_of_not_mem {given : List (String × String)}
    (hgiven : Http.SmallNamed given) {name : String} (hname : name ∉ given.map Prod.fst) :
    Http.named (setAll r given).headers name = Http.named r.headers name := by
  induction given generalizing r with
  | nil => rfl
  | cons g rest ih =>
      rw [List.map_cons, List.mem_cons, not_or] at hname
      have hrest : Http.named (setAll (r.set g.1 g.2) rest).headers name
          = Http.named (r.set g.1 g.2).headers name :=
        ih (fun x hx => hgiven x (List.mem_cons_of_mem _ hx)) hname.2
      have hset : Http.named (r.set g.1 g.2).headers name = Http.named r.headers name :=
        Http.named_setHeader_of_ne (hgiven g List.mem_cons_self) hname.1
      exact hrest.trans hset

/-- Headers of different names that are set all stand there once. -/
theorem named_setAll_of_mem (h : Http.SmallNamed r.headers) {given : List (String × String)}
    (hgiven : Http.SmallNamed given) (hnodup : (given.map Prod.fst).Nodup)
    {g : String × String} (hg : g ∈ given) : Http.named (setAll r given).headers g.1 = [g] := by
  induction given generalizing r with
  | nil => exact nomatch hg
  | cons first rest ih =>
      have hrest : Http.SmallNamed rest := fun x hx => hgiven x (List.mem_cons_of_mem _ hx)
      have hsmall : Text.IsSmall first.1 := hgiven first List.mem_cons_self
      rw [List.map_cons, List.nodup_cons] at hnodup
      rcases List.mem_cons.mp hg with rfl | hg
      · have hkept : Http.named (setAll (r.set g.1 g.2) rest).headers g.1
            = Http.named (r.set g.1 g.2).headers g.1 := named_setAll_of_not_mem hrest hnodup.1
        exact hkept.trans (Http.named_setHeader_self h hsmall)
      · exact ih (h.setHeader hsmall) hrest hnodup.2 hg

/-- **EVERY RESPONSE** carries each of the fixed headers once, and its number once. -/
theorem secure_carries (h : Http.SmallNamed r.headers) (id : String) :
    let out := (secure (some id) r).headers
    (∀ g ∈ headers, Http.named out g.1 = [g]) ∧
      Http.named out requestIdHeader = [(requestIdHeader, id)] := by
  intro out
  have hsmall : Http.SmallNamed headers := by decide
  have hid : Text.IsSmall requestIdHeader := by decide
  have hsecured : Http.SmallNamed (setAll r headers).headers := small_setAll h hsmall
  -- the number is set last, and its name is none of the fixed ones
  refine ⟨?_, Http.named_setHeader_self hsecured hid⟩
  intro g hg
  have hne : g.1 ≠ requestIdHeader := by
    revert g
    decide
  exact (Http.named_setHeader_of_ne hid hne).trans
    (named_setAll_of_mem h hsmall (by decide) hg)

end Security

end FaultResponse
