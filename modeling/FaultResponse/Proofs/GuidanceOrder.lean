import FaultResponse.Proofs.GuidanceReach
import FaultResponse.Proofs.KeyOrder
/-! # The order of guidance — which of the pairs that an operator gave is appended

    An operator gives guidance as pairs of a class and a text, and a class may come more
    than once.  What its texts come to is said of the pairs alone: a class offers a text to
    an exception if the exception is one of its instances and its last text is not empty
    (`Offers`).  The route:

    * `textFor?_eq_none_iff`: guidance is silent exactly when no class offers anything;
    * `textFor?_of_earliest`: otherwise the class that comes first among those that offer
      something is heard, with its last text; by the place that a key keeps in a map
      (`OrderedMap.exists_entry_of_first`), and by `exists_earliest` there is such a class;
    * `textFor?_without` and `textFor?_perm`: a class that ends up without a text can be
      left out, and the order does not matter where one class at most can be heard. -/

namespace FaultResponse

namespace Guidance

variable {pairs : List (ClassId × Text)} {e : Fault} {cls : ClassId} {x : Text}

/-- A class has a text for an exception: the exception is an instance of it, and the last
    of its texts is not empty. -/
structure Offers (pairs : List (ClassId × Text)) (e : Fault) (cls : ClassId) (x : Text) :
    Prop where
  isA : e.cls.isA cls = true
  last : OrderedMap.WrittenLast pairs cls x
  told : x ≠ ""

/-- What a class offers is the entry that speaks to the exception. -/
theorem offers_iff : Offers pairs e cls x ↔
    (cls, x) ∈ (ofPairs pairs).entries ∧ speaksTo e (cls, x) = true := by
  rw [speaksTo_iff]
  show _ ↔ (cls, x) ∈ OrderedMap.ofPairs pairs ∧ _
  rw [OrderedMap.mem_ofPairs_iff]
  constructor
  · rintro ⟨hisA, hlast, htold⟩
    exact ⟨hlast, hisA, htold⟩
  · rintro ⟨hlast, hisA, htold⟩
    exact ⟨hisA, hlast, htold⟩

theorem textFor?_eq_none_iff :
    (ofPairs pairs).textFor? e = none ↔ ∀ cls x, ¬ Offers pairs e cls x := by
  show ((ofPairs pairs).entries.find? (speaksTo e)).map (·.2) = none ↔ _
  rw [Option.map_eq_none_iff, List.find?_eq_none]
  constructor
  · intro h cls x hoffers
    obtain ⟨hmem, hspeaks⟩ := offers_iff.mp hoffers
    exact h _ hmem hspeaks
  · intro h entry hmem hspeaks
    exact h entry.1 entry.2 (offers_iff.mpr ⟨hmem, hspeaks⟩)

/-- The text of the class that comes first among those that offer one. -/
def Earliest (pairs : List (ClassId × Text)) (e : Fault) (x : Text) : Prop :=
  ∃ before cls first after, pairs = before ++ (cls, first) :: after ∧ Offers pairs e cls x ∧
    ∀ earlier ∈ OrderedMap.keys before, ∀ y, ¬ Offers pairs e earlier y

/-- If any class offers something, one of those that do comes first. -/
theorem exists_earliest (h : Offers pairs e cls x) : ∃ x', Earliest pairs e x' := by
  classical
  let offering : ClassId × Text → Bool := fun entry => decide (∃ y, Offers pairs e entry.1 y)
  have hsome : (pairs.find? offering).isSome = true := by
    obtain ⟨before, after, hcut, -⟩ := h.last
    refine List.find?_isSome.mpr ⟨(cls, x), ?_, decide_eq_true ⟨x, h⟩⟩
    rw [hcut]
    exact List.mem_append_right _ List.mem_cons_self
  obtain ⟨⟨cls', first⟩, hfind⟩ := Option.isSome_iff_exists.mp hsome
  obtain ⟨hoffering, before, after, hcut, hbefore⟩ := List.find?_eq_some_iff_append.mp hfind
  obtain ⟨x', hx'⟩ := of_decide_eq_true hoffering
  refine ⟨x', before, cls', first, after, hcut, hx', ?_⟩
  intro earlier hearlier y hy
  obtain ⟨entry, hentry, rfl⟩ := List.mem_map.mp hearlier
  have hsilent : offering entry = false := by simpa using hbefore entry hentry
  exact of_decide_eq_false hsilent ⟨y, hy⟩

/-- **THE EARLIEST CLASS** that offers something is heard, with its last text. -/
theorem textFor?_of_earliest (h : Earliest pairs e x) : (ofPairs pairs).textFor? e = some x := by
  obtain ⟨before, cls, first, after, hcut, hoffers, hbefore⟩ := h
  have hnew : cls ∉ OrderedMap.keys before := fun hmem => hbefore cls hmem x hoffers
  obtain ⟨front, back, hentries, hfront⟩ :=
    OrderedMap.exists_entry_of_first hcut hnew hoffers.last
  refine textFor?_eq_some_iff.mpr ⟨front, cls, back, hentries, hoffers.isA, hoffers.told, ?_⟩
  intro entry hentry hisA
  -- an entry in front belongs to an earlier class, which offers nothing
  by_contra htold
  have hheld : (entry.1, entry.2) ∈ OrderedMap.ofPairs pairs := by
    rw [hentries]
    exact List.mem_append_left _ hentry
  exact hbefore entry.1 (hfront _ (OrderedMap.mem_keys_of_mem hentry)) entry.2
    ⟨hisA, OrderedMap.mem_ofPairs_iff.mp hheld, htold⟩

/-- A class whose last text is empty can be left out. -/
theorem textFor?_without (h : OrderedMap.WrittenLast pairs cls "") (e : Fault) :
    (ofPairs (OrderedMap.without cls pairs)).textFor? e = (ofPairs pairs).textFor? e := by
  have hentries : (ofPairs (OrderedMap.without cls pairs)).entries
      = (ofPairs pairs).entries.filter fun entry => decide (entry.1 ≠ cls) :=
    OrderedMap.ofPairs_without cls pairs
  show ((ofPairs (OrderedMap.without cls pairs)).entries.find? (speaksTo e)).map (·.2)
    = ((ofPairs pairs).entries.find? (speaksTo e)).map (·.2)
  rw [hentries, List.find?_filter, List.find?_congr]
  intro entry hentry
  by_cases hcls : entry.1 = cls
  · have hlast : OrderedMap.WrittenLast pairs cls entry.2 :=
      hcls ▸ OrderedMap.mem_ofPairs_iff.mp hentry
    have hsilent : speaksTo e entry = false :=
      speaksTo_eq_false_iff.mpr fun _ => hlast.unique h
    simp [hcls, hsilent]
  · simp [hcls]

/-- Where one class at most is one of the exception, the order of distinct classes does
    not matter. -/
theorem textFor?_perm {other : List (ClassId × Text)} (h : pairs.Perm other)
    (hdistinct : (OrderedMap.keys pairs).Nodup)
    (hone : ∀ c ∈ OrderedMap.keys pairs, ∀ c' ∈ OrderedMap.keys pairs,
      e.cls.isA c = true → e.cls.isA c' = true → c = c') :
    (ofPairs other).textFor? e = (ofPairs pairs).textFor? e := by
  have hkeys : (OrderedMap.keys pairs).Perm (OrderedMap.keys other) := h.map _
  have hdistinct' : (OrderedMap.keys other).Nodup := hkeys.nodup_iff.mp hdistinct
  show ((OrderedMap.ofPairs other).find? (speaksTo e)).map (·.2)
    = ((OrderedMap.ofPairs pairs).find? (speaksTo e)).map (·.2)
  rw [OrderedMap.ofPairs_of_nodup hdistinct, OrderedMap.ofPairs_of_nodup hdistinct',
    List.find?_eq_find?_of_perm h]
  rintro entry ⟨hentry, hspeaks⟩ entry' ⟨hentry', hspeaks'⟩
  have hcls : entry.1 = entry'.1 :=
    hone _ (OrderedMap.mem_keys_of_mem hentry) _ (OrderedMap.mem_keys_of_mem hentry')
      (speaksTo_iff.mp hspeaks).1 (speaksTo_iff.mp hspeaks').1
  exact List.inj_on_of_nodup_map hdistinct hentry hentry' hcls

/-- A message is sent as it is exactly when guidance is silent. -/
theorem append_eq_self_iff {g : Guidance} {m : Text} :
    g.append e m = m ↔ g.textFor? e = none := by
  constructor
  · intro h
    cases htext : g.textFor? e with
    | none => rfl
    | some x =>
        rw [append_of_some htext] at h
        have hlength := congrArg (fun t : Text => t.letters.length) h
        simp only [Text.letters_append, List.length_append] at hlength
        have hline : ("\n" : Text).letters.length = 1 := rfl
        omega
  · intro h
    exact append_of_none h m

end Guidance

/-! ## The whole -/

/-- **THE EARLIEST TEXT IS APPENDED**, for every list of pairs.  An absent message stays
    absent.  A message is sent as it is exactly when no class of the exception ends up with
    a text; otherwise the class among them that comes first in the list is heard, and the
    last of its texts goes behind the message, on a line of its own.  So a class that ends
    up with an empty text can be left out, and distinct classes can be listed in any order
    for an exception that is an instance of one of them at most. -/
theorem earliest_text_is_appended (pairs : List (ClassId × Text)) (e : Fault) :
    let decorate : List (ClassId × Text) → Option Text → Except Failure (Option Text) :=
      fun given => (Decorator.guidance (.ofPairs given)).decorate e
    decorate pairs none = .ok none ∧
    (∀ m, decorate pairs (some m) = .ok (some m) ↔ ∀ cls x, ¬ Guidance.Offers pairs e cls x) ∧
    (∀ cls x, Guidance.Offers pairs e cls x → ∃ earliest, Guidance.Earliest pairs e earliest ∧
      ∀ m, decorate pairs (some m) = .ok (some (m ++ "\n" ++ earliest))) ∧
    (∀ cls, OrderedMap.WrittenLast pairs cls "" →
      ∀ message, decorate (OrderedMap.without cls pairs) message = decorate pairs message) ∧
    ∀ other, pairs.Perm other → (OrderedMap.keys pairs).Nodup →
      (∀ c ∈ OrderedMap.keys pairs, ∀ c' ∈ OrderedMap.keys pairs,
        e.cls.isA c = true → e.cls.isA c' = true → c = c') →
      ∀ message, decorate other message = decorate pairs message := by
  intro decorate
  -- decorating looks at nothing but the text that is found
  have hsame : ∀ {given given' : List (ClassId × Text)},
      (Guidance.ofPairs given).textFor? e = (Guidance.ofPairs given').textFor? e →
      ∀ message, decorate given message = decorate given' message := by
    intro given given' htext message
    show Except.ok (message.map ((Guidance.ofPairs given).append e)) = _
    rw [Guidance.append_of_same_text htext]
    rfl
  refine ⟨rfl, ?_, ?_, ?_, ?_⟩
  · intro m
    rw [← Guidance.textFor?_eq_none_iff, ← Guidance.append_eq_self_iff (m := m)]
    show Except.ok (some ((Guidance.ofPairs pairs).append e m)) = .ok (some m) ↔ _
    rw [Except.ok.injEq, Option.some.injEq]
  · intro cls x hoffers
    obtain ⟨earliest, hearliest⟩ := Guidance.exists_earliest hoffers
    refine ⟨earliest, hearliest, ?_⟩
    intro m
    show Except.ok (some ((Guidance.ofPairs pairs).append e m)) = _
    rw [Guidance.append_of_some (Guidance.textFor?_of_earliest hearliest)]
  · intro cls hempty
    exact hsame (Guidance.textFor?_without hempty e)
  · intro other hperm hdistinct hone
    exact hsame (Guidance.textFor?_perm hperm hdistinct hone)

/-- A timeout, for which a class is heard that is given first before its own class and gets
    its text last of all; one that ends up without a text can be left out.  Where only its
    own class is listed among others, the order does not matter. -/
theorem later_text_is_heard_first :
    let e : Fault := .ofText .timeoutError "late"
    let pairs : List (ClassId × Text) :=
      [(.known .exception, "Gone"), (.known .osError, "Old"), (.known .timeoutError, "Wait"),
        (.known .exception, ""), (.known .osError, "Later")]
    let distinct : List (ClassId × Text) :=
      [(.known .valueError, "Check"), (.known .timeoutError, "Wait")]
    let decorate : List (ClassId × Text) → Except Failure (Option Text) :=
      fun given => (Decorator.guidance (.ofPairs given)).decorate e (some "late")
    Guidance.Offers pairs e (.known .timeoutError) "Wait" ∧
      OrderedMap.WrittenLast pairs (.known .exception) "" ∧
      decorate pairs = .ok (some "late\nLater") ∧
      decorate (OrderedMap.without (.known .exception) pairs) = decorate pairs ∧
      decorate distinct.reverse = decorate distinct := by
  intro e pairs distinct decorate
  have hoffers : Guidance.Offers pairs e (.known .timeoutError) "Wait" :=
    ⟨by decide, ⟨pairs.take 2, pairs.drop 3, rfl, by decide⟩, by decide⟩
  have hempty : OrderedMap.WrittenLast pairs (.known .exception) "" :=
    ⟨pairs.take 3, pairs.drop 4, rfl, by decide⟩
  obtain ⟨-, -, hheard, hwithout, -⟩ := earliest_text_is_appended pairs e
  obtain ⟨-, -, -, -, hperm⟩ := earliest_text_is_appended distinct e
  refine ⟨hoffers, hempty, ?_, hwithout _ hempty _, ?_⟩
  · obtain ⟨earliest, hearliest, hdecorated⟩ := hheard _ _ hoffers
    have hfound : (Guidance.ofPairs pairs).textFor? e = some "Later" := rfl
    obtain rfl : earliest = "Later" :=
      Option.some.inj ((Guidance.textFor?_of_earliest hearliest).symm.trans hfound)
    exact hdecorated "late"
  · exact hperm _ (List.reverse_perm distinct).symm (by decide) (by decide) _

end FaultResponse
