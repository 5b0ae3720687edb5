import FaultResponse.Proofs.Octets
/-! # Replacement — what is read where octets are no characters

    Any octets have a text: they fall into characters and into pieces that are none, and
    each piece gives one replacement.  A piece is as long as it can be: either it begins a
    character and the octet behind it does not go on with any, or it is a single octet that
    begins none.  The machine finds just these pieces. The route:

    * `Reads` says what a text of octets is, by the encoding alone and without the machine;
    * `reads_run`: the machine reads such a text, by induction on the octets, from between
      two characters and from inside one, where `Opens` tells what can still follow;
    * `reads_iff`: there is no other text, since a piece that is none is left by the machine
      exactly where it ends (`Broken.run`);
    * `Reads.ascii`: an octet below 0x80 is always a character of its own. -/

namespace FaultResponse.Text.Utf8

/-! ## Texts of octets -/

/-- A piece that is no character, and that no octet of the rest can belong to. -/
inductive Broken (rest : List UInt8) : List UInt8 → Prop
  /-- A character begins and is not completed. -/
  | cut {p : List UInt8} : p ≠ [] → Begins p → (∀ c, encodeChar c ≠ p) →
      (∀ b, rest.head? = some b → ¬ Begins (p ++ [b])) → Broken rest p
  /-- No character begins. -/
  | stray {b : UInt8} : ¬ Begins [b] → Broken rest [b]

/-- The text of octets: each character is read, and each piece that is none is replaced. -/
inductive Reads : List UInt8 → List Char → Prop
  | done : Reads [] []
  | char (c : Char) {rest : List UInt8} {text : List Char} : Reads rest text →
      Reads (encodeChar c ++ rest) (c :: text)
  | piece {p rest : List UInt8} {text : List Char} : Broken rest p → Reads rest text →
      Reads (p ++ rest) (replacement :: text)

/-! ## What the machine reads -/

namespace Opens

variable {p : List UInt8} {owed low high value : Nat}

/-- What is open is broken by an octet outside the range, and by the end. -/
theorem broken (h : Opens p owed low high value) {rest : List UInt8}
    (hrest : ∀ b, rest.head? = some b → ¬ (low ≤ b.toNat ∧ b.toNat ≤ high)) : Broken rest p :=
  .cut h.nonempty h.begins h.incomplete fun b hb => h.refused (hrest b hb)

/-- An octet of the range goes on with a character. -/
theorem begins_append (h : Opens p owed low high value) {b : UInt8} (hlow : low ≤ b.toNat)
    (hhigh : b.toNat ≤ high) : Begins (p ++ [b]) := by
  cases owed with
  | zero => exact begins_of_char (h.completed hlow hhigh)
  | succ owed => exact (h.next hlow hhigh).begins

end Opens

/-- A first octet is read, and what follows it. -/
theorem reads_first (b : UInt8) {bs : List UInt8} (hstart : Reads bs (run .start bs))
    (hopen : ∀ {p owed low high value}, Opens p owed low high value →
      Reads (p ++ bs) (run (.within owed low high value) bs)) :
    Reads (b :: bs) (run .start (b :: bs)) := by
  rw [run_first]
  cases starts b with
  | ascii hlow hf =>
      have hreads := Reads.char (Char.ofNat b.toNat) hstart
      rw [encodeChar_of_octet hlow] at hreads
      rw [hf]
      exact hreads
  | opens hf ho =>
      rw [hf]
      exact hopen ho
  | stray hf hnone =>
      rw [hf]
      exact .piece (.stray hnone) hstart

/-- **THE MACHINE READS THE TEXT**, between characters and inside one. -/
theorem reads_run (bs : List UInt8) :
    Reads bs (run .start bs) ∧
      ∀ {p owed low high value}, Opens p owed low high value →
        Reads (p ++ bs) (run (.within owed low high value) bs) := by
  induction bs with
  | nil =>
      refine ⟨.done, ?_⟩
      intro p owed low high value ho
      exact .piece (ho.broken fun b hb => nomatch hb) .done
  | cons b bs ih =>
      obtain ⟨hstart, hopen⟩ := ih
      refine ⟨reads_first b hstart hopen, ?_⟩
      intro p owed low high value ho
      by_cases hb : low ≤ b.toNat ∧ b.toNat ≤ high
      · rw [List.append_cons]
        cases owed with
        | zero =>
            rw [run_last hb.1 hb.2, ← ho.completed hb.1 hb.2]
            exact .char _ hstart
        | succ owed =>
            rw [run_inner hb.1 hb.2]
            exact hopen (ho.next hb.1 hb.2)
      · rw [run_refused hb]
        refine .piece (ho.broken ?_) (reads_first b hstart hopen)
        intro b' hb'
        obtain rfl := Option.some.inj hb'
        exact hb

/-! ## There is one text -/

/-- No character begins another one. -/
theorem eq_of_begins {c c' : Char} (h : encodeChar c <+: encodeChar c') : c = c' := by
  obtain ⟨more, hmore⟩ := h
  have hc := run_encodeChar c' []
  rw [← hmore, List.append_assoc, run_encodeChar] at hc
  exact (List.cons.inj hc).1

/-- The machine stays inside a character as long as the octets begin one. -/
theorem Opens.run_append {p : List UInt8} {owed low high value : Nat}
    (h : Opens p owed low high value) {s : List UInt8} (hb : Begins (p ++ s))
    (hc : ∀ c, encodeChar c ≠ p ++ s) :
    ∃ owed' low' high' value', Opens (p ++ s) owed' low' high' value' ∧
      ∀ rest, run (.within owed low high value) (s ++ rest)
        = run (.within owed' low' high' value') rest := by
  induction s generalizing p owed low high value with
  | nil =>
      rw [List.append_nil]
      exact ⟨owed, low, high, value, h, fun _ => rfl⟩
  | cons b s ih =>
      rw [List.append_cons] at hb hc
      rw [List.append_cons]
      obtain ⟨c, hbegun⟩ := hb
      have hrange : low ≤ b.toNat ∧ b.toNat ≤ high := by
        refine Classical.not_not.mp fun hnot => ?_
        exact h.refused hnot ⟨c, (List.prefix_append _ _).trans hbegun⟩
      cases owed with
      | zero =>
          -- the character is complete, so the octets behind it begin none with it
          have hdone := h.completed hrange.1 hrange.2
          rw [← hdone] at hbegun
          obtain rfl := eq_of_begins ((List.prefix_append _ _).trans hbegun)
          have hlength := hbegun.length_le
          rw [List.length_append] at hlength
          obtain rfl : s = [] := List.eq_nil_of_length_eq_zero (by omega)
          rw [List.append_nil] at hc
          exact absurd hdone (hc _)
      | succ owed =>
          obtain ⟨owed', low', high', value', ho, hrun⟩ :=
            ih (h.next hrange.1 hrange.2) ⟨c, hbegun⟩ hc
          refine ⟨owed', low', high', value', ho, ?_⟩
          intro rest
          rw [List.cons_append, run_inner hrange.1 hrange.2]
          exact hrun rest

/-- A piece that is none gives one replacement. -/
theorem Broken.run {p rest : List UInt8} (h : Broken rest p) :
    run .start (p ++ rest) = replacement :: Utf8.run .start rest := by
  cases h with
  | @stray b hnone =>
      rw [List.singleton_append, run_first]
      cases starts b with
      | ascii hlow => exact absurd (begins_of_char (encodeChar_of_octet hlow)) hnone
      | opens hf ho => exact absurd ho.begins hnone
      | stray hf => rw [hf]; rfl
  | cut hne hb hc hrest =>
      obtain ⟨b, s, rfl⟩ := List.exists_cons_of_ne_nil hne
      obtain ⟨c, hbegun⟩ := hb
      rw [List.cons_append, run_first]
      cases starts b with
      | ascii hlow =>
          have hone := encodeChar_of_octet hlow
          have hcons : encodeChar (Char.ofNat b.toNat) <+: encodeChar c :=
            hone ▸ (List.prefix_append [b] s).trans hbegun
          obtain rfl := eq_of_begins hcons
          rw [hone] at hbegun
          obtain rfl : s = [] := List.prefix_nil.mp (List.cons_prefix_cons.mp hbegun).2
          exact absurd hone (hc _)
      | stray hf hnone =>
          exact absurd ⟨c, (List.prefix_append [b] s).trans hbegun⟩ hnone
      | opens hf ho =>
          obtain ⟨owed, low, high, value, hopen, hrun⟩ := ho.run_append (s := s) ⟨c, hbegun⟩ hc
          rw [hf, List.nil_append, hrun]
          cases rest with
          | nil => rfl
          | cons b' rest =>
              refine run_refused ?_ rest
              rintro ⟨hlow, hhigh⟩
              exact hrest b' rfl (hopen.begins_append hlow hhigh)

/-- **WHAT THE MACHINE READS** is the text of the octets, and there is no other one. -/
theorem reads_iff {bs : List UInt8} {text : List Char} :
    Reads bs text ↔ run .start bs = text := by
  constructor
  · intro h
    induction h with
    | done => rfl
    | char c _ ih => rw [run_encodeChar, ih]
    | piece hbroken _ ih => rw [hbroken.run, ih]
  · rintro rfl
    exact (reads_run bs).1

/-! ## ASCII -/

/-- No octet below 0x80 belongs to a piece that is no character. -/
theorem Broken.high {p rest : List UInt8} (h : Broken rest p) {b : UInt8} (hb : b ∈ p) :
    0x80 ≤ b.toNat := by
  refine Nat.le_of_not_lt fun hlow => ?_
  cases h with
  | stray hnone =>
      obtain rfl := List.mem_singleton.mp hb
      exact hnone (begins_of_char (encodeChar_of_octet hlow))
  | cut hne hbegins hc =>
      obtain ⟨c, hbegun⟩ := hbegins
      by_cases hascii : c.toNat < 0x80
      · -- such a character is complete with its first octet
        rw [encodeChar_of_ascii hascii] at hbegun
        rcases List.prefix_cons_iff.mp hbegun with rfl | ⟨s, rfl, hs⟩
        · exact hne rfl
        · obtain rfl := List.prefix_nil.mp hs
          exact hc c (encodeChar_of_ascii hascii)
      · have hhigh := high_of_mem_encodeChar (Nat.le_of_not_lt hascii) (hbegun.subset hb)
        omega

/-- **ASCII IS KEPT**: the characters of the text below 0x80 are the octets below 0x80, in
    their order. -/
theorem Reads.ascii {bs : List UInt8} {text : List Char} (h : Reads bs text) :
    text.filter (fun c => c.toNat < 0x80)
      = (bs.filter fun b => b.toNat < 0x80).map fun b => Char.ofNat b.toNat := by
  induction h with
  | done => rfl
  | @char c rest text _ ih =>
      rw [List.filter_append, List.map_append, ← ih]
      by_cases hc : c.toNat < 0x80
      · have hoctet : (octet c.toNat).toNat = c.toNat := toNat_octet (by omega)
        simp [encodeChar_of_ascii hc, hoctet, hc, Char.ofNat_toNat]
      · have hnone : (encodeChar c).filter (fun b => b.toNat < 0x80) = [] := by
          refine List.filter_eq_nil_iff.mpr fun b hb => ?_
          have hhigh := high_of_mem_encodeChar (Nat.le_of_not_lt hc) hb
          simpa using hhigh
        simp [hnone, hc]
  | @piece p rest text hbroken _ ih =>
      have hnone : p.filter (fun b => b.toNat < 0x80) = [] := by
        refine List.filter_eq_nil_iff.mpr fun b hb => ?_
        have hhigh := hbroken.high hb
        simpa using hhigh
      rw [List.filter_append, hnone, List.nil_append, ← ih]
      rfl

end FaultResponse.Text.Utf8
