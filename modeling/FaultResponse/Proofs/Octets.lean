import FaultResponse.Text.Utf8
import Mathlib.Algebra.Group.Nat.Defs
/-! # Octets — a text is read back from its octets

    A text goes out as octets and is read by a machine that takes one octet at a time.
    What the machine knows inside a character is a range: the octets so far can only begin
    the characters with certain numbers, and its state is that range of numbers. The route:

    * `lead`, `tail`: a character as its first octet and six bits in each further one;
    * `Opens`: what a state inside a character means, kept by every octet in the range
      (`Opens.next`), and `starts`: a first octet opens a character, is one, or begins none;
    * `run_encodeChar`: so the octets of a character are read as that character, by
      induction on those that are owed, and `decode_encode` is the induction over the text;
    * `encode_eq`: the octets written are those of the standard library.

    The gap in the code points and their bound are needed in the table of first octets
    (`opens_of_row`), and nowhere else. -/

namespace FaultResponse.Text.Utf8

/-! ## Single octets -/

theorem toNat_octet {n : Nat} (h : n < 256) : (octet n).toNat = n :=
  UInt8.toNat_ofNat_of_lt' h

theorem toNat_ofNat_of_valid {n : Nat} (h : n.isValidChar) : (Char.ofNat n).toNat = n := by
  unfold Char.ofNat
  rw [dif_pos h]
  rfl

/-- Between characters an octet is a first one. -/
theorem run_first (b : UInt8) (bs : List UInt8) :
    run .start (b :: bs) = (first b.toNat).1 ++ run (first b.toNat).2 bs := rfl

/-- An octet inside a character, with others to come. -/
theorem run_inner {owed low high value : Nat} {b : UInt8} (hlow : low ≤ b.toNat)
    (hhigh : b.toNat ≤ high) (bs : List UInt8) :
    run (.within (owed + 1) low high value) (b :: bs)
      = run (.within owed 0x80 0xBF (value * 64 + (b.toNat - 0x80))) bs := by
  have hstep : step (.within (owed + 1) low high value) b.toNat
      = ([], .within owed 0x80 0xBF (value * 64 + (b.toNat - 0x80))) := if_pos ⟨hlow, hhigh⟩
  show (step _ b.toNat).1 ++ run (step _ b.toNat).2 bs = _
  rw [hstep]
  rfl

/-- The last octet of a character. -/
theorem run_last {low high value : Nat} {b : UInt8} (hlow : low ≤ b.toNat)
    (hhigh : b.toNat ≤ high) (bs : List UInt8) :
    run (.within 0 low high value) (b :: bs)
      = Char.ofNat (value * 64 + (b.toNat - 0x80)) :: run .start bs := by
  have hstep : step (.within 0 low high value) b.toNat
      = ([Char.ofNat (value * 64 + (b.toNat - 0x80))], .start) := if_pos ⟨hlow, hhigh⟩
  show (step _ b.toNat).1 ++ run (step _ b.toNat).2 bs = _
  rw [hstep]
  rfl

/-- A refused octet is read once more, behind the replacement. -/
theorem run_refused {owed low high value : Nat} {b : UInt8}
    (h : ¬ (low ≤ b.toNat ∧ b.toNat ≤ high)) (bs : List UInt8) :
    run (.within owed low high value) (b :: bs) = replacement :: run .start (b :: bs) := by
  have hstep : step (.within owed low high value) b.toNat
      = (replacement :: (first b.toNat).1, (first b.toNat).2) := if_neg h
  show (step _ b.toNat).1 ++ run (step _ b.toNat).2 bs = _
  rw [hstep]
  rfl

/-! ## The octets of a character, from the last one on -/

/-- The last octets of a character, six bits in each of them. -/
def tail : Nat → Nat → List UInt8
  | 0, _ => []
  | owed + 1, n => octet (0x80 + n / 64 ^ owed % 64) :: tail owed n

/-- The first octet of a character. -/
def lead (n : Nat) : Nat :=
  if n < 0x80 then n
  else if n < 0x800 then 0xC0 + n / 64
  else if n < 0x10000 then 0xE0 + n / 4096
  else 0xF0 + n / 262144

/-- How many octets stand behind the first one. -/
def behind (n : Nat) : Nat :=
  if n < 0x80 then 0 else if n < 0x800 then 1 else if n < 0x10000 then 2 else 3

/-- A first octet tells how many others belong to it. -/
theorem lead_cases (n : Nat) :
    (n < 0x80 ∧ lead n = n ∧ behind n = 0) ∨
    (0x80 ≤ n ∧ n < 0x800 ∧ lead n = 0xC0 + n / 64 ∧ behind n = 1) ∨
    (0x800 ≤ n ∧ n < 0x10000 ∧ lead n = 0xE0 + n / 4096 ∧ behind n = 2) ∨
    (0x10000 ≤ n ∧ lead n = 0xF0 + n / 262144 ∧ behind n = 3) := by
  unfold lead behind
  by_cases h1 : n < 0x80
  · rw [if_pos h1, if_pos h1]
    exact Or.inl ⟨h1, rfl, rfl⟩
  · by_cases h2 : n < 0x800
    · rw [if_neg h1, if_neg h1, if_pos h2, if_pos h2]
      exact Or.inr (Or.inl ⟨Nat.le_of_not_lt h1, h2, rfl, rfl⟩)
    · by_cases h3 : n < 0x10000
      · rw [if_neg h1, if_neg h1, if_neg h2, if_neg h2, if_pos h3, if_pos h3]
        exact Or.inr (Or.inr (Or.inl ⟨Nat.le_of_not_lt h2, h3, rfl, rfl⟩))
      · rw [if_neg h1, if_neg h1, if_neg h2, if_neg h2, if_neg h3, if_neg h3]
        exact Or.inr (Or.inr (Or.inr ⟨Nat.le_of_not_lt h3, rfl, rfl⟩))

theorem encodeChar_eq_lead (c : Char) :
    encodeChar c = octet (lead c.toNat) :: tail (behind c.toNat) c.toNat := by
  unfold encodeChar
  rcases lead_cases c.toNat with ⟨h, hl, hb⟩ | ⟨h, h', hl, hb⟩ | ⟨h, h', hl, hb⟩ | ⟨h, hl, hb⟩
  · rw [hl, hb, if_pos h]
    rfl
  · rw [hl, hb, if_neg (Nat.not_lt.mpr h), if_pos h']
    simp [tail]
  · rw [hl, hb, if_neg (by omega), if_neg (Nat.not_lt.mpr h), if_pos h']
    simp [tail]
  · rw [hl, hb, if_neg (by omega), if_neg (by omega), if_neg (Nat.not_lt.mpr h)]
    simp [tail]

theorem length_tail (owed n : Nat) : (tail owed n).length = owed := by
  induction owed with
  | zero => rfl
  | succ owed ih => rw [tail, List.length_cons, ih]

theorem high_of_mem_tail {owed n : Nat} {b : UInt8} (h : b ∈ tail owed n) : 0x80 ≤ b.toNat := by
  induction owed with
  | zero => exact nomatch h
  | succ owed ih =>
      rcases List.mem_cons.mp h with rfl | h
      · rw [toNat_octet (by omega)]
        omega
      · exact ih h

theorem lead_lt (c : Char) : lead c.toNat < 256 := by
  have hvalid : c.toNat < 0xD800 ∨ 0xDFFF < c.toNat ∧ c.toNat < 0x110000 := c.valid
  have hcases := lead_cases c.toNat
  omega

/-- A character outside ASCII has no octet below 0x80. -/
theorem high_of_mem_encodeChar {c : Char} (h : 0x80 ≤ c.toNat) {b : UInt8}
    (hb : b ∈ encodeChar c) : 0x80 ≤ b.toNat := by
  rw [encodeChar_eq_lead] at hb
  rcases List.mem_cons.mp hb with rfl | hb
  · have hcases := lead_cases c.toNat
    rw [toNat_octet (lead_lt c)]
    omega
  · exact high_of_mem_tail hb

theorem encodeChar_of_ascii {c : Char} (h : c.toNat < 0x80) : encodeChar c = [octet c.toNat] :=
  if_pos h

/-- An octet below 0x80 is a character. -/
theorem encodeChar_of_octet {b : UInt8} (h : b.toNat < 0x80) :
    encodeChar (Char.ofNat b.toNat) = [b] := by
  have hc : (Char.ofNat b.toNat).toNat = b.toNat := toNat_ofNat_of_valid (Or.inl (by omega))
  rw [encodeChar_of_ascii (by rwa [hc]), hc, octet, UInt8.ofNat_toNat]

/-- The octets begin a character, or are one. -/
def Begins (p : List UInt8) : Prop :=
  ∃ c, p <+: encodeChar c

theorem begins_of_char {p : List UInt8} {c : Char} (h : encodeChar c = p) : Begins p := by
  rw [← h]
  exact ⟨c, List.prefix_rfl⟩

/-! ## Inside a character -/

/-- The numbers of which the bits read so far and a next octet in the range leave room. -/
def Fits (owed low high value n : Nat) : Prop :=
  value * 64 + low ≤ n / 64 ^ owed + 0x80 ∧ n / 64 ^ owed + 0x80 ≤ value * 64 + high

/-- The octets open a character, and the state of the machine behind them tells which: they
    begin the characters with these numbers, and all of them are numbers of characters. -/
structure Opens (p : List UInt8) (owed low high value : Nat) : Prop where
  nonempty : p ≠ []
  low_ge : 0x80 ≤ low
  low_le : low ≤ high
  high_le : high ≤ 0xBF
  valid : ∀ n, Fits owed low high value n → n.isValidChar
  octets : ∀ c : Char, Fits owed low high value c.toNat →
    encodeChar c = p ++ tail (owed + 1) c.toNat
  fits : ∀ c : Char, p <+: encodeChar c → Fits owed low high value c.toNat

namespace Opens

variable {p : List UInt8} {owed low high value : Nat}

/-- The octet behind an open piece says which of its characters are still meant. -/
theorem begins_iff (h : Opens p owed low high value) {b : UInt8} {c : Char} :
    p ++ [b] <+: encodeChar c ↔
      Fits owed low high value c.toNat ∧
        c.toNat / 64 ^ owed + 0x80 = value * 64 + b.toNat := by
  have hlow := h.low_ge
  have hhigh := h.high_le
  have hnext : Fits owed low high value c.toNat →
      (p ++ [b] <+: encodeChar c ↔ b.toNat = 0x80 + c.toNat / 64 ^ owed % 64) := by
    intro hf
    rw [h.octets c hf, List.prefix_append_right_inj]
    show [b] <+: octet (0x80 + c.toNat / 64 ^ owed % 64) :: tail owed c.toNat ↔ _
    rw [List.cons_prefix_cons, ← UInt8.toNat_inj, toNat_octet (by omega)]
    exact and_iff_left List.nil_prefix
  constructor
  · intro hb
    have hf : Fits owed low high value c.toNat :=
      h.fits c ((List.prefix_append p [b]).trans hb)
    have hbits := (hnext hf).mp hb
    obtain ⟨hge, hle⟩ := hf
    exact ⟨⟨hge, hle⟩, by omega⟩
  · rintro ⟨hf, hbits⟩
    obtain ⟨hge, hle⟩ := hf
    exact (hnext ⟨hge, hle⟩).mpr (by omega)

/-- The octet that a character has next. -/
theorem next_octet (h : Opens p owed low high value) {c : Char}
    (hc : Fits owed low high value c.toNat) :
    p ++ [octet (0x80 + c.toNat / 64 ^ owed % 64)] <+: encodeChar c ∧
      Fits owed low high value c.toNat ∧ c.toNat / 64 ^ owed + 0x80
        = value * 64 + (octet (0x80 + c.toNat / 64 ^ owed % 64)).toNat := by
  have hb : p ++ [octet (0x80 + c.toNat / 64 ^ owed % 64)] <+: encodeChar c := by
    rw [h.octets c hc, List.prefix_append_right_inj]
    exact List.cons_prefix_cons.mpr ⟨rfl, List.nil_prefix⟩
  exact ⟨hb, h.begins_iff.mp hb⟩

/-- An octet outside the range goes on with no character. -/
theorem refused (h : Opens p owed low high value) {b : UInt8}
    (hb : ¬ (low ≤ b.toNat ∧ b.toNat ≤ high)) : ¬ Begins (p ++ [b]) := by
  rintro ⟨c, hc⟩
  obtain ⟨⟨hge, hle⟩, hbits⟩ := h.begins_iff.mp hc
  exact hb ⟨by omega, by omega⟩

theorem begins (h : Opens p owed low high value) : Begins p := by
  have hlow := h.low_ge
  have hle := h.low_le
  have hdiv : (value * 64 + (low - 0x80)) * 64 ^ owed / 64 ^ owed = value * 64 + (low - 0x80) :=
    Nat.mul_div_cancel _ (Nat.pow_pos (by decide))
  have hf : Fits owed low high value ((value * 64 + (low - 0x80)) * 64 ^ owed) := by
    unfold Fits
    rw [hdiv]
    omega
  have hc := toNat_ofNat_of_valid (h.valid _ hf)
  refine ⟨Char.ofNat ((value * 64 + (low - 0x80)) * 64 ^ owed), ?_⟩
  rw [h.octets _ (hc.symm ▸ hf)]
  exact List.prefix_append p _

/-- What is open is not yet a character. -/
theorem incomplete (h : Opens p owed low high value) (c : Char) : encodeChar c ≠ p := by
  intro hc
  have hlength := congrArg List.length (h.octets c (h.fits c (hc ▸ List.prefix_rfl)))
  rw [hc, List.length_append, length_tail] at hlength
  omega

/-- The last octet completes the character with the bits put together. -/
theorem completed (h : Opens p 0 low high value) {b : UInt8} (hlow : low ≤ b.toNat)
    (hhigh : b.toNat ≤ high) :
    encodeChar (Char.ofNat (value * 64 + (b.toNat - 0x80))) = p ++ [b] := by
  have hge := h.low_ge
  have hle := h.high_le
  have hf : Fits 0 low high value (value * 64 + (b.toNat - 0x80)) := by
    unfold Fits
    rw [Nat.pow_zero, Nat.div_one]
    omega
  have hc := toNat_ofNat_of_valid (h.valid _ hf)
  rw [h.octets _ (hc.symm ▸ hf), hc]
  have hbits : 0x80 + (value * 64 + (b.toNat - 0x80)) / 64 ^ 0 % 64 = b.toNat := by
    rw [Nat.pow_zero, Nat.div_one]
    omega
  show p ++ [octet (0x80 + (value * 64 + (b.toNat - 0x80)) / 64 ^ 0 % 64)] = p ++ [b]
  rw [hbits, octet, UInt8.ofNat_toNat]

/-- An inner octet narrows the range to the characters with its bits. -/
theorem next (h : Opens p (owed + 1) low high value) {b : UInt8} (hlow : low ≤ b.toNat)
    (hhigh : b.toNat ≤ high) :
    Opens (p ++ [b]) owed 0x80 0xBF (value * 64 + (b.toNat - 0x80)) := by
  have hge := h.low_ge
  have hle := h.high_le
  have hdiv : ∀ n, n / 64 ^ (owed + 1) = n / 64 ^ owed / 64 := fun n => by
    rw [Nat.pow_succ, Nat.div_div_eq_div_mul]
  -- the narrowed range holds the numbers that have the bits of this octet behind the others
  have hfits : ∀ n, Fits owed 0x80 0xBF (value * 64 + (b.toNat - 0x80)) n ↔
      Fits (owed + 1) low high value n ∧ n / 64 ^ (owed + 1) + 0x80 = value * 64 + b.toNat := by
    intro n
    unfold Fits
    rw [hdiv]
    omega
  refine ⟨by simp, Nat.le_refl _, by decide, Nat.le_refl _, ?_, ?_, ?_⟩
  · intro n hn
    exact h.valid n ((hfits n).mp hn).1
  · intro c hc
    obtain ⟨hf, hbits⟩ := (hfits _).mp hc
    rw [h.octets c hf]
    have hoctet : octet (0x80 + c.toNat / 64 ^ (owed + 1) % 64) = b := by
      have hn : 0x80 + c.toNat / 64 ^ (owed + 1) % 64 = b.toNat := by omega
      rw [hn, octet, UInt8.ofNat_toNat]
    show p ++ octet (0x80 + c.toNat / 64 ^ (owed + 1) % 64) :: tail (owed + 1) c.toNat = _
    rw [hoctet, List.append_assoc, List.singleton_append]
  · intro c hc
    exact (hfits _).mpr (h.begins_iff.mp hc)

/-- The owed octets of a character that fits are read as that character. -/
theorem run_tail (h : Opens p owed low high value) {c : Char}
    (hc : Fits owed low high value c.toNat) (rest : List UInt8) :
    run (.within owed low high value) (tail (owed + 1) c.toNat ++ rest)
      = c :: run .start rest := by
  induction owed generalizing p low high value with
  | zero =>
      obtain ⟨hnext, ⟨hge, hle⟩, hbits⟩ := h.next_octet hc
      show run _ (octet (0x80 + c.toNat / 64 ^ 0 % 64) :: rest) = _
      have hvalue : value * 64 + ((octet (0x80 + c.toNat / 64 ^ 0 % 64)).toNat - 0x80)
          = c.toNat := by
        have hlow := h.low_ge
        rw [Nat.pow_zero, Nat.div_one] at hge hle hbits ⊢
        omega
      rw [run_last (by omega) (by omega), hvalue, Char.ofNat_toNat]
  | succ owed ih =>
      obtain ⟨hnext, ⟨hge, hle⟩, hbits⟩ := h.next_octet hc
      show run _ (octet (0x80 + c.toNat / 64 ^ (owed + 1) % 64)
        :: (tail (owed + 1) c.toNat ++ rest)) = _
      have hopen := h.next (b := octet (0x80 + c.toNat / 64 ^ (owed + 1) % 64))
        (by omega) (by omega)
      rw [run_inner (by omega) (by omega), ih hopen (hopen.fits c hnext)]

end Opens

/-! ## First octets -/

theorem begins_singleton_iff {b : UInt8} {c : Char} :
    [b] <+: encodeChar c ↔ lead c.toNat = b.toNat := by
  rw [encodeChar_eq_lead, List.cons_prefix_cons, ← UInt8.toNat_inj, toNat_octet (lead_lt c),
    eq_comm]
  exact and_iff_left List.nil_prefix

/-- A first octet opens a character when the range behind it holds the characters that
    have it, all with as many octets. -/
theorem opens_of_lead {b : UInt8} {owed low high value : Nat} (hge : 0x80 ≤ low)
    (hle : low ≤ high) (hhigh : high ≤ 0xBF)
    (hfits : ∀ m, (Fits owed low high value m ↔ m.isValidChar ∧ lead m = b.toNat) ∧
      (Fits owed low high value m → behind m = owed + 1)) :
    Opens [b] owed low high value where
  nonempty := List.cons_ne_nil _ _
  low_ge := hge
  low_le := hle
  high_le := hhigh
  valid := fun m hm => ((hfits m).1.mp hm).1
  octets := by
    intro c hc
    rw [encodeChar_eq_lead, ((hfits _).1.mp hc).2, (hfits _).2 hc, octet, UInt8.ofNat_toNat]
    rfl
  fits := by
    intro c hc
    exact (hfits _).1.mpr ⟨c.valid, begins_singleton_iff.mp hc⟩

/-- The first octets that open a character: how many octets are owed behind the next one,
    the range of the next one, and the bits. -/
inductive Row (n : Nat) : Nat → Nat → Nat → Nat → Prop
  | two : 0xC2 ≤ n → n ≤ 0xDF → Row n 0 0x80 0xBF (n - 0xC0)
  /-- Shorter characters are not written with three octets. -/
  | leastThree : n = 0xE0 → Row n 1 0xA0 0xBF 0
  /-- The gap among the code points is left out. -/
  | gap : n = 0xED → Row n 1 0x80 0x9F 0xD
  | three : 0xE1 ≤ n → n ≤ 0xEF → n ≠ 0xED → Row n 1 0x80 0xBF (n - 0xE0)
  /-- Shorter characters are not written with four octets. -/
  | leastFour : n = 0xF0 → Row n 2 0x90 0xBF 0
  | four : 0xF1 ≤ n → n ≤ 0xF3 → Row n 2 0x80 0xBF (n - 0xF0)
  /-- There are no characters above the bound. -/
  | bound : n = 0xF4 → Row n 2 0x80 0x8F 4

theorem opens_of_row {b : UInt8} {owed low high value : Nat}
    (h : Row b.toNat owed low high value) : Opens [b] owed low high value := by
  -- in each row the range holds the very numbers of the characters with this first octet
  have hfits : ∀ m, (Fits owed low high value m ↔ m.isValidChar ∧ lead m = b.toNat) ∧
      (Fits owed low high value m → behind m = owed + 1) := by
    intro m
    have hm := lead_cases m
    unfold Fits Nat.isValidChar
    cases h <;> omega
  have hrange : 0x80 ≤ low ∧ low ≤ high ∧ high ≤ 0xBF := by
    cases h <;> decide
  exact opens_of_lead hrange.1 hrange.2.1 hrange.2.2 hfits

/-- What a first octet can be: a character, the beginning of one, or none of either. -/
inductive Starts (b : UInt8) : Prop
  | ascii : b.toNat < 0x80 → first b.toNat = ([Char.ofNat b.toNat], .start) → Starts b
  | opens {owed low high value : Nat} : first b.toNat = ([], .within owed low high value) →
      Opens [b] owed low high value → Starts b
  | stray : first b.toNat = ([replacement], .start) → ¬ Begins [b] → Starts b

/-- **EVERY FIRST OCTET** is one of the three. -/
theorem starts (b : UInt8) : Starts b := by
  -- the machine compares range by range, and so do the cases
  have hfirst : first b.toNat = ite _ _ _ := rfl
  by_cases hascii : b.toNat < 0x80
  · exact .ascii hascii (if_pos hascii)
  rw [if_neg hascii] at hfirst
  by_cases htwo : 0xC2 ≤ b.toNat ∧ b.toNat ≤ 0xDF
  · exact .opens (hfirst.trans (if_pos htwo)) (opens_of_row (.two htwo.1 htwo.2))
  rw [if_neg htwo] at hfirst
  by_cases he0 : b.toNat = 0xE0
  · exact .opens (hfirst.trans (if_pos he0)) (opens_of_row (.leastThree he0))
  rw [if_neg he0] at hfirst
  by_cases hed : b.toNat = 0xED
  · exact .opens (hfirst.trans (if_pos hed)) (opens_of_row (.gap hed))
  rw [if_neg hed] at hfirst
  by_cases hthree : 0xE1 ≤ b.toNat ∧ b.toNat ≤ 0xEF
  · exact .opens (hfirst.trans (if_pos hthree)) (opens_of_row (.three hthree.1 hthree.2 hed))
  rw [if_neg hthree] at hfirst
  by_cases hf0 : b.toNat = 0xF0
  · exact .opens (hfirst.trans (if_pos hf0)) (opens_of_row (.leastFour hf0))
  rw [if_neg hf0] at hfirst
  by_cases hfour : 0xF1 ≤ b.toNat ∧ b.toNat ≤ 0xF3
  · exact .opens (hfirst.trans (if_pos hfour)) (opens_of_row (.four hfour.1 hfour.2))
  rw [if_neg hfour] at hfirst
  by_cases hf4 : b.toNat = 0xF4
  · exact .opens (hfirst.trans (if_pos hf4)) (opens_of_row (.bound hf4))
  rw [if_neg hf4] at hfirst
  refine .stray hfirst ?_
  rintro ⟨c, hc⟩
  have hn := (begins_singleton_iff).mp hc
  have hm := lead_cases c.toNat
  have hvalid : c.toNat < 0xD800 ∨ 0xDFFF < c.toNat ∧ c.toNat < 0x110000 := c.valid
  omega

/-! ## Characters and texts -/

/-- **ONE CHARACTER** is read back, whatever follows it. -/
theorem run_encodeChar (c : Char) (rest : List UInt8) :
    run .start (encodeChar c ++ rest) = c :: run .start rest := by
  have hlead : (octet (lead c.toNat)).toNat = lead c.toNat := toNat_octet (lead_lt c)
  have hbegins : [octet (lead c.toNat)] <+: encodeChar c := begins_singleton_iff.mpr hlead.symm
  cases starts (octet (lead c.toNat)) with
  | ascii hlow =>
      have hcases := lead_cases c.toNat
      have hascii : c.toNat < 0x80 := by omega
      have hfirst : first c.toNat = ([Char.ofNat c.toNat], .start) := if_pos hascii
      rw [encodeChar_of_ascii hascii, List.singleton_append, run_first, toNat_octet (by omega),
        hfirst, Char.ofNat_toNat]
      rfl
  | stray _ hnone => exact absurd ⟨c, hbegins⟩ hnone
  | opens hf ho =>
      have hc := ho.fits c hbegins
      rw [ho.octets c hc, List.append_assoc, List.singleton_append, run_first, hf,
        List.nil_append, ho.run_tail hc]

/-- **A TEXT IS READ BACK** from its octets. -/
theorem decode_encode (s : String) : decode (encode s) = s := by
  have hrun : ∀ chars : List Char, run .start (chars.flatMap encodeChar) = chars := by
    intro chars
    induction chars with
    | nil => rfl
    | cons c rest ih => rw [List.flatMap_cons, run_encodeChar, ih]
  unfold decode encode
  rw [hrun, String.ofList_toList]

/-! ## The octets of the standard library -/

/-- The octets of a character are those that the standard library writes. -/
theorem encodeChar_eq (c : Char) : encodeChar c = String.utf8EncodeChar c := by
  have hvalid : c.toNat < 0xD800 ∨ 0xDFFF < c.toNat ∧ c.toNat < 0x110000 := c.valid
  have hval : c.val.toNat = c.toNat := rfl
  unfold encodeChar String.utf8EncodeChar
  simp only [hval]
  generalize c.toNat = n at hvalid ⊢
  have hlast : n % 64 + 128 = 0x80 + n % 64 := by omega
  have hinner : n / 64 % 64 + 128 = 0x80 + n / 64 % 64 := by omega
  by_cases h1 : n < 0x80
  · rw [if_pos h1, if_pos (by omega)]
  · by_cases h2 : n < 0x800
    · have hfirst : n / 64 % 32 + 192 = 0xC0 + n / 64 := by omega
      rw [if_neg h1, if_pos h2, if_neg (by omega), if_pos (by omega), hfirst, hlast]
    · by_cases h3 : n < 0x10000
      · have hfirst : n / 4096 % 16 + 224 = 0xE0 + n / 4096 := by omega
        rw [if_neg h1, if_neg h2, if_pos h3, if_neg (by omega), if_neg (by omega),
          if_pos (by omega), hfirst, hinner, hlast]
      · have hfirst : n / 262144 % 8 + 240 = 0xF0 + n / 262144 := by omega
        have hsecond : n / 4096 % 64 + 128 = 0x80 + n / 4096 % 64 := by omega
        rw [if_neg h1, if_neg h2, if_neg h3, if_neg (by omega), if_neg (by omega),
          if_neg (by omega), hfirst, hsecond, hinner, hlast]

/-- The octets of a text are those that the standard library writes. -/
theorem encode_eq (s : String) : encode s = s.toUTF8.data.toList := by
  have hs : s.toUTF8 = s.toList.utf8Encode := String.utf8Encode_toList.symm
  have hchar : encodeChar = String.utf8EncodeChar := funext encodeChar_eq
  rw [hs]
  unfold encode List.utf8Encode
  rw [hchar, List.data_toByteArray]
end FaultResponse.Text.Utf8
