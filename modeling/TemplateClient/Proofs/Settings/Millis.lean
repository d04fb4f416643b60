import Mathlib.Algebra.Group.Nat.Defs
import TemplateClient.Proofs.Settings.Sources
import TemplateClient.Proofs.Text.Trimming

/-!
# Times in texts

A time is given in a text by decimal digits, with white space around them and at most one plus sign
in front. It may have any number of leading zeros, so that the length of a text says nothing of its
time; what counts is whether the number is less than `2 ^ 64`. Such a number can be read and kept in
words of a machine, and nothing of it is lost there.

* `toDigits_append_digits`, `exists_zeros_append_toDigits` -- digits are zeros and then those in
  which their number is written;
* `DigitsOf`, `millisText_iff` -- the digits of a text, and when they give a time;
* `Word.total?`, `Word.total?_eq_some_iff` -- a total in a word, checked at every digit;
* `Span`, `Span.millis_ofMillis` -- a time in words of seconds and nanoseconds;
* `millis_exact` -- the texts that give a time, which one, and what is said of the others.
-/

namespace TemplateClient

/-! ## 1. Digits -/

theorem decimalValue_eq (digits : List Char) :
    decimalValue digits = Nat.ofDigitChars 10 digits 0 := by
  unfold decimalValue
  rw [Nat.ofDigitChars_eq_foldl]
  simp only [Nat.mul_comm]

theorem digitChar_of_isDigit {c : Char} (digit : c.isDigit = true) :
    c.toNat - '0'.toNat < 10 ∧ Nat.digitChar (c.toNat - '0'.toNat) = c := by
  obtain ⟨lower, upper⟩ : 48 ≤ c.toNat ∧ c.toNat ≤ 57 := Char.isDigit_iff_toNat.mp digit
  have hzero : '0'.toNat = 48 := rfl
  refine ⟨by omega, Char.toNat_inj.mp ?_⟩
  rw [Nat.toNat_digitChar_of_lt_ten (by omega)]
  omega

/-- More digits behind those of a number that is not zero are the digits of the longer number. -/
theorem toDigits_append_digits {digits : List Char} (each : ∀ c ∈ digits, c.isDigit = true)
    {n : Nat} (pos : 0 < n) :
    Nat.toDigits 10 n ++ digits = Nat.toDigits 10 (Nat.ofDigitChars 10 digits n) := by
  -- a step moves the first digit from behind the number into it, so the number is not fixed
  induction digits generalizing n with
  | nil => rw [List.append_nil, Nat.ofDigitChars_nil]
  | cons c digits ih =>
    obtain ⟨first, each⟩ := List.forall_mem_cons.mp each
    obtain ⟨small, hc⟩ := digitChar_of_isDigit first
    have step : Nat.toDigits 10 n ++ [c] = Nat.toDigits 10 (10 * n + (c.toNat - '0'.toNat)) := by
      rw [← Nat.toDigits_append_toDigits (by decide) pos small, Nat.toDigits_of_lt_base small, hc]
    calc Nat.toDigits 10 n ++ c :: digits = (Nat.toDigits 10 n ++ [c]) ++ digits := by
          rw [List.append_assoc, List.singleton_append]
      _ = Nat.toDigits 10 (Nat.ofDigitChars 10 (c :: digits) n) := by
          rw [step, ih each (by omega), Nat.ofDigitChars_cons]

/-- **Digits are zeros and then those in which their number is written.** -/
theorem exists_zeros_append_toDigits {digits : List Char} (nonempty : digits ≠ [])
    (each : ∀ c ∈ digits, c.isDigit = true) :
    ∃ zeros, digits =
      List.replicate zeros '0' ++ Nat.toDigits 10 (Nat.ofDigitChars 10 digits 0) := by
  induction digits with
  | nil => exact absurd rfl nonempty
  | cons c digits ih =>
    obtain ⟨first, others⟩ := List.forall_mem_cons.mp each
    obtain ⟨small, hc⟩ := digitChar_of_isDigit first
    rw [Nat.ofDigitChars_cons, Nat.mul_zero, Nat.zero_add]
    by_cases zero : c.toNat - '0'.toNat = 0
    · obtain rfl : c = '0' := by rw [← hc, zero]; rfl
      -- a zero in front is dropped, unless it is all there is: then it is the number's own digit
      cases digits with
      | nil => exact ⟨0, rfl⟩
      | cons d digits =>
        obtain ⟨zeros, hzeros⟩ := ih (List.cons_ne_nil d digits) others
        exact ⟨zeros + 1, congrArg ('0' :: ·) hzeros⟩
    · refine ⟨0, ?_⟩
      have pos := Nat.pos_of_ne_zero zero
      rw [← toDigits_append_digits others pos, Nat.toDigits_of_lt_base small, hc]
      rfl

/-- Zeros in front of the digits of a number change nothing. -/
theorem ofDigitChars_zeros_append_toDigits (zeros n : Nat) :
    Nat.ofDigitChars 10 (List.replicate zeros '0' ++ Nat.toDigits 10 n) 0 = n := by
  rw [Nat.ofDigitChars_append, Nat.ofDigitChars_replicate_zero, Nat.mul_zero,
    Nat.ofDigitChars_ten_toDigits]

/-- Digits behind a number never make it smaller. -/
theorem le_ofDigitChars (digits : List Char) (n : Nat) : n ≤ Nat.ofDigitChars 10 digits n := by
  rw [Nat.ofDigitChars_eq_ofDigitChars_zero]
  have := Nat.le_mul_of_pos_left n (Nat.pow_pos (n := digits.length) (show 0 < 10 by decide))
  omega

/-! ## 2. The digits of a text -/

/-- The text has those digits and nothing else, white space around them and at most one plus sign in
front apart. -/
structure DigitsOf (text : String) (digits : List Char) : Prop where
  split : ∃ front sign back, text.toList = front ++ (sign ++ digits ++ back) ∧
    (∀ c ∈ front, Text.isBlank c = true) ∧ (sign = [] ∨ sign = ['+']) ∧
    ∀ c ∈ back, Text.isBlank c = true
  nonempty : digits ≠ []
  each : ∀ c ∈ digits, c.isDigit = true

theorem isBlank_of_isDigit {c : Char} (digit : c.isDigit = true) : Text.isBlank c = false := by
  obtain ⟨lower, upper⟩ : 48 ≤ c.toNat ∧ c.toNat ≤ 57 := Char.isDigit_iff_toNat.mp digit
  simp only [Text.isBlank, Bool.or_eq_false_iff, Bool.and_eq_false_iff, decide_eq_false_iff_not,
    beq_eq_false_iff_ne]
  omega

/-- Digits with a sign in front have no white space at their ends. -/
theorem trimmed_digits {sign digits : List Char} (signed : sign = [] ∨ sign = ['+'])
    (nonempty : digits ≠ []) (each : ∀ c ∈ digits, c.isDigit = true) :
    Text.Trimmed (sign ++ digits) := by
  constructor
  · intro c hc
    rcases signed with rfl | rfl
    · exact isBlank_of_isDigit (each c (List.mem_of_mem_head? hc))
    · obtain rfl : '+' = c := Option.some.inj hc
      decide
  · intro c hc
    rw [List.getLast?_append_of_ne_nil _ nonempty] at hc
    exact isBlank_of_isDigit (each c (List.mem_of_mem_getLast? hc))

/-- Without the white space at its ends, the text is its digits or a plus sign and its digits. -/
theorem digitsOf_iff {text : String} {digits : List Char} :
    DigitsOf text digits ↔
      (Text.trimChars text.toList = digits ∨ Text.trimChars text.toList = '+' :: digits) ∧
        digits ≠ [] ∧ ∀ c ∈ digits, c.isDigit = true := by
  constructor
  · intro h
    obtain ⟨front, sign, back, hsplit, blankFront, signed, blankBack⟩ := h.split
    have htrim := Text.trimChars_eq blankFront blankBack (trimmed_digits signed h.nonempty h.each)
    rw [hsplit, htrim]
    exact ⟨signed.imp (congrArg (· ++ digits)) (congrArg (· ++ digits)), h.nonempty, h.each⟩
  · rintro ⟨htrim, nonempty, each⟩
    obtain ⟨front, back, hsplit, blankFront, blankBack⟩ := Text.exists_append_trimChars text.toList
    refine ⟨?_, nonempty, each⟩
    rcases htrim with htrim | htrim <;> rw [htrim] at hsplit
    · exact ⟨front, [], back, hsplit, blankFront, .inl rfl, blankBack⟩
    · exact ⟨front, ['+'], back, hsplit, blankFront, .inr rfl, blankBack⟩

/-- **A text gives the number of its digits**, if that is less than `2 ^ 64`. -/
theorem millisText_iff {text : String} {n : Nat} :
    MillisText text n ↔
      ∃ digits, DigitsOf text digits ∧ Nat.ofDigitChars 10 digits 0 = n ∧ n < 2 ^ 64 := by
  unfold MillisText
  simp only [decimalValue_eq, digitsOf_iff]
  constructor
  · rintro ⟨digits, htrim, nonempty, each, rfl, small⟩
    exact ⟨digits, ⟨htrim, nonempty, each⟩, rfl, small⟩
  · rintro ⟨digits, ⟨htrim, nonempty, each⟩, rfl, small⟩
    exact ⟨digits, htrim, nonempty, each, rfl, small⟩

/-- **A number is given by zeros and then the digits in which it is written**, and not otherwise. -/
theorem millisText_iff_zeros {text : String} {n : Nat} :
    MillisText text n ↔
      n < 2 ^ 64 ∧ ∃ zeros, DigitsOf text (List.replicate zeros '0' ++ (toString n).toList) := by
  rw [millisText_iff, Nat.toString_eq_ofList_toDigits, String.toList_ofList]
  constructor
  · rintro ⟨digits, written, rfl, small⟩
    obtain ⟨zeros, hzeros⟩ := exists_zeros_append_toDigits written.nonempty written.each
    exact ⟨small, zeros, hzeros ▸ written⟩
  · rintro ⟨small, zeros, written⟩
    exact ⟨_, written, ofDigitChars_zeros_append_toDigits zeros n, small⟩

/-! ## 3. Words -/

namespace Word

/-- The total with one digit more, if it still fits into a word. -/
def push? (total : UInt64) (c : Char) : Option UInt64 :=
  let next := 10 * total.toNat + (c.toNat - '0'.toNat)
  if next < 2 ^ 64 then some (UInt64.ofNat next) else none

/-- The total of digits in a word; none as soon as it does not fit. -/
def total? (digits : List Char) : Option UInt64 := digits.foldlM push? 0

theorem push?_eq_some_iff {total word : UInt64} {c : Char} :
    push? total c = some word ↔ 10 * total.toNat + (c.toNat - '0'.toNat) = word.toNat := by
  unfold push?
  dsimp only
  split
  · next fits =>
    rw [Option.some.injEq, ← UInt64.toNat_inj, UInt64.toNat_ofNat_of_lt' fits]
  · next large =>
    have := word.toNat_lt
    exact iff_of_false nofun (by omega)

/-- A total that is checked at every digit fails exactly if the number of all digits does not fit:
once a total does not fit, no further digit brings it back. -/
theorem foldlM_push?_eq_some_iff {digits : List Char} {total word : UInt64} :
    digits.foldlM push? total = some word ↔
      Nat.ofDigitChars 10 digits total.toNat = word.toNat := by
  induction digits generalizing total with
  | nil =>
    rw [List.foldlM_nil, Nat.ofDigitChars_nil, UInt64.toNat_inj]
    exact Option.some_inj
  | cons c digits ih =>
    rw [List.foldlM_cons, Nat.ofDigitChars_cons]
    cases hpush : push? total c with
    | some next =>
      rw [push?_eq_some_iff.mp hpush]
      exact ih
    | none =>
      -- the total does not fit here, and the number of all digits is at least as large
      have large : 2 ^ 64 ≤ 10 * total.toNat + (c.toNat - '0'.toNat) := by
        simpa [push?] using hpush
      have := le_ofDigitChars digits (10 * total.toNat + (c.toNat - '0'.toNat))
      have := word.toNat_lt
      exact iff_of_false nofun (by omega)

/-- **A word is enough to read a number that fits into one.** -/
theorem total?_eq_some_iff {digits : List Char} {word : UInt64} :
    total? digits = some word ↔ Nat.ofDigitChars 10 digits 0 = word.toNat :=
  foldlM_push?_eq_some_iff

end Word

/-- A span of time as it is held in two words: whole seconds, and the rest in nanoseconds. -/
structure Span where
  seconds : UInt64
  nanos : UInt32
deriving DecidableEq, Repr

namespace Span

/-- The span of a number of milliseconds. -/
def ofMillis (n : UInt64) : Span where
  seconds := n / 1000
  nanos := (n % 1000).toUInt32 * 1000000

/-- The milliseconds of a span. -/
def millis (t : Span) : Nat := t.seconds.toNat * 1000 + t.nanos.toNat / 1000000

/-- **Milliseconds are kept**: neither word overflows. -/
theorem millis_ofMillis (n : UInt64) : (ofMillis n).millis = n.toNat := by
  simp only [millis, ofMillis, UInt64.toNat_div, UInt32.toNat_mul, UInt64.toNat_toUInt32,
    UInt64.toNat_mod, UInt64.reduceToNat, UInt32.reduceToNat]
  omega

end Span

/-! ## 4. The times of texts -/

/-- **Which texts give a time, and which time.** A text gives the number of its digits if that is
less than `2 ^ 64`; so it gives exactly the numbers whose decimal text it has behind zeros, between
white space and with at most one plus sign in front. What is read in a word and kept as a span in
words is the same number. Any other text is refused, and the message has the name of the variable
and the text as they are. -/
theorem millis_exact (key text : String) :
    (∀ n, parseMillis key text = .ok n ↔
      ∃ digits, DigitsOf text digits ∧ Nat.ofDigitChars 10 digits 0 = n ∧ n < 2 ^ 64) ∧
    (∀ n, parseMillis key text = .ok n ↔
      n < 2 ^ 64 ∧ ∃ zeros, DigitsOf text (List.replicate zeros '0' ++ (toString n).toList)) ∧
    (∀ n, parseMillis key text = .ok n ↔
      ∃ digits word, DigitsOf text digits ∧ Word.total? digits = some word ∧
        (Span.ofMillis word).millis = n) ∧
    (∀ e, parseMillis key text = .error e ↔
      (∀ digits, DigitsOf text digits → 2 ^ 64 ≤ Nat.ofDigitChars 10 digits 0) ∧
        e = .notMillis key text) ∧
    (Failure.settings (.notMillis key text)).message = "Configuration error: " ++
      (key ++ " must be a number of milliseconds, got '" ++ text ++ "'") := by
  refine ⟨fun n => parseMillis_eq_ok_iff.trans millisText_iff,
    fun n => parseMillis_eq_ok_iff.trans millisText_iff_zeros, fun n => ?_, fun e => ?_, rfl⟩
  · rw [parseMillis_eq_ok_iff, millisText_iff]
    simp only [Span.millis_ofMillis, Word.total?_eq_some_iff]
    constructor
    · rintro ⟨digits, written, rfl, small⟩
      have hword := UInt64.toNat_ofNat_of_lt' small
      exact ⟨digits, UInt64.ofNat _, written, hword.symm, hword⟩
    · rintro ⟨digits, word, written, hvalue, rfl⟩
      exact ⟨digits, written, hvalue, word.toNat_lt⟩
  · rw [parseMillis_eq_error_iff]
    refine and_congr_left fun _ => ?_
    simp only [millisText_iff, not_exists, not_and, Nat.not_lt]
    constructor
    · intro none digits written
      exact none _ digits written rfl
    · rintro large _ digits written rfl
      exact large digits written

/-- The greatest time, behind zeros and between white space, and the number after it. -/
theorem millis_exact_greatest :
    let greatest := "\u2003+0018446744073709551615\n"
    let beyond := "18446744073709551616"
    parseMillis fadeInKey greatest = .ok (2 ^ 64 - 1) ∧
      parseMillis fadeInKey beyond = .error (.notMillis fadeInKey beyond) ∧
      (Failure.settings (.notMillis fadeInKey beyond)).message =
        "Configuration error: TESTER_FADE_IN_MS must be a number of milliseconds, " ++
          "got '18446744073709551616'" := by
  intro greatest beyond
  obtain ⟨-, given, -, -, -⟩ := millis_exact fadeInKey greatest
  obtain ⟨-, -, -, refused, said⟩ := millis_exact fadeInKey beyond
  have written : DigitsOf greatest (List.replicate 2 '0' ++ (toString (2 ^ 64 - 1)).toList) := by
    refine ⟨⟨['\u2003'], ['+'], ['\n'], by decide, ?_, .inr rfl, ?_⟩, by decide, ?_⟩
    · exact List.forall_mem_singleton.mpr (by decide)
    · exact List.forall_mem_singleton.mpr (by decide)
    · exact List.all_eq_true.mp (by decide)
  have large : ∀ digits, DigitsOf beyond digits → 2 ^ 64 ≤ Nat.ofDigitChars 10 digits 0 := by
    intro digits h
    have htrim : Text.trimChars beyond.toList = beyond.toList := by decide
    rcases htrim ▸ (digitsOf_iff.mp h).1 with rfl | hsign
    · decide
    · have first : beyond.toList.head? = some '+' := congrArg List.head? hsign
      exact absurd first (by decide)
  refine ⟨(given _).mpr ⟨by decide, 2, written⟩, (refused _).mpr ⟨large, rfl⟩, ?_⟩
  exact said.trans (by decide)

end TemplateClient
