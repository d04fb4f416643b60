import Mathlib.Data.List.TakeWhile
import TemplateClient.Json.Lexer
import TemplateClient.Text.Blank

/-!
# How a JSON text is written

The grammar of JSON texts, as relations between what is meant and the characters that stand for
it. Strings and numbers may be written in several ways, and between two tokens any white space may
stand.

* `Piece.Spelled`, `Spelled` -- a piece of a string, and the inside of a string;
* `Token.Spelled` -- a token;
* `Written`, `Json.IsText` -- a sequence of tokens with white space between them, and a value;
* `Numeral.ofChars?_eq_some_iff` -- which characters spell a number;
* `Lexer.word?_eq_some_iff` -- words are the literals and the numbers.
-/

namespace TemplateClient.Json

/-! ## 1. Strings -/

/-- The number that digits in base 16 spell, after those that gave `value`. -/
def hexFrom? (value : Nat) : List Char → Option Nat
  | [] => some value
  | c :: cs => (Hex.value? c).bind fun d => hexFrom? (value * 16 + d) cs

/-- The ways to write a piece of a string: a character stands for itself, except for a quote, a
backslash and the control characters; eight characters have a short escape; and a unit is written
with four digits. -/
inductive Piece.Spelled : Piece → List Char → Prop where
  | plain (c : Char) (printing : 0x20 ≤ c.toNat) (quote : c ≠ '\x22') (backslash : c ≠ '\\') :
      Spelled (.char c) [c]
  | escape (e c : Char) (named : Lexer.escape? e = some c) : Spelled (.char c) ['\\', e]
  | unit (digits : List Char) (n : Nat) (four : digits.length = 4)
      (value : hexFrom? 0 digits = some n) :
      Spelled (.unit (UInt16.ofNat n)) ('\\' :: 'u' :: digits)

/-- The inside of a string is written piece by piece. -/
inductive Spelled : List Piece → List Char → Prop where
  | nil : Spelled [] []
  | cons {p : Piece} {ps : List Piece} {w cs : List Char} (piece : p.Spelled w)
      (rest : Spelled ps cs) : Spelled (p :: ps) (w ++ cs)

/-! ## 2. Tokens and texts -/

/-- The ways to write a token. -/
inductive Token.Spelled : Token → List Char → Prop where
  | arrayOpen : Spelled .arrayOpen ['[']
  | arrayClose : Spelled .arrayClose [']']
  | objectOpen : Spelled .objectOpen ['\x7b']
  | objectClose : Spelled .objectClose ['\x7d']
  | comma : Spelled .comma [',']
  | colon : Spelled .colon [':']
  | null : Spelled .null ['n', 'u', 'l', 'l']
  | yes : Spelled (.bool true) ['t', 'r', 'u', 'e']
  | no : Spelled (.bool false) ['f', 'a', 'l', 's', 'e']
  | number (n : Numeral) (wellFormed : n.WellFormed) : Spelled (.number n) n.chars
  | string {ps : List Piece} {body : List Char} (inside : Json.Spelled ps body) :
      Spelled (.string ps) ('\x22' :: (body ++ ['\x22']))

/-- The white space of JSON. -/
def IsBlank (c : Char) : Prop := c = ' ' ∨ c = '\t' ∨ c = '\n' ∨ c = '\r'

/-- Tokens are written one after the other, with any white space around them. -/
inductive Written : List Token → List Char → Prop where
  | done : Written [] []
  | blank {c : Char} {ts : List Token} {cs : List Char} (space : IsBlank c)
      (rest : Written ts cs) : Written ts (c :: cs)
  | token {t : Token} {ts : List Token} {w cs : List Char} (spelled : t.Spelled w)
      (rest : Written ts cs) : Written (t :: ts) (w ++ cs)

/-- The text is written as the value, with nothing but white space around its tokens. -/
def IsText (text : String) (v : Json) : Prop := Written v.tokens text.toList

/-- A number begins with a sign or a digit. -/
theorem Numeral.WellFormed.exists_ascii {n : Numeral} (h : n.WellFormed) :
    ∃ c cs, n.chars = c :: cs ∧ c.toNat < 0x80 := by
  obtain ⟨c, cs, hwhole⟩ := List.exists_cons_of_ne_nil h.1
  have hdigit : c.isDigit = true := h.2.1 c (hwhole ▸ List.mem_cons_self)
  unfold chars
  cases n.negative with
  | true => exact ⟨'-', _, rfl, by decide⟩
  | false =>
    rw [hwhole]
    refine ⟨c, _, rfl, ?_⟩
    have hle : c.toNat ≤ '9'.toNat := by
      simp only [Char.isDigit, Bool.and_eq_true, decide_eq_true_eq] at hdigit
      exact hdigit.2
    exact Nat.lt_of_le_of_lt hle (by decide)

/-- A token begins with a character of ASCII. -/
theorem Token.Spelled.exists_ascii {t : Token} {w : List Char} (h : t.Spelled w) :
    ∃ c cs, w = c :: cs ∧ c.toNat < 0x80 := by
  cases h with
  | number n wellFormed => exact wellFormed.exists_ascii
  | _ => exact ⟨_, _, rfl, by decide⟩

/-- So do tokens, with white space or without. -/
theorem Written.exists_ascii {ts : List Token} {cs : List Char} (h : Written ts cs)
    (nonempty : ts ≠ []) : ∃ c rest, cs = c :: rest ∧ c.toNat < 0x80 := by
  cases h with
  | done => exact absurd rfl nonempty
  | blank space rest =>
    refine ⟨_, _, rfl, ?_⟩
    rcases space with rfl | rfl | rfl | rfl <;> decide
  | token spelled rest =>
    obtain ⟨c, w, rfl, ascii⟩ := spelled.exists_ascii
    exact ⟨c, _, rfl, ascii⟩

theorem tokens_ne_nil (v : Json) : v.tokens ≠ [] := by
  cases v with
  | array items => cases items <;> simp [tokens]
  | object members => cases members <;> simp [tokens]
  | _ => simp [tokens]

/-! ## 3. Numbers -/

namespace Numeral

/-- The exponent of a number is written after its mark, or not at all. -/
theorem exponentOfChars?_eq_some_iff {cs : List Char} {e : Option Exponent} :
    exponentOfChars? cs = some e ↔
      (∀ x ∈ e, x.WellFormed) ∧ cs = (e.map Exponent.chars).getD [] := by
  constructor
  · intro h
    cases cs with
    | nil =>
      obtain rfl : none = e := Option.some.inj h
      exact ⟨nofun, rfl⟩
    | cons m cs =>
      simp only [exponentOfChars?] at h
      split at h
      · next hm =>
        split at h
        · next hdigits =>
          obtain rfl := Option.some.inj h
          refine ⟨fun x hx => ?_, ?_⟩
          · obtain rfl : _ = x := Option.some.inj hx
            refine ⟨hm, fun s hs => ?_, hdigits.1, List.all_eq_true.mp hdigits.2⟩
            have hsign := (Option.filter_eq_some_iff.mp hs).2
            simpa using hsign
          · cases cs with
            | nil => rfl
            | cons c cs =>
              by_cases hc : (c == '+' || c == '-') = true
              · simp [Exponent.chars, hc, Option.filter]
              · simp [Exponent.chars, hc, Option.filter]
        · cases h
      · cases h
  · rintro ⟨wellFormed, rfl⟩
    cases e with
    | none => rfl
    | some e =>
      obtain ⟨mark, sign, nonempty, digits⟩ := wellFormed e rfl
      have hall : e.digits.all Char.isDigit = true := List.all_eq_true.mpr digits
      have hsign : (e.sign.toList ++ e.digits).head?.filter (fun c => c == '+' || c == '-') =
          e.sign := by
        cases hs : e.sign with
        | some s =>
          have hs' : (s == '+' || s == '-') = true := by simpa using sign s hs
          simp [Option.filter, hs']
        | none =>
          -- a digit is no sign
          obtain ⟨d, ds, hd⟩ := List.exists_cons_of_ne_nil nonempty
          have hdigit : d.isDigit = true := digits d (hd ▸ List.mem_cons_self)
          have hd' : (d == '+' || d == '-') = false := by
            rw [Bool.or_eq_false_iff, beq_eq_false_iff_ne, beq_eq_false_iff_ne]
            constructor <;> rintro rfl <;> exact absurd hdigit (by decide)
          simp [hd, Option.filter, hd']
      have hdrop : (e.sign.toList ++ e.digits).drop e.sign.toList.length = e.digits :=
        List.drop_left
      simp only [Option.map_some, Option.getD_some, Exponent.chars, exponentOfChars?, if_pos mark,
        hsign, hdrop, if_pos (And.intro nonempty hall)]

/-- The characters of a number after its whole part. -/
def tail (n : Numeral) : List Char :=
  (if n.fraction = [] then [] else '.' :: n.fraction) ++ (n.exponent.map Exponent.chars).getD []

theorem chars_eq (n : Numeral) :
    n.chars = (if n.negative then ['-'] else []) ++ (n.whole ++ n.tail) := by
  simp [chars, tail]

/-- What follows the digits of a whole part or of a fraction begins with no digit. -/
theorem exponent_stop {e : Option Exponent} (h : ∀ x ∈ e, x.WellFormed) :
    ∀ c ∈ ((e.map Exponent.chars).getD []).head?, c.isDigit = false ∧ c ≠ '.' := by
  intro c hc
  cases e with
  | none => cases hc
  | some e =>
    obtain rfl : e.mark = c := Option.some.inj hc
    rcases (h e rfl).1 with hm | hm <;> rw [hm] <;> decide

theorem tail_stop {n : Numeral} (h : ∀ x ∈ n.exponent, x.WellFormed) :
    ∀ c ∈ n.tail.head?, c.isDigit = false := by
  intro c hc
  unfold tail at hc
  split at hc
  · exact (exponent_stop h c hc).1
  · obtain rfl : '.' = c := Option.some.inj hc
    decide

/-- The rest of a number, after its sign and its whole part. -/
def ofTail? (negative : Bool) (whole : List Char) : List Char → Option Numeral
  | '.' :: rest =>
    if rest.takeWhile Char.isDigit = [] then none
    else (exponentOfChars? (rest.dropWhile Char.isDigit)).map
      (⟨negative, whole, rest.takeWhile Char.isDigit, ·⟩)
  | rest => (exponentOfChars? rest).map (⟨negative, whole, [], ·⟩)

theorem ofChars?_eq (negative : Bool) {cs : List Char} (unsigned : cs.head? ≠ some '-') :
    ofChars? ((if negative then ['-'] else []) ++ cs) =
      if cs.takeWhile Char.isDigit = [] ∨ ((cs.takeWhile Char.isDigit).head? = some '0' ∧
        cs.takeWhile Char.isDigit ≠ ['0']) then none
      else ofTail? negative (cs.takeWhile Char.isDigit) (cs.dropWhile Char.isDigit) := by
  cases negative with
  | true => rfl
  | false =>
    have hsign : (cs.head? == some '-') = false := beq_eq_false_iff_ne.mpr unsigned
    simp only [ofChars?, Bool.false_eq_true, if_false, List.nil_append, hsign]
    rfl

theorem ofTail?_eq_some_iff {negative : Bool} {whole rest : List Char} {n : Numeral} :
    ofTail? negative whole rest = some n ↔
      n.negative = negative ∧ n.whole = whole ∧ (∀ c ∈ n.fraction, c.isDigit = true) ∧
        (∀ e ∈ n.exponent, e.WellFormed) ∧ rest = n.tail := by
  constructor
  · intro h
    unfold ofTail? at h
    split at h
    · next rest =>
      split at h
      · cases h
      · next hfraction =>
        obtain ⟨e, he, rfl⟩ := Option.map_eq_some_iff.mp h
        obtain ⟨wellFormed, hrest⟩ := exponentOfChars?_eq_some_iff.mp he
        refine ⟨rfl, rfl, fun c hc => List.mem_takeWhile_imp hc, wellFormed, ?_⟩
        rw [tail, if_neg hfraction, ← hrest, List.cons_append, List.takeWhile_append_dropWhile]
    · next hpoint =>
      obtain ⟨e, he, rfl⟩ := Option.map_eq_some_iff.mp h
      obtain ⟨wellFormed, hrest⟩ := exponentOfChars?_eq_some_iff.mp he
      exact ⟨rfl, rfl, nofun, wellFormed, hrest⟩
  · rintro ⟨rfl, rfl, digits, wellFormed, rfl⟩
    have hexponent := exponentOfChars?_eq_some_iff.mpr ⟨wellFormed, rfl⟩
    have hstop := exponent_stop wellFormed
    by_cases hfraction : n.fraction = []
    · rw [tail, if_pos hfraction, List.nil_append]
      unfold ofTail?
      split
      · next rest hrest =>
        exact absurd rfl (hstop '.' (by rw [hrest]; rfl)).2
      · rw [hexponent, Option.map_some, ← hfraction]
    · obtain ⟨htake, hdrop⟩ := Text.span_run digits fun c hc => (hstop c hc).1
      rw [tail, if_neg hfraction]
      simp only [ofTail?, List.cons_append, htake, hdrop, if_neg hfraction, hexponent,
        Option.map_some]

/-- **A number is read from the characters that spell it**, and from no others. -/
theorem ofChars?_eq_some_iff {cs : List Char} {n : Numeral} :
    ofChars? cs = some n ↔ n.WellFormed ∧ cs = n.chars := by
  constructor
  · intro h
    obtain ⟨negative, rest, unsigned, rfl⟩ : ∃ (negative : Bool) (rest : List Char),
        rest.head? ≠ some '-' ∧ cs = (if negative then ['-'] else []) ++ rest := by
      cases cs with
      | nil => exact ⟨false, [], nofun, rfl⟩
      | cons c cs =>
        by_cases hc : c = '-'
        · -- a second sign is no digit, so nothing is read after it
          by_cases hcs : cs.head? = some '-'
          · obtain ⟨d, ds, rfl⟩ : ∃ d ds, cs = d :: ds := by
              cases cs with
              | nil => cases hcs
              | cons d ds => exact ⟨d, ds, rfl⟩
            obtain rfl : d = '-' := Option.some.inj hcs
            rw [hc] at h
            exact absurd h (by simp [ofChars?])
          · exact ⟨true, cs, hcs, by rw [hc]; rfl⟩
        · exact ⟨false, c :: cs, fun h => hc (Option.some.inj h), rfl⟩
    rw [ofChars?_eq negative unsigned] at h
    split at h
    · cases h
    · next hwhole =>
      obtain ⟨rfl, whole, fraction, exponent, tail⟩ := ofTail?_eq_some_iff.mp h
      rw [← whole] at hwhole
      obtain ⟨nonempty, zero⟩ := not_or.mp hwhole
      refine ⟨⟨nonempty, ?_, fun hhead => Decidable.by_contra fun hne => zero ⟨hhead, hne⟩,
        fraction, exponent⟩, ?_⟩
      · rw [whole]
        exact fun c hc => List.mem_takeWhile_imp hc
      · rw [chars_eq, whole, ← tail, List.takeWhile_append_dropWhile]
  · rintro ⟨⟨nonempty, digits, zero, fraction, exponent⟩, rfl⟩
    obtain ⟨htake, hdrop⟩ := Text.span_run digits (tail_stop exponent)
    have unsigned : (n.whole ++ n.tail).head? ≠ some '-' := by
      obtain ⟨d, ds, hd⟩ := List.exists_cons_of_ne_nil nonempty
      have hdigit : d.isDigit = true := digits d (hd ▸ List.mem_cons_self)
      rw [hd]
      intro h
      obtain rfl : d = '-' := Option.some.inj h
      exact absurd hdigit (by decide)
    rw [chars_eq, ofChars?_eq n.negative unsigned, htake, hdrop, if_neg]
    · exact ofTail?_eq_some_iff.mpr ⟨rfl, rfl, fraction, exponent, rfl⟩
    · rintro (h | ⟨hhead, hne⟩)
      · exact nonempty h
      · exact hne (zero hhead)

end Numeral

/-! ## 4. Words -/

/-- The token is written with letters, digits, signs and points. -/
def Token.isWord : Token → Bool
  | .null => true
  | .bool _ => true
  | .number _ => true
  | _ => false

theorem isWord_of_isDigit {c : Char} (h : c.isDigit = true) : Lexer.isWord c = true := by
  simp [Lexer.isWord, Char.isAlphanum, h]

namespace Numeral

variable {n : Numeral}

theorem isWord_exponent {e : Exponent} (h : e.WellFormed) :
    ∀ c ∈ e.chars, Lexer.isWord c = true := by
  obtain ⟨mark, sign, -, digits⟩ := h
  intro c hc
  rcases List.mem_cons.mp hc with rfl | hc
  · rcases mark with hm | hm <;> rw [hm] <;> decide
  · rcases List.mem_append.mp hc with hc | hc
    · rcases sign c (Option.mem_toList.mp hc) with rfl | rfl <;> decide
    · exact isWord_of_isDigit (digits c hc)

/-- A number has word characters only. -/
theorem isWord_chars (h : n.WellFormed) : ∀ c ∈ n.chars, Lexer.isWord c = true := by
  obtain ⟨-, digits, -, fraction, exponent⟩ := h
  intro c hc
  rw [chars_eq] at hc
  rcases List.mem_append.mp hc with hc | hc
  · split at hc
    · obtain rfl := List.mem_singleton.mp hc
      decide
    · cases hc
  · rcases List.mem_append.mp hc with hc | hc
    · exact isWord_of_isDigit (digits c hc)
    · rcases List.mem_append.mp hc with hc | hc
      · split at hc
        · cases hc
        · rcases List.mem_cons.mp hc with rfl | hc
          · decide
          · exact isWord_of_isDigit (fraction c hc)
      · cases he : n.exponent with
        | none => simp [he] at hc
        | some e =>
          rw [he] at hc
          exact isWord_exponent (exponent e he) c hc

/-- A number begins with a minus sign or a digit. -/
theorem exists_head_chars (h : n.WellFormed) :
    ∃ c cs, n.chars = c :: cs ∧ (c = '-' ∨ c.isDigit = true) := by
  obtain ⟨d, ds, hd⟩ := List.exists_cons_of_ne_nil h.1
  have hdigit : d.isDigit = true := h.2.1 d (hd ▸ List.mem_cons_self)
  rw [chars_eq, hd]
  cases n.negative with
  | true => exact ⟨_, _, rfl, .inl rfl⟩
  | false => exact ⟨_, _, rfl, .inr hdigit⟩

end Numeral

namespace Lexer

/-- **A word is read as the literal or the number that it spells**, and as nothing else. -/
theorem word?_eq_some_iff {cs : List Char} {t : Token} :
    word? cs = some t ↔ t.isWord = true ∧ t.Spelled cs := by
  constructor
  · intro h
    unfold word? at h
    split at h
    · next hcs =>
      obtain rfl := Option.some.inj h
      exact ⟨rfl, hcs ▸ .null⟩
    · split at h
      · next hcs =>
        obtain rfl := Option.some.inj h
        exact ⟨rfl, hcs ▸ .yes⟩
      · split at h
        · next hcs =>
          obtain rfl := Option.some.inj h
          exact ⟨rfl, hcs ▸ .no⟩
        · obtain ⟨n, hn, rfl⟩ := Option.map_eq_some_iff.mp h
          obtain ⟨wellFormed, rfl⟩ := Numeral.ofChars?_eq_some_iff.mp hn
          exact ⟨rfl, .number n wellFormed⟩
  · rintro ⟨hword, spelled⟩
    cases spelled with
    | null => rfl
    | yes => rfl
    | no => rfl
    | number n wellFormed =>
      obtain ⟨c, cs, hcs, hc⟩ := Numeral.exists_head_chars wellFormed
      have hne {d : Char} {ds : List Char} (hd : d ≠ '-' ∧ d.isDigit = false) :
          n.chars ≠ d :: ds := by
        rw [hcs]
        rintro ⟨rfl, rfl⟩
        rcases hc with hc | hc
        · exact hd.1 hc
        · exact Bool.false_ne_true (hd.2.symm.trans hc)
      rw [word?, if_neg (hne (by decide)), if_neg (hne (by decide)), if_neg (hne (by decide)),
        Numeral.ofChars?_eq_some_iff.mpr ⟨wellFormed, rfl⟩]
      rfl
    | _ => cases hword

end Lexer

end TemplateClient.Json
