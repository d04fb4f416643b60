import TemplateClient.Json.Limits
import TemplateClient.Proofs.Json.Members

/-!
# Values that can be kept

A value that is kept as it stands has to be within limits. The relations here say what they are: how
deep a value may nest, that each of its strings spells a text, and which of its numbers are finite.
A number is taken up digit by digit as long as 64 bits hold it, and what does not fit counts as
zeros; then it is finite if the float of its digits times the float of its power of ten is.

* `Json.Numeral.ReadAs`, `Json.Numeral.Finite` -- what a number is read as, and when it is finite;
* `Json.Numeral.isFinite_iff` -- the test of numbers;
* `Json.Kept`, `Json.isReadable_iff` -- the values that can be kept, and the test of values.
-/

namespace TemplateClient.Json

/-! ## 1. Numbers -/

namespace Numeral

/-- The number that digits give behind those of a number before them. -/
def valueFrom (n : Nat) (digits : List Char) : Nat :=
  digits.foldl (fun n c => n * 10 + digitValue c) n

theorem value_append (front digits : List Char) :
    value (front ++ digits) = valueFrom (value front) digits := List.foldl_append

theorem le_valueFrom (n : Nat) (digits : List Char) : n ≤ valueFrom n digits := by
  induction digits generalizing n with
  | nil => exact Nat.le_refl n
  | cons c digits ih => exact Nat.le_trans (by omega) (ih (n * 10 + digitValue c))

/-- Behind the digits in front, as many as fit are taken, and the next one would not fit. -/
structure Longest (front taken rest : List Char) : Prop where
  fits : value (front ++ taken) < significandBound
  next : ∀ c ∈ rest.head?, significandBound ≤ value (front ++ taken ++ [c])

/-- What a number is read as: digits of its whole part and then of its fraction, as many of each as
fit, and a power of ten. Digits of the whole part that are left over count as zeros. -/
inductive ReadAs (n : Numeral) : Nat → Int → Prop where
  | digits {taken dropped read rest : List Char} (whole : n.whole = taken ++ dropped)
      (fraction : n.fraction = read ++ rest) (longest : Longest [] taken dropped)
      (then_ : Longest taken read rest) :
      ReadAs n (value (taken ++ read)) (dropped.length - read.length + n.exponentValue)

/-- The number is finite: it is zero, or a fraction of what 64 bits hold, or the float of its digits
times the float of its power of ten is less than the least number that rounds to infinity. No float
is a power of ten above the one named. -/
def Finite (n : Numeral) : Prop :=
  ∃ significand exponent, n.ReadAs significand exponent ∧
    (significand = 0 ∨ exponent < 0 ∨ exponent ≤ 308 ∧
      Binary64.round significand * Binary64.round (Nat.pow 10 exponent.toNat) < Binary64.overflow)

theorem exists_longest {front : List Char} (fits : value front < significandBound)
    (digits : List Char) : ∃ taken rest, digits = taken ++ rest ∧ Longest front taken rest := by
  induction digits generalizing front with
  | nil => exact ⟨[], [], rfl, by rwa [List.append_nil], nofun⟩
  | cons c digits ih =>
    by_cases h : value (front ++ [c]) < significandBound
    · obtain ⟨taken, rest, rfl, longest⟩ := ih h
      refine ⟨c :: taken, rest, rfl, ?_, fun d hd => ?_⟩
      · simpa using longest.fits
      · simpa using longest.next d hd
    · refine ⟨[], c :: digits, rfl, by rwa [List.append_nil], fun d hd => ?_⟩
      obtain rfl : c = d := Option.some.inj hd
      rw [List.append_nil]
      exact Nat.le_of_not_lt h

/-- The effect of a digit of the whole part. -/
def wholeStep : Nat × Nat → Char → Nat × Nat :=
  fun (n, dropped) c =>
    if dropped = 0 ∧ n * 10 + digitValue c < significandBound then (n * 10 + digitValue c, 0)
    else (n, dropped + 1)

theorem wholeStep_taken {n : Nat} {taken : List Char}
    (fits : valueFrom n taken < significandBound) :
    taken.foldl wholeStep (n, 0) = (valueFrom n taken, 0) := by
  induction taken generalizing n with
  | nil => rfl
  | cons c taken ih =>
    have here : n * 10 + digitValue c < significandBound :=
      Nat.lt_of_le_of_lt (le_valueFrom _ taken) fits
    rw [List.foldl_cons, wholeStep, if_pos ⟨rfl, here⟩]
    exact ih fits

theorem wholeStep_counted (n dropped : Nat) (digits : List Char) :
    digits.foldl wholeStep (n, dropped + 1) = (n, dropped + 1 + digits.length) := by
  induction digits generalizing dropped with
  | nil => rfl
  | cons c digits ih =>
    rw [List.foldl_cons, wholeStep, if_neg (fun h => Nat.succ_ne_zero dropped h.1), ih,
      List.length_cons]
    congr 1
    omega

theorem takeWhole_eq {taken dropped : List Char} (longest : Longest [] taken dropped) :
    takeWhole (taken ++ dropped) = (value taken, dropped.length) := by
  have fits : valueFrom 0 taken < significandBound := longest.fits
  have hfold : (taken ++ dropped).foldl wholeStep (0, 0) =
      dropped.foldl wholeStep (value taken, 0) := by
    rw [List.foldl_append, wholeStep_taken fits]
    rfl
  refine hfold.trans ?_
  cases dropped with
  | nil => rfl
  | cons c dropped =>
    have beyond := longest.next c rfl
    rw [List.nil_append, value_append] at beyond
    rw [List.foldl_cons, wholeStep, if_neg (fun h => Nat.not_lt.mpr beyond h.2), wholeStep_counted,
      List.length_cons, Nat.add_comm]

theorem takeFraction_eq {n count : Nat} {read rest : List Char}
    (fits : valueFrom n read < significandBound)
    (next : ∀ c ∈ rest.head?, significandBound ≤ valueFrom n read * 10 + digitValue c) :
    takeFraction n count (read ++ rest) = (valueFrom n read, count + read.length) := by
  induction read generalizing n count with
  | nil =>
    cases rest with
    | nil => rfl
    | cons c rest => exact if_neg (Nat.not_lt.mpr (next c rfl))
  | cons c read ih =>
    have here : n * 10 + digitValue c < significandBound :=
      Nat.lt_of_le_of_lt (le_valueFrom _ read) fits
    rw [List.cons_append, takeFraction, if_pos here, ih fits next, List.length_cons]
    congr 1
    omega

/-- A number is judged by what it is read as. -/
theorem ReadAs.isFinite_eq {n : Numeral} {significand : Nat} {exponent : Int}
    (h : n.ReadAs significand exponent) :
    n.isFinite = Binary64.scalesTo significand exponent := by
  cases h with
  | @digits taken dropped read rest whole fraction longest then_ =>
    have fits := then_.fits
    rw [value_append] at fits
    have next : ∀ c ∈ rest.head?,
        significandBound ≤ valueFrom (value taken) read * 10 + digitValue c := by
      intro c hc
      have beyond := then_.next c hc
      rwa [value_append, value_append] at beyond
    rw [isFinite, whole, takeWhole_eq longest, fraction]
    dsimp only
    rw [takeFraction_eq fits next, value_append, Nat.zero_add]

theorem exists_readAs (n : Numeral) : ∃ significand exponent, n.ReadAs significand exponent := by
  have empty : value [] < significandBound := by decide
  obtain ⟨taken, dropped, whole, longest⟩ := exists_longest empty n.whole
  obtain ⟨read, rest, fraction, then_⟩ := exists_longest longest.fits n.fraction
  exact ⟨_, _, .digits whole fraction longest then_⟩

theorem scalesTo_iff {significand : Nat} {exponent : Int} :
    Binary64.scalesTo significand exponent = true ↔
      significand = 0 ∨ exponent < 0 ∨ exponent ≤ 308 ∧
        Binary64.round significand * Binary64.round (Nat.pow 10 exponent.toNat) <
          Binary64.overflow := by
  simp [Binary64.scalesTo, or_assoc]

/-- **The numbers that are finite.** -/
theorem isFinite_iff {n : Numeral} : n.isFinite = true ↔ n.Finite := by
  constructor
  · intro h
    obtain ⟨significand, exponent, reads⟩ := n.exists_readAs
    rw [reads.isFinite_eq, scalesTo_iff] at h
    exact ⟨significand, exponent, reads, h⟩
  · rintro ⟨significand, exponent, reads, h⟩
    rw [reads.isFinite_eq, scalesTo_iff]
    exact h

end Numeral

/-! ## 2. Values -/

/-- The values that can be kept where `room` levels of arrays and objects are left. -/
inductive Kept : Nat → Json → Prop where
  | null {room : Nat} : Kept room .null
  | bool {room : Nat} (b : Bool) : Kept room (.bool b)
  | number {room : Nat} {n : Numeral} (finite : n.Finite) : Kept room (.number n)
  | string {room : Nat} {ps : List Piece} {cs : List Char} (spells : Piece.Spells ps cs) :
      Kept room (.string ps)
  | array {room : Nat} {vs : List Json} (items : ∀ v ∈ vs, Kept room v) :
      Kept (room + 1) (.array vs)
  | object {room : Nat} {ms : List (Name × Json)} (names : ∀ m ∈ ms, ∃ cs, Piece.Spells m.1 cs)
      (values : ∀ m ∈ ms, Kept room m.2) : Kept (room + 1) (.object ms)

theorem Piece.isSome_text?_iff {ps : List Piece} :
    (Piece.text? ps).isSome = true ↔ ∃ cs, Piece.Spells ps cs := by
  rw [Option.isSome_iff_exists]
  constructor
  · rintro ⟨text, h⟩
    exact ⟨_, Piece.text?_eq_some_iff.mp h⟩
  · rintro ⟨cs, h⟩
    exact ⟨String.ofList cs, Piece.text?_eq_some_iff.mpr (String.toList_ofList ▸ h)⟩

theorem allPlain_iff {vs : List Json} : allPlain vs = true ↔ ∀ v ∈ vs, isPlain v = true := by
  induction vs with
  | nil => exact iff_of_true rfl nofun
  | cons v vs ih => rw [allPlain, Bool.and_eq_true, ih, List.forall_mem_cons]

theorem membersPlain_iff {ms : List (Name × Json)} :
    membersPlain ms = true ↔
      ∀ m ∈ ms, (∃ cs, Piece.Spells m.1 cs) ∧ isPlain m.2 = true := by
  induction ms with
  | nil => exact iff_of_true rfl nofun
  | cons m ms ih =>
    obtain ⟨k, v⟩ := m
    rw [membersPlain, memberPlain, Bool.and_eq_true, Bool.and_eq_true, ih, List.forall_mem_cons,
      Piece.isSome_text?_iff]

theorem itemsDepth_le_iff {vs : List Json} {room : Nat} :
    itemsDepth vs ≤ room ↔ ∀ v ∈ vs, depth v ≤ room := by
  induction vs with
  | nil => exact iff_of_true (Nat.zero_le _) nofun
  | cons v vs ih => rw [itemsDepth, Nat.max_le, ih, List.forall_mem_cons]

theorem membersDepth_le_iff {ms : List (Name × Json)} {room : Nat} :
    membersDepth ms ≤ room ↔ ∀ m ∈ ms, depth m.2 ≤ room := by
  induction ms with
  | nil => exact iff_of_true (Nat.zero_le _) nofun
  | cons m ms ih => rw [membersDepth, memberDepth, Nat.max_le, ih, List.forall_mem_cons]

/-- A value that can be kept is plain and not too deep. -/
theorem Kept.plain {room : Nat} {v : Json} (h : Kept room v) :
    v.isPlain = true ∧ v.depth ≤ room := by
  induction h with
  | null => exact ⟨rfl, Nat.zero_le _⟩
  | bool => exact ⟨rfl, Nat.zero_le _⟩
  | number finite => exact ⟨Numeral.isFinite_iff.mpr finite, Nat.zero_le _⟩
  | string spells => exact ⟨Piece.isSome_text?_iff.mpr ⟨_, spells⟩, Nat.zero_le _⟩
  | array _ ih =>
    rw [isPlain, allPlain_iff, depth, Nat.add_le_add_iff_right, itemsDepth_le_iff]
    exact ⟨fun v hv => (ih v hv).1, fun v hv => (ih v hv).2⟩
  | object names _ ih =>
    rw [isPlain, membersPlain_iff, depth, Nat.add_le_add_iff_right, membersDepth_le_iff]
    exact ⟨fun m hm => ⟨names m hm, (ih m hm).1⟩, fun m hm => (ih m hm).2⟩

mutual

/-- A plain value that is not too deep can be kept. -/
theorem kept_of_plain : (v : Json) → {room : Nat} → v.isPlain = true → v.depth ≤ room →
    Kept room v
  | .null, _, _, _ => .null
  | .bool b, _, _, _ => .bool b
  | .number _, _, plain, _ => .number (Numeral.isFinite_iff.mp plain)
  | .string _, _, plain, _ => .string (Piece.isSome_text?_iff.mp plain).choose_spec
  | .array _, 0, _, shallow => absurd shallow (Nat.not_succ_le_zero _)
  | .array vs, _ + 1, plain, shallow =>
    .array (items_kept_of_plain vs plain (Nat.le_of_succ_le_succ shallow))
  | .object _, 0, _, shallow => absurd shallow (Nat.not_succ_le_zero _)
  | .object ms, _ + 1, plain, shallow =>
    .object (fun m hm => (membersPlain_iff.mp plain m hm).1)
      (members_kept_of_plain ms plain (Nat.le_of_succ_le_succ shallow))
  termination_by structural v => v

theorem items_kept_of_plain : (vs : List Json) → {room : Nat} → allPlain vs = true →
    itemsDepth vs ≤ room → ∀ v ∈ vs, Kept room v
  | [], _, _, _ => nofun
  | v :: vs, _, plain, shallow => by
    rw [allPlain, Bool.and_eq_true] at plain
    rw [itemsDepth, Nat.max_le] at shallow
    exact List.forall_mem_cons.mpr
      ⟨kept_of_plain v plain.1 shallow.1, items_kept_of_plain vs plain.2 shallow.2⟩
  termination_by structural vs => vs

theorem members_kept_of_plain : (ms : List (Name × Json)) → {room : Nat} →
    membersPlain ms = true → membersDepth ms ≤ room → ∀ m ∈ ms, Kept room m.2
  | [], _, _, _ => nofun
  | m :: ms, _, plain, shallow => by
    rw [membersPlain, Bool.and_eq_true] at plain
    rw [membersDepth, Nat.max_le] at shallow
    exact List.forall_mem_cons.mpr
      ⟨member_kept_of_plain m plain.1 shallow.1, members_kept_of_plain ms plain.2 shallow.2⟩
  termination_by structural ms => ms

theorem member_kept_of_plain : (m : Name × Json) → {room : Nat} → memberPlain m = true →
    memberDepth m ≤ room → Kept room m.2
  | (_, v), _, plain, shallow => kept_of_plain v (Bool.and_eq_true _ _ ▸ plain).2 shallow
  termination_by structural m => m

end

theorem kept_iff {room : Nat} {v : Json} :
    Kept room v ↔ v.isPlain = true ∧ v.depth ≤ room :=
  ⟨Kept.plain, fun h => kept_of_plain v h.1 h.2⟩

/-- **The values that can be kept below some levels** of arrays and objects. -/
theorem isReadable_iff {outer : Nat} {v : Json} :
    v.isReadable outer = true ↔ outer ≤ nestingLimit ∧ Kept (nestingLimit - outer) v := by
  rw [isReadable, Bool.and_eq_true, decide_eq_true_eq, kept_iff]
  constructor
  · rintro ⟨plain, shallow⟩
    exact ⟨by omega, plain, by omega⟩
  · rintro ⟨within, plain, shallow⟩
    exact ⟨plain, by omega⟩

end TemplateClient.Json
