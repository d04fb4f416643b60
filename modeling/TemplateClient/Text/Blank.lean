/-!
# White space

The white space of Unicode, and the texts that it makes blank.

* `isBlank` -- the characters with the property `White_Space`;
* `allBlank` -- a text of white space only, the empty text among them;
* `trim` -- a text without the white space at its two ends;
* `dropEndWhile` -- the general rule behind trimming an end.
-/

namespace TemplateClient.Text

/-! ## 1. Characters -/

/-- The characters that Unicode gives the property `White_Space`. -/
def isBlank (c : Char) : Bool :=
  (0x09 ≤ c.toNat && c.toNat ≤ 0x0D) || c.toNat == 0x20 || c.toNat == 0x85 || c.toNat == 0xA0
    || c.toNat == 0x1680 || (0x2000 ≤ c.toNat && c.toNat ≤ 0x200A)
    || c.toNat == 0x2028 || c.toNat == 0x2029 || c.toNat == 0x202F
    || c.toNat == 0x205F || c.toNat == 0x3000

/-! ## 2. The ends of a text -/

/-- The text without the longest run of characters at its end that satisfy `p`. -/
def dropEndWhile (p : Char → Bool) (cs : List Char) : List Char :=
  (cs.reverse.dropWhile p).reverse

/-- The text without the white space at its two ends. -/
def trimChars (cs : List Char) : List Char :=
  dropEndWhile isBlank (cs.dropWhile isBlank)

/-- The text without the white space at its two ends. -/
def trim (s : String) : String :=
  String.ofList (trimChars s.toList)

/-- Every character of the text is white space; so also of the empty text. -/
def allBlank (s : String) : Bool :=
  s.toList.all isBlank

/-! ## 3. What is dropped, and what is kept -/

@[simp] theorem dropEndWhile_nil (p : Char → Bool) : dropEndWhile p [] = [] := rfl

/-- A last character outside the class protects all that stands before it. -/
theorem dropEndWhile_append_of_not {p : Char → Bool} {c : Char} (h : p c = false)
    (cs : List Char) : dropEndWhile p (cs ++ [c]) = cs ++ [c] := by
  simp [dropEndWhile, h]

/-- A run of a class before the end, or before a character outside it, is the longest in front. -/
theorem span_run {p : Char → Bool} {run rest : List Char} (inside : ∀ c ∈ run, p c = true)
    (stop : ∀ c ∈ rest.head?, p c = false) :
    (run ++ rest).takeWhile p = run ∧ (run ++ rest).dropWhile p = rest := by
  have hrest : rest.takeWhile p = [] ∧ rest.dropWhile p = rest := by
    cases rest with
    | nil => exact ⟨rfl, rfl⟩
    | cons c cs =>
      have hc : p c = false := stop c rfl
      exact ⟨List.takeWhile_cons_of_neg (by simp [hc]), List.dropWhile_cons_of_neg (by simp [hc])⟩
  rw [List.takeWhile_append_of_pos inside, List.dropWhile_append_of_pos inside, hrest.1, hrest.2,
    List.append_nil]
  exact ⟨rfl, rfl⟩

/-- What is dropped at the end is a run of the class. -/
theorem exists_append_dropEndWhile (p : Char → Bool) (cs : List Char) :
    ∃ run : List Char, cs = dropEndWhile p cs ++ run ∧ ∀ c ∈ run, p c = true := by
  refine ⟨(cs.reverse.takeWhile p).reverse, ?_, ?_⟩
  · rw [dropEndWhile, ← List.reverse_append, List.takeWhile_append_dropWhile, List.reverse_reverse]
  · intro c hc
    have hall : (cs.reverse.takeWhile p).all p = true := List.all_takeWhile
    exact List.all_eq_true.mp hall c (List.mem_reverse.mp hc)

end TemplateClient.Text
