import Mathlib.Data.List.TakeWhile
import TemplateClient.Text.Blank

/-!
# What trimming leaves

A trimmed text is what stands between the white space at the two ends of a text: it has no white
space at its own ends, and there is only one such middle.

* `Text.exists_append_trimChars` -- a text is white space, its trimmed text, and white space;
* `Text.trimChars_eq` -- whatever stands so between white space is the trimmed text;
* `Text.trim_trim`, `Text.allBlank_trim` -- what trimming does not change.
-/

namespace TemplateClient.Text

theorem allBlank_iff {s : String} :
    allBlank s = true ↔ ∀ c ∈ s.toList, isBlank c = true :=
  List.all_eq_true

/-! ## 1. The end of a text -/

/-- A run of the class at the end does not count. -/
theorem dropEndWhile_append_run {p : Char → Bool} {run : List Char}
    (inside : ∀ c ∈ run, p c = true) (cs : List Char) :
    dropEndWhile p (cs ++ run) = dropEndWhile p cs := by
  unfold dropEndWhile
  rw [List.reverse_append, List.dropWhile_append_of_pos]
  exact fun c hc => inside c (List.mem_reverse.mp hc)

/-- A text that does not end in the class stays as it is. -/
theorem dropEndWhile_eq_self {p : Char → Bool} {cs : List Char}
    (stop : ∀ c ∈ cs.getLast?, p c = false) : dropEndWhile p cs = cs := by
  rcases List.eq_nil_or_concat cs with rfl | ⟨front, c, rfl⟩
  · rfl
  · rw [List.concat_eq_append] at stop ⊢
    exact dropEndWhile_append_of_not (stop c List.getLast?_concat) front

/-- What is left does not end in the class. -/
theorem getLast_dropEndWhile {p : Char → Bool} {cs : List Char} :
    ∀ c ∈ (dropEndWhile p cs).getLast?, p c = false := by
  intro c hc
  rw [dropEndWhile, List.getLast?_reverse] at hc
  have hstop := List.head?_dropWhile_not p cs.reverse
  rw [hc] at hstop
  simpa using hstop

/-! ## 2. Both ends -/

/-- The characters have no white space at their two ends. -/
structure Trimmed (cs : List Char) : Prop where
  front : ∀ c ∈ cs.head?, isBlank c = false
  back : ∀ c ∈ cs.getLast?, isBlank c = false

/-- **What stands between white space, without any at its own ends, is the trimmed text.** -/
theorem trimChars_eq {front middle back : List Char} (blankFront : ∀ c ∈ front, isBlank c = true)
    (blankBack : ∀ c ∈ back, isBlank c = true) (trimmed : Trimmed middle) :
    trimChars (front ++ (middle ++ back)) = middle := by
  unfold trimChars
  cases middle with
  | nil =>
    have hall : ∀ c ∈ front ++ ([] ++ back), isBlank c = true := fun c hc =>
      (List.mem_append.mp hc).elim (blankFront c) (blankBack c)
    rw [List.dropWhile_eq_nil_iff.mpr hall, dropEndWhile_nil]
  | cons c middle =>
    have stop : ∀ d ∈ (c :: middle ++ back).head?, isBlank d = false := trimmed.front
    rw [(span_run blankFront stop).2, dropEndWhile_append_run blankBack]
    exact dropEndWhile_eq_self trimmed.back

theorem trimChars_eq_self {cs : List Char} (trimmed : Trimmed cs) : trimChars cs = cs := by
  have inside : ∀ c ∈ ([] : List Char), isBlank c = true := nofun
  simpa using trimChars_eq inside inside trimmed

/-- What is left of a text after the white space in front keeps its first character when the white
space at its end goes. -/
theorem trimmed_trimChars (cs : List Char) : Trimmed (trimChars cs) := by
  refine ⟨fun c hc => ?_, getLast_dropEndWhile⟩
  obtain ⟨run, hrun, -⟩ := exists_append_dropEndWhile isBlank (cs.dropWhile isBlank)
  have hhead : (cs.dropWhile isBlank).head? = some c := by
    rw [hrun, List.head?_append, show (dropEndWhile isBlank _).head? = some c from hc]
    rfl
  have hstop := List.head?_dropWhile_not isBlank cs
  rw [hhead] at hstop
  simpa using hstop

/-- **A text is white space, its trimmed text, and white space.** -/
theorem exists_append_trimChars (cs : List Char) :
    ∃ front back, cs = front ++ (trimChars cs ++ back) ∧ (∀ c ∈ front, isBlank c = true) ∧
      ∀ c ∈ back, isBlank c = true := by
  obtain ⟨back, hback, blankBack⟩ := exists_append_dropEndWhile isBlank (cs.dropWhile isBlank)
  refine ⟨cs.takeWhile isBlank, back, ?_, fun c hc => ?_, blankBack⟩
  · rw [trimChars, ← hback, List.takeWhile_append_dropWhile]
  · exact List.all_eq_true.mp List.all_takeWhile c hc

/-- **A text that is trimmed stays as it is.** -/
@[simp] theorem trim_trim (s : String) : trim (trim s) = trim s := by
  rw [trim, trim, String.toList_ofList, trimChars_eq_self (trimmed_trimChars s.toList)]

/-- A text is blank if nothing is left of it. -/
theorem allBlank_iff_trim {s : String} : allBlank s = true ↔ trim s = "" := by
  obtain ⟨front, back, hsplit, blankFront, blankBack⟩ := exists_append_trimChars s.toList
  rw [allBlank_iff, trim, String.ofList_eq_empty_iff]
  constructor
  · intro blank
    have hempty : trimChars (s.toList ++ ([] ++ [])) = [] :=
      trimChars_eq blank nofun ⟨nofun, nofun⟩
    simpa using hempty
  · intro hempty c hc
    rw [hsplit, hempty] at hc
    exact (List.mem_append.mp hc).elim (blankFront c) (blankBack c)

@[simp] theorem allBlank_trim (s : String) : allBlank (trim s) = allBlank s := by
  rw [Bool.eq_iff_iff, allBlank_iff_trim, allBlank_iff_trim, trim_trim]

end TemplateClient.Text
