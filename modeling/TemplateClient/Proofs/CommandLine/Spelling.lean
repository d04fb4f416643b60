import Mathlib.Data.List.Forall2
import Mathlib.Data.List.Nodup
import Mathlib.Data.List.Perm.Basic
import TemplateClient.Proofs.CommandLine.Arguments

/-!
# How a command is spelled

A command is a choice of flags with their values. It is spelled by writing the flags in any order,
each in any of five ways. Every spelling is read as the command, and every command that is read
without a separator was spelled so, in a single way: no part of an argument list can be taken for
something else.

* `Flag.Spells` -- the five ways to spell a flag with its value;
* `CommandLine.SpelledAs` -- a command, its flags in some order, and the arguments of each;
* `SpellsAll.unique` -- arguments have one reading;
* `CommandLine.spelled_commands` -- the argument lists that are a command.
-/

namespace TemplateClient

/-! ## 1. Single flags -/

namespace Flag

/-- The ways to spell a flag with its value: the name or the letter, and the value behind an equals
sign or as the next argument; a value that is not empty and does not begin with an equals sign may
also follow the letter at once. A value that is an argument of its own must not look like a flag. -/
inductive Spells (f : Flag) (value : String) : List String → Prop where
  | nameSign : Spells f value ["--" ++ f.long ++ "=" ++ value]
  | nameNext (plain : value = "-" ∨ value.toList.head? ≠ some '-') :
      Spells f value ["--" ++ f.long, value]
  | letterSign {letter : Char} (hasLetter : f.short? = some letter) :
      Spells f value [String.ofList ('-' :: letter :: '=' :: value.toList)]
  | letterNext {letter : Char} (hasLetter : f.short? = some letter)
      (plain : value = "-" ∨ value.toList.head? ≠ some '-') :
      Spells f value [String.ofList ['-', letter], value]
  | letterAtOnce {letter : Char} (hasLetter : f.short? = some letter) (nonempty : value ≠ "")
      (noSign : value.toList.head? ≠ some '=') :
      Spells f value [String.ofList ('-' :: letter :: value.toList)]

/-- A spelling is the flag in one argument, with its value attached or as the next argument. -/
theorem spells_iff {f : Flag} {value : String} {words : List String} :
    f.Spells value words ↔
      (∃ s, words = [s] ∧ f.Written (some value) s) ∨
        ∃ s, words = [s, value] ∧ f.Written none s ∧ IsPlain value := by
  constructor
  · intro h
    cases h with
    | nameSign => exact .inl ⟨_, rfl, .longWith f value⟩
    | nameNext plain => exact .inr ⟨_, rfl, .long f, plain⟩
    | letterSign hasLetter => exact .inl ⟨_, rfl, .shortWith hasLetter value⟩
    | letterNext hasLetter plain => exact .inr ⟨_, rfl, .short hasLetter, plain⟩
    | @letterAtOnce letter hasLetter nonempty noSign =>
      have hne : value.toList ≠ [] := by simpa using nonempty
      obtain ⟨c, cs, hvalue⟩ := List.exists_cons_of_ne_nil hne
      have hc : c ≠ '=' := by
        rintro rfl
        exact noSign (by rw [hvalue]; rfl)
      have written : f.Written (some (String.ofList (c :: cs)))
          (String.ofList ('-' :: letter :: c :: cs)) := .shortBefore hasLetter hc
      rw [← hvalue, String.ofList_toList] at written
      exact .inl ⟨_, rfl, written⟩
  · rintro (⟨s, rfl, written⟩ | ⟨s, rfl, written, plain⟩)
    · cases written with
      | longWith => exact .nameSign
      | shortWith hasLetter => exact .letterSign hasLetter
      | @shortBefore letter hasLetter c cs noSign =>
        have nonempty : String.ofList (c :: cs) ≠ "" := by simp [← String.toList_inj]
        have atOnce := Spells.letterAtOnce hasLetter nonempty (by simp [noSign])
        rwa [String.toList_ofList] at atOnce
    · cases written with
      | long => exact .nameNext plain
      | short hasLetter => exact .letterNext hasLetter plain

/-- An argument in which a flag is written is no separator. -/
theorem Written.ne_separator {f : Flag} {value : Option String} {s : String}
    (h : f.Written value s) : s ≠ "--" := by
  rintro rfl
  have hform : Argument.ofText "--" = .separator := rfl
  rcases written_iff.mp h with hlong | ⟨letter, rest, hshort, -, -⟩
  · rw [hform] at hlong
    cases hlong
  · rw [hform] at hshort
    cases hshort

/-- An argument is read as one flag, with one value or none. -/
theorem Written.unique {f g : Flag} {v w : Option String} {s : String} (hf : f.Written v s)
    (hg : g.Written w s) : f = g ∧ v = w := by
  rcases written_iff.mp hf with formf | ⟨letter, rest, formf, hasLetter, rfl⟩
  · rcases written_iff.mp hg with formg | ⟨letter', rest', formg, -, -⟩
    · obtain ⟨hname, rfl⟩ := Argument.long.inj (formf.symm.trans formg)
      have hsame : some f = some g := by
        rw [← ofLong?_long f, ← ofLong?_long g, hname]
      exact ⟨Option.some.inj hsame, rfl⟩
    · cases formf.symm.trans formg
  · rcases written_iff.mp hg with formg | ⟨letter', rest', formg, hasLetter', rfl⟩
    · cases formf.symm.trans formg
    · obtain ⟨rfl, rfl⟩ := Argument.short.inj (formf.symm.trans formg)
      have hsame : some f = some g := by
        rw [← ofShort?_eq_some_iff.mpr hasLetter, ← ofShort?_eq_some_iff.mpr hasLetter']
      exact ⟨Option.some.inj hsame, rfl⟩

end Flag

theorem IsPlain.ne_separator {value : String} (h : IsPlain value) : value ≠ "--" := by
  rintro rfl
  rcases h with h | h
  · exact absurd h (by decide)
  · exact h rfl

/-! ## 2. Several flags -/

/-- Flags with their values, and the arguments that spell each of them. -/
def SpellsAll (given : List (Flag × String)) (parts : List (List String)) : Prop :=
  List.Forall₂ (fun x words => x.1.Spells x.2 words) given parts

theorem SpellsAll.no_separator {given : List (Flag × String)} {parts : List (List String)}
    (h : SpellsAll given parts) : "--" ∉ parts.flatten := by
  induction h with
  | nil => exact List.not_mem_nil
  | cons spells _ ih =>
    rw [List.flatten_cons, List.mem_append]
    rintro (hmem | hmem)
    · rcases Flag.spells_iff.mp spells with ⟨s, rfl, written⟩ | ⟨s, rfl, written, plain⟩
      · exact written.ne_separator (List.mem_singleton.mp hmem).symm
      · rcases List.mem_cons.mp hmem with hs | hs
        · exact written.ne_separator hs.symm
        · exact plain.ne_separator (List.mem_singleton.mp hs).symm
    · exact ih hmem

/-- **Arguments have one reading.** They fall apart into the same parts, and these give the same
flags and values. The induction is on the flags; the first argument tells the first flag, and
whether the next argument is its value. -/
theorem SpellsAll.unique {given given' : List (Flag × String)} {parts parts' : List (List String)}
    (h : SpellsAll given parts) (h' : SpellsAll given' parts')
    (same : parts.flatten = parts'.flatten) : given = given' ∧ parts = parts' := by
  induction h generalizing given' parts' with
  | nil =>
    cases h' with
    | nil => exact ⟨rfl, rfl⟩
    | cons spells' _ =>
      rcases Flag.spells_iff.mp spells' with ⟨s, rfl, -⟩ | ⟨s, rfl, -, -⟩ <;> cases same
  | @cons x words given parts spells rest ih =>
    cases h' with
    | nil => rcases Flag.spells_iff.mp spells with ⟨s, rfl, -⟩ | ⟨s, rfl, -, -⟩ <;> cases same
    | @cons x' words' given' parts' spells' rest' =>
      obtain ⟨f, v⟩ := x
      obtain ⟨f', v'⟩ := x'
      rcases Flag.spells_iff.mp spells with ⟨s, rfl, written⟩ | ⟨s, rfl, written, -⟩
      · rcases Flag.spells_iff.mp spells' with ⟨s', rfl, written'⟩ | ⟨s', rfl, written', -⟩
        · obtain ⟨rfl, behind⟩ := List.cons.inj same
          obtain ⟨rfl, hv⟩ := written.unique written'
          obtain rfl : v = v' := Option.some.inj hv
          obtain ⟨rfl, rfl⟩ := ih rest' behind
          exact ⟨rfl, rfl⟩
        · obtain ⟨rfl, -⟩ := List.cons.inj same
          cases (written.unique written').2
      · rcases Flag.spells_iff.mp spells' with ⟨s', rfl, written'⟩ | ⟨s', rfl, written', -⟩
        · obtain ⟨rfl, -⟩ := List.cons.inj same
          cases (written.unique written').2
        · obtain ⟨rfl, next⟩ := List.cons.inj same
          obtain ⟨hv, behind⟩ := List.cons.inj next
          obtain rfl : v = v' := hv
          obtain ⟨rfl, -⟩ := written.unique written'
          obtain ⟨rfl, rfl⟩ := ih rest' behind
          exact ⟨rfl, rfl⟩

/-- Without a separator, what arguments give is what they spell. -/
theorem gives_iff_spellsAll {args : List String} {given : List (Flag × String)} :
    (Gives args given ∧ "--" ∉ args) ↔ ∃ parts, SpellsAll given parts ∧ args = parts.flatten := by
  constructor
  · rintro ⟨gives, noSeparator⟩
    induction gives with
    | none => exact ⟨[], .nil, rfl⟩
    | separator => exact absurd (List.mem_singleton_self _) noSeparator
    | @attached f value s ss given written _ ih =>
      obtain ⟨parts, spells, rfl⟩ := ih fun h => noSeparator (List.mem_cons_of_mem _ h)
      exact ⟨[s] :: parts, .cons (Flag.spells_iff.mpr (.inl ⟨s, rfl, written⟩)) spells, rfl⟩
    | @separate f value s ss given written plain _ ih =>
      obtain ⟨parts, spells, rfl⟩ := ih fun h =>
        noSeparator (List.mem_cons_of_mem _ (List.mem_cons_of_mem _ h))
      exact ⟨[s, value] :: parts,
        .cons (Flag.spells_iff.mpr (.inr ⟨s, rfl, written, plain⟩)) spells, rfl⟩
  · rintro ⟨parts, spells, rfl⟩
    refine ⟨?_, spells.no_separator⟩
    induction spells with
    | nil => exact .none
    | cons spells _ ih =>
      rcases Flag.spells_iff.mp spells with ⟨s, rfl, written⟩ | ⟨s, rfl, written, plain⟩
      · exact .attached written ih
      · exact .separate written plain ih

/-! ## 3. Commands -/

namespace CommandLine

/-- The flags that are given, with their values. -/
def entries (c : CommandLine) : List (Flag × String) :=
  Flag.all.filterMap fun f => (c.value? f).map (f, ·)

/-- No path is empty. -/
def PathsFilled (c : CommandLine) : Prop :=
  ∀ f value, c.value? f = some value → f.isPath = true → value ≠ ""

/-- The arguments spell the command: its flags in some order, each by its part of the arguments. -/
structure SpelledAs (c : CommandLine) (given : List (Flag × String)) (parts : List (List String))
    (args : List String) : Prop where
  order : given.Perm c.entries
  spells : SpellsAll given parts
  whole : args = parts.flatten

theorem mem_entries {c : CommandLine} {f : Flag} {value : String} :
    (f, value) ∈ c.entries ↔ c.value? f = some value := by
  unfold entries
  rw [List.mem_filterMap]
  constructor
  · rintro ⟨g, -, h⟩
    obtain ⟨v, hv, heq⟩ := Option.map_eq_some_iff.mp h
    obtain ⟨rfl, rfl⟩ := Prod.mk.inj heq
    exact hv
  · intro h
    exact ⟨f, f.mem_all, by rw [h]; rfl⟩

theorem nodup_entries (c : CommandLine) : (c.entries.map Prod.fst).Nodup := by
  have hall : Flag.all.Nodup := by decide
  unfold entries
  rw [List.map_filterMap]
  refine hall.filterMap fun f g b hf hg => ?_
  obtain ⟨x, hx, rfl⟩ := Option.map_eq_some_iff.mp (Option.mem_def.mp hf)
  obtain ⟨y, hy, hxy⟩ := Option.map_eq_some_iff.mp (Option.mem_def.mp hg)
  obtain ⟨v, -, rfl⟩ := Option.map_eq_some_iff.mp hx
  obtain ⟨w, -, rfl⟩ := Option.map_eq_some_iff.mp hy
  exact hxy.symm

/-- Where no flag stands twice, its value is the one that is found. -/
theorem mem_iff_lookup {given : List (Flag × String)} (once : (given.map Prod.fst).Nodup)
    {f : Flag} {value : String} : (f, value) ∈ given ↔ given.lookup f = some value := by
  rw [List.lookup_eq_some_iff]
  constructor
  · intro h
    obtain ⟨before, after, rfl⟩ := List.append_of_mem h
    refine ⟨before, after, rfl, fun x hx => bne_iff_ne.mpr ?_⟩
    rintro rfl
    rw [List.map_append, List.nodup_append] at once
    exact once.2.2 x.1 (List.mem_map_of_mem hx) x.1 List.mem_cons_self rfl
  · rintro ⟨before, after, rfl, -⟩
    exact List.mem_append_right before List.mem_cons_self

/-- The flags of a command in some order are flags of which none stands twice, with its values. -/
theorem perm_entries_iff {c : CommandLine} {given : List (Flag × String)} :
    given.Perm c.entries ↔
      (given.map Prod.fst).Nodup ∧ ∀ f, c.value? f = given.lookup f := by
  constructor
  · intro order
    have once : (given.map Prod.fst).Nodup := (order.map Prod.fst).nodup_iff.mpr c.nodup_entries
    refine ⟨once, fun f => Option.ext fun value => ?_⟩
    rw [← mem_entries, ← mem_iff_lookup once, order.mem_iff]
  · rintro ⟨once, values⟩
    refine (List.perm_ext_iff_of_nodup once.of_map c.nodup_entries.of_map).mpr ?_
    rintro ⟨f, value⟩
    rw [mem_iff_lookup once, mem_entries, values f]

theorem pathsFilled_iff {c : CommandLine} {given : List (Flag × String)}
    (order : given.Perm c.entries) :
    c.PathsFilled ↔ ∀ x ∈ given, x.1.isPath = true → x.2 ≠ "" := by
  constructor
  · rintro filled ⟨f, value⟩ hx
    exact filled f value (mem_entries.mp (order.mem_iff.mp hx))
  · intro filled f value hvalue
    exact filled (f, value) (order.mem_iff.mpr (mem_entries.mpr hvalue))

/-- Flags with their values make up one command. -/
theorem eq_of_perm_entries {c c' : CommandLine} {given : List (Flag × String)}
    (h : given.Perm c.entries) (h' : given.Perm c'.entries) : c = c' := by
  have hvalues : c.value? = c'.value? := funext fun f => by
    rw [(perm_entries_iff.mp h).2 f, (perm_entries_iff.mp h').2 f]
  have hsame : some c = some c' := by
    rw [← ofValues?_value? c, ← ofValues?_value? c', hvalues]
  exact Option.some.inj hsame

/-- **The arguments that are a command**, apart from those with a separator, are the spellings of
commands in which no path is empty. They have a single reading: one command, one order of its
flags, and one part of the arguments for each of them. -/
theorem spelled_commands (c : CommandLine) (args : List String) :
    ((parse args = .ok c ∧ "--" ∉ args) ↔
        c.PathsFilled ∧ ∃ given parts, c.SpelledAs given parts args) ∧
      ∀ given parts c' given' parts', c.SpelledAs given parts args →
        c'.SpelledAs given' parts' args → c = c' ∧ given = given' ∧ parts = parts' := by
  constructor
  · rw [parse_eq_ok_iff]
    constructor
    · rintro ⟨⟨given, gives, allowed, values⟩, noSeparator⟩
      obtain ⟨parts, spells, whole⟩ := gives_iff_spellsAll.mp ⟨gives, noSeparator⟩
      have order : given.Perm c.entries := perm_entries_iff.mpr ⟨allowed.once, values⟩
      exact ⟨(pathsFilled_iff order).mpr allowed.paths, given, parts, order, spells, whole⟩
    · rintro ⟨filled, given, parts, order, spells, whole⟩
      obtain ⟨gives, noSeparator⟩ := gives_iff_spellsAll.mpr ⟨parts, spells, whole⟩
      obtain ⟨once, values⟩ := perm_entries_iff.mp order
      have allowed : Allowed given := ⟨once, (pathsFilled_iff order).mp filled⟩
      exact ⟨⟨given, gives, allowed, values⟩, noSeparator⟩
  · intro given parts c' given' parts' h h'
    have same : parts.flatten = parts'.flatten := h.whole.symm.trans h'.whole
    obtain ⟨rfl, rfl⟩ := h.spells.unique h'.spells same
    exact ⟨eq_of_perm_entries h.order h'.order, rfl, rfl⟩

/-- A value that looks like a flag is no flag if it is attached. -/
example : parse ["--locale=--template", "-t=-d"] =
    .ok { template := "-d", locale := some "--template" } := rfl

end CommandLine

end TemplateClient
