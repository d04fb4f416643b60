import Mathlib.Data.String.Basic
import TemplateClient.Proofs.CommandLine.Arguments
import TemplateClient.Proofs.Settings.Layers

/-!
# The form that a command line fills

The template and the data model each come from a source: a file, or standard input. A path names
standard input if all that counts of it is a hyphen. Standard input is read once, so of two sources
that both name it the second has nothing left. A form is read exactly if each source has a text, and
otherwise the first source without one is the cause.

* `Source.ofPath_eq_standardInput_iff` -- the paths that name standard input;
* `Source.Holds`, `Source.Unreadable` -- the text of a source, and why it has none;
* `CommandLine.FormOf`, `CommandLine.FailsAt` -- the form, and the cause that there is none;
* `CommandLine.form_of_sources` -- both in one.
-/

namespace TemplateClient

/-! ## 1. Paths that name standard input -/

/-- Parts, each with the slash in front of it. -/
def slashed (parts : List (List Char)) : List Char := parts.flatMap ('/' :: ·)

/-- A path falls into a first part and parts behind slashes. -/
theorem exists_parts (cs : List Char) :
    ∃ first rest, cs = first ++ slashed rest ∧ '/' ∉ first ∧ ∀ p ∈ rest, '/' ∉ p := by
  induction cs with
  | nil => exact ⟨[], [], rfl, List.not_mem_nil, nofun⟩
  | cons c cs ih =>
    obtain ⟨first, rest, rfl, hfirst, hrest⟩ := ih
    by_cases h : c = '/'
    · subst h
      exact ⟨[], first :: rest, by simp [slashed], List.not_mem_nil,
        List.forall_mem_cons.mpr ⟨hfirst, hrest⟩⟩
    · exact ⟨c :: first, rest, rfl, List.not_mem_cons_of_ne_of_not_mem (Ne.symm h) hfirst, hrest⟩

theorem pathParts_go_append {p : List Char} (slashless : '/' ∉ p) (current cs : List Char) :
    pathParts.go current (p ++ cs) = pathParts.go (p.reverse ++ current) cs := by
  induction p generalizing current with
  | nil => rfl
  | cons c p ih =>
    obtain ⟨hc, hp⟩ := List.ne_and_not_mem_of_not_mem_cons slashless
    rw [List.cons_append, pathParts.go, if_neg (Ne.symm hc), ih hp]
    simp

theorem pathParts_go_slashed {rest : List (List Char)} (slashless : ∀ p ∈ rest, '/' ∉ p)
    (current : List Char) :
    pathParts.go current (slashed rest) =
      String.ofList current.reverse :: rest.map String.ofList := by
  induction rest generalizing current with
  | nil => rfl
  | cons p rest ih =>
    obtain ⟨hp, hrest⟩ := List.forall_mem_cons.mp slashless
    rw [slashed, List.flatMap_cons, List.cons_append, pathParts.go, if_pos rfl, ← slashed,
      pathParts_go_append hp, ih hrest]
    simp

/-- The parts of a path are those between its slashes. -/
theorem pathParts_eq {path : String} {first : List Char} {rest : List (List Char)}
    (parts : path.toList = first ++ slashed rest) (hfirst : '/' ∉ first)
    (hrest : ∀ p ∈ rest, '/' ∉ p) :
    pathParts path = String.ofList first :: rest.map String.ofList := by
  rw [pathParts, parts, pathParts_go_append hfirst, pathParts_go_slashed hrest]
  simp

/-- The part does not count behind another: it is empty or a point. -/
def IdlePart (p : List Char) : Prop := p = [] ∨ p = ['.']

theorem IdlePart.slashless {p : List Char} (h : IdlePart p) : '/' ∉ p := by
  rcases h with rfl | rfl <;> decide

/-- Of parts behind others nothing counts if all are idle. -/
theorem filter_parts_eq_nil_iff {rest : List (List Char)} :
    (rest.map String.ofList).filter (fun p => p != "" && p != ".") = [] ↔
      ∀ p ∈ rest, IdlePart p := by
  rw [List.filter_eq_nil_iff, List.forall_mem_map]
  refine forall₂_congr fun p _ => ?_
  simp only [Bool.and_eq_true, bne_iff_ne, ne_eq, String.ofList_eq, not_and_or, not_not]
  exact Iff.rfl

/-- **The paths that name standard input**: a hyphen, and behind it only parts that do not count. -/
theorem Source.ofPath_eq_standardInput_iff {path : String} :
    Source.ofPath path = .standardInput ↔
      ∃ idle, path.toList = '-' :: slashed idle ∧ ∀ p ∈ idle, IdlePart p := by
  have hyphen : '/' ∉ ['-'] := by decide
  constructor
  · intro h
    unfold ofPath at h
    split at h
    · next hpath =>
      obtain ⟨relative, counts⟩ := hpath
      obtain ⟨first, rest, parts, hfirst, hrest⟩ := exists_parts path.toList
      rw [pathComponents, pathParts_eq parts hfirst hrest] at counts
      dsimp only at counts
      split at counts
      · next hempty =>
        -- an empty first part is that of a path from the root, or of the empty path
        obtain rfl : first = [] := String.ofList_eq.mp hempty
        cases rest with
        | nil => cases counts
        | cons p rest => exact absurd (parts ▸ rfl) relative
      · rw [List.singleton_append, List.cons.injEq, filter_parts_eq_nil_iff,
          String.ofList_eq] at counts
        obtain ⟨rfl, idle⟩ := counts
        exact ⟨rest, parts, idle⟩
    · cases h
  · rintro ⟨idle, parts, each⟩
    have hparts := pathParts_eq (parts : path.toList = ['-'] ++ slashed idle) hyphen
      fun p hp => (each p hp).slashless
    have relative : path.toList.head? ≠ some '/' := by
      rw [parts]
      exact fun h => absurd (Option.some.inj h) (by decide)
    have counts : pathComponents path = ["-"] := by
      rw [pathComponents, hparts]
      exact congrArg ("-" :: ·) (filter_parts_eq_nil_iff.mpr each)
    exact if_pos ⟨relative, counts⟩

theorem Source.ofPath_of_ne {path : String} (h : Source.ofPath path ≠ .standardInput) :
    Source.ofPath path = .file path := by
  unfold ofPath at h ⊢
  split
  · next hpath => exact absurd (if_pos hpath) h
  · rfl

/-! ## 2. Sources -/

/-- The text of a source: standard input as it is left, or a file, in UTF-8. -/
inductive Source.Holds (disk : Disk) (input : ByteArray) : Source → String → Prop where
  | standardInput {text : String} (content : input = text.toUTF8) :
      Holds disk input .standardInput text
  | file {path text : String} (content : disk.read path = .ok text.toUTF8) :
      Holds disk input (.file path) text

/-- What a source leaves of standard input. -/
def Source.left (input : ByteArray) : Source → ByteArray
  | .standardInput => .empty
  | .file _ => input

theorem Source.read_eq_ok_iff {disk : Disk} {input : ByteArray} {source : Source} {text : String} :
    (source.read disk input).1 = .ok text ↔ source.Holds disk input text := by
  cases source with
  | standardInput =>
    rw [read, decodeText_eq_ok_iff]
    exact ⟨.standardInput, fun | .standardInput content => content⟩
  | file path =>
    rw [read, Disk.readText_eq_ok_iff]
    exact ⟨.file, fun | .file content => content⟩

theorem Source.read_snd (disk : Disk) (input : ByteArray) (source : Source) :
    (source.read disk input).2 = source.left input := by
  cases source <;> rfl

/-- Why a source has no text: the file cannot be read, or the content is not UTF-8. -/
inductive Source.Unreadable (disk : Disk) (input : ByteArray) : Source → FileError → Prop where
  | standardInput (noText : ∀ text : String, input ≠ text.toUTF8) :
      Unreadable disk input .standardInput .notText
  | missing {path : String} {cause : FileError} (unread : disk.read path = .error cause) :
      Unreadable disk input (.file path) cause
  | file {path : String} {content : ByteArray} (reads : disk.read path = .ok content)
      (noText : ∀ text : String, content ≠ text.toUTF8) :
      Unreadable disk input (.file path) .notText

theorem decodeText_eq_error_iff {content : ByteArray} {cause : FileError} :
    decodeText content = .error cause ↔
      (∀ text : String, content ≠ text.toUTF8) ∧ cause = .notText := by
  simp only [ne_eq, ← decodeText_eq_ok_iff]
  unfold decodeText
  cases String.fromUTF8? content <;> simp [eq_comm]

theorem Source.read_eq_error_iff {disk : Disk} {input : ByteArray} {source : Source}
    {cause : FileError} :
    (source.read disk input).1 = .error cause ↔ source.Unreadable disk input cause := by
  cases source with
  | standardInput =>
    rw [read, decodeText_eq_error_iff]
    constructor
    · rintro ⟨noText, rfl⟩
      exact .standardInput noText
    · rintro ⟨noText⟩
      exact ⟨noText, rfl⟩
  | file path =>
    rw [read]
    unfold Disk.readText
    constructor
    · intro h
      dsimp only at h
      split at h
      · next e unread => exact .missing (Except.error.inj h ▸ unread)
      · next content reads =>
        obtain ⟨noText, rfl⟩ := decodeText_eq_error_iff.mp h
        exact .file reads noText
    · intro h
      cases h with
      | missing unread => simp only [unread]
      | file reads noText =>
        simp only [reads]
        exact decodeText_eq_error_iff.mpr ⟨noText, rfl⟩

/-- A source has a text if nothing speaks against it. -/
theorem Source.exists_holds_iff {disk : Disk} {input : ByteArray} {source : Source} :
    (∃ text, source.Holds disk input text) ↔ ∀ cause, ¬ source.Unreadable disk input cause := by
  simp only [← read_eq_ok_iff, ← read_eq_error_iff]
  cases (source.read disk input).1 <;> simp

/-- A source that can be read leaves every other one as readable as it was. -/
theorem Source.unreadable_left_iff {disk : Disk} {input : ByteArray} {first source : Source}
    {text : String} (holds : first.Holds disk input text) {cause : FileError} :
    source.Unreadable disk (first.left input) cause ↔ source.Unreadable disk input cause := by
  have empty : ByteArray.empty = ("" : String).toUTF8 := by decide
  cases source with
  | file path =>
    constructor <;> intro h <;> cases h with
    | missing unread => exact .missing unread
    | file reads noText => exact .file reads noText
  | standardInput =>
    cases holds with
    | file => rfl
    | standardInput content =>
      refine iff_of_false ?_ ?_ <;> rintro ⟨noText⟩
      · exact noText "" empty
      · exact noText text content

/-! ## 3. The form -/

namespace CommandLine

/-- The text of the data model: that of its source, if there is one, and else the empty text. -/
inductive DataModelOf (disk : Disk) (input : ByteArray) : Option String → String → Prop where
  | absent : DataModelOf disk input none ""
  | source {path text : String} (holds : (Source.ofPath path).Holds disk input text) :
      DataModelOf disk input (some path) text

/-- The form of a command line: the texts of the two sources, the template's first; the flags, or
what the file of settings has for them, or else the empty text; and the syntax flags alone. -/
structure FormOf (c : CommandLine) (defaults : Option FormDefaults) (disk : Disk)
    (input : ByteArray) (form : FormValues) : Prop where
  template : (Source.ofPath c.template).Holds disk input form.template
  dataModel : DataModelOf disk ((Source.ofPath c.template).left input) c.dataModel form.dataModel
  outputFormat : form.outputFormat = firstSet [c.outputFormat, defaults.map (·.outputFormat)] ""
  locale : form.locale = firstSet [c.locale, defaults.map (·.locale)] ""
  timeZone : form.timeZone = firstSet [c.timeZone, defaults.map (·.timeZone)] ""
  tagSyntax : form.tagSyntax = c.tagSyntax
  interpolationSyntax : form.interpolationSyntax = c.interpolationSyntax

/-- A flag that is not given leaves the default; the default of a file that sets none is empty. -/
theorem firstSet_default (flag : Option String) (defaults : Option FormDefaults)
    (get : FormDefaults → String) (empty : get ⟨"", "", ""⟩ = "") :
    firstSet [flag, defaults.map get] "" =
      flag.getD (get (firstSet [defaults] ⟨"", "", ""⟩)) := by
  cases defaults with
  | none => simp [empty]
  | some d => simp

/-- **The form that is read.** -/
theorem readForm_eq_ok_iff {c : CommandLine} {defaults : Option FormDefaults} {disk : Disk}
    {input : ByteArray} {form : FormValues} :
    c.readForm (firstSet [defaults] ⟨"", "", ""⟩) disk input = .ok form ↔
      c.FormOf defaults disk input form := by
  have outputFormat := firstSet_default c.outputFormat defaults (·.outputFormat) rfl
  have locale := firstSet_default c.locale defaults (·.locale) rfl
  have timeZone := firstSet_default c.timeZone defaults (·.timeZone) rfl
  simp only [readForm, Except.bind_eq_ok_iff, Source.read_eq_ok_iff, Source.read_snd,
    ← outputFormat, ← locale, ← timeZone]
  constructor
  · rintro ⟨template, holds, h⟩
    cases hmodel : c.dataModel with
    | none =>
      simp only [hmodel] at h
      obtain rfl := Except.ok.inj h
      exact ⟨holds, hmodel ▸ .absent, rfl, rfl, rfl, rfl, rfl⟩
    | some path =>
      simp only [hmodel, Except.bind_eq_ok_iff, Source.read_eq_ok_iff] at h
      obtain ⟨dataModel, holdsModel, h⟩ := h
      obtain rfl := Except.ok.inj h
      exact ⟨holds, hmodel ▸ .source holdsModel, rfl, rfl, rfl, rfl, rfl⟩
  · rintro h
    obtain ⟨template, dataModel, _, _, _, _, _⟩ := form
    obtain ⟨holds, model, rfl, rfl, rfl, rfl, rfl⟩ := h
    refine ⟨template, holds, ?_⟩
    cases hmodel : c.dataModel with
    | none =>
      rw [hmodel] at model
      cases model
      rfl
    | some path =>
      rw [hmodel] at model
      cases model with
      | source holdsModel =>
        simp only [Except.bind_eq_ok_iff, Source.read_eq_ok_iff]
        exact ⟨dataModel, holdsModel, rfl⟩

/-- The cause that there is no form: the first of the two sources that has no text. -/
inductive FailsAt (c : CommandLine) (disk : Disk) (input : ByteArray) : FileError → Prop where
  | template {cause : FileError}
      (unreadable : (Source.ofPath c.template).Unreadable disk input cause) :
      FailsAt c disk input cause
  | dataModel {text path : String} {cause : FileError}
      (template : (Source.ofPath c.template).Holds disk input text)
      (given : c.dataModel = some path)
      (unreadable : (Source.ofPath path).Unreadable disk input cause) : FailsAt c disk input cause

variable {c : CommandLine} {defaults : FormDefaults} {disk : Disk} {input : ByteArray}

/-- **The cause that no form is read.** -/
theorem readForm_eq_error_iff {cause : FileError} :
    c.readForm defaults disk input = .error cause ↔ c.FailsAt disk input cause := by
  simp only [readForm, Except.bind_eq_error_iff, Source.read_eq_ok_iff, Source.read_eq_error_iff,
    Source.read_snd]
  constructor
  · rintro (unreadable | ⟨text, holds, h⟩)
    · exact .template unreadable
    · cases hmodel : c.dataModel with
      | none =>
        simp only [hmodel] at h
        cases h
      | some path =>
        simp only [hmodel, Except.bind_eq_error_iff, Source.read_eq_error_iff] at h
        rcases h with unreadable | ⟨dataModel, -, h⟩
        · exact .dataModel holds hmodel ((Source.unreadable_left_iff holds).mp unreadable)
        · cases h
  · intro fails
    cases fails with
    | template unreadable => exact .inl unreadable
    | @dataModel text path cause holds given unreadable =>
      refine .inr ⟨text, holds, ?_⟩
      simp only [given, Except.bind_eq_error_iff, Source.read_eq_error_iff]
      exact .inl ((Source.unreadable_left_iff holds).mpr unreadable)

/-- **A form is read if each of its sources has a text**, both being tried on all of the input. -/
theorem exists_readForm_iff :
    (∃ form, c.readForm defaults disk input = .ok form) ↔
      (∃ text, (Source.ofPath c.template).Holds disk input text) ∧
        ∀ path ∈ c.dataModel, ∃ text, (Source.ofPath path).Holds disk input text := by
  have hread : (∃ form, c.readForm defaults disk input = .ok form) ↔
      ∀ cause, ¬ c.FailsAt disk input cause := by
    have causes (cause : FileError) :
        c.FailsAt disk input cause ↔ c.readForm defaults disk input = .error cause :=
      readForm_eq_error_iff.symm
    simp only [causes]
    cases c.readForm defaults disk input <;> simp
  rw [hread]
  constructor
  · intro sound
    have template := Source.exists_holds_iff.mpr fun cause h => sound cause (.template h)
    obtain ⟨text, holds⟩ := template
    refine ⟨⟨text, holds⟩, fun path given => Source.exists_holds_iff.mpr fun cause h => ?_⟩
    exact sound cause (.dataModel holds given h)
  · rintro ⟨template, model⟩ cause fails
    cases fails with
    | template unreadable => exact Source.exists_holds_iff.mp template cause unreadable
    | dataModel _ given unreadable =>
      exact Source.exists_holds_iff.mp (model _ given) cause unreadable

/-- Of two sources that both are standard input the second finds nothing. -/
theorem FormOf.standardInput_twice {settled : Option FormDefaults} {form : FormValues}
    (h : c.FormOf settled disk input form) {path : String}
    (template : Source.ofPath c.template = .standardInput) (given : c.dataModel = some path)
    (model : Source.ofPath path = .standardInput) :
    input = form.template.toUTF8 ∧ form.dataModel = "" := by
  have first := h.template
  have second := h.dataModel
  rw [template] at first second
  rw [given] at second
  cases second with
  | source holds =>
    rw [model] at holds
    cases first with
    | standardInput content =>
      cases holds with
      | standardInput nothing =>
        have empty : decodeText .empty = .ok "" := decodeText_eq_ok_iff.mpr (by decide)
        have read := decodeText_eq_ok_iff.mpr nothing
        exact ⟨content, (Except.ok.inj (empty.symm.trans read)).symm⟩

/-- **The form of a command line.** A path names standard input if it is a hyphen, perhaps with
parts behind it that do not count, and else a file. The form is read exactly if the template and, if
it is given, the data model have a text, and otherwise the first of the two that has none is the
cause. A form that is read has these texts as they are, each option from its flag or else from the
defaults, and the syntax flags as given; and where both sources are standard input, the template
has all of it and the data model is empty. -/
theorem form_of_sources (c : CommandLine) (defaults : FormDefaults) (disk : Disk)
    (input : ByteArray) :
    (∀ path, (Source.ofPath path = .standardInput ↔
        ∃ idle, path.toList = '-' :: slashed idle ∧ ∀ p ∈ idle, IdlePart p) ∧
      (Source.ofPath path ≠ .standardInput → Source.ofPath path = .file path)) ∧
    ((∃ form, c.readForm defaults disk input = .ok form) ↔
      (∃ text, (Source.ofPath c.template).Holds disk input text) ∧
        ∀ path ∈ c.dataModel, ∃ text, (Source.ofPath path).Holds disk input text) ∧
    (∀ cause, c.readForm defaults disk input = .error cause ↔ c.FailsAt disk input cause) ∧
    (∀ form, c.readForm defaults disk input = .ok form ↔
      c.FormOf (some defaults) disk input form) ∧
    ∀ form path, c.readForm defaults disk input = .ok form →
      Source.ofPath c.template = .standardInput → c.dataModel = some path →
      Source.ofPath path = .standardInput → input = form.template.toUTF8 ∧ form.dataModel = "" := by
  have reads {form : FormValues} : c.readForm defaults disk input = .ok form ↔
      c.FormOf (some defaults) disk input form := by
    rw [← readForm_eq_ok_iff, firstSet_cons, Option.getD_some]
  refine ⟨fun path => ⟨Source.ofPath_eq_standardInput_iff, Source.ofPath_of_ne⟩,
    exists_readForm_iff, fun _ => readForm_eq_error_iff, fun _ => reads, ?_⟩
  intro form path read template given model
  exact (reads.mp read).standardInput_twice template given model

/-- Standard input by two spellings of its path, an empty flag, and a template that is no file. -/
theorem form_of_sources_hyphens :
    let disk : Disk := { read := fun _ => .error .notFound, holds := fun _ => false }
    let input : ByteArray := " x ".toUTF8
    let defaults : FormDefaults := ⟨"HTML", "en", ""⟩
    let c : CommandLine := { template := "-/.", dataModel := some "-//", locale := some "" }
    let form : FormValues := { template := " x ", outputFormat := "HTML" }
    c.readForm defaults disk input = .ok form ∧ form.dataModel = "" ∧
      Source.ofPath "./-" = .file "./-" ∧
      { c with template := "./-" }.readForm defaults disk input = .error .notFound := by
  intro disk input defaults c form
  have idle {p : List Char} (h : p ∈ [['.']] ∨ p ∈ [[], []]) : IdlePart p := by
    simpa [IdlePart, or_comm] using h
  obtain ⟨paths, -, -, reads, twice⟩ := form_of_sources c defaults disk input
  have hyphen : Source.ofPath "-/." = .standardInput :=
    (paths "-/.").1.mpr ⟨[['.']], by decide, fun p hp => idle (.inl hp)⟩
  have slashes : Source.ofPath "-//" = .standardInput :=
    (paths "-//").1.mpr ⟨[[], []], by decide, fun p hp => idle (.inr hp)⟩
  have point : Source.ofPath "./-" = .file "./-" := (paths "./-").2 (by decide)
  have read : c.readForm defaults disk input = .ok form := by
    have template : (Source.ofPath "-/.").Holds disk input " x " := hyphen ▸ .standardInput rfl
    have model : (Source.ofPath "-//").Holds disk ((Source.ofPath "-/.").left input) "" := by
      rw [slashes, hyphen]
      exact .standardInput (by decide)
    exact (reads form).mpr ⟨template, .source model, rfl, rfl, rfl, rfl, rfl⟩
  refine ⟨read, (twice form "-//" read hyphen rfl slashes).2, point, ?_⟩
  refine ((form_of_sources _ defaults disk input).2.2.1 _).mpr (.template ?_)
  exact point ▸ .missing rfl

end CommandLine

end TemplateClient
