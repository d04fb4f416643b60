import Mathlib.Data.Option.Basic
import TemplateClient.Proofs.Charset.Utf8
import TemplateClient.Proofs.Json.Members
import TemplateClient.Program.Run

/-!
# What each source of settings says

The readers of files and variables, as relations. They say what a source sets, before anything is
said about which source wins.

* `Disk.readText_eq_ok_iff` -- the text of a file;
* `FileSettings.SetBy`, `FileSettings.parse?_eq_some_iff` -- the documents that set something;
* `MillisText`, `millis?_eq_some_iff` -- the texts that give milliseconds;
* `Invocation.dotEnv`, `Invocation.lookup_fullEnvironment` -- the variables of an environment file.
-/

namespace TemplateClient

/-! ## 1. Texts of files -/

theorem decodeText_eq_ok_iff {content : ByteArray} {text : String} :
    decodeText content = .ok text ↔ content = text.toUTF8 := by
  rw [← fromUTF8?_eq_some_iff]
  unfold decodeText
  cases String.fromUTF8? content with
  | none => exact iff_of_false nofun nofun
  | some read => rw [Except.ok.injEq, Option.some.injEq]

/-- A file has a text if it can be read and is UTF-8. -/
theorem Disk.readText_eq_ok_iff {disk : Disk} {path text : String} :
    disk.readText path = .ok text ↔ disk.read path = .ok text.toUTF8 := by
  unfold Disk.readText
  cases h : disk.read path with
  | error e => exact iff_of_false nofun nofun
  | ok content => rw [Except.ok.injEq, ← decodeText_eq_ok_iff]

/-! ## 2. Documents -/

namespace FileSettings

/-- The value is a string with that text. -/
def TextOf (v : Toml.Value) (text : String) : Prop := v = .string text

/-- The value is an integer that is not negative and less than `2 ^ 64`. -/
def MillisOf (v : Toml.Value) (n : Nat) : Prop := v = .integer n ∧ n < 0x10000000000000000

/-- The entries under other keys hold no number that cannot be told. -/
def OthersReadable (keys : List String) (es : Toml.Entries) : Prop :=
  ∀ e ∈ es, e.1 ∉ keys → e.2.isReadable = true

/-- The defaults that a value gives: a table of texts, an array of them in the order of the fields,
or a date, which counts as an empty table. A default that is not given is empty. -/
inductive DefaultsOf : Toml.Value → FormDefaults → Prop where
  | table {maker : Toml.Maker} {es : Toml.Entries} {outputFormat locale timeZone : Option String}
      (others : OthersReadable defaultsKeys es)
      (hasFormat : Option.Rel TextOf (es.lookup "output_format") outputFormat)
      (hasLocale : Option.Rel TextOf (es.lookup "locale") locale)
      (hasZone : Option.Rel TextOf (es.lookup "time_zone") timeZone) :
      DefaultsOf (.table maker es)
        ⟨outputFormat.getD "", locale.getD "", timeZone.getD ""⟩
  | array {vs : List Toml.Value} {texts : List String}
      (each : List.Forall₂ TextOf (vs.take 3) texts) :
      DefaultsOf (.array vs) ⟨texts[0]?.getD "", texts[1]?.getD "", texts[2]?.getD ""⟩
  | dateTime : DefaultsOf .dateTime {}

/-- What the entries of a document set: each key has a value of its type, or none. -/
structure SetBy (es : Toml.Entries) (f : FileSettings) : Prop where
  others : OthersReadable documentKeys es
  apiBase : Option.Rel TextOf (es.lookup "api_base") f.apiBase
  fadeIn : Option.Rel MillisOf (es.lookup "fade_in_ms") f.fadeIn
  fadeOut : Option.Rel MillisOf (es.lookup "fade_out_ms") f.fadeOut
  defaults : Option.Rel DefaultsOf (es.lookup "defaults") f.defaults

theorem text?_eq_some_iff {v : Toml.Value} {text : String} :
    text? v = some text ↔ TextOf v text := by
  unfold TextOf
  cases v with
  | string s => simp [text?]
  | _ => exact iff_of_false nofun nofun

theorem millis?_eq_some_iff {v : Toml.Value} {n : Nat} : millis? v = some n ↔ MillisOf v n := by
  unfold MillisOf
  cases v with
  | integer m =>
    rw [millis?, Toml.Value.integer.injEq]
    split
    · next h =>
      rw [Option.some.injEq]
      omega
    · next h => exact iff_of_false nofun (by omega)
  | _ => exact iff_of_false nofun (fun h => nomatch h.1)

theorem skipsOthers_iff {keys : List String} {es : Toml.Entries} :
    skipsOthers keys es = true ↔ OthersReadable keys es := by
  unfold skipsOthers OthersReadable
  rw [List.all_eq_true]
  refine forall₂_congr fun e _ => ?_
  rw [Bool.or_eq_true, List.contains_iff_mem]
  exact ⟨fun h hnot => h.resolve_left hnot, fun h => or_iff_not_imp_left.mpr h⟩

theorem entry?_eq_some_iff {α : Type} {read? : Toml.Value → Option α} {R : Toml.Value → α → Prop}
    (reads : ∀ v a, read? v = some a ↔ R v a) {key : String} {es : Toml.Entries} {a : Option α} :
    entry? read? key es = some a ↔ Option.Rel R (es.lookup key) a := by
  unfold entry?
  cases es.lookup key with
  | none =>
    cases a with
    | none => exact iff_of_true rfl .none
    | some a => exact iff_of_false nofun nofun
  | some v =>
    rw [Option.map_eq_some_iff]
    constructor
    · rintro ⟨b, hb, rfl⟩
      exact .some ((reads v b).mp hb)
    · intro h
      cases h with
      | some h => exact ⟨_, (reads v _).mpr h, rfl⟩

theorem defaults?_eq_some_iff {v : Toml.Value} {d : FormDefaults} :
    defaults? v = some d ↔ DefaultsOf v d := by
  have entries (key : String) (es : Toml.Entries) (a : Option String) :
      entry? text? key es = some a ↔ Option.Rel TextOf (es.lookup key) a :=
    entry?_eq_some_iff fun _ _ => text?_eq_some_iff
  constructor
  · intro h
    unfold defaults? at h
    split at h
    · next maker es =>
      simp only [Option.bind_eq_bind, Option.bind_eq_some_iff, Option.pure_def, Option.some.injEq,
        Option.guard_eq_some', skipsOthers_iff, entries] at h
      obtain ⟨-, others, o, ho, l, hl, z, hz, rfl⟩ := h
      exact .table others ho hl hz
    · next vs =>
      simp only [Option.bind_eq_bind, Option.bind_eq_some_iff, Option.pure_def, Option.some.injEq,
        Json.mapM_eq_some_iff fun _ _ => text?_eq_some_iff] at h
      obtain ⟨texts, each, rfl⟩ := h
      exact .array each
    · obtain rfl := Option.some.inj h
      exact .dateTime
    · cases h
  · intro h
    cases h with
    | table others ho hl hz =>
      simp [defaults?, skipsOthers_iff.mpr others, (entries _ _ _).mpr ho, (entries _ _ _).mpr hl,
        (entries _ _ _).mpr hz]
    | array each =>
      simp [defaults?, (Json.mapM_eq_some_iff fun _ _ => text?_eq_some_iff).mpr each]
    | dateTime => rfl

theorem ofEntries?_eq_some_iff {es : Toml.Entries} {f : FileSettings} :
    ofEntries? es = some f ↔ SetBy es f := by
  unfold ofEntries?
  simp only [Option.bind_eq_bind, Option.bind_eq_some_iff, Option.pure_def, Option.some.injEq,
    Option.guard_eq_some', skipsOthers_iff, entry?_eq_some_iff fun _ _ => text?_eq_some_iff,
    entry?_eq_some_iff fun _ _ => millis?_eq_some_iff,
    entry?_eq_some_iff fun _ _ => defaults?_eq_some_iff]
  constructor
  · rintro ⟨-, others, base, hbase, fadeIn, hin, fadeOut, hout, defaults, hdefaults, rfl⟩
    exact ⟨others, hbase, hin, hout, hdefaults⟩
  · intro h
    exact ⟨(), h.others, _, h.apiBase, _, h.fadeIn, _, h.fadeOut, _, h.defaults, rfl⟩

/-- **The texts that set something**: TOML documents whose values have the expected types. -/
theorem parse?_eq_some_iff {text : String} {f : FileSettings} :
    parse? text = some f ↔ ∃ es, Toml.parse? text = some es ∧ SetBy es f := by
  unfold parse?
  simp only [Option.bind_eq_some_iff, ofEntries?_eq_some_iff]

end FileSettings

/-! ## 3. Milliseconds -/

/-- The number that decimal digits give. -/
def decimalValue (digits : List Char) : Nat :=
  digits.foldl (fun n c => n * 10 + (c.toNat - '0'.toNat)) 0

/-- The text gives a number of milliseconds: digits and nothing else, with at most one plus sign in
front and white space around, for a number less than `2 ^ 64`. -/
def MillisText (text : String) (n : Nat) : Prop :=
  ∃ digits : List Char,
    (Text.trimChars text.toList = digits ∨ Text.trimChars text.toList = '+' :: digits) ∧
      digits ≠ [] ∧ (∀ c ∈ digits, c.isDigit = true) ∧ n = decimalValue digits ∧ n < Nat.pow 2 64

theorem decimal?_eq_some_iff {cs : List Char} {n : Nat} :
    decimal? cs = some n ↔ cs ≠ [] ∧ (∀ c ∈ cs, c.isDigit = true) ∧ n = decimalValue cs := by
  unfold decimal? decimalValue
  split
  · next h =>
    refine iff_of_false nofun fun ⟨nonempty, digits, _⟩ => ?_
    rw [Bool.or_eq_true, List.isEmpty_iff, Bool.not_eq_true', ← Bool.not_eq_true,
      List.all_eq_true] at h
    exact h.elim nonempty fun hnot => hnot digits
  · next h =>
    rw [Bool.or_eq_true, List.isEmpty_iff, Bool.not_eq_true', ← Bool.not_eq_true,
      List.all_eq_true, not_or, not_not] at h
    rw [Option.some.injEq, eq_comm]
    exact ⟨fun hn => ⟨h.1, h.2, hn⟩, fun hn => hn.2.2⟩

/-- The characters give a number of 64 bits: digits and nothing else, with at most one plus sign in
front, for a number less than `2 ^ 64`. -/
def WordText (cs : List Char) (n : Nat) : Prop :=
  ∃ digits : List Char, (cs = digits ∨ cs = '+' :: digits) ∧
    digits ≠ [] ∧ (∀ c ∈ digits, c.isDigit = true) ∧ n = decimalValue digits ∧ n < Nat.pow 2 64

/-- **The characters that give a number of 64 bits.** -/
theorem word?_eq_some_iff {cs : List Char} {n : Nat} : word? cs = some n ↔ WordText cs n := by
  unfold word? WordText
  simp only [Option.filter_eq_some_iff, decimal?_eq_some_iff, decide_eq_true_eq]
  constructor
  · rintro ⟨⟨nonempty, digits, value⟩, small⟩
    refine ⟨_, ?_, nonempty, digits, value, small⟩
    split
    · next plus =>
      obtain ⟨rest, rfl⟩ := List.head?_eq_some_iff.mp plus
      exact .inr rfl
    · exact .inl rfl
  · rintro ⟨digits, hdigits, nonempty, each, value, small⟩
    rcases hdigits with hdigits | hdigits <;> rw [hdigits]
    · have unsigned : digits.head? ≠ some '+' := fun plus => by
        obtain ⟨rest, rfl⟩ := List.head?_eq_some_iff.mp plus
        exact absurd (each '+' List.mem_cons_self) (by decide)
      rw [if_neg unsigned]
      exact ⟨⟨nonempty, each, value⟩, small⟩
    · exact ⟨⟨nonempty, each, value⟩, small⟩

/-- **The texts that give milliseconds.** -/
theorem millis?_eq_some_iff {text : String} {n : Nat} :
    millis? text = some n ↔ MillisText text n :=
  word?_eq_some_iff

theorem parseMillis_eq_ok_iff {key value : String} {n : Nat} :
    parseMillis key value = .ok n ↔ MillisText value n := by
  rw [← millis?_eq_some_iff]
  unfold parseMillis
  cases millis? value with
  | none => exact iff_of_false nofun nofun
  | some m => rw [Except.ok.injEq, Option.some.injEq]

theorem parseMillis_eq_error_iff {key value : String} {e : SettingsError} :
    parseMillis key value = .error e ↔ (∀ n, ¬ MillisText value n) ∧ e = .notMillis key value := by
  simp only [← @parseMillis_eq_ok_iff key]
  unfold parseMillis
  cases millis? value with
  | none => simp [eq_comm]
  | some m => simp

/-! ## 4. Variables of a file -/

namespace EnvironmentFile

/-- The variables that lines give, in their order, up to the first malformed line. -/
def givenBy (env : Environment) (given : Given) : List (Option (List Char)) → Environment
  | [] => []
  | none :: _ => []
  | some l :: ls =>
    match line? env given l with
    | none => []
    | some none => givenBy env given ls
    | some (some (name, value)) =>
      let env' := if (env.lookup name).isSome then env else env ++ [(name, value)]
      (name, value) :: givenBy env' ((name, value) :: given) ls

/-- **A variable that is set keeps its value.** Any other has the value of the first line that gives
it one. -/
theorem lookup_addLines (env : Environment) (given : Given) (lines : List (Option (List Char)))
    (key : String) :
    (addLines env given lines).lookup key =
      (env.lookup key).or ((givenBy env given lines).lookup key) := by
  induction lines generalizing env given with
  | nil => simp [addLines, givenBy]
  | cons l ls ih =>
    cases l with
    | none => simp [addLines, givenBy]
    | some l =>
      rw [addLines, givenBy]
      cases line? env given l with
      | none => simp
      | some new =>
        cases new with
        | none => exact ih env given
        | some new =>
          obtain ⟨name, value⟩ := new
          simp only [ih, List.lookup_cons]
          by_cases hset : (env.lookup name).isSome = true
          · rw [if_pos hset]
            split
            · next hkey =>
              obtain rfl := eq_of_beq hkey
              obtain ⟨old, hold⟩ := Option.isSome_iff_exists.mp hset
              simp [hold]
            · rfl
          · rw [if_neg hset, List.lookup_append, List.lookup_cons, List.lookup_nil, Option.or_assoc]
            split <;> rfl

end EnvironmentFile

/-- The variables that a file gives, in the order of its lines. -/
def Environment.givenByFile (env : Environment) (content : ByteArray) : Environment :=
  let lines :=
    EnvironmentFile.physicalLines [] (EnvironmentFile.withoutMark content.toList)
  EnvironmentFile.givenBy env []
    (EnvironmentFile.logicalLines [] .none (lines.map EnvironmentFile.decodeLine))

namespace Invocation

/-- The variables of the environment file; none if it cannot be read. -/
def dotEnv (i : Invocation) : Environment :=
  match i.disk.read environmentFile with
  | .ok content => i.environment.givenByFile content
  | .error _ => []

/-- The value of a variable: of the environment of the process, else of the environment file. -/
def lookup? (i : Invocation) (key : String) : Option String :=
  (i.environment.lookup key).or (i.dotEnv.lookup key)

/-- **The environment of the process wins** over the environment file. -/
theorem lookup_fullEnvironment (i : Invocation) (key : String) :
    i.fullEnvironment.lookup key = i.lookup? key := by
  unfold fullEnvironment lookup? dotEnv
  cases i.disk.read environmentFile with
  | ok content => exact EnvironmentFile.lookup_addLines _ _ _ _
  | error e => rw [List.lookup_nil, Option.or_none]

end Invocation

end TemplateClient
