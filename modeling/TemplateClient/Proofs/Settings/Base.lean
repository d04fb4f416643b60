import TemplateClient.Proofs.Settings.Refusal
import TemplateClient.Proofs.Text.Trimming

/-!
# Bases of which nothing is left

Requests go to a path below the base, and the slashes at the end of the base do not count. Of a base
of white space and then slashes nothing is left that could name a service. The check of the settings
looks for white space only, and the command line is laid on top after the last check.

* `IsHollow`, `isHollow_iff` -- the bases of which nothing is left;
* `BaseRefused`, `Invocation.settings_eq_emptyBase_iff` -- when settings are refused for their base;
* `Invocation.isHollow_apiBase_iff` -- which hollow bases are let through.
-/

namespace TemplateClient

/-! ## 1. Hollow bases -/

/-- Nothing is left of the base in front of the path of requests, white space apart. -/
def IsHollow (base : String) : Prop := Text.allBlank (Settings.normalBase base) = true

/-- **A base is hollow if it is white space and then slashes.** -/
theorem isHollow_iff {base : String} :
    IsHollow base ↔ ∃ blanks slashes, base.toList = blanks ++ slashes ∧
      (∀ c ∈ blanks, Text.isBlank c = true) ∧ ∀ c ∈ slashes, c = '/' := by
  unfold IsHollow Settings.normalBase
  rw [Text.allBlank_iff, String.toList_ofList]
  constructor
  · intro blank
    obtain ⟨run, hsplit, inside⟩ := Text.exists_append_dropEndWhile (· == '/') base.toList
    exact ⟨_, run, hsplit, blank, fun c hc => eq_of_beq (inside c hc)⟩
  · rintro ⟨blanks, slashes, hsplit, blank, inside⟩ c hc
    rw [hsplit, Text.dropEndWhile_append_run fun d hd => beq_iff_eq.mpr (inside d hd)] at hc
    obtain ⟨run, hblanks, -⟩ := Text.exists_append_dropEndWhile (· == '/') blanks
    exact blank c (hblanks ▸ List.mem_append_left run hc)

/-- A hollow base without a slash is blank. -/
theorem IsHollow.slash_or_blank {base : String} (h : IsHollow base) :
    '/' ∈ base.toList ∨ Text.allBlank base = true := by
  obtain ⟨blanks, slashes, hsplit, blank, inside⟩ := isHollow_iff.mp h
  cases slashes with
  | nil =>
    refine .inr (Text.allBlank_iff.mpr fun c hc => blank c ?_)
    rwa [hsplit, List.append_nil] at hc
  | cons c cs =>
    obtain rfl : c = '/' := inside c List.mem_cons_self
    exact .inl (hsplit ▸ List.mem_append_right blanks List.mem_cons_self)

/-! ## 2. Settings that are refused for their base -/

/-- The file of settings that is read: the named one, or that of the user if it exists. -/
inductive FileInUse (disk : Disk) (userFile : String) : Option String → String → Prop where
  | named {path : String} : FileInUse disk userFile (some path) path
  | user (present : disk.holds userFile = true) : FileInUse disk userFile none userFile

/-- The settings are refused for their base: the file sets a blank one, or a blank one is left by an
accepted file and by variables whose times are numbers. -/
inductive BaseRefused (i : Invocation) (named : Option String) : Prop where
  | file {path text base : String} {es : Toml.Entries} {f : FileSettings}
      (inUse : FileInUse i.disk i.userFile named path) (reads : i.disk.read path = .ok text.toUTF8)
      (parses : Toml.parse? text = some es) (sets : f.SetBy es) (given : f.apiBase = some base)
      (blank : Text.allBlank base = true) : BaseRefused i named
  | environment {f : FileSettings} {e : EnvironmentLayer}
      (file : FileLayer i.disk i.userFile named f) (sets : e.SetBy i.lookup?)
      (blank : Text.allBlank (firstSet [e.apiBase, f.apiBase] "http://127.0.0.1:8080") = true) :
      BaseRefused i named

namespace Settings

variable {words : String → String}

/-- A file that is read is refused for its base if it sets a blank one. -/
theorem validate_withFile_eq_error_iff {f : FileSettings} {e : SettingsError} :
    (({} : Settings).withFile f).validate = .error e ↔
      (∃ base, f.apiBase = some base ∧ Text.allBlank base = true) ∧ e = .emptyBase := by
  have builtIn : Text.allBlank ({} : Settings).apiBase = false := by decide
  rw [validate_eq_error_iff, withFile]
  cases h : f.apiBase with
  | none => simp [builtIn]
  | some base => simp

/-- A document is refused if it does not describe settings, or sets a blank base. -/
theorem parse_eq_error_iff {text : String} {cause : Failure} :
    parse words text = .error cause ↔
      ((∀ es f, Toml.parse? text = some es → ¬ FileSettings.SetBy es f) ∧
          cause = .malformedToml (words text)) ∨
        (∃ es f base, Toml.parse? text = some es ∧ FileSettings.SetBy es f ∧
          f.apiBase = some base ∧ Text.allBlank base = true) ∧ cause = .settings .emptyBase := by
  unfold parse
  cases hf : FileSettings.parse? text with
  | none =>
    have undescribed : ∀ es f, Toml.parse? text = some es → ¬ FileSettings.SetBy es f := by
      intro es f hes sets
      rw [FileSettings.parse?_eq_some_iff.mpr ⟨es, hes, sets⟩] at hf
      cases hf
    constructor
    · intro h
      exact .inl ⟨undescribed, (Except.error.inj h).symm⟩
    · rintro (⟨-, rfl⟩ | ⟨⟨es, f, base, hes, sets, -⟩, -⟩)
      · rfl
      · exact absurd sets (undescribed es f hes)
  | some f =>
    obtain ⟨es, hes, sets⟩ := FileSettings.parse?_eq_some_iff.mp hf
    dsimp only
    constructor
    · intro h
      split at h
      · cases h
      · next e hvalid =>
        obtain ⟨⟨base, given, blank⟩, rfl⟩ := validate_withFile_eq_error_iff.mp hvalid
        exact .inr ⟨⟨es, f, base, hes, sets, given, blank⟩, (Except.error.inj h).symm⟩
    · rintro (⟨undescribed, -⟩ | ⟨⟨es', g, base, hes', sets', given, blank⟩, rfl⟩)
      · exact absurd sets (undescribed es f hes)
      · have hg := FileSettings.parse?_eq_some_iff.mpr ⟨es', hes', sets'⟩
        obtain rfl : f = g := Option.some.inj (hf.symm.trans hg)
        rw [validate_withFile_eq_error_iff.mpr ⟨⟨base, given, blank⟩, rfl⟩]

/-- A file is refused if it cannot be read as text, or for what is in it. -/
theorem fromFile_eq_error_iff {disk : Disk} {path : String} {cause : Failure} :
    fromFile words disk path = .error cause ↔
      (∃ e, disk.readText path = .error e ∧ cause = .unreadableFile e) ∨
        ∃ text, disk.read path = .ok text.toUTF8 ∧ parse words text = .error cause := by
  unfold fromFile
  simp only [← Disk.readText_eq_ok_iff]
  cases disk.readText path with
  | error e => simp [eq_comm]
  | ok text => simp

/-- The settings of files are refused with the file in use. -/
theorem fromFiles_eq_error_iff {disk : Disk} {userFile : String} {named : Option String}
    {cause : Failure} :
    fromFiles words disk userFile named = .error cause ↔
      ∃ path, FileInUse disk userFile named path ∧ fromFile words disk path = .error cause := by
  unfold fromFiles
  constructor
  · intro h
    split at h
    · next path => exact ⟨path, .named, h⟩
    · split at h
      · next present => exact ⟨userFile, .user present, h⟩
      · cases h
  · rintro ⟨path, inUse, h⟩
    cases inUse with
    | named => exact h
    | user present =>
      dsimp only
      rw [if_pos present]
      exact h

/-- Settings are refused with the file, or else with the variables on top of it. -/
theorem load_eq_error_iff {disk : Disk} {userFile : String} {env : Environment}
    {named : Option String} {cause : Failure} :
    load words disk userFile env named = .error cause ↔
      fromFiles words disk userFile named = .error cause ∨
        ∃ s e, fromFiles words disk userFile named = .ok s ∧ (s.applyEnv env).2 = .error e ∧
          cause = .settings e := by
  unfold load
  cases fromFiles words disk userFile named with
  | error cause => simp
  | ok s =>
    dsimp only
    split
    · next s' hs => simp [hs]
    · next s' e hs => simp [hs, eq_comm]

/-- Variables are refused for the base if their times are numbers and the base that they leave is
blank. -/
theorem applyEnv_eq_emptyBase_iff {env : Environment} {s : Settings} :
    (s.applyEnv env).2 = .error .emptyBase ↔
      ∃ e : EnvironmentLayer, e.SetBy (List.lookup · env) ∧
        Text.allBlank (e.apiBase.getD s.apiBase) = true := by
  constructor
  · intro h
    obtain ⟨taken, stops, -⟩ := applyEnv_eq_error_iff.mp (Prod.ext rfl h)
    cases stops with
    | base sets blank => exact ⟨taken, sets, blank⟩
  · rintro ⟨e, sets, blank⟩
    rw [applyEnv_eq_error_iff.mpr ⟨e, .base sets blank, rfl⟩]

end Settings

/-! ## 3. Bases of a run -/

namespace Invocation

variable {i : Invocation} {c : CommandLine}

/-- The settings of a run are refused where loading them is, whatever the command line gives. -/
theorem settings_eq_error_iff {cause : Failure} :
    i.settings c = .error cause ↔
      Settings.load i.tomlWords i.disk i.userFile i.fullEnvironment c.config = .error cause := by
  unfold Invocation.settings
  cases Settings.load i.tomlWords i.disk i.userFile i.fullEnvironment c.config with
  | error cause => exact Iff.rfl
  | ok s => exact iff_of_false nofun nofun

/-- **When the settings of a run are refused for their base**, whatever the command line gives. -/
theorem settings_eq_emptyBase_iff :
    i.settings c = .error (.settings .emptyBase) ↔ BaseRefused i c.config := by
  have hlookup : (List.lookup · i.fullEnvironment) = i.lookup? := funext i.lookup_fullEnvironment
  rw [settings_eq_error_iff, Settings.load_eq_error_iff]
  constructor
  · rintro (h | ⟨s, e, hfiles, h, he⟩)
    · obtain ⟨path, inUse, hfile⟩ := Settings.fromFiles_eq_error_iff.mp h
      rcases Settings.fromFile_eq_error_iff.mp hfile with ⟨e, -, he⟩ | ⟨text, reads, hparse⟩
      · cases he
      rcases Settings.parse_eq_error_iff.mp hparse with
        ⟨-, hcause⟩ | ⟨⟨es, f, base, parses, sets, given, blank⟩, -⟩
      · cases hcause
      exact .file inUse reads parses sets given blank
    · obtain rfl := Failure.settings.inj he
      obtain ⟨f, file, rfl⟩ := Settings.fromFiles_eq_ok_iff.mp hfiles
      obtain ⟨e, sets, blank⟩ := Settings.applyEnv_eq_emptyBase_iff.mp h
      refine .environment file (hlookup ▸ sets) ?_
      rw [firstSet_cons, firstSet_cons]
      exact blank
  · intro refused
    cases refused with
    | @file path text base es f inUse reads parses sets given blank =>
      refine .inl (Settings.fromFiles_eq_error_iff.mpr ⟨path, inUse, ?_⟩)
      refine Settings.fromFile_eq_error_iff.mpr (.inr ⟨text, reads, ?_⟩)
      refine Settings.parse_eq_error_iff.mpr (.inr ⟨?_, rfl⟩)
      exact ⟨es, f, base, parses, sets, given, blank⟩
    | @environment f e file sets blank =>
      refine .inr ⟨_, .emptyBase, Settings.fromFiles_eq_ok_iff.mpr ⟨f, file, rfl⟩, ?_, rfl⟩
      rw [firstSet_cons, firstSet_cons] at blank
      exact Settings.applyEnv_eq_emptyBase_iff.mpr ⟨e, hlookup ▸ sets, blank⟩

/-- **Which hollow bases are let through**: all of the command line, and those of the layers below
in which a slash stands. -/
theorem isHollow_apiBase_iff {s : Settings} (loads : i.settings c = .ok s) :
    IsHollow s.apiBase ↔ (∃ base, c.apiBase = some base ∧ IsHollow base) ∨
      c.apiBase = none ∧ ∃ f e, Accepted i c.config f e ∧
        IsHollow (firstSet [e.apiBase, f.apiBase] "http://127.0.0.1:8080") ∧
        '/' ∈ (firstSet [e.apiBase, f.apiBase] "http://127.0.0.1:8080").toList := by
  obtain ⟨f, e, accepted, layered⟩ := Invocation.settings_eq_ok_iff.mp loads
  cases hflag : c.apiBase with
  | some base =>
    have hbase : s.apiBase = base := by
      rw [layered.apiBase, hflag, firstSet_cons, Option.getD_some]
    simp [hbase]
  | none =>
    have hbase : ∀ {f e}, Layered c e f s →
        s.apiBase = firstSet [e.apiBase, f.apiBase] "http://127.0.0.1:8080" := by
      intro f e layered
      rw [layered.apiBase, hflag, firstSet_cons, Option.getD_none]
    constructor
    · intro hollow
      rw [hbase layered] at hollow
      refine .inr ⟨rfl, f, e, accepted, hollow, hollow.slash_or_blank.resolve_right fun blank => ?_⟩
      rw [accepted.base] at blank
      cases blank
    · rintro (⟨base, h, -⟩ | ⟨-, f', e', accepted', hollow, -⟩)
      · cases h
      · have hsame := Invocation.settings_eq_ok_iff.mpr ⟨f', e', accepted', layered_iff.mpr rfl⟩
        have hs := Except.ok.inj (hsame.symm.trans loads)
        rw [hbase (layered_iff.mpr hs.symm)]
        exact hollow

end Invocation

end TemplateClient
