import TemplateClient.Proofs.Settings.Sources

/-!
# Which source of settings wins

Settings are loaded from a file and from variables, and the command line comes on top. Every layer
is checked by itself, whatever a higher one sets: a blank base in the file, and a blank base after
the variables, are errors even where the command line gives another.

* `FileLayer`, `EnvironmentLayer` -- what a file and what variables set;
* `Settings.fromFiles_eq_ok_iff`, `Settings.applyEnv_eq_ok_iff` -- one layer after the other;
* `Invocation.settings` -- the settings of a run;
* `Invocation.settings_layered` -- when settings are loaded, and where each of them comes from.
-/

namespace TemplateClient

/-! ## 1. Layers -/

/-- What a file sets: it is UTF-8, and TOML of the expected types, and has no blank base. -/
structure FileSettings.ReadFrom (disk : Disk) (path : String) (f : FileSettings) : Prop where
  document : ∃ text es, disk.read path = .ok text.toUTF8 ∧ Toml.parse? text = some es ∧ f.SetBy es
  base : ∀ base ∈ f.apiBase, Text.allBlank base = false

/-- The layer of files. A named file is read in any case, and the user's file only if no file is
named and it exists; with neither, the layer sets nothing. -/
inductive FileLayer (disk : Disk) (userFile : String) : Option String → FileSettings → Prop where
  | named {path : String} {f : FileSettings} (reads : f.ReadFrom disk path) :
      FileLayer disk userFile (some path) f
  | user {f : FileSettings} (present : disk.holds userFile = true)
      (reads : f.ReadFrom disk userFile) : FileLayer disk userFile none f
  | none (absent : disk.holds userFile = false) : FileLayer disk userFile none {}

/-- What variables may set. -/
structure EnvironmentLayer where
  apiBase : Option String := none
  fadeIn : Option Nat := none
  fadeOut : Option Nat := none

/-- What the variables set: a base without the white space around it, and the milliseconds of every
time that is set. -/
structure EnvironmentLayer.SetBy (lookup? : String → Option String) (e : EnvironmentLayer) :
    Prop where
  apiBase : e.apiBase = (lookup? apiBaseKey).map Text.trim
  fadeIn : Option.Rel MillisText (lookup? fadeInKey) e.fadeIn
  fadeOut : Option.Rel MillisText (lookup? fadeOutKey) e.fadeOut

/-- The value of the highest source that sets one; the sources are listed from the highest down. -/
def firstSet {α : Type} (sources : List (Option α)) (builtIn : α) : α :=
  (sources.findSome? id).getD builtIn

@[simp] theorem firstSet_nil {α : Type} (builtIn : α) : firstSet [] builtIn = builtIn := rfl

@[simp] theorem firstSet_cons {α : Type} (source : Option α) (sources : List (Option α))
    (builtIn : α) :
    firstSet (source :: sources) builtIn = source.getD (firstSet sources builtIn) := by
  cases source <;> rfl

namespace Settings

/-! ## 2. One layer after the other -/

variable {words : String → String}

theorem validate_eq_ok_iff {s : Settings} :
    s.validate = .ok () ↔ Text.allBlank s.apiBase = false := by
  unfold validate
  split
  · next h => exact iff_of_false nofun (by simp [h])
  · next h => exact iff_of_true rfl (Bool.eq_false_iff.mpr h)

/-- A file that sets no base leaves the built-in one, which is not blank. -/
theorem validate_withFile_iff {f : FileSettings} :
    (({} : Settings).withFile f).validate = .ok () ↔
      ∀ base ∈ f.apiBase, Text.allBlank base = false := by
  have builtIn : Text.allBlank ({} : Settings).apiBase = false := by decide
  rw [validate_eq_ok_iff, withFile]
  cases h : f.apiBase with
  | none => exact iff_of_true builtIn nofun
  | some base => simp

theorem parse_eq_ok_iff {text : String} {s : Settings} :
    parse words text = .ok s ↔ ∃ f es, Toml.parse? text = some es ∧ f.SetBy es ∧
      (∀ base ∈ f.apiBase, Text.allBlank base = false) ∧ s = ({} : Settings).withFile f := by
  unfold parse
  cases hf : FileSettings.parse? text with
  | none =>
    refine iff_of_false nofun ?_
    rintro ⟨f, es, hes, set, -, -⟩
    rw [FileSettings.parse?_eq_some_iff.mpr ⟨es, hes, set⟩] at hf
    cases hf
  | some f =>
    obtain ⟨es, hes, set⟩ := FileSettings.parse?_eq_some_iff.mp hf
    constructor
    · intro h
      dsimp only at h
      split at h
      · next hvalid =>
        injection h with h
        exact ⟨f, es, hes, set, validate_withFile_iff.mp hvalid, h.symm⟩
      · cases h
    · rintro ⟨g, es', hes', set', base, rfl⟩
      have hg := FileSettings.parse?_eq_some_iff.mpr ⟨es', hes', set'⟩
      obtain rfl : f = g := Option.some.inj (hf.symm.trans hg)
      simp [validate_withFile_iff.mpr base]

theorem fromFile_eq_ok_iff {disk : Disk} {path : String} {s : Settings} :
    fromFile words disk path = .ok s ↔
      ∃ f : FileSettings, f.ReadFrom disk path ∧ s = ({} : Settings).withFile f := by
  unfold fromFile
  constructor
  · intro h
    split at h
    · cases h
    · next text htext =>
      obtain ⟨f, es, hes, set, base, rfl⟩ := parse_eq_ok_iff.mp h
      exact ⟨f, ⟨⟨text, es, Disk.readText_eq_ok_iff.mp htext, hes, set⟩, base⟩, rfl⟩
  · rintro ⟨f, ⟨⟨text, es, hread, hes, set⟩, base⟩, rfl⟩
    rw [Disk.readText_eq_ok_iff.mpr hread]
    exact parse_eq_ok_iff.mpr ⟨f, es, hes, set, base, rfl⟩

/-- **The settings of files** are the built-in ones with what the file in use sets. -/
theorem fromFiles_eq_ok_iff {disk : Disk} {userFile : String} {named : Option String}
    {s : Settings} :
    fromFiles words disk userFile named = .ok s ↔
      ∃ f, FileLayer disk userFile named f ∧ s = ({} : Settings).withFile f := by
  unfold fromFiles
  constructor
  · intro h
    split at h
    · obtain ⟨f, reads, rfl⟩ := fromFile_eq_ok_iff.mp h
      exact ⟨f, .named reads, rfl⟩
    · split at h
      · next present =>
        obtain ⟨f, reads, rfl⟩ := fromFile_eq_ok_iff.mp h
        exact ⟨f, .user present reads, rfl⟩
      · next absent =>
        injection h with h
        exact ⟨{}, .none (Bool.eq_false_iff.mpr absent), h.symm⟩
  · rintro ⟨f, layer, rfl⟩
    cases layer with
    | named reads => exact fromFile_eq_ok_iff.mpr ⟨f, reads, rfl⟩
    | user present reads =>
      simp only [if_pos present]
      exact fromFile_eq_ok_iff.mpr ⟨f, reads, rfl⟩
    | none absent => simp only [absent, Bool.false_eq_true, if_false, withFile, Option.getD_none]

/-- The settings with what variables set. -/
def withVariables (e : EnvironmentLayer) (s : Settings) : Settings :=
  { s with
    apiBase := e.apiBase.getD s.apiBase
    overlay := ⟨e.fadeIn.getD s.overlay.fadeIn, e.fadeOut.getD s.overlay.fadeOut⟩ }

theorem fadeFrom_eq_ok_iff {key : String} {env : Environment} {old n : Nat} :
    fadeFrom key env old = .ok n ↔
      ∃ time, Option.Rel MillisText (env.lookup key) time ∧ n = time.getD old := by
  unfold fadeFrom
  cases env.lookup key with
  | none =>
    constructor
    · intro h
      injection h with h
      exact ⟨none, .none, h.symm⟩
    · rintro ⟨_, ⟨⟩, rfl⟩
      rfl
  | some value =>
    constructor
    · intro h
      exact ⟨some n, .some (parseMillis_eq_ok_iff.mp h), rfl⟩
    · rintro ⟨_, ⟨gives⟩, rfl⟩
      exact parseMillis_eq_ok_iff.mpr gives

/-- **The settings of an environment** are accepted if every time that is set is a number of
milliseconds and the base is not blank. -/
theorem applyEnv_eq_ok_iff {env : Environment} {s s' : Settings} :
    s.applyEnv env = (s', .ok ()) ↔
      ∃ e : EnvironmentLayer, e.SetBy (List.lookup · env) ∧
        Text.allBlank (e.apiBase.getD s.apiBase) = false ∧ s' = s.withVariables e := by
  constructor
  · intro h
    dsimp only [applyEnv] at h
    split at h
    · cases h
    · next fadeIn hin =>
      split at h
      · cases h
      · next fadeOut hout =>
        obtain ⟨timeIn, givesIn, rfl⟩ := fadeFrom_eq_ok_iff.mp hin
        obtain ⟨timeOut, givesOut, rfl⟩ := fadeFrom_eq_ok_iff.mp hout
        obtain ⟨rfl, hvalid⟩ := Prod.mk.inj h
        exact ⟨⟨_, timeIn, timeOut⟩, ⟨rfl, givesIn, givesOut⟩, validate_eq_ok_iff.mp hvalid, rfl⟩
  · rintro ⟨e, set, base, rfl⟩
    have hin : fadeFrom fadeInKey env s.overlay.fadeIn = .ok (e.fadeIn.getD s.overlay.fadeIn) :=
      fadeFrom_eq_ok_iff.mpr ⟨e.fadeIn, set.fadeIn, rfl⟩
    have hout : fadeFrom fadeOutKey env s.overlay.fadeOut =
        .ok (e.fadeOut.getD s.overlay.fadeOut) :=
      fadeFrom_eq_ok_iff.mpr ⟨e.fadeOut, set.fadeOut, rfl⟩
    have hvalid : (s.withVariables e).validate = .ok () := validate_eq_ok_iff.mpr base
    simp only [applyEnv, hin, hout, ← set.apiBase]
    exact Prod.ext rfl hvalid

/-- **Loaded settings** are those of files and of an environment, each layer accepted. -/
theorem load_eq_ok_iff {disk : Disk} {userFile : String} {env : Environment}
    {named : Option String} {s : Settings} :
    load words disk userFile env named = .ok s ↔
      ∃ (f : FileSettings) (e : EnvironmentLayer),
        FileLayer disk userFile named f ∧ e.SetBy (List.lookup · env) ∧
        Text.allBlank (e.apiBase.getD (({} : Settings).withFile f).apiBase) = false ∧
        s = (({} : Settings).withFile f).withVariables e := by
  unfold load
  constructor
  · intro h
    split at h
    · cases h
    · next below hfiles =>
      obtain ⟨f, layer, rfl⟩ := fromFiles_eq_ok_iff.mp hfiles
      split at h
      · next s' hs =>
        injection h with h
        obtain ⟨e, set, base, rfl⟩ := applyEnv_eq_ok_iff.mp (h ▸ hs)
        exact ⟨f, e, layer, set, base, rfl⟩
      · cases h
  · rintro ⟨f, e, layer, set, base, rfl⟩
    simp only [fromFiles_eq_ok_iff.mpr ⟨f, layer, rfl⟩,
      applyEnv_eq_ok_iff.mpr ⟨e, set, base, rfl⟩]

end Settings

/-! ## 3. The settings of a run -/

/-- The settings of a run: the loaded ones, with what the command line sets. -/
def Invocation.settings (i : Invocation) (c : CommandLine) : Except Failure Settings :=
  (Settings.load i.tomlWords i.disk i.userFile i.fullEnvironment c.config).map c.applyTo

/-- The layers below the command line are accepted: the file in use, the times that variables give,
and the base that the two leave. -/
structure Accepted (i : Invocation) (named : Option String) (f : FileSettings)
    (e : EnvironmentLayer) : Prop where
  file : FileLayer i.disk i.userFile named f
  environment : e.SetBy i.lookup?
  base : Text.allBlank (firstSet [e.apiBase, f.apiBase] "http://127.0.0.1:8080") = false

/-- Each setting has the value of the highest source that sets it. -/
structure Layered (c : CommandLine) (e : EnvironmentLayer) (f : FileSettings) (s : Settings) :
    Prop where
  apiBase : s.apiBase = firstSet [c.apiBase, e.apiBase, f.apiBase] "http://127.0.0.1:8080"
  fadeIn : s.overlay.fadeIn = firstSet [e.fadeIn, f.fadeIn] 1000
  fadeOut : s.overlay.fadeOut = firstSet [e.fadeOut, f.fadeOut] 0
  defaults : s.defaults = firstSet [f.defaults] ⟨"", "", ""⟩

theorem layered_iff {c : CommandLine} {e : EnvironmentLayer} {f : FileSettings} {s : Settings} :
    Layered c e f s ↔ s = c.applyTo ((({} : Settings).withFile f).withVariables e) := by
  constructor
  · rintro ⟨base, fadeIn, fadeOut, defaults⟩
    obtain ⟨sBase, ⟨sIn, sOut⟩, sDefaults⟩ := s
    simp only [firstSet_cons, firstSet_nil] at base fadeIn fadeOut defaults
    subst base fadeIn fadeOut defaults
    rfl
  · rintro rfl
    constructor <;> simp only [firstSet_cons, firstSet_nil] <;> rfl

theorem Invocation.settings_eq_ok_iff {i : Invocation} {c : CommandLine} {s : Settings} :
    i.settings c = .ok s ↔ ∃ f e, Accepted i c.config f e ∧ Layered c e f s := by
  have hlookup : (List.lookup · i.fullEnvironment) = i.lookup? := funext i.lookup_fullEnvironment
  unfold Invocation.settings
  constructor
  · intro h
    cases hload : Settings.load i.tomlWords i.disk i.userFile i.fullEnvironment c.config with
    | error failure =>
      rw [hload] at h
      cases h
    | ok below =>
      rw [hload] at h
      injection h with h
      obtain ⟨f, e, file, environment, base, rfl⟩ := Settings.load_eq_ok_iff.mp hload
      refine ⟨f, e, ⟨file, hlookup ▸ environment, ?_⟩, layered_iff.mpr h.symm⟩
      rw [firstSet_cons, firstSet_cons]
      exact base
  · rintro ⟨f, e, ⟨file, environment, base⟩, layered⟩
    rw [firstSet_cons, firstSet_cons] at base
    rw [Settings.load_eq_ok_iff.mpr ⟨f, e, file, hlookup ▸ environment, base, rfl⟩,
      layered_iff.mp layered]
    rfl

/-- **Where the settings of a run come from.** They are loaded exactly if every layer below the
command line is accepted, and then each is that of the highest source that sets it: the command line
(the base only), a variable, the file, and at last the built-in value. -/
theorem Invocation.settings_layered (i : Invocation) (c : CommandLine) :
    ((∃ s, i.settings c = .ok s) ↔ ∃ f e, Accepted i c.config f e) ∧
      ∀ s, i.settings c = .ok s ↔ ∃ f e, Accepted i c.config f e ∧ Layered c e f s := by
  refine ⟨⟨?_, ?_⟩, fun s => Invocation.settings_eq_ok_iff⟩
  · rintro ⟨s, hs⟩
    obtain ⟨f, e, accepted, -⟩ := Invocation.settings_eq_ok_iff.mp hs
    exact ⟨f, e, accepted⟩
  · rintro ⟨f, e, accepted⟩
    exact ⟨_, Invocation.settings_eq_ok_iff.mpr ⟨f, e, accepted, layered_iff.mpr rfl⟩⟩

end TemplateClient
