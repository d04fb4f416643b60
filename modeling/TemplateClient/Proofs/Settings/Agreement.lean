import TemplateClient.Proofs.Settings.Endpoint
import TemplateClient.Proofs.Settings.Layers

/-!
# One base from three sources

A base can come from a file, from a variable and from the command line. The file and the command
line hand it on as it stands, and a variable hands it on without the white space at its ends. So
one text leads to one place whatever its source is, as long as it has no white space at its ends,
and with white space there the variable leads to another place than the other two.

* `BaseSource.Decides`, `BaseFrom` -- the source that a base comes from, all else being equal;
* `Settings.normalBase_trim_eq_iff` -- when trimming makes no difference to where requests go;
* `Invocation.sources_agree_iff` -- the settings of the three runs.
-/

namespace TemplateClient

/-! ## 1. Sources of a base -/

/-- A source that can set a base. -/
inductive BaseSource where
  | file
  | environment
  | commandLine
deriving DecidableEq, Repr

namespace BaseSource

/-- The base that a source hands on. -/
def hand : BaseSource → String → String
  | .environment, base => Text.trim base
  | _, base => base

/-- The source that decides the base, of what the file, the variable and the flag give: the sources
above it give none. Those below it may give others, which still are checked on their way. -/
inductive Decides (base : String) :
    BaseSource → Option String → Option String → Option String → Prop where
  | file : Decides base .file (some base) none none
  | environment (inFile : Option String) : Decides base .environment inFile (some base) none
  | commandLine (inFile inVariable : Option String)
      (accepted : ∀ other ∈ inVariable, Text.allBlank other = false) :
      Decides base .commandLine inFile inVariable (some base)

variable {source : BaseSource} {base : String} {inFile inVariable inFlag : Option String}

/-- The base that a run ends up with. -/
theorem Decides.firstSet_eq (h : source.Decides base inFile inVariable inFlag) (builtIn : String) :
    firstSet [inFlag, inVariable.map Text.trim, inFile] builtIn = source.hand base := by
  cases h <;> rfl

/-- The base is accepted before the command line is looked at. -/
theorem Decides.accepted (h : source.Decides base inFile inVariable inFlag)
    (notBlank : Text.allBlank base = false) (file : ∀ other ∈ inFile, Text.allBlank other = false)
    {builtIn : String} (builtInAccepted : Text.allBlank builtIn = false) :
    Text.allBlank (firstSet [inVariable.map Text.trim, inFile] builtIn) = false := by
  rw [firstSet_cons, firstSet_cons, firstSet_nil]
  cases h with
  | file => exact notBlank
  | environment => rwa [Option.map_some, Option.getD_some, Text.allBlank_trim]
  | commandLine _ _ accepted =>
    cases inVariable with
    | some other =>
      rw [Option.map_some, Option.getD_some, Text.allBlank_trim]
      exact accepted other rfl
    | none =>
      cases inFile with
      | some other => exact file other rfl
      | none => exact builtInAccepted

end BaseSource

/-- A run that has its base from the source, and the rest of its settings from `f` and `e`. -/
def BaseFrom (source : BaseSource) (base : String) (f : FileSettings) (e : EnvironmentLayer)
    (i : Invocation) (c : CommandLine) : Prop :=
  ∃ inFile, FileLayer i.disk i.userFile c.config { f with apiBase := inFile } ∧
    EnvironmentLayer.SetBy i.lookup?
      { e with apiBase := (i.lookup? apiBaseKey).map Text.trim } ∧
    source.Decides base inFile (i.lookup? apiBaseKey) c.apiBase

/-- The file in use gives no blank base. -/
theorem FileLayer.apiBase_not_blank {disk : Disk} {userFile : String} {named : Option String}
    {f : FileSettings} (layer : FileLayer disk userFile named f) :
    ∀ base ∈ f.apiBase, Text.allBlank base = false := by
  cases layer with
  | named reads => exact reads.base
  | user _ reads => exact reads.base
  | none => nofun

/-- The settings with a base, and the rest of a file and of variables. -/
def Settings.withBase (base : String) (f : FileSettings) (e : EnvironmentLayer) : Settings where
  apiBase := base
  overlay := ⟨firstSet [e.fadeIn, f.fadeIn] 1000, firstSet [e.fadeOut, f.fadeOut] 0⟩
  defaults := firstSet [f.defaults] ⟨"", "", ""⟩

/-- **A run gets the base that its source hands on.** -/
theorem BaseFrom.settings_eq {source : BaseSource} {base : String} {f : FileSettings}
    {e : EnvironmentLayer} {i : Invocation} {c : CommandLine} (h : BaseFrom source base f e i c)
    (notBlank : Text.allBlank base = false) :
    i.settings c = .ok (Settings.withBase (source.hand base) f e) := by
  obtain ⟨inFile, file, environment, decides⟩ := h
  refine Invocation.settings_eq_ok_iff.mpr ⟨_, _, ⟨file, environment, ?_⟩, ⟨?_, rfl, rfl, rfl⟩⟩
  · exact decides.accepted notBlank file.apiBase_not_blank (by decide)
  · exact (decides.firstSet_eq _).symm

/-! ## 2. Where requests go -/

namespace Settings

/-- White space at the two ends of a base is not lost among the slashes: if the middle has the same
normal form `kept`, nothing stands around it. -/
theorem around_eq_nil {kept slashes front inner back : List Char}
    (split : kept ++ slashes = front ++ (kept ++ inner ++ back))
    (slash : ∀ c ∈ slashes, Text.isBlank c = false)
    (blankFront : ∀ c ∈ front, Text.isBlank c = true)
    (blankBack : ∀ c ∈ back, Text.isBlank c = true)
    (trimmed : ∀ c ∈ (kept ++ inner).head?, Text.isBlank c = false) : front = [] ∧ back = [] := by
  have clash {c : Char} (blank : Text.isBlank c = true) (notBlank : Text.isBlank c = false) :
      False := Bool.false_ne_true (notBlank.symm.trans blank)
  have hfront : front = [] := by
    cases front with
    | nil => rfl
    | cons c front =>
      have blank := blankFront c List.mem_cons_self
      cases kept with
      | nil =>
        have hc : c ∈ slashes := by
          rw [List.nil_append] at split
          exact split ▸ List.mem_cons_self
        exact (clash blank (slash c hc)).elim
      | cons d kept =>
        obtain ⟨rfl, -⟩ := List.cons.inj split
        exact (clash blank (trimmed d rfl)).elim
  subst hfront
  rw [List.nil_append, List.append_assoc, List.append_cancel_left_eq] at split
  refine ⟨rfl, List.eq_nil_iff_forall_not_mem.mpr fun c hc => ?_⟩
  exact clash (blankBack c hc) (slash c (split ▸ List.mem_append_right inner hc))

/-- **Trimming a base changes where requests go** whenever it changes the base. -/
theorem normalBase_trim_eq_iff {base : String} :
    normalBase (Text.trim base) = normalBase base ↔ Text.trim base = base := by
  refine ⟨fun same => ?_, fun same => by rw [same]⟩
  obtain ⟨front, back, hsplit, blankFront, blankBack⟩ := Text.exists_append_trimChars base.toList
  obtain ⟨m, hbase⟩ := (stemOf_normalBase base).split
  obtain ⟨n, htrim⟩ := (stemOf_normalBase (Text.trim base)).split
  have trimmed := (Text.trimmed_trimChars base.toList).front
  rw [Text.trim, String.toList_ofList, ← Text.trim, same] at htrim
  rw [htrim] at hsplit trimmed
  have slashes_not_blank : ∀ c ∈ List.replicate m '/', Text.isBlank c = false := fun c hc => by
    rw [List.eq_of_mem_replicate hc]
    decide
  obtain ⟨rfl, rfl⟩ := around_eq_nil (hbase.symm.trans hsplit) slashes_not_blank blankFront
    blankBack trimmed
  rw [List.nil_append, List.append_nil, ← htrim] at hsplit
  rw [Text.trim, ← hsplit, String.ofList_toList]

end Settings

/-! ## 3. The three runs -/

/-- **When the sources of a base agree.** Of runs that differ only in the source of one base, which
is not blank, all load their settings, and the settings differ at most in the base. The file and the
command line send requests to the same place in any case, and the variable sends them there exactly
if the base has no white space at its ends. -/
theorem Invocation.sources_agree_iff {base : String} (notBlank : Text.allBlank base = false)
    (f : FileSettings) (e : EnvironmentLayer) (runs : BaseSource → Invocation × CommandLine)
    (given : ∀ source, BaseFrom source base f e (runs source).1 (runs source).2) :
    ∃ s : BaseSource → Settings,
      (∀ source, (runs source).1.settings (runs source).2 = .ok (s source)) ∧
      (∀ source, (s source).overlay = (s .file).overlay ∧
        (s source).defaults = (s .file).defaults) ∧
      (∀ source, (s source).executeUrl =
        Settings.normalBase (source.hand base) ++ "/api/execute") ∧
      (s .commandLine).executeUrl = (s .file).executeUrl ∧
      ((s .environment).executeUrl = (s .file).executeUrl ↔ Text.trim base = base) := by
  refine ⟨fun source => Settings.withBase (source.hand base) f e,
    fun source => (given source).settings_eq notBlank, fun _ => ⟨rfl, rfl⟩, fun _ => rfl, rfl, ?_⟩
  exact Settings.executeUrl_eq_iff.trans Settings.normalBase_trim_eq_iff

set_option maxRecDepth 8000 in
/-- A base with a blank at each end: the variable alone leads to the service. -/
theorem Invocation.sources_disagree_blank_ends :
    let base : String := " http://b/ "
    let disk (content : String) : Disk := {
      read := fun path => if path = "c" then .ok content.toUTF8 else .error .notFound
      holds := fun _ => false }
    let c : CommandLine := { template := "t", config := some "c" }
    let runs : BaseSource → Invocation × CommandLine
      | .file => ({ args := [], disk := disk "api_base = ' http://b/ '", userFile := "" }, c)
      | .environment =>
        ({ args := [], disk := disk "", environment := [(apiBaseKey, base)], userFile := "" }, c)
      | .commandLine =>
        ({ args := [], disk := disk "", userFile := "" }, { c with apiBase := some base })
    let s (source : BaseSource) : Except Failure String :=
      ((runs source).1.settings (runs source).2).map Settings.executeUrl
    (∀ source, BaseFrom source base {} {} (runs source).1 (runs source).2) ∧
      s .file = .ok " http://b/ /api/execute" ∧ s .commandLine = s .file ∧
      s .environment = .ok "http://b/api/execute" := by
  intro base disk c runs s
  have reads (text : String) (inFile : Option String)
      (parses : FileSettings.parse? text = some { apiBase := inFile })
      (accepted : ∀ other ∈ inFile, Text.allBlank other = false) :
      FileSettings.ReadFrom (disk text) "c" { apiBase := inFile } := by
    obtain ⟨es, hes, set⟩ := FileSettings.parse?_eq_some_iff.mp parses
    exact ⟨⟨text, es, rfl, hes, set⟩, accepted⟩
  have unset : FileSettings.parse? "" = some { apiBase := none } := by decide +kernel
  have set : FileSettings.parse? "api_base = ' http://b/ '" = some { apiBase := some base } := by
    decide +kernel
  have given : ∀ source, BaseFrom source base {} {} (runs source).1 (runs source).2 := by
    intro source
    cases source with
    | file =>
      exact ⟨some base, .named (reads _ _ set (by decide)), ⟨rfl, .none, .none⟩, .file⟩
    | environment =>
      exact ⟨none, .named (reads _ _ unset nofun), ⟨rfl, .none, .none⟩, .environment none⟩
    | commandLine =>
      have decides : BaseSource.Decides base .commandLine none none (some base) :=
        .commandLine none none nofun
      exact ⟨none, .named (reads _ _ unset nofun), ⟨rfl, .none, .none⟩, decides⟩
  obtain ⟨t, loads, -, urls, same, -⟩ := sources_agree_iff (by decide) {} {} runs given
  have hs (source : BaseSource) : s source = .ok (t source).executeUrl := by
    unfold s
    rw [loads source]
    rfl
  refine ⟨given, (hs .file).trans ?_, (hs .commandLine).trans ?_, (hs .environment).trans ?_⟩
  · rw [urls]
    decide
  · rw [same]
    exact (hs .file).symm
  · rw [urls]
    decide

end TemplateClient
