import TemplateClient.Proofs.Prelude
import TemplateClient.Proofs.Settings.Layers

/-!
# What refused variables leave behind

The variables of an environment are taken up one after the other, and the base is checked after the
last of them. A variable that is refused stops the rest, but what was taken up before it stays in
the settings, and so does a base that the check refuses. Variables that are accepted once are
accepted again, and then nothing changes.

* `Settings.StopsAt` -- what has been taken up when variables are refused, and why they are;
* `Settings.applyEnv_eq_error_iff` -- the settings that refused variables leave;
* `EnvironmentLayer.HeldBy`, `Settings.withVariables_eq_self_iff` -- when nothing has changed;
* `Settings.taken_up_stays` -- refused and accepted variables in one.
-/

namespace TemplateClient

/-- Settings have the values of the layer already. -/
structure EnvironmentLayer.HeldBy (e : EnvironmentLayer) (s : Settings) : Prop where
  apiBase : ∀ base ∈ e.apiBase, base = s.apiBase
  fadeIn : ∀ n ∈ e.fadeIn, n = s.overlay.fadeIn
  fadeOut : ∀ n ∈ e.fadeOut, n = s.overlay.fadeOut

namespace Settings

/-! ## 1. Layers on top of settings -/

/-- A layer changes nothing if the settings have its values already. -/
theorem withVariables_eq_self_iff {e : EnvironmentLayer} {s : Settings} :
    s.withVariables e = s ↔ e.HeldBy s := by
  obtain ⟨base, ⟨fadeIn, fadeOut⟩, defaults⟩ := s
  simp only [withVariables, Settings.mk.injEq, OverlayTimings.mk.injEq, and_true,
    Option.getD_eq_self_iff]
  exact ⟨fun ⟨h, hin, hout⟩ => ⟨h, hin, hout⟩, fun h => ⟨h.apiBase, h.fadeIn, h.fadeOut⟩⟩

theorem heldBy_withVariables (e : EnvironmentLayer) (s : Settings) :
    e.HeldBy (s.withVariables e) := by
  constructor <;> intro a ha <;> simp [withVariables, Option.mem_def.mp ha]

/-! ## 2. Where variables stop -/

/-- What has been taken up when variables are refused, and the reason. The base is taken up in any
case, and checked at the end; a time stops the rest if its variable is no number. -/
inductive StopsAt (lookup? : String → Option String) (s : Settings) :
    EnvironmentLayer → SettingsError → Prop where
  | fadeIn {value : String} (set : lookup? fadeInKey = some value)
      (noTime : ∀ n, ¬ MillisText value n) :
      StopsAt lookup? s ⟨(lookup? apiBaseKey).map Text.trim, none, none⟩
        (.notMillis fadeInKey value)
  | fadeOut {fadeIn : Option Nat} {value : String}
      (before : Option.Rel MillisText (lookup? fadeInKey) fadeIn)
      (set : lookup? fadeOutKey = some value) (noTime : ∀ n, ¬ MillisText value n) :
      StopsAt lookup? s ⟨(lookup? apiBaseKey).map Text.trim, fadeIn, none⟩
        (.notMillis fadeOutKey value)
  | base {e : EnvironmentLayer} (sets : e.SetBy lookup?)
      (blank : Text.allBlank (e.apiBase.getD s.apiBase) = true) : StopsAt lookup? s e .emptyBase

theorem validate_eq_error_iff {s : Settings} {e : SettingsError} :
    s.validate = .error e ↔ Text.allBlank s.apiBase = true ∧ e = .emptyBase := by
  unfold validate
  split
  · next h => simp [h, eq_comm]
  · next h => simp [h]

theorem fadeFrom_eq_error_iff {key : String} {env : Environment} {old : Nat} {e : SettingsError} :
    fadeFrom key env old = .error e ↔
      ∃ value, env.lookup key = some value ∧ (∀ n, ¬ MillisText value n) ∧
        e = .notMillis key value := by
  unfold fadeFrom
  cases env.lookup key with
  | none => exact iff_of_false nofun nofun
  | some value => simp [parseMillis_eq_error_iff]

/-- **The settings that refused variables leave** have what was taken up before the refusal. -/
theorem applyEnv_eq_error_iff {env : Environment} {s s' : Settings} {cause : SettingsError} :
    s.applyEnv env = (s', .error cause) ↔
      ∃ taken, s.StopsAt (List.lookup · env) taken cause ∧ s' = s.withVariables taken := by
  constructor
  · intro h
    dsimp only [applyEnv] at h
    split at h
    · next e hin =>
      obtain ⟨rfl, hcause⟩ := Prod.mk.inj h
      obtain ⟨value, set, noTime, rfl⟩ := fadeFrom_eq_error_iff.mp hin
      obtain rfl := Except.error.inj hcause
      exact ⟨_, .fadeIn set noTime, rfl⟩
    · next fadeIn hin =>
      obtain ⟨timeIn, givesIn, rfl⟩ := fadeFrom_eq_ok_iff.mp hin
      split at h
      · next e hout =>
        obtain ⟨rfl, hcause⟩ := Prod.mk.inj h
        obtain ⟨value, set, noTime, rfl⟩ := fadeFrom_eq_error_iff.mp hout
        obtain rfl := Except.error.inj hcause
        exact ⟨_, .fadeOut givesIn set noTime, rfl⟩
      · next fadeOut hout =>
        obtain ⟨timeOut, givesOut, rfl⟩ := fadeFrom_eq_ok_iff.mp hout
        obtain ⟨rfl, hinvalid⟩ := Prod.mk.inj h
        obtain ⟨blank, rfl⟩ := validate_eq_error_iff.mp hinvalid
        exact ⟨⟨_, timeIn, timeOut⟩, .base ⟨rfl, givesIn, givesOut⟩ blank, rfl⟩
  · rintro ⟨taken, stops, rfl⟩
    cases stops with
    | fadeIn set noTime =>
      have hin : fadeFrom fadeInKey env s.overlay.fadeIn = .error _ :=
        fadeFrom_eq_error_iff.mpr ⟨_, set, noTime, rfl⟩
      simp only [applyEnv, hin]
      rfl
    | fadeOut before set noTime =>
      have hin : fadeFrom fadeInKey env s.overlay.fadeIn = .ok _ :=
        fadeFrom_eq_ok_iff.mpr ⟨_, before, rfl⟩
      have hout : fadeFrom fadeOutKey env s.overlay.fadeOut = .error _ :=
        fadeFrom_eq_error_iff.mpr ⟨_, set, noTime, rfl⟩
      simp only [applyEnv, hin, hout]
      rfl
    | base sets blank =>
      have hin : fadeFrom fadeInKey env s.overlay.fadeIn = .ok _ :=
        fadeFrom_eq_ok_iff.mpr ⟨_, sets.fadeIn, rfl⟩
      have hout : fadeFrom fadeOutKey env s.overlay.fadeOut = .ok _ :=
        fadeFrom_eq_ok_iff.mpr ⟨_, sets.fadeOut, rfl⟩
      simp only [applyEnv, hin, hout, ← sets.apiBase]
      exact Prod.ext rfl (validate_eq_error_iff.mpr ⟨blank, rfl⟩)

/-- **Variables that are accepted are accepted again**, and change nothing more. -/
theorem applyEnv_of_ok {env : Environment} {s s' : Settings} (h : s.applyEnv env = (s', .ok ())) :
    s'.applyEnv env = (s', .ok ()) := by
  obtain ⟨e, sets, base, rfl⟩ := applyEnv_eq_ok_iff.mp h
  refine applyEnv_eq_ok_iff.mpr ⟨e, sets, ?_, ?_⟩
  · rwa [Option.getD_eq_self_iff.mpr (heldBy_withVariables e s).apiBase]
  · exact (withVariables_eq_self_iff.mpr (heldBy_withVariables e s)).symm

/-- **What is taken up stays.** Refused variables leave the settings with exactly what was taken up
before the refusal, so that the settings are as they were only if they had those values already. Of
accepted variables nothing is left to change: they are accepted again, and the settings stay. -/
theorem taken_up_stays (env : Environment) (s : Settings) :
    (∀ s' cause, s.applyEnv env = (s', .error cause) ↔
      ∃ taken, s.StopsAt (List.lookup · env) taken cause ∧ s' = s.withVariables taken) ∧
    (∀ taken cause, s.StopsAt (List.lookup · env) taken cause →
      ((s.applyEnv env).1 = s ↔ taken.HeldBy s)) ∧
    ∀ s', s.applyEnv env = (s', .ok ()) → s'.applyEnv env = (s', .ok ()) := by
  refine ⟨fun _ _ => applyEnv_eq_error_iff, fun taken cause stops => ?_, fun _ => applyEnv_of_ok⟩
  rw [applyEnv_eq_error_iff.mpr ⟨taken, stops, rfl⟩]
  exact withVariables_eq_self_iff

/-- A base stays that was taken up before a time was refused, and one that was refused itself. -/
theorem taken_up_stays_refused :
    let late : Environment := [(apiBaseKey, "http://b"), (fadeInKey, "soon")]
    let blank : Environment := [(apiBaseKey, " "), (fadeOutKey, "5")]
    let good : Environment := [(apiBaseKey, " http://b "), (fadeInKey, "+7")]
    let s : Settings := {}
    s.applyEnv late = ({ apiBase := "http://b" }, .error (.notMillis fadeInKey "soon")) ∧
      (s.applyEnv late).1 ≠ s ∧
      s.applyEnv blank = ({ apiBase := "", overlay := ⟨1000, 5⟩ }, .error .emptyBase) ∧
      s.applyEnv good = ({ apiBase := "http://b", overlay := ⟨7, 0⟩ }, .ok ()) ∧
      (s.applyEnv good).1.applyEnv good = ((s.applyEnv good).1, .ok ()) := by
  intro late blank good s
  have noTime : ∀ n, ¬ MillisText "soon" n := fun n h => by
    have hn : millis? "soon" = none := by decide
    rw [millis?_eq_some_iff.mpr h] at hn
    cases hn
  have stops : s.StopsAt (List.lookup · late) ⟨some "http://b", none, none⟩
      (.notMillis fadeInKey "soon") := .fadeIn rfl noTime
  have stopsBlank : s.StopsAt (List.lookup · blank) ⟨some "", none, some 5⟩ .emptyBase :=
    .base ⟨rfl, .none, .some (millis?_eq_some_iff.mp (by decide))⟩ (by decide)
  have accepted : s.applyEnv good = ({ apiBase := "http://b", overlay := ⟨7, 0⟩ }, .ok ()) := by
    decide
  refine ⟨((taken_up_stays late s).1 _ _).mpr ⟨_, stops, rfl⟩, fun same => ?_,
    ((taken_up_stays blank s).1 _ _).mpr ⟨_, stopsBlank, rfl⟩, accepted, ?_⟩
  · have held := (((taken_up_stays late s).2.1 _ _ stops).mp same).apiBase "http://b" rfl
    revert held
    decide
  · rw [accepted]
    exact (taken_up_stays good s).2.2 _ accepted

end Settings

end TemplateClient
