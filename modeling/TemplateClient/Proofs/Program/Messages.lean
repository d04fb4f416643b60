import TemplateClient.Proofs.CommandLine.Form
import TemplateClient.Proofs.Settings.Base

/-!
# What a run says when it stops

A run whose settings are refused, or whose form cannot be read, says why in one message. Here the
causes are told by what a run finds, and the messages are written out.

* `FileError.Told` -- the words for a file that cannot be read;
* `Invocation.SettingsStop`, `Invocation.settingsStop_of_error` -- settings that are refused;
* `Invocation.FormStop`, `Invocation.formStop_of_error` -- a form that cannot be read.
-/

namespace TemplateClient

/-! ## 1. Files -/

/-- The words of the system for the causes that it is known to name. -/
inductive FileError.Told : FileError → String → Prop where
  | notFound : Told .notFound "No such file or directory (os error 2)"
  | notDirectory : Told .notDirectory "Not a directory (os error 20)"
  | isDirectory : Told .isDirectory "Is a directory (os error 21)"
  | nameTooLong : Told .nameTooLong "File name too long (os error 36)"
  | zeroInName : Told .zeroInName "file name contained an unexpected NUL byte"
  | notText : Told .notText "stream did not contain valid UTF-8"
  | other (text : String) : Told (.other text) text

theorem FileError.told (cause : FileError) : cause.Told cause.message := by
  cases cause <;> constructor

namespace Invocation

variable {i : Invocation} {c : CommandLine}

/-! ## 2. Settings -/

/-- Why the settings of a run are refused, and the message that says so: the file in use cannot be
read, or it does not describe settings; the base is refused; or the variable of a time gives no
number. -/
inductive SettingsStop (i : Invocation) (c : CommandLine) : String → Prop where
  | unread {path words : String} {cause : FileError}
      (inUse : FileInUse i.disk i.userFile c.config path)
      (unreadable : (Source.file path).Unreadable i.disk i.input cause) (told : cause.Told words) :
      SettingsStop i c ("Failed to read file: " ++ words)
  | malformed {path text : String} (inUse : FileInUse i.disk i.userFile c.config path)
      (reads : i.disk.read path = .ok text.toUTF8)
      (undescribed : ∀ es f, Toml.parse? text = some es → ¬ FileSettings.SetBy es f) :
      SettingsStop i c ("Failed to parse TOML config: " ++ i.tomlWords text)
  | base (refused : BaseRefused i c.config) :
      SettingsStop i c "Configuration error: API base URL must not be empty"
  | time {f : FileSettings} {taken : EnvironmentLayer} {key value : String}
      (file : FileLayer i.disk i.userFile c.config f)
      (stops : (({} : Settings).withFile f).StopsAt i.lookup? taken (.notMillis key value)) :
      SettingsStop i c
        ("Configuration error: " ++ key ++ " must be a number of milliseconds, got '" ++ value ++
          "'")

/-- A file in use that is refused stops the run, unless it is for the base. -/
theorem settingsStop_of_file {path : String} {cause : Failure}
    (inUse : FileInUse i.disk i.userFile c.config path)
    (refused : Settings.fromFile i.tomlWords i.disk path = .error cause) :
    SettingsStop i c cause.message ∨ cause = .settings .emptyBase := by
  rcases Settings.fromFile_eq_error_iff.mp refused with ⟨e, unread, rfl⟩ | ⟨text, reads, hparse⟩
  · exact .inl (.unread inUse (Source.read_eq_error_iff.mp unread) e.told)
  · rcases Settings.parse_eq_error_iff.mp hparse with ⟨undescribed, rfl⟩ | ⟨-, rfl⟩
    · exact .inl (.malformed inUse reads undescribed)
    · exact .inr rfl

/-- **Settings that are refused** are refused for one of the causes, and the message tells it. -/
theorem settingsStop_of_error {cause : Failure} (refused : i.settings c = .error cause) :
    SettingsStop i c cause.message := by
  have hbase : cause = .settings .emptyBase → SettingsStop i c cause.message := by
    rintro rfl
    exact .base (settings_eq_emptyBase_iff.mp refused)
  rcases Settings.load_eq_error_iff.mp (settings_eq_error_iff.mp refused) with
    hfiles | ⟨s, e, hfiles, happly, rfl⟩
  · obtain ⟨path, inUse, hfile⟩ := Settings.fromFiles_eq_error_iff.mp hfiles
    exact (settingsStop_of_file inUse hfile).elim id hbase
  · obtain ⟨f, file, rfl⟩ := Settings.fromFiles_eq_ok_iff.mp hfiles
    obtain ⟨taken, stops, -⟩ := Settings.applyEnv_eq_error_iff.mp (Prod.ext rfl happly)
    rw [show (List.lookup · i.fullEnvironment) = i.lookup? from
      funext i.lookup_fullEnvironment] at stops
    have told : ∀ key value, (Failure.settings (.notMillis key value)).message =
        "Configuration error: " ++ key ++ " must be a number of milliseconds, got '" ++ value ++
          "'" := by
      intro key value
      change "Configuration error: " ++
        (key ++ " must be a number of milliseconds, got '" ++ value ++ "'") = _
      simp only [String.append_assoc]
    cases stops with
    | fadeIn set noTime =>
      rw [told]
      exact .time file (.fadeIn set noTime)
    | fadeOut before set noTime =>
      rw [told]
      exact .time file (.fadeOut before set noTime)
    | base => exact hbase rfl

/-! ## 3. Forms -/

/-- Why the form of a run cannot be read, and the message that says so: the first source without a
text is told. -/
inductive FormStop (i : Invocation) (c : CommandLine) : String → Prop where
  | unread {s : Settings} {words : String} {cause : FileError} (settings : i.settings c = .ok s)
      (fails : c.FailsAt i.disk i.input cause) (told : cause.Told words) :
      FormStop i c ("Failed to read file: " ++ words)

/-- **A form that cannot be read** has a source without a text. -/
theorem formStop_of_error {s : Settings} {cause : FileError} (settings : i.settings c = .ok s)
    (unreadable : c.readForm s.defaults i.disk i.input = .error cause) :
    FormStop i c (Failure.unreadableFile cause).message :=
  .unread settings (CommandLine.readForm_eq_error_iff.mp unreadable) cause.told

end Invocation

end TemplateClient
