import TemplateClient.Program.Process
import TemplateClient.Proofs.Settings.Sources

/-!
# Processes that panic

The runtime counts its worker threads before the program begins, and the variables of the
environment file are set before the settings are loaded. Either can end the process; any other
process is a run.

* `Invocation.Panics` -- what ends a process;
* `Invocation.process_of_panics`, `Invocation.process_of_not_panics` -- what becomes of it then, and
  otherwise.
-/

namespace TemplateClient

/-! ## 1. Variables that a file adds -/

namespace EnvironmentFile

/-- Lines add variables that have not been set, each once, with the value that it has from then
on. -/
theorem exists_added (env : Environment) (given : Given) (lines : List (Option (List Char))) :
    ∃ added, addLines env given lines = env ++ added ∧ ∀ e ∈ added, env.lookup e.1 = none ∧
      (addLines env given lines).lookup e.1 = some e.2 := by
  induction lines generalizing env given with
  | nil => exact ⟨[], (List.append_nil env).symm, nofun⟩
  | cons l ls ih =>
    have none_added : ∃ added, env = env ++ added ∧ ∀ e ∈ added, env.lookup e.1 = none ∧
      env.lookup e.1 = some e.2 := ⟨[], (List.append_nil env).symm, nofun⟩
    cases l with
    | none => exact none_added
    | some l =>
      rw [addLines]
      cases line? env given l with
      | none => exact none_added
      | some new =>
        cases new with
        | none => exact ih env given
        | some new =>
          obtain ⟨name, value⟩ := new
          dsimp only
          split
          · exact ih env _
          · next hset =>
            have unset : env.lookup name = none := Option.not_isSome_iff_eq_none.mp hset
            obtain ⟨added, hadded, each⟩ := ih (env ++ [(name, value)]) ((name, value) :: given)
            refine ⟨(name, value) :: added, by rw [hadded, List.append_assoc]; rfl, ?_⟩
            intro e he
            rcases List.mem_cons.mp he with rfl | he
            · refine ⟨unset, ?_⟩
              rw [lookup_addLines, List.lookup_append, unset]
              simp
            · obtain ⟨hnone, hsome⟩ := each e he
              rw [List.lookup_append, Option.or_eq_none_iff] at hnone
              exact ⟨hnone.1, hsome⟩

end EnvironmentFile

namespace Environment

/-- A file has a value that cannot be set if it gives one with a zero character to a variable that
is not set yet. -/
theorem filePanic?_isSome_iff {env : Environment} {content : ByteArray} :
    (env.filePanic? content).isSome ↔ ∃ name value, env.lookup name = none ∧
      (env.givenByFile content).lookup name = some value ∧ '\x00' ∈ value.toList := by
  unfold filePanic? withFile givenByFile
  dsimp only
  generalize EnvironmentFile.logicalLines [] .none _ = lines
  obtain ⟨added, hadded, each⟩ := EnvironmentFile.exists_added env [] lines
  rw [Option.isSome_map, List.find?_isSome]
  simp only [List.contains_iff_mem]
  constructor
  · rintro ⟨e, he, zero⟩
    rw [hadded, List.drop_left] at he
    obtain ⟨unset, hvalue⟩ := each e he
    rw [EnvironmentFile.lookup_addLines, unset, Option.none_or] at hvalue
    exact ⟨e.1, e.2, unset, hvalue, zero⟩
  · rintro ⟨name, value, unset, given, zero⟩
    have hlookup := EnvironmentFile.lookup_addLines env [] lines name
    rw [hadded, List.lookup_append, unset, Option.none_or, Option.none_or, given] at hlookup
    obtain ⟨front, back, rfl, -⟩ := List.lookup_eq_some_iff.mp hlookup
    refine ⟨(name, value), ?_, zero⟩
    rw [hadded, List.drop_left]
    exact List.mem_append_right front List.mem_cons_self

/-- An environment asks for a number of threads that cannot be had if the text is no number, or
zero. -/
theorem threadsPanic?_isSome_iff {env : Environment} :
    env.threadsPanic?.isSome ↔ ∃ value, env.lookup "TOKIO_WORKER_THREADS" = some value ∧
      ∀ n, WordText value.toList n → n = 0 := by
  unfold threadsPanic?
  rw [show threadsKey = "TOKIO_WORKER_THREADS" from rfl]
  cases env.lookup "TOKIO_WORKER_THREADS" with
  | none => simp
  | some value =>
    simp only [Option.some.injEq, exists_eq_left', ← word?_eq_some_iff]
    split
    · next hword => simp [hword]
    · next hword => simp [hword]
    · next n positive hword => simpa [hword] using positive

end Environment

/-! ## 2. Processes -/

namespace Invocation

variable {i : Invocation} {c : CommandLine} {net : Network}

/-- What ends a process whose arguments are a command: the number of worker threads that is asked
for is none, or zero, or the environment file gives a value with a zero character to a variable that
is not set. -/
inductive Panics (i : Invocation) : Prop where
  | threads {value : String} (asked : i.environment.lookup "TOKIO_WORKER_THREADS" = some value)
      (noThread : ∀ n, WordText value.toList n → n = 0) : Panics i
  | variable {name value : String} (unset : i.environment.lookup name = none)
      (given : i.dotEnv.lookup name = some value) (zero : '\x00' ∈ value.toList) : Panics i

theorem panics_iff : i.Panics ↔ i.environment.threadsPanic?.isSome ∨
    ∃ content, i.disk.read environmentFile = .ok content ∧
      (i.environment.filePanic? content).isSome := by
  simp only [Environment.threadsPanic?_isSome_iff, Environment.filePanic?_isSome_iff]
  constructor
  · intro h
    cases h with
    | threads asked noThread => exact .inl ⟨_, asked, noThread⟩
    | «variable» unset given zero =>
      unfold dotEnv at given
      split at given
      · next content reads => exact .inr ⟨content, reads, _, _, unset, given, zero⟩
      · cases given
  · rintro (⟨value, asked, noThread⟩ | ⟨content, reads, name, value, unset, given, zero⟩)
    · exact .threads asked noThread
    · refine .variable unset ?_ zero
      rw [dotEnv, reads]
      exact given

/-- A process panics if something is in its way, and says nothing on standard output then. -/
theorem panic?_eq (parses : CommandLine.parse i.args = .ok c) :
    (i.Panics → ∃ report, i.panic? = some report ∧ report.exitCode = 101 ∧ report.output = "") ∧
      (¬ i.Panics → i.panic? = none) := by
  rw [panics_iff]
  unfold panic?
  rw [parses]
  cases i.environment.threadsPanic? with
  | some message => exact ⟨fun _ => ⟨_, rfl, rfl, rfl⟩, fun h => absurd (.inl rfl) h⟩
  | none =>
    cases i.disk.read environmentFile with
    | error cause => simp
    | ok content => cases hfile : i.environment.filePanic? content <;> simp [hfile, panicCode]

section Parsed

variable (parses : CommandLine.parse i.args = .ok c)
include parses

/-- **A process that panics** asks nothing, and exits with a code of its own. -/
theorem process_of_panics (panics : i.Panics) (net : Network) :
    ∃ report, i.process net = (report, []) ∧ report.exitCode = 101 ∧ report.output = "" := by
  obtain ⟨report, hpanic, code, output⟩ := (panic?_eq parses).1 panics
  refine ⟨report, ?_, code, output⟩
  rw [process, start, hpanic]
  rfl

/-- **Any other process is a run.** -/
theorem process_of_not_panics (calm : ¬ i.Panics) (net : Network) : i.process net = i.run net := by
  rw [process, start, (panic?_eq parses).2 calm, run]

end Parsed

end Invocation

end TemplateClient
