import Mathlib.Data.List.Nodup
import Mathlib.Data.List.TakeWhile
import TemplateClient.CommandLine.Arguments
import TemplateClient.Proofs.Prelude
import TemplateClient.Text.Blank

/-!
# Which arguments are a command

The value of a flag is attached to it, or is the next argument. The reader settles a flag late, so
that what is wrong is told in the order of the arguments; a command that is accepted is the same as
if each flag had been settled at once. The relations here say which arguments give which values.

* `Argument.ofText_eq_iff` -- the outer form of an argument;
* `Flag.Written`, `Gives` -- how a flag is written, and what arguments give;
* `Reading.take_eq_ok_iff` -- what one argument does;
* `Reading.completes_iff` -- what all do: what is read is what is given;
* `CommandLine.parse_eq_ok_iff` -- the arguments that are a command.
-/

namespace TemplateClient

/-! ## 1. The outer form of an argument -/

/-- Text that stands for itself: it does not begin with a hyphen, or is one hyphen. -/
def IsPlain (text : String) : Prop := text = "-" ∨ text.toList.head? ≠ some '-'

namespace Argument

/-- The argument that has an outer form. -/
def text : Argument → String
  | .separator => "--"
  | .long name none => "--" ++ name
  | .long name (some value) => "--" ++ name ++ "=" ++ value
  | .short letter rest => String.ofList ('-' :: letter :: rest)
  | .plain text => text

/-- The outer forms that an argument can have. -/
inductive WellFormed : Argument → Prop where
  | separator : WellFormed .separator
  | long {name : String} {value : Option String} (noSign : '=' ∉ name.toList)
      (nonempty : name ≠ "" ∨ value.isSome) : WellFormed (.long name value)
  | short {letter : Char} {rest : List Char} (noHyphen : letter ≠ '-') :
      WellFormed (.short letter rest)
  | plain {text : String} (isPlain : IsPlain text) : WellFormed (.plain text)

/-- A name ends before its equals sign, if there is one. -/
theorem span_name {name : List Char} (noSign : '=' ∉ name) (rest : List Char)
    (stop : ∀ c ∈ rest.head?, c = '=') :
    (name ++ rest).takeWhile (· != '=') = name ∧ (name ++ rest).dropWhile (· != '=') = rest := by
  refine Text.span_run (fun c hc => bne_iff_ne.mpr ?_) (fun c hc => by simp [stop c hc])
  rintro rfl
  exact noSign hc

/-- Behind two hyphens stand a name and, after an equals sign, a value. -/
theorem ofText_hyphens {s : String} {cs : List Char} (hs : s.toList = '-' :: '-' :: cs)
    (nonempty : cs ≠ []) :
    ofText s = .long (String.ofList (cs.takeWhile (· != '=')))
      ((cs.dropWhile (· != '=')).tail?.map String.ofList) := by
  obtain ⟨c, cs, rfl⟩ := List.exists_cons_of_ne_nil nonempty
  simp only [ofText, hs]
  cases (c :: cs).dropWhile (· != '=') <;> rfl

/-- An outer form is read from the argument that has it. -/
theorem ofText_text {a : Argument} (wellFormed : a.WellFormed) : ofText a.text = a := by
  cases wellFormed with
  | separator => rfl
  | @long name value noSign nonempty =>
    cases value with
    | none =>
      have hname : name.toList ≠ [] := by simpa using nonempty
      have hs : (Argument.long name none).text.toList = '-' :: '-' :: name.toList := by simp [text]
      obtain ⟨take, drop⟩ := span_name noSign [] nofun
      rw [List.append_nil] at take drop
      rw [ofText_hyphens hs hname, take, drop, String.ofList_toList]
      rfl
    | some v =>
      have hs : (Argument.long name (some v)).text.toList =
          '-' :: '-' :: (name.toList ++ '=' :: v.toList) := by simp [text]
      obtain ⟨take, drop⟩ := span_name noSign ('=' :: v.toList) (by simp)
      rw [ofText_hyphens hs (by simp), take, drop, String.ofList_toList, List.tail?_cons,
        Option.map_some, String.ofList_toList]
  | @short letter rest noHyphen =>
    rw [ofText, text, String.toList_ofList]
    simp [noHyphen]
  | @plain s isPlain =>
    rcases isPlain with rfl | hyphenless
    · rfl
    · rw [ofText, text]
      split <;> simp_all

theorem text_ofText_hyphens {s : String} {cs : List Char} (hs : s.toList = '-' :: '-' :: cs)
    (nonempty : cs ≠ []) : (ofText s).WellFormed ∧ (ofText s).text = s := by
  rw [ofText_hyphens hs nonempty]
  have noSign : '=' ∉ cs.takeWhile (· != '=') := fun h => by
    simpa using List.mem_takeWhile_imp h
  have stop := List.head?_dropWhile_not (· != '=') cs
  have split := cs.takeWhile_append_dropWhile (p := (· != '='))
  generalize cs.takeWhile (· != '=') = name at noSign split ⊢
  cases hdrop : cs.dropWhile (· != '=') with
  | nil =>
    rw [hdrop, List.append_nil] at split
    refine ⟨.long (by simpa using noSign) (.inl (by simpa [split] using nonempty)), ?_⟩
    exact String.toList_inj.mp (by simp [text, hs, split])
  | cons c value =>
    rw [hdrop] at split stop
    obtain rfl : c = '=' := by simpa using stop
    refine ⟨.long (by simpa using noSign) (.inr rfl), ?_⟩
    exact String.toList_inj.mp (by simp [text, hs, split])

/-- Every argument has the outer form that is read from it. -/
theorem text_ofText (s : String) : (ofText s).WellFormed ∧ (ofText s).text = s := by
  by_cases hyphen : s.toList.head? = some '-'
  · obtain ⟨cs, hs⟩ := List.head?_eq_some_iff.mp hyphen
    cases cs with
    | nil =>
      obtain rfl : s = "-" := String.toList_inj.mp hs
      exact ⟨.plain (.inl rfl), rfl⟩
    | cons letter rest =>
      by_cases second : letter = '-'
      · subst second
        cases rest with
        | nil =>
          obtain rfl : s = "--" := String.toList_inj.mp hs
          exact ⟨.separator, rfl⟩
        | cons c cs => exact text_ofText_hyphens hs (List.cons_ne_nil c cs)
      · have hform : ofText s = .short letter rest := by simp [ofText, hs, second]
        rw [hform]
        exact ⟨.short second, String.toList_inj.mp (by simp [text, hs])⟩
  · have hform : ofText s = .plain s := by
      unfold ofText
      split <;> simp_all
    rw [hform]
    exact ⟨.plain (.inr hyphen), rfl⟩

/-- **The outer form of an argument.** -/
theorem ofText_eq_iff {s : String} {a : Argument} :
    ofText s = a ↔ a.WellFormed ∧ s = a.text := by
  constructor
  · rintro rfl
    exact ⟨(text_ofText s).1, (text_ofText s).2.symm⟩
  · rintro ⟨wellFormed, rfl⟩
    exact ofText_text wellFormed

end Argument

/-! ## 2. Flags -/

namespace Flag

/-- The ways to write a flag in one argument, with its value attached or without. A value that is
attached to a letter may stand behind an equals sign. -/
inductive Written : Flag → Option String → String → Prop where
  | long (f : Flag) : Written f none ("--" ++ f.long)
  | longWith (f : Flag) (value : String) : Written f (some value) ("--" ++ f.long ++ "=" ++ value)
  | short {f : Flag} {letter : Char} (hasLetter : f.short? = some letter) :
      Written f none (String.ofList ['-', letter])
  | shortWith {f : Flag} {letter : Char} (hasLetter : f.short? = some letter) (value : String) :
      Written f (some value) (String.ofList ('-' :: letter :: '=' :: value.toList))
  | shortBefore {f : Flag} {letter : Char} (hasLetter : f.short? = some letter) {c : Char}
      {cs : List Char} (noSign : c ≠ '=') :
      Written f (some (String.ofList (c :: cs))) (String.ofList ('-' :: letter :: c :: cs))

theorem ofLong?_eq_some_iff {name : String} {f : Flag} : ofLong? name = some f ↔ name = f.long := by
  constructor
  · intro h
    have hname := List.find?_some h
    exact (eq_of_beq hname).symm
  · rintro rfl
    exact ofLong?_long f

theorem ofShort?_eq_some_iff {letter : Char} {f : Flag} :
    ofShort? letter = some f ↔ f.short? = some letter := by
  constructor
  · intro h
    have hletter := List.find?_some h
    exact eq_of_beq hletter
  · intro h
    cases f <;> cases h <;> decide

theorem long_wellFormed (f : Flag) (value : Option String) :
    (Argument.long f.long value).WellFormed := by
  cases f <;> exact .long (by decide) (.inl (by decide))

theorem short?_ne_hyphen {f : Flag} {letter : Char} (h : f.short? = some letter) :
    letter ≠ '-' := by
  cases f <;> cases h <;> decide

/-- **How a flag is written** is told by the outer form of the argument. -/
theorem written_iff {f : Flag} {value : Option String} {s : String} :
    Written f value s ↔
      Argument.ofText s = .long f.long value ∨
      ∃ letter rest, Argument.ofText s = .short letter rest ∧ f.short? = some letter ∧
        attached? rest = value := by
  simp only [Argument.ofText_eq_iff]
  constructor
  · intro h
    cases h with
    | long => exact .inl ⟨f.long_wellFormed none, rfl⟩
    | longWith value => exact .inl ⟨f.long_wellFormed (some value), rfl⟩
    | short hasLetter =>
      exact .inr ⟨_, [], ⟨.short (short?_ne_hyphen hasLetter), rfl⟩, hasLetter, rfl⟩
    | shortWith hasLetter value =>
      refine .inr ⟨_, _, ⟨.short (short?_ne_hyphen hasLetter), rfl⟩, hasLetter, ?_⟩
      rw [attached?, String.ofList_toList]
    | shortBefore hasLetter noSign =>
      refine .inr ⟨_, _, ⟨.short (short?_ne_hyphen hasLetter), rfl⟩, hasLetter, ?_⟩
      simp [attached?, noSign]
  · rintro (⟨-, rfl⟩ | ⟨letter, rest, ⟨-, rfl⟩, hasLetter, rfl⟩)
    · cases value with
      | none => exact .long f
      | some value => exact .longWith f value
    · cases rest with
      | nil => exact .short hasLetter
      | cons c cs =>
        by_cases sign : c = '='
        · subst sign
          have written := Written.shortWith hasLetter (String.ofList cs)
          rwa [String.toList_ofList] at written
        · have hattached : attached? (c :: cs) = some (String.ofList (c :: cs)) := by
            simp [attached?, sign]
          rw [hattached]
          exact .shortBefore hasLetter sign

end Flag

/-! ## 3. What arguments give -/

/-- The values that arguments give, in their order. Behind two hyphens nothing may follow. -/
inductive Gives : List String → List (Flag × String) → Prop where
  | none : Gives [] []
  | separator : Gives ["--"] []
  | attached {f : Flag} {value s : String} {ss : List String} {given : List (Flag × String)}
      (written : f.Written (some value) s) (rest : Gives ss given) :
      Gives (s :: ss) ((f, value) :: given)
  | separate {f : Flag} {value s : String} {ss : List String} {given : List (Flag × String)}
      (written : f.Written none s) (plain : IsPlain value) (rest : Gives ss given) :
      Gives (s :: value :: ss) ((f, value) :: given)

/-- Values that are accepted together: no flag has two, and no path is empty. -/
structure Allowed (given : List (Flag × String)) : Prop where
  once : (given.map Prod.fst).Nodup
  paths : ∀ x ∈ given, x.1.isPath = true → x.2 ≠ ""

theorem Allowed.nil : Allowed [] := ⟨List.nodup_nil, nofun⟩

theorem Allowed.of_append {before after : List (Flag × String)} (h : Allowed (before ++ after)) :
    Allowed before := by
  obtain ⟨once, paths⟩ := h
  rw [List.map_append] at once
  exact ⟨once.of_append_left, fun x hx => paths x (List.mem_append_left after hx)⟩

theorem Allowed.append_iff {before : List (Flag × String)} (h : Allowed before) {f : Flag}
    {value : String} :
    Allowed (before ++ [(f, value)]) ↔
      before.lookup f = none ∧ (f.isPath = true → value ≠ "") := by
  have hlookup : before.lookup f = none ↔ f ∉ before.map Prod.fst := by
    grind
  constructor
  · rintro ⟨once, paths⟩
    rw [List.map_append, List.nodup_append] at once
    refine ⟨hlookup.mpr fun hmem => ?_, paths (f, value) (by simp)⟩
    exact once.2.2 f hmem f (by simp) rfl
  · rintro ⟨new, path⟩
    refine ⟨?_, fun x hx => ?_⟩
    · rw [List.map_append, List.nodup_append]
      refine ⟨h.once, by simp, fun g hg g' hg' => ?_⟩
      obtain rfl := List.mem_singleton.mp hg'
      rintro rfl
      exact hlookup.mp new hg
    · rcases List.mem_append.mp hx with hx | hx
      · exact h.paths x hx
      · obtain rfl := List.mem_singleton.mp hx
        exact path

/-! ## 4. The reading -/

namespace Reading

variable {r r' : Reading}

/-- The effect of one argument: two hyphens, a flag, or the value that a flag waits for. -/
inductive Takes (r : Reading) (s : String) : Reading → Prop where
  | separator (hyphens : s = "--") : Takes r s { r with closed := true }
  | flag {f : Flag} {value : Option String} {r' : Reading} (written : f.Written value s)
      (taken : r.takeFlag f value = .ok r') : Takes r s r'
  | value {f : Flag} (plain : IsPlain s) (waits : r.pending = .waiting f) :
      Takes r s { r with pending := .holding f s }

/-- A reading that stops gives no reading. -/
theorem stop_ne_ok {why : UsageStop} : r.stop why ≠ .ok r' := by
  simp [stop, Except.bind_eq_ok_iff, throw, throwThe, MonadExceptOf.throw]

/-- Whatever is accepted is two hyphens, a flag or a value. The cases are the outer forms. -/
theorem takes_of_take {s : String} (opened : r.closed = false) (h : r.take s = .ok r') :
    Takes r s r' := by
  unfold take at h
  rw [if_neg (by rw [opened]; decide)] at h
  cases hform : Argument.ofText s with
  | separator =>
    simp only [hform, Except.ok.injEq] at h
    exact h ▸ .separator (Argument.ofText_eq_iff.mp hform).2
  | long name value =>
    simp only [hform] at h
    split at h
    · next f hflag =>
      obtain rfl := Flag.ofLong?_eq_some_iff.mp hflag
      exact .flag (Flag.written_iff.mpr (.inl hform)) h
    · split at h
      · split at h
        · cases h
        · exact absurd h stop_ne_ok
      · cases h
  | short letter rest =>
    simp only [hform] at h
    split at h
    · next f hflag =>
      have hasLetter := Flag.ofShort?_eq_some_iff.mp hflag
      exact .flag (Flag.written_iff.mpr (.inr ⟨letter, rest, hform, hasLetter, rfl⟩)) h
    · split at h
      · exact absurd h stop_ne_ok
      · split at h
        · exact absurd h stop_ne_ok
        · cases h
  | plain text =>
    simp only [hform] at h
    obtain ⟨⟨plain⟩, rfl⟩ := Argument.ofText_eq_iff.mp hform
    split at h
    · next f waits =>
      obtain rfl := Except.ok.inj h
      exact .value ‹_› waits
    · cases h

/-- **What one argument does**, if it is accepted. -/
theorem take_eq_ok_iff {s : String} : r.take s = .ok r' ↔ r.closed = false ∧ Takes r s r' := by
  constructor
  · intro h
    have opened : r.closed = false := by
      rw [← Bool.not_eq_true]
      intro closed
      rw [take, if_pos closed] at h
      cases h
    exact ⟨opened, takes_of_take opened h⟩
  · rintro ⟨opened, takes⟩
    rw [take, if_neg (by rw [opened]; decide)]
    cases takes with
    | separator hyphens => rw [hyphens]; rfl
    | flag written taken =>
      rcases Flag.written_iff.mp written with hform | ⟨letter, rest, hform, hasLetter, rfl⟩
      · simpa only [hform, Flag.ofLong?_long] using taken
      · simpa only [hform, Flag.ofShort?_eq_some_iff.mpr hasLetter] using taken
    | value plain waits =>
      have hform : Argument.ofText s = .plain s := Argument.ofText_eq_iff.mpr ⟨.plain plain, rfl⟩
      simp only [hform, waits]

/-- A flag is settled if its value can be added to those before. -/
theorem assign_eq_ok_iff (allowed : Allowed r.values) {f : Flag} {value : String} :
    r.assign f value = .ok r' ↔
      Allowed (r.values ++ [(f, value)]) ∧ r' = { r with values := r.values ++ [(f, value)] } := by
  rw [allowed.append_iff]
  unfold assign
  cases hlookup : r.values.lookup f with
  | some old => exact iff_of_false nofun fun h => nomatch h.1.1
  | none =>
    rw [if_neg (by simp), and_iff_right rfl]
    split
    · next empty =>
      obtain ⟨path, blank⟩ := Bool.and_eq_true_iff.mp empty
      exact iff_of_false nofun fun h => h.1 path (String.isEmpty_iff.mp blank)
    · next notEmpty =>
      rw [Except.ok.injEq, eq_comm]
      have paths : f.isPath = true → value ≠ "" := fun path blank =>
        notEmpty (Bool.and_eq_true_iff.mpr ⟨path, String.isEmpty_iff.mpr blank⟩)
      exact ⟨fun h => ⟨paths, h⟩, fun h => h.2⟩

/-- A flag waits for its value. -/
def Waits (r : Reading) : Prop := ∃ f, r.pending = .waiting f

theorem not_waits_nothing {values : List (Flag × String)} {closed : Bool} :
    ¬ (⟨values, .nothing, closed⟩ : Reading).Waits := fun ⟨_, h⟩ => nomatch h

theorem not_waits_holding {values : List (Flag × String)} {f : Flag} {value : String}
    {closed : Bool} : ¬ (⟨values, .holding f value, closed⟩ : Reading).Waits :=
  fun ⟨_, h⟩ => nomatch h

/-- The values that have been read, the last one perhaps not settled yet. -/
def given (r : Reading) : List (Flag × String) :=
  match r.pending with
  | .holding f value => r.values ++ [(f, value)]
  | _ => r.values

/-- **A reading is settled** if no flag waits and all that was read is accepted together. -/
theorem settle_eq_ok_iff (allowed : Allowed r.values) :
    r.settle = .ok r' ↔
      ¬ r.Waits ∧ Allowed r.given ∧ r' = { r with values := r.given, pending := .nothing } := by
  obtain ⟨values, pending, closed⟩ := r
  cases pending with
  | nothing => simp [settle, Waits, given, allowed, eq_comm]
  | waiting f => simp [settle, Waits]
  | holding f value =>
    have before : Allowed (⟨values, .nothing, closed⟩ : Reading).values := allowed
    simpa [settle, Waits, given] using assign_eq_ok_iff before

/-- A flag without a value waits for one. -/
theorem takeFlag_none_iff (allowed : Allowed r.values) {f : Flag} :
    r.takeFlag f none = .ok r' ↔
      ¬ r.Waits ∧ Allowed r.given ∧ r' = { r with values := r.given, pending := .waiting f } := by
  simp only [takeFlag, Except.bind_eq_ok_iff, settle_eq_ok_iff allowed]
  constructor
  · rintro ⟨r₁, ⟨still, accepted, rfl⟩, ⟨⟩⟩
    exact ⟨still, accepted, rfl⟩
  · rintro ⟨still, accepted, rfl⟩
    exact ⟨_, ⟨still, accepted, rfl⟩, rfl⟩

/-- A flag with its value is settled at once. -/
theorem takeFlag_some_iff (allowed : Allowed r.values) {f : Flag} {value : String} :
    r.takeFlag f (some value) = .ok r' ↔
      ¬ r.Waits ∧ Allowed (r.given ++ [(f, value)]) ∧
        r' = { r with values := r.given ++ [(f, value)], pending := .nothing } := by
  simp only [takeFlag, Except.bind_eq_ok_iff, settle_eq_ok_iff allowed]
  constructor
  · rintro ⟨r₁, ⟨still, before, rfl⟩, assigned⟩
    exact ⟨still, (assign_eq_ok_iff before).mp assigned⟩
  · rintro ⟨still, after, rfl⟩
    exact ⟨_, ⟨still, after.of_append, rfl⟩, (assign_eq_ok_iff after.of_append).mpr ⟨after, rfl⟩⟩

/-- The reading goes through all arguments and ends with these values. -/
def Completes (r : Reading) (ss : List String) (values : List (Flag × String)) : Prop :=
  ∃ r₁ r₂, ss.foldlM take r = .ok r₁ ∧ r₁.settle = .ok r₂ ∧ r₂.values = values

variable {s : String} {ss : List String} {values : List (Flag × String)}

theorem completes_nil (allowed : Allowed r.values) :
    Completes r [] values ↔ ¬ r.Waits ∧ Allowed r.given ∧ values = r.given := by
  unfold Completes
  constructor
  · rintro ⟨r₁, r₂, ⟨⟩, settled, rfl⟩
    obtain ⟨still, accepted, rfl⟩ := (settle_eq_ok_iff allowed).mp settled
    exact ⟨still, accepted, rfl⟩
  · rintro ⟨still, accepted, rfl⟩
    exact ⟨r, _, rfl, (settle_eq_ok_iff allowed).mpr ⟨still, accepted, rfl⟩, rfl⟩

theorem completes_cons : Completes r (s :: ss) values ↔
    ∃ r', r.take s = .ok r' ∧ Completes r' ss values := by
  simp only [Completes, List.foldlM_cons, Except.bind_eq_ok_iff]
  exact ⟨fun ⟨r₁, r₂, ⟨r', taken, rest⟩, ends⟩ => ⟨r', taken, r₁, r₂, rest, ends⟩,
    fun ⟨r', taken, r₁, r₂, rest, ends⟩ => ⟨r₁, r₂, ⟨r', taken, rest⟩, ends⟩⟩

/-- Behind two hyphens only the end is accepted. -/
theorem nil_of_closed (closed : r.closed = true) (h : Completes r ss values) : ss = [] := by
  cases ss with
  | nil => rfl
  | cons s ss =>
    obtain ⟨r', taken, -⟩ := completes_cons.mp h
    rw [(take_eq_ok_iff.mp taken).1] at closed
    cases closed

/-- A flag that waits takes the next argument. -/
theorem exists_value {f : Flag} (waits : r.pending = .waiting f) (allowed : Allowed r.values)
    (h : Completes r ss values) :
    ∃ value rest, ss = value :: rest ∧ IsPlain value ∧
      Completes { r with pending := .holding f value } rest values := by
  cases ss with
  | nil =>
    obtain ⟨still, -⟩ := (completes_nil allowed).mp h
    exact absurd ⟨f, waits⟩ still
  | cons value rest =>
    obtain ⟨r', taken, completes⟩ := completes_cons.mp h
    cases (take_eq_ok_iff.mp taken).2 with
    | separator =>
      obtain rfl := nil_of_closed rfl completes
      obtain ⟨still, -⟩ := (completes_nil (by exact allowed)).mp completes
      exact absurd ⟨f, waits⟩ still
    | @flag _ value _ written taken =>
      have still : ¬ r.Waits := by
        cases value with
        | none => exact ((takeFlag_none_iff allowed).mp taken).1
        | some value => exact ((takeFlag_some_iff allowed).mp taken).1
      exact absurd ⟨f, waits⟩ still
    | value plain waits' =>
      obtain rfl := Pending.waiting.inj (waits.symm.trans waits')
      exact ⟨value, rest, rfl, plain, completes⟩

/-- What is read was given. The recursion is on the arguments, which fall into flags with their
values; a value that is not attached is the argument behind its flag. -/
theorem Completes.gives {r : Reading} {ss : List String} (still : ¬ r.Waits)
    (allowed : Allowed r.values) (h : Completes r ss values) :
    ∃ given, Gives ss given ∧ values = r.given ++ given ∧ Allowed values := by
  cases ss with
  | nil =>
    obtain ⟨-, accepted, rfl⟩ := (completes_nil allowed).mp h
    exact ⟨[], .none, (List.append_nil _).symm, accepted⟩
  | cons s ss =>
    obtain ⟨r', taken, completes⟩ := completes_cons.mp h
    cases (take_eq_ok_iff.mp taken).2 with
    | separator hyphens =>
      subst hyphens
      obtain rfl := nil_of_closed rfl completes
      obtain ⟨-, accepted, rfl⟩ := (completes_nil (by exact allowed)).mp completes
      exact ⟨[], .separator, (List.append_nil _).symm, accepted⟩
    | @flag f value _ written taken =>
      cases value with
      | some value =>
        obtain ⟨-, accepted, rfl⟩ := (takeFlag_some_iff allowed).mp taken
        obtain ⟨given, gives, rfl, all⟩ := Completes.gives not_waits_nothing accepted completes
        exact ⟨_, .attached written gives, by simp [Reading.given], all⟩
      | none =>
        obtain ⟨-, accepted, rfl⟩ := (takeFlag_none_iff allowed).mp taken
        obtain ⟨value, rest, rfl, plain, completes⟩ := exists_value rfl accepted completes
        obtain ⟨given, gives, rfl, all⟩ := Completes.gives not_waits_holding accepted completes
        exact ⟨_, .separate written plain gives, by simp [Reading.given], all⟩
    | @value f plain waits => exact absurd ⟨f, waits⟩ still
termination_by ss.length

/-- What is given is read. A value that is not attached is settled by what follows it. -/
theorem completes_of_gives {given : List (Flag × String)} (gives : Gives ss given)
    (opened : r.closed = false) (still : ¬ r.Waits) (allowed : Allowed r.values)
    (all : Allowed (r.given ++ given)) : Completes r ss (r.given ++ given) := by
  induction gives generalizing r with
  | none =>
    rw [List.append_nil] at all ⊢
    exact (completes_nil allowed).mpr ⟨still, all, rfl⟩
  | separator =>
    rw [List.append_nil] at all ⊢
    exact completes_cons.mpr ⟨_, take_eq_ok_iff.mpr ⟨opened, .separator rfl⟩,
      (completes_nil (by exact allowed)).mpr ⟨still, all, rfl⟩⟩
  | @attached f value s ss given written rest ih =>
    rw [List.append_cons] at all ⊢
    have taken := (takeFlag_some_iff allowed).mpr ⟨still, all.of_append, rfl⟩
    exact completes_cons.mpr ⟨_, take_eq_ok_iff.mpr ⟨opened, .flag written taken⟩,
      ih opened not_waits_nothing all.of_append all⟩
  | @separate f value s ss given written plain rest ih =>
    rw [List.append_cons] at all ⊢
    have before : Allowed r.given := all.of_append.of_append
    have taken := (takeFlag_none_iff allowed (f := f)).mpr ⟨still, before, rfl⟩
    exact completes_cons.mpr ⟨_, take_eq_ok_iff.mpr ⟨opened, .flag written taken⟩,
      completes_cons.mpr ⟨_, take_eq_ok_iff.mpr ⟨opened, .value plain rfl⟩,
        ih opened not_waits_holding before all⟩⟩

/-- **What is read from the first argument on** is what the arguments give, if it is accepted. -/
theorem completes_iff : Completes {} ss values ↔ Gives ss values ∧ Allowed values := by
  constructor
  · intro h
    obtain ⟨given, gives, rfl, all⟩ := h.gives not_waits_nothing .nil
    exact ⟨gives, all⟩
  · intro ⟨gives, all⟩
    exact completes_of_gives gives rfl not_waits_nothing .nil all

end Reading

/-! ## 5. Command lines -/

namespace CommandLine

/-- The command line that arguments give: each flag is given at most once, no path is empty, and the
template is among the values. -/
structure GivenBy (c : CommandLine) (args : List String) (given : List (Flag × String)) : Prop where
  gives : Gives args given
  allowed : Allowed given
  values : ∀ f, c.value? f = given.lookup f

theorem ofValues?_eq_some_iff {value? : Flag → Option String} {c : CommandLine} :
    ofValues? value? = some c ↔ c.value? = value? := by
  constructor
  · intro h
    obtain ⟨template, htemplate, rfl⟩ := Option.map_eq_some_iff.mp h
    funext f
    cases f
    case template => exact htemplate.symm
    all_goals rfl
  · rintro rfl
    exact ofValues?_value? c

theorem parse_eq_ok_iff_completes {args : List String} {c : CommandLine} :
    parse args = .ok c ↔
      ∃ given, Reading.Completes {} args given ∧ ofValues? (given.lookup ·) = some c := by
  simp only [parse, Reading.Completes, Except.bind_eq_ok_iff]
  constructor
  · intro ⟨r₁, read, r₂, settled, h⟩
    split at h
    · next hvalues =>
      obtain rfl := Except.ok.inj h
      exact ⟨_, ⟨r₁, r₂, read, settled, rfl⟩, hvalues⟩
    · cases h
  · intro ⟨given, ⟨r₁, r₂, read, settled, hgiven⟩, hvalues⟩
    refine ⟨r₁, read, r₂, settled, ?_⟩
    rw [hgiven, hvalues]
    rfl

/-- **The arguments that are a command.** -/
theorem parse_eq_ok_iff {args : List String} {c : CommandLine} :
    parse args = .ok c ↔ ∃ given, c.GivenBy args given := by
  simp only [parse_eq_ok_iff_completes, Reading.completes_iff, ofValues?_eq_some_iff]
  constructor
  · intro ⟨given, ⟨gives, allowed⟩, values⟩
    exact ⟨given, gives, allowed, congrFun values⟩
  · intro ⟨given, gives, allowed, values⟩
    exact ⟨given, ⟨gives, allowed⟩, funext values⟩

/-- A value may be empty unless it is a path, and two hyphens may stand at the end. -/
example : parse ["-t=x", "--locale", "", "--"] = .ok { template := "x", locale := some "" } := rfl

end CommandLine

end TemplateClient
