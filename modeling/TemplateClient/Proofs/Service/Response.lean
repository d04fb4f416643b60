import TemplateClient.Proofs.Json.Members
import TemplateClient.Proofs.Json.Reading
import TemplateClient.Service.Response

/-!
# Which bodies are answers

The body of a successful answer is read field by field, and each field tells a missing value, `null`
and a value of the wrong kind apart in its own way. A record may be written as an object or as an
array. The relations here say which values describe which answers, and the readers are held to them.

* `FormField.NamedBy` -- the field that a value names;
* `Problem.Describes`, `Problem.ofJson?_eq_some_iff` -- the values that are read as a problem;
* `ExecuteResponse.Describes`, `ExecuteResponse.decodes_iff_describes` -- the texts that are read as
  a successful answer.
-/

namespace TemplateClient

open Json (Named MemberOf TextOf IsText)

/-! ## 1. Fields -/

namespace FormField

/-- The field that a value names: by its name, or by an object in which every member has that name
and the last has the value `null`. -/
inductive NamedBy : Json → FormField → Prop where
  | name {v : Json} {f : FormField} (text : TextOf v f.key) : NamedBy v f
  | member {ms : List (Json.Name × Json)} {before : List (String × Json)} {f : FormField}
      (names : Named ms (before ++ [(f.key, .null)])) (same : ∀ m ∈ before, m.1 = f.key) :
      NamedBy (.object ms) f

theorem ofKey?_eq_some_iff {name : String} {f : FormField} :
    ofKey? name = some f ↔ name = f.key := by
  constructor
  · intro h
    have hkey := List.find?_some h
    exact (eq_of_beq hkey).symm
  · rintro rfl
    exact ofKey?_key f

/-- The value of the last of some members. -/
theorem getLast_value (k : String) (v : Json) (ms : List (String × Json)) :
    (ms.getLast?.map Prod.snd).getD v = (((k, v) :: ms).getLast (List.cons_ne_nil _ _)).2 := by
  cases ms with
  | nil => rfl
  | cons m ms =>
    rw [List.getLast_cons (List.cons_ne_nil m ms), List.getLast?_eq_some_getLast]
    rfl

theorem ofJson?_eq_some_iff {v : Json} {f : FormField} : ofJson? v = some f ↔ NamedBy v f := by
  constructor
  · intro h
    unfold ofJson? at h
    split at h
    · next s =>
      obtain ⟨text, htext, hkey⟩ := Option.bind_eq_some_iff.mp h
      obtain rfl := ofKey?_eq_some_iff.mp hkey
      exact .name (.string (Json.Piece.text?_eq_some_iff.mp htext))
    · next ms =>
      split at h
      · next k v rest hnames =>
        split at h
        · next hsame =>
          rw [getLast_value k v rest] at h
          split at h
          · next hlast =>
            obtain rfl := ofKey?_eq_some_iff.mp h
            have hall : ∀ m ∈ (f.key, v) :: rest, m.1 = f.key := by
              refine List.forall_mem_cons.mpr ⟨rfl, fun m hm => ?_⟩
              exact eq_of_beq (List.all_eq_true.mp hsame m hm)
            have hends := List.dropLast_concat_getLast (List.cons_ne_nil (f.key, v) rest)
            have hnull : ((f.key, v) :: rest).getLast (List.cons_ne_nil _ _) = (f.key, .null) :=
              Prod.ext (hall _ (List.getLast_mem _)) hlast
            rw [hnull] at hends
            have hbefore : ∀ m ∈ ((f.key, v) :: rest).dropLast, m.1 = f.key :=
              fun m hm => hall m (List.dropLast_subset _ hm)
            refine .member ?_ hbefore
            rw [hends]
            exact Json.named?_eq_some_iff.mp hnames
          · cases h
        · cases h
      · cases h
    · cases h
  · intro h
    cases h with
    | name text =>
      cases text with
      | string spells =>
        rw [ofJson?, Json.Piece.text?_eq_some_iff.mpr spells, Option.bind_some, ofKey?_key]
    | @member ms before f names same =>
      rw [ofJson?, Json.named?_eq_some_iff.mpr names]
      cases before with
      | nil => exact ofKey?_key f
      | cons m before =>
        obtain ⟨hm, hbefore⟩ := List.forall_mem_cons.mp same
        have hsame : (before ++ [(f.key, Json.null)]).all (·.1 == f.key) = true := by
          rw [List.all_append, Bool.and_eq_true, List.all_eq_true]
          refine ⟨fun n hn => ?_, ?_⟩
          · simp [hbefore n hn]
          · simp
        simp only [List.cons_append, hm, hsame, if_true, List.getLast?_append,
          List.getLast?_singleton, Option.some_or, Option.map_some, Option.getD_some, ofKey?_key]

end FormField

/-! ## 2. Problems -/

namespace Problem

/-- What the field of a problem, which may be missing, is taken for. Any value is accepted that
stands within the limits for values that are kept. -/
inductive FieldOf (outer : Nat) : Option Json → Option FormField → Prop where
  | missing : FieldOf outer none none
  | known {v : Json} {f : FormField} (readable : v.isReadable outer = true)
      (named : FormField.NamedBy v f) : FieldOf outer (some v) (some f)
  | unknown {v : Json} (readable : v.isReadable outer = true)
      (unnamed : ∀ f, ¬ FormField.NamedBy v f) : FieldOf outer (some v) none

theorem readField?_eq_some_iff {outer : Nat} {v : Option Json} {f : Option FormField} :
    readField? outer v = some f ↔ FieldOf outer v f := by
  constructor
  · intro h
    cases v with
    | none =>
      obtain rfl := Option.some.inj h
      exact .missing
    | some v =>
      rw [readField?] at h
      split at h
      · next readable =>
        cases f with
        | some f => exact .known readable (FormField.ofJson?_eq_some_iff.mp (Option.some.inj h))
        | none =>
          refine .unknown readable fun f hf => ?_
          rw [FormField.ofJson?_eq_some_iff.mpr hf] at h
          cases h
      · cases h
  · intro h
    cases h with
    | missing => rfl
    | known readable named =>
      rw [readField?, if_pos readable, FormField.ofJson?_eq_some_iff.mpr named]
    | unknown readable unnamed =>
      rw [readField?, if_pos readable, Option.some.injEq]
      refine Option.eq_none_iff_forall_ne_some.mpr fun f hf => ?_
      exact unnamed f (FormField.ofJson?_eq_some_iff.mp hf)

/-- The problems that a value below `outer` levels describes: an object with one message, at most
one field and any other members, or an array of a field and a message. -/
inductive Describes (outer : Nat) : Json → Problem → Prop where
  | object {ms : List (Json.Name × Json)} {members : List (String × Json)} {field : Option Json}
      {message : Json} {p : Problem} (names : Named ms members)
      (hasField : MemberOf members "field" field)
      (hasMessage : MemberOf members "message" (some message))
      (known : FieldOf (outer + 1) field p.field) (text : TextOf message p.message) :
      Describes outer (.object ms) p
  | array {field message : Json} {p : Problem} (known : FieldOf (outer + 1) (some field) p.field)
      (text : TextOf message p.message) : Describes outer (.array [field, message]) p

theorem requiredText?_eq_some_iff {v : Option Json} {text : String} :
    Json.requiredText? v = some text ↔ ∃ w, v = some w ∧ TextOf w text := by
  cases v with
  | none => simp [Json.requiredText?]
  | some w => simp [Json.requiredText?, Json.text?_eq_some_iff]

/-- A problem is read from the two fields of its record. -/
theorem ofJson?_eq_some {outer : Nat} {v : Json} {p : Problem} :
    ofJson? outer v = some p ↔
      ∃ field message, v.record? ["field", "message"] = some [field, some message] ∧
        FieldOf (outer + 1) field p.field ∧ TextOf message p.message := by
  unfold ofJson?
  rw [Option.bind_eq_bind, Option.bind_eq_some_iff]
  constructor
  · rintro ⟨values, hrecord, hvalues⟩
    split at hvalues
    · next field message =>
      simp only [Option.bind_eq_bind, Option.bind_eq_some_iff, Option.pure_def,
        Option.some.injEq] at hvalues
      obtain ⟨f, hf, m, hm, rfl⟩ := hvalues
      obtain ⟨w, rfl, text⟩ := requiredText?_eq_some_iff.mp hm
      exact ⟨field, w, hrecord, readField?_eq_some_iff.mp hf, text⟩
    · cases hvalues
  · rintro ⟨field, message, hrecord, known, text⟩
    refine ⟨_, hrecord, ?_⟩
    simp [readField?_eq_some_iff.mpr known, requiredText?_eq_some_iff.mpr ⟨message, rfl, text⟩]

/-- **A value is read as the problem that it describes**, and as no other. -/
theorem ofJson?_eq_some_iff {outer : Nat} {v : Json} {p : Problem} :
    ofJson? outer v = some p ↔ Describes outer v p := by
  rw [ofJson?_eq_some]
  constructor
  · rintro ⟨field, message, hrecord, known, text⟩
    cases v with
    | object ms =>
      obtain ⟨members, names, each⟩ := Json.record?_object_eq_some_iff.mp hrecord
      obtain ⟨hasField, each⟩ := List.forall₂_cons.mp each
      obtain ⟨hasMessage, -⟩ := List.forall₂_cons.mp each
      exact .object names hasField hasMessage known text
    | array items =>
      obtain ⟨few, hitems⟩ := Json.record?_array_eq_some_iff.mp hrecord
      obtain ⟨hfield, hmessage⟩ : field = items[0]? ∧ some message = items[1]? := by
        simpa [List.range_succ] using hitems
      match items, hfield, hmessage, few with
      | [f, m], hfield, hmessage, _ =>
        obtain rfl : field = some f := hfield
        obtain rfl : message = m := Option.some.inj hmessage
        exact .array known text
      | [], _, hmessage, _ => cases hmessage
      | [f], _, hmessage, _ => cases hmessage
      | _ :: _ :: _ :: _, _, _, few => simp at few
    | _ => cases hrecord
  · intro h
    cases h with
    | @object ms members field message p names hasField hasMessage known text =>
      refine ⟨field, message, Json.record?_object_eq_some_iff.mpr ⟨members, names, ?_⟩, known, text⟩
      exact .cons hasField (.cons hasMessage .nil)
    | @array field message p known text => exact ⟨some field, message, rfl, known, text⟩

end Problem

/-! ## 3. Successful answers -/

namespace ExecuteResponse

/-- What the result of an answer is taken for; `null` counts as missing. -/
inductive ResultOf : Option Json → Option String → Prop where
  | missing : ResultOf none none
  | null : ResultOf (some .null) none
  | text {v : Json} {text : String} (spelled : TextOf v text) : ResultOf (some v) (some text)

/-- What the problems of an answer are taken for, in their order; `null` counts as missing. They
stand inside the answer and its array of problems. -/
inductive ProblemsOf : Option Json → Option (List Problem) → Prop where
  | missing : ProblemsOf none none
  | null : ProblemsOf (some .null) none
  | array {items : List Json} {problems : List Problem}
      (each : List.Forall₂ (Problem.Describes 2) items problems) :
      ProblemsOf (some (.array items)) (some problems)

/-- What the flag of an answer is taken for; it may be missing, but not `null`. -/
inductive FlagOf : Option Json → Bool → Prop where
  | missing : FlagOf none false
  | bool (b : Bool) : FlagOf (some (.bool b)) b

/-- The answer has the values of its three fields. -/
structure Holds (result problems truncated : Option Json) (r : ExecuteResponse) : Prop where
  result : ResultOf result r.result
  problems : ProblemsOf problems r.problems
  truncated : FlagOf truncated r.truncated

/-- The answers that a value describes: an object in which each of the three fields occurs at most
once, with any other members, or an array of at most the three in their order. -/
inductive Describes : Json → ExecuteResponse → Prop where
  | object {ms : List (Json.Name × Json)} {members : List (String × Json)}
      {result problems truncated : Option Json} {r : ExecuteResponse} (names : Named ms members)
      (hasResult : MemberOf members "result" result)
      (hasProblems : MemberOf members "problems" problems)
      (hasTruncated : MemberOf members "truncatedResult" truncated)
      (holds : Holds result problems truncated r) : Describes (.object ms) r
  | array {items : List Json} {r : ExecuteResponse} (few : items.length ≤ 3)
      (holds : Holds items[0]? items[1]? items[2]? r) : Describes (.array items) r

theorem optionalText?_eq_some_iff {v : Option Json} {text : Option String} :
    Json.optionalText? v = some text ↔ ResultOf v text := by
  constructor
  · intro h
    unfold Json.optionalText? at h
    split at h
    · obtain rfl := Option.some.inj h
      exact .missing
    · obtain rfl := Option.some.inj h
      exact .null
    · obtain ⟨t, ht, rfl⟩ := Option.map_eq_some_iff.mp h
      exact .text (Json.text?_eq_some_iff.mp ht)
  · intro h
    cases h with
    | missing => rfl
    | null => rfl
    | text spelled =>
      have htext := Json.text?_eq_some_iff.mpr spelled
      cases spelled with
      | string => simp [Json.optionalText?, htext]

theorem readProblems?_eq_some_iff {v : Option Json} {problems : Option (List Problem)} :
    readProblems? v = some problems ↔ ProblemsOf v problems := by
  constructor
  · intro h
    unfold readProblems? at h
    split at h
    · obtain rfl := Option.some.inj h
      exact .missing
    · obtain rfl := Option.some.inj h
      exact .null
    · obtain ⟨ps, hps, rfl⟩ := Option.map_eq_some_iff.mp h
      unfold Problem.listOfJson? at hps
      split at hps
      · exact .array ((Json.mapM_eq_some_iff fun _ _ => Problem.ofJson?_eq_some_iff).mp hps)
      · cases hps
  · intro h
    cases h with
    | missing => rfl
    | null => rfl
    | array each =>
      have hread := (Json.mapM_eq_some_iff fun _ _ => Problem.ofJson?_eq_some_iff).mpr each
      simp [readProblems?, Problem.listOfJson?, hread]

theorem readFlag?_eq_some_iff {v : Option Json} {b : Bool} : readFlag? v = some b ↔ FlagOf v b := by
  constructor
  · intro h
    unfold readFlag? at h
    split at h
    · obtain rfl := Option.some.inj h
      exact .missing
    · obtain rfl := Option.some.inj h
      exact .bool _
    · cases h
  · intro h
    cases h <;> rfl

/-- An answer is read from the three fields of its record. -/
theorem ofJson?_eq_some {v : Json} {r : ExecuteResponse} :
    ofJson? v = some r ↔
      ∃ result problems truncated,
        v.record? ["result", "problems", "truncatedResult"] = some [result, problems, truncated] ∧
          Holds result problems truncated r := by
  unfold ofJson?
  rw [Option.bind_eq_bind, Option.bind_eq_some_iff]
  constructor
  · rintro ⟨values, hrecord, hvalues⟩
    split at hvalues
    · next result problems truncated =>
      simp only [Option.bind_eq_bind, Option.bind_eq_some_iff, Option.pure_def,
        Option.some.injEq] at hvalues
      obtain ⟨t, ht, ps, hps, b, hb, rfl⟩ := hvalues
      exact ⟨result, problems, truncated, hrecord, optionalText?_eq_some_iff.mp ht,
        readProblems?_eq_some_iff.mp hps, readFlag?_eq_some_iff.mp hb⟩
    · cases hvalues
  · rintro ⟨result, problems, truncated, hrecord, holds⟩
    refine ⟨_, hrecord, ?_⟩
    simp [optionalText?_eq_some_iff.mpr holds.result, readProblems?_eq_some_iff.mpr holds.problems,
      readFlag?_eq_some_iff.mpr holds.truncated]

/-- **A value is read as the answer that it describes**, and as no other. -/
theorem ofJson?_eq_some_iff {v : Json} {r : ExecuteResponse} :
    ofJson? v = some r ↔ Describes v r := by
  rw [ofJson?_eq_some]
  constructor
  · rintro ⟨result, problems, truncated, hrecord, holds⟩
    cases v with
    | object ms =>
      obtain ⟨members, names, each⟩ := Json.record?_object_eq_some_iff.mp hrecord
      obtain ⟨hasResult, each⟩ := List.forall₂_cons.mp each
      obtain ⟨hasProblems, each⟩ := List.forall₂_cons.mp each
      obtain ⟨hasTruncated, -⟩ := List.forall₂_cons.mp each
      exact .object names hasResult hasProblems hasTruncated holds
    | array items =>
      obtain ⟨few, hitems⟩ := Json.record?_array_eq_some_iff.mp hrecord
      obtain ⟨rfl, rfl, rfl⟩ :
          result = items[0]? ∧ problems = items[1]? ∧ truncated = items[2]? := by
        simpa [List.range_succ] using hitems
      exact .array few holds
    | _ => cases hrecord
  · intro h
    cases h with
    | @object ms members result problems truncated r names hasResult hasProblems hasTruncated
        holds =>
      refine ⟨result, problems, truncated,
        Json.record?_object_eq_some_iff.mpr ⟨members, names, ?_⟩, holds⟩
      exact .cons hasResult (.cons hasProblems (.cons hasTruncated .nil))
    | @array items r few holds =>
      exact ⟨_, _, _, Json.record?_array_eq_some_iff.mpr ⟨few, rfl⟩, holds⟩

/-- **The bodies that are read as a successful answer**: the texts of a value that describes one,
with white space around its tokens and nothing else. -/
theorem decodes_iff_describes {text : String} {r : ExecuteResponse} :
    parse? text = some r ↔ ∃ v, IsText text v ∧ Describes v r := by
  unfold parse?
  simp only [Option.bind_eq_some_iff, Json.parse?_eq_some_iff, ofJson?_eq_some_iff]

end ExecuteResponse

end TemplateClient
