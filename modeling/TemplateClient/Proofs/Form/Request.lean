import Mathlib.Data.List.Nodup
import TemplateClient.Proofs.Json.Writing
import TemplateClient.Proofs.Service.Response

/-!
# Requests there and back

A request is written as an object of its values and read back from it. The reader takes more than
the writer writes: the members of the fields may stand in any order, between members of other names
and with any white space, a syntax field without a value may be missing or `null`, and a text may be
spelled with any escapes.

* `Carries` -- the members of an object carry the values of a request;
* `FormValues.Describes`, `FormValues.parse?_object_iff` -- what is read as a request;
* `exists_members`, `FormValues.parse?_toText` -- a request as it is written, and read back;
* `FormValues.toText_round_trip` -- what is written, what is read from it, and what else is read so.
-/

namespace TemplateClient

open Json (Named MemberOf TextOf IsText WrittenAs)
open ExecuteResponse (ResultOf)

/-! ## 1. What is read -/

theorem FormField.key_injective : Function.Injective FormField.key := by
  intro f g h
  have hkey := FormField.ofKey?_key f
  rw [h, FormField.ofKey?_key] at hkey
  exact (Option.some.inj hkey).symm

namespace FormValues

/-- The values of a record's fields are those of the request. -/
def Holds (values : List (Option Json)) (v : FormValues) : Prop :=
  List.Forall₂ (fun f w => ResultOf w (v.get? f)) FormField.all values

/-- The members of an object carry the values of a request. Each field has at most one member, in
any place and among any others; its string spells the value, and a field without a value has no
member or `null`. -/
def Carries (members : List (String × Json)) (v : FormValues) : Prop :=
  ∀ f : FormField, ∃ w, MemberOf members f.key w ∧ ResultOf w (v.get? f)

/-- The requests that a value describes: an object that carries its values, or an array of them in
the order of the fields, in which syntax fields at the end may be left out. -/
inductive Describes : Json → FormValues → Prop where
  | object {ks : List (Json.Name × Json)} {members : List (String × Json)} {v : FormValues}
      (names : Named ks members) (carries : Carries members v) : Describes (.object ks) v
  | array {items : List Json} {v : FormValues} (few : items.length ≤ 7)
      (holds : Holds ((List.range 7).map (items[·]?)) v) : Describes (.array items) v

theorem requiredText?_eq_some_iff {w : Option Json} {t : String} :
    Json.requiredText? w = some t ↔ ResultOf w (some t) := by
  rw [Problem.requiredText?_eq_some_iff]
  constructor
  · rintro ⟨u, rfl, text⟩
    exact .text text
  · rintro ⟨⟩
    exact ⟨_, rfl, ‹_›⟩

/-- A request is read from the seven fields of its record. -/
theorem ofJson?_eq_some {j : Json} {v : FormValues} :
    ofJson? j = some v ↔
      ∃ values, j.record? (FormField.all.map FormField.key) = some values ∧ Holds values v := by
  unfold ofJson? Holds
  rw [Option.bind_eq_bind, Option.bind_eq_some_iff]
  constructor
  · rintro ⟨values, hrecord, hvalues⟩
    refine ⟨values, hrecord, ?_⟩
    split at hvalues
    · simp only [Option.bind_eq_bind, Option.bind_eq_some_iff, Option.pure_def, Option.some.injEq,
        requiredText?_eq_some_iff, ExecuteResponse.optionalText?_eq_some_iff] at hvalues
      obtain ⟨t, ht, d, hd, o, ho, l, hl, z, hz, tag, htag, ip, hip, rfl⟩ := hvalues
      exact .cons ht (.cons hd (.cons ho (.cons hl (.cons hz (.cons htag (.cons hip .nil))))))
    · cases hvalues
  · rintro ⟨values, hrecord, holds⟩
    refine ⟨values, hrecord, ?_⟩
    rcases holds with
      _ | ⟨ht, _ | ⟨hd, _ | ⟨ho, _ | ⟨hl, _ | ⟨hz, _ | ⟨htag, _ | ⟨hip, _ | _⟩⟩⟩⟩⟩⟩⟩
    simp [requiredText?_eq_some_iff.mpr ht, requiredText?_eq_some_iff.mpr hd,
      requiredText?_eq_some_iff.mpr ho, requiredText?_eq_some_iff.mpr hl,
      requiredText?_eq_some_iff.mpr hz, ExecuteResponse.optionalText?_eq_some_iff.mpr htag,
      ExecuteResponse.optionalText?_eq_some_iff.mpr hip, get?]

theorem carries_iff {members : List (String × Json)} {v : FormValues} :
    Carries members v ↔
      ∃ values, List.Forall₂ (MemberOf members) (FormField.all.map FormField.key) values ∧
        Holds values v := by
  simp only [List.forall₂_map_left_iff, Holds, Json.exists_forall₂_iff]
  exact ⟨fun h f _ => h f, fun h f => h f f.mem_all⟩

/-- **A value is read as the request that it describes**, and as no other. -/
theorem ofJson?_eq_some_iff {j : Json} {v : FormValues} : ofJson? j = some v ↔ Describes j v := by
  rw [ofJson?_eq_some]
  constructor
  · rintro ⟨values, hrecord, holds⟩
    cases j with
    | object ks =>
      obtain ⟨members, names, each⟩ := Json.record?_object_eq_some_iff.mp hrecord
      exact .object names (carries_iff.mpr ⟨values, each, holds⟩)
    | array items =>
      obtain ⟨few, rfl⟩ := Json.record?_array_eq_some_iff.mp hrecord
      exact .array few holds
    | _ => cases hrecord
  · intro h
    cases h with
    | @object ks members v names carries =>
      obtain ⟨values, each, holds⟩ := carries_iff.mp carries
      exact ⟨values, Json.record?_object_eq_some_iff.mpr ⟨members, names, each⟩, holds⟩
    | array few holds =>
      exact ⟨_, Json.record?_array_eq_some_iff.mpr ⟨few, rfl⟩, holds⟩

/-- An object is read as the request whose values its members carry. -/
theorem parse?_object_iff {text : String} {ks : List (Json.Name × Json)}
    {members : List (String × Json)} {v : FormValues} (isText : IsText text (.object ks))
    (named : Named ks members) : parse? text = some v ↔ Carries members v := by
  unfold parse?
  rw [Json.parse?_eq_some_iff.mpr isText, Option.bind_some, ofJson?_eq_some_iff]
  constructor
  · rintro ⟨others, carries⟩
    have hsame := Json.named?_eq_some_iff.mpr others
    rw [Json.named?_eq_some_iff.mpr named] at hsame
    exact Option.some.inj hsame ▸ carries
  · exact .object named

/-! ## 2. What is written -/

/-- The names of the fields that have a value, in their order. -/
def names (v : FormValues) : List String :=
  (FormField.all.filter fun f => (v.get? f).isSome).map FormField.key

theorem map_fst_members (v : FormValues) : v.members.map Prod.fst = v.names := by
  unfold members names
  induction FormField.all with
  | nil => rfl
  | cons f fs ih =>
    cases h : v.get? f with
    | none => simpa [h] using ih
    | some t => simpa [h] using ih

theorem mem_names {v : FormValues} {f : FormField} : f.key ∈ v.names ↔ (v.get? f).isSome := by
  unfold names
  rw [List.mem_map_of_injective FormField.key_injective, List.mem_filter]
  exact and_iff_right f.mem_all

theorem nodup_names (v : FormValues) : v.names.Nodup := by
  have hall : FormField.all.Nodup := by decide
  exact List.Nodup.map FormField.key_injective (hall.filter _)

/-- **What is written carries the values**: the fields that have one, in their order. -/
theorem exists_members (v : FormValues) :
    ∃ ks members, IsText v.toText (.object ks) ∧ Named ks members ∧
      members.map Prod.fst = v.names ∧ Carries members v := by
  obtain ⟨ks, members, written, named, each⟩ := Json.exists_object v.members
  have hnames : members.map Prod.fst = v.names := by
    rw [← map_fst_members]
    exact List.forall₂_eq_eq_eq ▸ List.forall₂_map_left_iff.mpr (List.forall₂_map_right_iff.mpr
      (each.imp fun _ _ h => h.1))
  refine ⟨ks, members, ?_, named, hnames, fun f => ?_⟩
  · rw [IsText, toText, String.toList_ofList]
    exact written
  · cases hf : v.get? f with
    | none =>
      refine ⟨none, .absent fun m hm hname => ?_, .missing⟩
      have hmem : f.key ∈ v.names := hnames ▸ hname ▸ List.mem_map_of_mem hm
      rw [mem_names, hf] at hmem
      cases hmem
    | some t =>
      have hmem : (f.key, t) ∈ v.members := by
        refine List.mem_filterMap.mpr ⟨f, f.mem_all, ?_⟩
        rw [hf, Option.map_some]
      obtain ⟨m, hm, hname, text⟩ := Json.exists_mem_of_forall₂ each hmem
      have member := Json.MemberOf.of_distinct (hnames ▸ v.nodup_names) hm
      rw [show m.1 = f.key from hname] at member
      exact ⟨some m.2, member, .text text⟩

/-- **What is written is read back.** -/
theorem parse?_toText (v : FormValues) : parse? v.toText = some v := by
  obtain ⟨ks, members, isText, named, -, carries⟩ := v.exists_members
  exact (parse?_object_iff isText named).mpr carries

/-- No control character is written, whatever the values are. -/
theorem printing_toText (v : FormValues) : ∀ c ∈ v.toText.toList, 0x20 ≤ c.toNat := by
  rw [toText, String.toList_ofList]
  exact Json.printing_writeRecord v.members

/-- The five texts come first, and then the syntax fields that have a value. -/
theorem names_eq (v : FormValues) :
    v.names = ["template", "dataModel", "outputFormat", "locale", "timeZone"]
      ++ (if v.tagSyntax.isSome then ["tagSyntax"] else [])
      ++ (if v.interpolationSyntax.isSome then ["interpolationSyntax"] else []) := by
  unfold names
  cases htag : v.tagSyntax <;> cases hinterpolation : v.interpolationSyntax <;>
    simp [FormField.all, FormField.key, get?, htag, hinterpolation]

/-- **Requests there and back.** A request is written as an object whose names stand in the order of
the fields, a syntax field's among them exactly when it has a value; no control character is
written; and the text is read back as the request. Every text of an object whose members carry the
values is read as the request, in any order, with any white space and any members of other names,
and no other object is. So different requests are written as different texts. -/
theorem toText_round_trip (v : FormValues) :
    (∃ ks members, IsText v.toText (.object ks) ∧ Named ks members ∧
      members.map Prod.fst = ["template", "dataModel", "outputFormat", "locale", "timeZone"]
        ++ (if v.tagSyntax.isSome then ["tagSyntax"] else [])
        ++ (if v.interpolationSyntax.isSome then ["interpolationSyntax"] else []) ∧
      Carries members v) ∧
    (∀ c ∈ v.toText.toList, 0x20 ≤ c.toNat) ∧
    parse? v.toText = some v ∧
    (∀ text ks members, IsText text (.object ks) → Named ks members →
      (parse? text = some v ↔ Carries members v)) ∧
    ∀ w : FormValues, w.toText = v.toText → w = v := by
  refine ⟨?_, v.printing_toText, v.parse?_toText, fun _ _ _ => parse?_object_iff, fun w h => ?_⟩
  · rw [← names_eq]
    exact v.exists_members
  · have hread := w.parse?_toText
    rw [h, v.parse?_toText] at hread
    exact (Option.some.inj hread).symm

set_option maxRecDepth 8000 in
/-- An object in another order, with an escape, a `null` and a member that no field has, is read as
the request. -/
theorem toText_round_trip_reordered :
    let text : String := " \x7b\"x\":[1E999,\"\\ud800\"],\"timeZone\":\"\",\"locale\":\"\\u0061\",
      \"tagSyntax\":null,\t\"template\":\"\\\"\",\"dataModel\":\"\",\"outputFormat\":\"\"\x7d"
    let huge : Json := .number ⟨false, ['1'], [], some ⟨'E', none, ['9', '9', '9']⟩⟩
    let members : List (String × Json) :=
      [("x", .array [huge, .string [.unit 0xD800]]), ("timeZone", .string []),
        ("locale", .string [.unit 0x61]), ("tagSyntax", .null),
        ("template", .string [.char '\x22']), ("dataModel", .string []),
        ("outputFormat", .string [])]
    let ks : List (Json.Name × Json) := members.map fun m => (m.1.toList.map .char, m.2)
    let v : FormValues := { template := "\"", locale := "a" }
    IsText text (.object ks) ∧ Named ks members ∧ Carries members v ∧ parse? text = some v := by
  intro text huge members ks v
  have isText : IsText text (.object ks) := by
    unfold text ks members huge
    exact Json.parse?_eq_some_iff.mp rfl
  have named : Named ks members := by
    unfold ks members huge
    exact Json.named?_eq_some_iff.mp rfl
  have carries : Carries members v := by
    intro f
    cases f
    case tagSyntax => exact ⟨_, .once _ rfl, .null⟩
    case interpolationSyntax => exact ⟨none, .absent (by decide), .missing⟩
    all_goals exact ⟨_, .once _ rfl, .text (Json.text?_eq_some_iff.mp rfl)⟩
  obtain ⟨-, -, -, reads, -⟩ := v.toText_round_trip
  exact ⟨isText, named, carries, (reads text ks members isText named).mpr carries⟩

end FormValues

end TemplateClient
