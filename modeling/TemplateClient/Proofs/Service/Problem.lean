import TemplateClient.Proofs.Json.Keeping
import TemplateClient.Proofs.Service.Response

/-!
# Problems whose field is not known

A problem may point at a field, and what it points at may be anything: a name that is not known, or
no name at all. Such a value leaves the field open and nothing else, as long as it can be kept. So
what costs the message is a value beyond the limits, or a member whose name spells no text.

* `Json.SoleMember` -- a name that just one member of an object has;
* `Problem.ofJson?_object_iff` -- problems that are read from an object;
* `Problem.message_kept` -- when a problem is read, and what is read.
-/

namespace TemplateClient

open Json (Named MemberOf TextOf IsText Kept)

namespace Json

/-! ## 1. Members by name -/

/-- Of the members, just one has the name, and its value is `v`. -/
def SoleMember (ms : List (Name × Json)) (name : String) (v : Json) : Prop :=
  ∃ before k after, ms = before ++ (k, v) :: after ∧ Piece.Spells k name.toList ∧
    ∀ m ∈ before ++ after, ¬ Piece.Spells m.1 name.toList

/-- Every name spells a text. -/
def NamesSpelled (ms : List (Name × Json)) : Prop := ∀ m ∈ ms, ∃ cs, Piece.Spells m.1 cs

theorem Piece.Spells.unique {ps : List Piece} {cs ds : List Char} (h : Piece.Spells ps cs)
    (h' : Piece.Spells ps ds) : cs = ds :=
  Option.some.inj ((Piece.chars?_of_spells h).symm.trans (Piece.chars?_of_spells h'))

theorem SoleMember.of_text (before after : List (Name × Json)) {k : Name} {v : Json}
    {name : String} (text : Piece.text? k = some name)
    (others : ∀ m ∈ before ++ after, Piece.text? m.1 ≠ some name) :
    SoleMember (before ++ (k, v) :: after) name v :=
  ⟨before, k, after, rfl, Piece.text?_eq_some_iff.mp text, fun m hm spells =>
    others m hm (Piece.text?_eq_some_iff.mpr spells)⟩

theorem exists_named_iff {ms : List (Name × Json)} :
    (∃ members, Named ms members) ↔ NamesSpelled ms := by
  constructor
  · rintro ⟨members, named⟩ m hm
    obtain ⟨n, -, spells, -⟩ := exists_mem_of_forall₂ named.flip hm
    exact ⟨_, spells⟩
  · intro spelled
    induction ms with
    | nil => exact ⟨[], .nil⟩
    | cons m ms ih =>
      obtain ⟨⟨cs, spells⟩, others⟩ := List.forall_mem_cons.mp spelled
      obtain ⟨members, named⟩ := ih others
      exact ⟨(String.ofList cs, m.2) :: members,
        .cons ⟨by rwa [String.toList_ofList], rfl⟩ named⟩

theorem MemberOf.unique {members : List (String × Json)} {name : String} {v w : Option Json}
    (h : MemberOf members name v) (h' : MemberOf members name w) : v = w :=
  Option.some.inj ((sole?_eq_some_iff.mpr h).symm.trans (sole?_eq_some_iff.mpr h'))

/-- A name that none of the members has is not found. -/
theorem Named.filter_eq_nil {ms : List (Name × Json)} {members : List (String × Json)}
    {name : String} (named : Named ms members)
    (others : ∀ m ∈ ms, ¬ Piece.Spells m.1 name.toList) :
    members.filter (·.1 == name) = [] := by
  refine List.filter_eq_nil_iff.mpr fun n hn hname => ?_
  obtain ⟨m, hm, spells, -⟩ := exists_mem_of_forall₂ named hn
  exact others m hm (eq_of_beq hname ▸ spells)

/-- **The member that alone has a name is found under it**, wherever it stands. -/
theorem SoleMember.memberOf {ms : List (Name × Json)} {members : List (String × Json)}
    {name : String} {v : Json} (sole : SoleMember ms name v) (named : Named ms members) :
    MemberOf members name (some v) := by
  obtain ⟨before, k, after, rfl, spells, others⟩ := sole
  refine .once v ?_
  induction before generalizing members with
  | nil =>
    cases named with
    | @cons _ n _ members first rest =>
      obtain ⟨n, w⟩ := n
      obtain ⟨spellsToo, rfl⟩ := first
      obtain rfl : name = n := String.toList_inj.mp (spells.unique spellsToo)
      rw [List.filter_cons_of_pos (by simp), Named.filter_eq_nil rest others]
  | cons m before ih =>
    obtain ⟨here, later⟩ := List.forall_mem_cons.mp others
    cases named with
    | @cons _ n _ members first rest =>
      rw [List.filter_cons_of_neg, ih rest later]
      intro hname
      exact here (eq_of_beq hname ▸ first.1)

end Json

/-! ## 2. Problems -/

namespace Problem

/-- What the value of a field is taken for: the field that it names, if it names one. -/
theorem fieldOf_some_iff {outer : Nat} {v : Json} {field : Option FormField} :
    FieldOf outer (some v) field ↔
      v.isReadable outer = true ∧ ∀ f, field = some f ↔ FormField.NamedBy v f := by
  rw [← readField?_eq_some_iff, readField?]
  split
  · next readable =>
    rw [Option.some.injEq, and_iff_right readable]
    simp only [← FormField.ofJson?_eq_some_iff]
    constructor
    · rintro rfl f
      exact Iff.rfl
    · intro h
      exact Option.ext fun f => (h f).symm
  · next beyond => exact iff_of_false (by simp) fun h => beyond h.1

variable {ms : List (Json.Name × Json)} {field told : Json} {message : String}

/-- **The problems that are read from an object** with one field and one message. -/
theorem ofJson?_object_iff {outer : Nat} {p : Problem}
    (hasField : Json.SoleMember ms "field" field) (hasMessage : Json.SoleMember ms "message" told)
    (text : TextOf told message) :
    ofJson? outer (.object ms) = some p ↔ Json.NamesSpelled ms ∧
      field.isReadable (outer + 1) = true ∧ p.message = message ∧
      ∀ f, p.field = some f ↔ FormField.NamedBy field f := by
  rw [ofJson?_eq_some_iff, ← Json.exists_named_iff]
  constructor
  · intro h
    cases h with
    | @object _ members v w _ names hasField' hasMessage' known text' =>
      obtain rfl := hasField'.unique (hasField.memberOf names)
      obtain rfl := Option.some.inj (hasMessage'.unique (hasMessage.memberOf names))
      obtain ⟨readable, naming⟩ := fieldOf_some_iff.mp known
      have same := Json.text?_eq_some_iff.mpr text'
      rw [Json.text?_eq_some_iff.mpr text] at same
      exact ⟨⟨members, names⟩, readable, (Option.some.inj same).symm, naming⟩
  · rintro ⟨⟨members, names⟩, readable, rfl, naming⟩
    exact .object names (hasField.memberOf names) (hasMessage.memberOf names)
      (fieldOf_some_iff.mpr ⟨readable, naming⟩) text

/-- The field that a value names, or none. -/
theorem exists_naming (v : Json) :
    ∃ field : Option FormField, ∀ f, field = some f ↔ FormField.NamedBy v f :=
  ⟨FormField.ofJson? v, fun _ => FormField.ofJson?_eq_some_iff⟩

/-- **A field that is not known never costs the message.** A text of an object with one field and
one message, in any order and with any other members, is read as a problem exactly if the value of
the field can be kept and the names of all members spell texts. The problem then has the message,
and its field is the one that the value names, by its name or by an object with that member alone
and `null` as its last value; any other value leaves it open. -/
theorem message_kept {text : String} (written : IsText text (.object ms))
    (hasField : Json.SoleMember ms "field" field) (hasMessage : Json.SoleMember ms "message" told)
    (spells : TextOf told message) :
    ((∃ p, parse? text = some p) ↔ Kept 126 field ∧ Json.NamesSpelled ms) ∧
      ∀ p, parse? text = some p →
        p.message = message ∧ ∀ f, p.field = some f ↔ FormField.NamedBy field f := by
  have reads {p : Problem} : ofJson? 0 (.object ms) = some p ↔ _ :=
    ofJson?_object_iff hasField hasMessage spells
  have parses : parse? text = ofJson? 0 (.object ms) := by
    rw [parse?, Json.parse?_eq_some_iff.mpr written, Option.bind_some]
  have kept : field.isReadable (0 + 1) = true ↔ Kept 126 field :=
    Json.isReadable_iff.trans (and_iff_right (by decide))
  rw [parses, ← kept]
  constructor
  · constructor
    · rintro ⟨p, hp⟩
      obtain ⟨spelled, readable, -, -⟩ := reads.mp hp
      exact ⟨readable, spelled⟩
    · rintro ⟨readable, spelled⟩
      obtain ⟨named, naming⟩ := exists_naming field
      exact ⟨⟨named, message⟩, reads.mpr ⟨spelled, readable, rfl, naming⟩⟩
  · intro p hp
    exact (reads.mp hp).2.2

set_option maxRecDepth 8000 in
/-- A field that is named by an object and stands behind the message, with a member that no problem
has in front of both. -/
theorem message_kept_named_twice :
    let text : String :=
      "\x7b\"x\":[1E999],\"message\":\"m\",\"field\":\x7b\"locale\":0,\"locale\":null\x7d\x7d"
    let huge : Json := .number ⟨false, ['1'], [], some ⟨'E', none, ['9', '9', '9']⟩⟩
    let zero : Json := .number ⟨false, ['0'], [], none⟩
    let locale : Json.Name := Json.Piece.ofChars "locale".toList
    let field : Json := .object [(locale, zero), (locale, .null)]
    let told : Json := .string [.char 'm']
    let ms : List (Json.Name × Json) :=
      [(Json.Piece.ofChars "x".toList, .array [huge]),
        (Json.Piece.ofChars "message".toList, told), (Json.Piece.ofChars "field".toList, field)]
    IsText text (.object ms) ∧ Json.SoleMember ms "field" field ∧
      Json.SoleMember ms "message" told ∧ parse? text = some ⟨some .locale, "m"⟩ := by
  intro text huge zero locale field told ms
  have isText : IsText text (.object ms) := by
    unfold text ms told field huge zero locale
    exact Json.parse?_eq_some_iff.mp rfl
  have hasField : Json.SoleMember ms "field" field :=
    .of_text [_, _] [] rfl (by decide)
  have hasMessage : Json.SoleMember ms "message" told :=
    .of_text [_] [_] rfl (by decide)
  have message : TextOf told "m" := Json.text?_eq_some_iff.mp rfl
  obtain ⟨read, described⟩ := message_kept isText hasField hasMessage message
  have kept : Kept 126 field := Json.kept_iff.mpr (by decide +kernel)
  have spelled : Json.NamesSpelled ms :=
    Json.exists_named_iff.mp ⟨_, Json.named?_eq_some_iff.mp rfl⟩
  have named : FormField.NamedBy field .locale := FormField.ofJson?_eq_some_iff.mp rfl
  obtain ⟨⟨p, m⟩, hp⟩ := read.mpr ⟨kept, spelled⟩
  obtain ⟨hm, hfield⟩ := described _ hp
  obtain rfl := (hfield .locale).mpr named
  obtain rfl : m = "m" := hm
  exact ⟨isText, hasField, hasMessage, hp⟩

set_option maxRecDepth 8000 in
/-- A `null` as the field loses the message if the name of another member has a lone surrogate. So
does a number that is less than the least one that rounds to infinity, but whose digits times its
power of ten are not, both taken as floats. -/
theorem message_lost :
    let told : Json := .string [.char 'm']
    let halved : List (Json.Name × Json) :=
      [(Json.Piece.ofChars "field".toList, .null), (Json.Piece.ofChars "message".toList, told),
        ([.unit 0xD800], .bool true)]
    let large : Json :=
      .number ⟨false, "17976931348623158".toList, [], some ⟨'e', none, ['2', '9', '2']⟩⟩
    let numbered : List (Json.Name × Json) :=
      [(Json.Piece.ofChars "field".toList, large), (Json.Piece.ofChars "message".toList, told)]
    TextOf told "m" ∧
    (Json.SoleMember halved "field" .null ∧ Json.SoleMember halved "message" told ∧
      Kept 126 .null ∧
      IsText "\x7b\"field\":null,\"message\":\"m\",\"\\ud800\":true\x7d" (.object halved) ∧
      parse? "\x7b\"field\":null,\"message\":\"m\",\"\\ud800\":true\x7d" = none) ∧
    Json.SoleMember numbered "field" large ∧ Json.SoleMember numbered "message" told ∧
      17976931348623158 * Nat.pow 10 292 < Binary64.overflow ∧
      IsText "\x7b\"field\":17976931348623158e292,\"message\":\"m\"\x7d" (.object numbered) ∧
      parse? "\x7b\"field\":17976931348623158e292,\"message\":\"m\"\x7d" = none := by
  intro told halved large numbered
  refine ⟨Json.text?_eq_some_iff.mp rfl, ⟨?_, ?_, .null, ?_, by decide +kernel⟩, ?_, ?_,
    by decide +kernel, ?_, by decide +kernel⟩
  · exact .of_text [] [_, _] rfl (by decide)
  · exact .of_text [_] [_] rfl (by decide)
  · unfold halved told
    exact Json.parse?_eq_some_iff.mp rfl
  · exact .of_text [] [_] rfl (by decide)
  · exact .of_text [_] [] rfl (by decide)
  · unfold numbered large told
    exact Json.parse?_eq_some_iff.mp rfl

end Problem

end TemplateClient
