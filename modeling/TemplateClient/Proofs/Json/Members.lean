import Mathlib.Data.List.Forall2
import TemplateClient.Json.Record

/-!
# What strings and members mean

The readers of strings and records, as relations. A string spells a text if every surrogate in it
stands in a pair; a member of an object is found under the text that its name spells.

* `Piece.Spells`, `Json.TextOf` -- the characters that a string spells;
* `Json.Named`, `Json.MemberOf` -- the members of an object by name, and the value of a field;
* `Json.record?_object_eq_some_iff`, `Json.record?_array_eq_some_iff` -- the fields of a record.
-/

namespace TemplateClient.Json

/-! ## 1. Texts -/

namespace Piece

/-- The characters that pieces spell. A unit that is no surrogate is a character, and two that are
surrogates are one together; a surrogate without its partner spells nothing. -/
inductive Spells : List Piece → List Char → Prop where
  | nil : Spells [] []
  | char (c : Char) {ps : List Piece} {cs : List Char} (rest : Spells ps cs) :
      Spells (.char c :: ps) (c :: cs)
  | unit (n : UInt16) {ps : List Piece} {cs : List Char} (notHigh : isHigh n = false)
      (notLow : isLow n = false) (rest : Spells ps cs) :
      Spells (.unit n :: ps) (Char.ofNat n.toNat :: cs)
  | pair (n m : UInt16) {ps : List Piece} {cs : List Char} (high : isHigh n = true)
      (low : isLow m = true) (rest : Spells ps cs) :
      Spells (.unit n :: .unit m :: ps) (ofPair n m :: cs)

theorem chars?_of_spells {ps : List Piece} {cs : List Char} (h : Spells ps cs) :
    chars? ps = some cs := by
  induction h with
  | nil => rfl
  | char c _ ih => rw [chars?, ih, Option.map_some]
  | @unit n ps cs notHigh notLow rest ih =>
    cases ps with
    | nil =>
      obtain rfl : [] = cs := Option.some.inj ih
      simp [chars?, notHigh, notLow]
    | cons p ps =>
      cases p with
      | char c =>
        simp only [chars?, notHigh, notLow, Bool.or_self, Bool.false_eq_true, if_false] at ih ⊢
        rw [ih, Option.map_some]
      | unit m =>
        rw [chars?, notHigh, notLow, ih]
        rfl
  | pair n m high low _ ih => rw [chars?, if_pos high, if_pos low, ih, Option.map_some]

theorem spells_of_chars? {ps : List Piece} {cs : List Char} (h : chars? ps = some cs) :
    Spells ps cs := by
  induction ps using chars?.induct generalizing cs with
  | case1 =>
    obtain rfl := Option.some.inj h
    exact .nil
  | case2 c ps ih =>
    rw [chars?] at h
    obtain ⟨ds, hds, rfl⟩ := Option.map_eq_some_iff.mp h
    exact .char c (ih hds)
  | case3 n m ps high low ih =>
    rw [chars?, if_pos high, if_pos low] at h
    obtain ⟨ds, hds, rfl⟩ := Option.map_eq_some_iff.mp h
    exact .pair n m high low (ih hds)
  | case4 n m ps high low =>
    rw [chars?, if_pos high, if_neg low] at h
    cases h
  | case5 n m ps high low =>
    rw [chars?, if_neg high, if_pos low] at h
    cases h
  | case6 n m ps high low ih =>
    rw [chars?, if_neg high, if_neg low] at h
    obtain ⟨ds, hds, rfl⟩ := Option.map_eq_some_iff.mp h
    exact .unit n (Bool.eq_false_iff.mpr high) (Bool.eq_false_iff.mpr low) (ih hds)
  | case7 n ps noUnit half =>
    rw [chars?, if_pos half] at h
    · cases h
    · exact noUnit
  | case8 n ps noUnit half ih =>
    rw [chars?, if_neg half] at h
    · obtain ⟨ds, hds, rfl⟩ := Option.map_eq_some_iff.mp h
      simp only [Bool.or_eq_true, not_or, Bool.not_eq_true] at half
      exact .unit n half.1 half.2 (ih hds)
    · exact noUnit

/-- **The text of a string is the one that its pieces spell**; a lone surrogate spells none. -/
theorem text?_eq_some_iff {ps : List Piece} {text : String} :
    text? ps = some text ↔ Spells ps text.toList := by
  rw [text?, Option.map_eq_some_iff]
  constructor
  · rintro ⟨cs, hcs, rfl⟩
    rw [String.toList_ofList]
    exact spells_of_chars? hcs
  · intro h
    exact ⟨text.toList, chars?_of_spells h, String.ofList_toList⟩

end Piece

/-- The value is a string that spells the text. -/
inductive TextOf : Json → String → Prop where
  | string {ps : List Piece} {text : String} (spells : Piece.Spells ps text.toList) :
      TextOf (.string ps) text

theorem text?_eq_some_iff {v : Json} {text : String} : v.text? = some text ↔ TextOf v text := by
  constructor
  · intro h
    cases v with
    | string ps => exact .string (Piece.text?_eq_some_iff.mp h)
    | _ => cases h
  · rintro ⟨spells⟩
    exact Piece.text?_eq_some_iff.mpr spells

/-! ## 2. Members -/

/-- The members of an object with the texts that their names spell; every name spells one. -/
def Named (ms : List (Name × Json)) (members : List (String × Json)) : Prop :=
  List.Forall₂ (fun m n => Piece.Spells m.1 n.1.toList ∧ m.2 = n.2) ms members

theorem named?_eq_some_iff {ms : List (Name × Json)} {members : List (String × Json)} :
    named? ms = some members ↔ Named ms members := by
  induction ms generalizing members with
  | nil => simp [named?, Named, eq_comm]
  | cons m ms ih =>
    obtain ⟨k, v⟩ := m
    unfold Named
    rw [named?, List.forall₂_cons_left_iff]
    constructor
    · intro h
      split at h
      · next name rest hname hrest =>
        obtain rfl := Option.some.inj h
        exact ⟨_, _, ⟨Piece.text?_eq_some_iff.mp hname, rfl⟩, ih.mp hrest, rfl⟩
      · cases h
    · rintro ⟨⟨name, w⟩, rest, ⟨hname, rfl⟩, hrest, rfl⟩
      rw [Piece.text?_eq_some_iff.mpr hname, ih.mpr hrest]

/-- The value of a field, of which at most one member has the name. -/
inductive MemberOf (members : List (String × Json)) (field : String) : Option Json → Prop where
  | absent (absent : ∀ m ∈ members, m.1 ≠ field) : MemberOf members field none
  | once (v : Json) (once : members.filter (·.1 == field) = [(field, v)]) :
      MemberOf members field (some v)

theorem sole?_eq_some_iff {members : List (String × Json)} {field : String} {v : Option Json} :
    sole? field members = some v ↔ MemberOf members field v := by
  have hname {m : String × Json} (h : members.filter (·.1 == field) = [m]) : m.1 = field := by
    have hm : m ∈ members.filter (·.1 == field) := h ▸ List.mem_singleton_self m
    exact eq_of_beq (List.mem_filter.mp hm).2
  constructor
  · intro h
    unfold sole? at h
    split at h
    · next hnone =>
      obtain rfl := Option.some.inj h
      refine .absent fun m hm => ?_
      simpa using List.filter_eq_nil_iff.mp hnone m hm
    · next m hone =>
      obtain rfl := Option.some.inj h
      refine .once m.2 ?_
      rw [hone, ← hname hone]
    · cases h
  · intro h
    cases h with
    | absent absent =>
      have hnone : members.filter (·.1 == field) = [] :=
        List.filter_eq_nil_iff.mpr fun m hm => by simpa using absent m hm
      rw [sole?, hnone]
    | once v once => rw [sole?, once]

/-- Where no two members have one name, each is found under its own. -/
theorem MemberOf.of_distinct {members : List (String × Json)}
    (distinct : (members.map Prod.fst).Nodup) {m : String × Json} (hm : m ∈ members) :
    MemberOf members m.1 (some m.2) := by
  refine .once m.2 ?_
  induction members with
  | nil => cases hm
  | cons n members ih =>
    obtain ⟨first, others⟩ := List.nodup_cons.mp distinct
    rcases List.mem_cons.mp hm with rfl | hm
    · rw [List.filter_cons_of_pos (by simp), List.filter_eq_nil_iff.mpr]
      intro n hn hname
      exact first (eq_of_beq hname ▸ List.mem_map_of_mem hn)
    · rw [List.filter_cons_of_neg, ih others hm]
      intro hname
      exact first (eq_of_beq hname ▸ List.mem_map_of_mem hm)

/-! ## 3. Records -/

/-- A list that is read item by item. -/
theorem mapM_eq_some_iff {α β : Type} {f : α → Option β} {R : α → β → Prop}
    (reads : ∀ a b, f a = some b ↔ R a b) {as : List α} {bs : List β} :
    as.mapM f = some bs ↔ List.Forall₂ R as bs := by
  induction as generalizing bs with
  | nil => simp [eq_comm]
  | cons a as ih =>
    rw [List.mapM_cons, List.forall₂_cons_left_iff]
    simp only [Option.bind_eq_bind, Option.bind_eq_some_iff, Option.pure_def, Option.some.injEq]
    constructor
    · rintro ⟨b, hb, cs, hcs, rfl⟩
      exact ⟨b, cs, (reads a b).mp hb, ih.mp hcs, rfl⟩
    · rintro ⟨b, cs, hb, hcs, rfl⟩
      exact ⟨b, (reads a b).mpr hb, cs, ih.mpr hcs, rfl⟩

/-- Two relations that hold of one list of values, item by item. -/
theorem exists_forall₂_iff {α β : Type} {R S : α → β → Prop} {as : List α} :
    (∃ bs, List.Forall₂ R as bs ∧ List.Forall₂ S as bs) ↔ ∀ a ∈ as, ∃ b, R a b ∧ S a b := by
  induction as with
  | nil => simp
  | cons a as ih =>
    rw [List.forall_mem_cons, ← ih]
    constructor
    · rintro ⟨_, hR, hS⟩
      cases hR with
      | cons r rs =>
        cases hS with
        | cons s ss => exact ⟨⟨_, r, s⟩, _, rs, ss⟩
    · rintro ⟨⟨b, r, s⟩, bs, rs, ss⟩
      exact ⟨b :: bs, .cons r rs, .cons s ss⟩

/-- An item of the second list belongs to one of the first. -/
theorem exists_mem_of_forall₂ {α β : Type} {R : α → β → Prop} {as : List α} {bs : List β}
    (each : List.Forall₂ R as bs) {b : β} (hb : b ∈ bs) : ∃ a ∈ as, R a b := by
  induction each with
  | nil => cases hb
  | @cons a c as bs first _ ih =>
    rcases List.mem_cons.mp hb with rfl | hb
    · exact ⟨a, List.mem_cons_self, first⟩
    · obtain ⟨d, hd, rest⟩ := ih hb
      exact ⟨d, List.mem_cons_of_mem a hd, rest⟩

/-- The items of an array that is shorter than a record, with nothing in the fields that are
left. -/
theorem map_getElem?_range {items : List Json} {n : Nat} (few : items.length ≤ n) :
    (List.range n).map (items[·]?) = items.map some ++ List.replicate (n - items.length) none := by
  refine List.ext_getElem? fun i => ?_
  rw [List.getElem?_map, List.getElem?_append, List.length_map]
  by_cases hi : i < items.length
  · rw [if_pos hi, List.getElem?_range (by omega), List.getElem?_map]
    simp [List.getElem?_eq_getElem hi]
  · rw [if_neg hi, List.getElem?_replicate]
    by_cases hn : i < n
    · rw [List.getElem?_range hn, if_pos (by omega)]
      simp [List.getElem?_eq_none (Nat.not_lt.mp hi)]
    · rw [if_neg (by omega), List.getElem?_eq_none (by simpa using hn)]
      rfl

/-- **The fields of a record that is an object** are the members of their names. -/
theorem record?_object_eq_some_iff {fields : List String} {ms : List (Name × Json)}
    {values : List (Option Json)} :
    record? fields (.object ms) = some values ↔
      ∃ members, Named ms members ∧ List.Forall₂ (MemberOf members) fields values := by
  rw [record?, Option.bind_eq_some_iff]
  simp only [named?_eq_some_iff, mapM_eq_some_iff fun _ _ => sole?_eq_some_iff]

/-- **The fields of a record that is an array** are its items, as far as they go. -/
theorem record?_array_eq_some_iff {fields : List String} {items : List Json}
    {values : List (Option Json)} :
    record? fields (.array items) = some values ↔
      items.length ≤ fields.length ∧ values = (List.range fields.length).map (items[·]?) := by
  rw [record?]
  split
  · next few =>
    rw [map_getElem?_range few, Option.some.injEq, eq_comm]
    exact (and_iff_right few).symm
  · next few => exact iff_of_false nofun fun h => few h.1

end TemplateClient.Json
