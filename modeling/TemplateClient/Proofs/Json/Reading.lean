import TemplateClient.Json.Reader
import TemplateClient.Proofs.Json.Lexing

/-!
# Reading values

The reader of tokens is held to the tokens that values are written with. An unfinished text keeps
everything that has been read, so the tokens can be written out again: one more token adds itself
at their end. In the other direction the tokens of a value lead from a place for a value to the
place after it.

* `Draft.tokens`, `Draft.tokens_push` -- what an unfinished text has read;
* `Draft.pushAll_tokens` -- the tokens of a value give that value;
* `ofTokens?_eq_some_iff` -- the tokens that give a value are those that it is written with;
* `parse?_eq_some_iff` -- the texts that give a value are those that it is written as.
-/

namespace TemplateClient.Json

/-! ## 1. Tokens of several items -/

/-- Items, each with the comma behind it. -/
def itemsBefore (vs : List Json) : List Token := vs.flatMap fun v => v.tokens ++ [.comma]

/-- Members, each with the comma behind it. -/
def membersBefore (ms : List (Name × Json)) : List Token :=
  ms.flatMap fun m => memberTokens m ++ [.comma]

theorem itemsBefore_append (vs : List Json) (v : Json) :
    itemsBefore (vs ++ [v]) = itemsBefore vs ++ (v.tokens ++ [.comma]) := by
  simp [itemsBefore]

theorem membersBefore_append (ms : List (Name × Json)) (m : Name × Json) :
    membersBefore (ms ++ [m]) = membersBefore ms ++ (memberTokens m ++ [.comma]) := by
  simp [membersBefore]

/-- Commas behind the items are commas in front of those that follow. -/
theorem itemsBefore_tokens (vs : List Json) (v : Json) :
    .comma :: (itemsBefore vs ++ v.tokens) = itemTokens (vs ++ [v]) := by
  induction vs with
  | nil => simp [itemsBefore, itemTokens]
  | cons w vs ih => simp [itemTokens, ← ih, itemsBefore]

theorem membersBefore_tokens (ms : List (Name × Json)) (m : Name × Json) :
    .comma :: (membersBefore ms ++ memberTokens m) = membersTokens (ms ++ [m]) := by
  induction ms with
  | nil => simp [membersBefore, membersTokens]
  | cons n ms ih => simp [membersTokens, ← ih, membersBefore]

/-- The tokens of an array with a last item. -/
theorem tokens_array_append (vs : List Json) (v : Json) :
    tokens (.array (vs ++ [v])) = .arrayOpen :: (itemsBefore vs ++ v.tokens ++ [.arrayClose]) := by
  cases vs with
  | nil => simp [tokens, itemTokens, itemsBefore]
  | cons w vs => simp [tokens, ← itemsBefore_tokens, itemsBefore]

theorem tokens_object_append (ms : List (Name × Json)) (m : Name × Json) :
    tokens (.object (ms ++ [m])) =
      .objectOpen :: (membersBefore ms ++ memberTokens m ++ [.objectClose]) := by
  cases ms with
  | nil => simp [tokens, membersTokens, membersBefore]
  | cons n ms => simp [tokens, ← membersBefore_tokens, membersBefore]

/-! ## 2. What an unfinished text has read -/

/-- The tokens read inside an array or object, up to the value that is being read. -/
def Opened.tokens : Opened → List Token
  | .array before => .arrayOpen :: itemsBefore before.reverse
  | .object before k => .objectOpen :: (membersBefore before.reverse ++ [.string k, .colon])

/-- The tokens read since the innermost value began. -/
def Place.tokens : Place → List Token
  | .value => []
  | .firstItem => []
  | .firstName => [.objectOpen]
  | .name before => .objectOpen :: membersBefore before.reverse
  | .colon before k => .objectOpen :: (membersBefore before.reverse ++ [.string k])
  | .done v => v.tokens

namespace Draft

/-- The tokens of the arrays and objects that are open. -/
def openedTokens (opened : List Opened) : List Token := opened.reverse.flatMap Opened.tokens

theorem openedTokens_cons (o : Opened) (opened : List Opened) :
    openedTokens (o :: opened) = openedTokens opened ++ o.tokens := by
  simp [openedTokens]

/-- All tokens that have been read. -/
def tokens (d : Draft) : List Token := openedTokens d.opened ++ d.place.tokens

theorem tokens_beginValue {opened : List Opened} {t : Token} {d : Draft}
    (h : beginValue opened t = some d) : d.tokens = openedTokens opened ++ [t] := by
  unfold beginValue at h
  split at h
  case h_5 =>
    obtain rfl := Option.some.inj h
    simp [tokens, openedTokens_cons, Opened.tokens, Place.tokens, itemsBefore]
  case h_7 => cases h
  all_goals
    obtain rfl := Option.some.inj h
    rfl

/-- **One more token adds itself to what has been read.** The cases are the places. -/
theorem tokens_push {d d' : Draft} {t : Token} (h : d.push t = some d') :
    d'.tokens = d.tokens ++ [t] := by
  obtain ⟨opened, place⟩ := d
  cases place with
  | value =>
    rw [tokens_beginValue h]
    simp [tokens, Place.tokens]
  | firstItem =>
    simp only [push] at h
    split at h
    · obtain rfl := Option.some.inj h
      simp [tokens, openedTokens_cons, Opened.tokens, Place.tokens, itemsBefore, Json.tokens]
    · rw [tokens_beginValue h]
      simp [tokens, Place.tokens]
  | firstName =>
    simp only [push] at h
    split at h
    · obtain rfl := Option.some.inj h
      simp [tokens, Place.tokens, membersBefore]
    · obtain rfl := Option.some.inj h
      simp [tokens, Place.tokens, Json.tokens]
    · cases h
  | name before =>
    simp only [push] at h
    split at h
    · obtain rfl := Option.some.inj h
      simp [tokens, Place.tokens]
    · cases h
  | colon before k =>
    simp only [push] at h
    split at h
    · obtain rfl := Option.some.inj h
      simp [tokens, openedTokens_cons, Opened.tokens, Place.tokens]
    · cases h
  | done v =>
    simp only [push] at h
    split at h
    · obtain rfl := Option.some.inj h
      simp [tokens, openedTokens_cons, Opened.tokens, Place.tokens, itemsBefore_append]
    · obtain rfl := Option.some.inj h
      simp [tokens, openedTokens_cons, Opened.tokens, Place.tokens, tokens_array_append]
    · obtain rfl := Option.some.inj h
      simp [tokens, openedTokens_cons, Opened.tokens, Place.tokens, membersBefore_append,
        memberTokens]
    · obtain rfl := Option.some.inj h
      simp [tokens, openedTokens_cons, Opened.tokens, Place.tokens, tokens_object_append,
        memberTokens]
    · cases h

/-- Tokens add themselves to what has been read, by induction on them. -/
theorem tokens_pushAll {d d' : Draft} {ts : List Token} (h : d.pushAll ts = some d') :
    d'.tokens = d.tokens ++ ts := by
  induction ts generalizing d with
  | nil =>
    obtain rfl := Option.some.inj h
    rw [List.append_nil]
  | cons t ts ih =>
    rw [pushAll] at h
    split at h
    · cases h
    · next e hpush =>
      rw [ih h, tokens_push hpush, List.append_assoc, List.singleton_append]

/-! ## 3. Values from their tokens -/

theorem pushAll_cons {d e : Draft} {t : Token} {ts : List Token} (h : d.push t = some e) :
    d.pushAll (t :: ts) = e.pushAll ts := by
  rw [pushAll, h]

theorem pushAll_of_append {d e : Draft} {ts us : List Token} (h : d.pushAll ts = some e) :
    d.pushAll (ts ++ us) = e.pushAll us := by
  rw [pushAll_append, h, Option.bind_some]

/-- The tokens of a value begin with one that begins a value. -/
theorem pushAll_firstItem (opened : List Opened) (v : Json) (ts : List Token) :
    pushAll ⟨opened, .firstItem⟩ (v.tokens ++ ts) = pushAll ⟨opened, .value⟩ (v.tokens ++ ts) := by
  cases v with
  | array vs => cases vs <;> rfl
  | object ms => cases ms <;> rfl
  | _ => rfl

mutual

/-- **The tokens of a value give that value.** -/
theorem pushAll_tokens (opened : List Opened) : (v : Json) →
    pushAll ⟨opened, .value⟩ v.tokens = some ⟨opened, .done v⟩
  | .null => rfl
  | .bool _ => rfl
  | .number _ => rfl
  | .string _ => rfl
  | .array [] => rfl
  | .array (v :: vs) => by
    rw [Json.tokens, pushAll_cons (e := ⟨.array [] :: opened, .firstItem⟩) rfl, List.append_assoc,
      pushAll_firstItem, pushAll_of_append (pushAll_tokens _ v)]
    exact pushAll_itemTokens opened [] v vs
  | .object [] => rfl
  | .object (m :: ms) => by
    rw [Json.tokens, pushAll_cons (e := ⟨opened, .firstName⟩) rfl, List.append_assoc,
      pushAll_of_append (pushAll_memberTokens opened [] m .firstName (fun _ => rfl))]
    exact pushAll_membersTokens opened [] m ms
  termination_by structural v => v

/-- The tokens of the items after one that has been read, and the end of the array. -/
theorem pushAll_itemTokens (opened : List Opened) (before : List Json) (v : Json) :
    (vs : List Json) →
    pushAll ⟨.array before :: opened, .done v⟩ (itemTokens vs ++ [.arrayClose]) =
      some ⟨opened, .done (.array (before.reverse ++ v :: vs))⟩
  | [] => by simp [itemTokens, pushAll, push]
  | w :: vs => by
    rw [itemTokens, List.cons_append,
      pushAll_cons (e := ⟨.array (v :: before) :: opened, .value⟩) rfl, List.append_assoc,
      pushAll_of_append (pushAll_tokens _ w), pushAll_itemTokens opened (v :: before) w vs]
    simp
  termination_by structural vs => vs

/-- The tokens of the members after one that has been read, and the end of the object. -/
theorem pushAll_membersTokens (opened : List Opened) (before : List (Name × Json))
    (m : Name × Json) : (ms : List (Name × Json)) →
    pushAll ⟨.object before m.1 :: opened, .done m.2⟩ (membersTokens ms ++ [.objectClose]) =
      some ⟨opened, .done (.object (before.reverse ++ m :: ms))⟩
  | [] => by simp [membersTokens, pushAll, push]
  | n :: ms => by
    rw [membersTokens, List.cons_append,
      pushAll_cons (e := ⟨opened, .name (m :: before)⟩) rfl, List.append_assoc,
      pushAll_of_append (pushAll_memberTokens opened (m :: before) n (.name (m :: before))
        (fun _ => rfl)), pushAll_membersTokens opened (m :: before) n ms]
    simp
  termination_by structural ms => ms

/-- The tokens of a member, at a place that takes its name. -/
theorem pushAll_memberTokens (opened : List Opened) (before : List (Name × Json)) :
    (m : Name × Json) → (place : Place) →
    (∀ k, push ⟨opened, place⟩ (.string k) = some ⟨opened, .colon before k⟩) →
    pushAll ⟨opened, place⟩ (memberTokens m) = some ⟨.object before m.1 :: opened, .done m.2⟩
  | (k, v), place, name => by
    rw [memberTokens, pushAll_cons (name k),
      pushAll_cons (e := ⟨.object before k :: opened, .value⟩) rfl, pushAll_tokens _ v]
  termination_by structural m => m

end

end Draft

/-- **The tokens that give a value are those that it is written with.** -/
theorem ofTokens?_eq_some_iff {ts : List Token} {v : Json} :
    ofTokens? ts = some v ↔ ts = v.tokens := by
  unfold ofTokens?
  constructor
  · intro h
    obtain ⟨d, hread, hvalue⟩ := Option.bind_eq_some_iff.mp h
    have htokens := Draft.tokens_pushAll hread
    unfold Draft.value? at hvalue
    split at hvalue
    · next w hopened hplace =>
      obtain rfl := Option.some.inj hvalue
      rw [Draft.tokens, hopened, hplace] at htokens
      exact htokens.symm
    · cases hvalue
  · rintro rfl
    rw [Draft.empty, Draft.pushAll_tokens [] v]
    rfl

/-! ## 4. Words in values -/

/-- Tokens that follow one another, of which the second is no word. -/
theorem Apart.append {ts us : List Token} (hts : Apart ts) (hus : Apart us)
    (mark : ∀ u ∈ us.head?, u.isWord = false) : Apart (ts ++ us) := by
  induction ts with
  | nil => exact hus
  | cons t ts ih =>
    cases ts with
    | nil =>
      cases us with
      | nil => trivial
      | cons u us => exact ⟨fun _ => mark u rfl, hus⟩
    | cons t' ts => exact ⟨hts.1, ih hts.2⟩

theorem Apart.cons {t : Token} {ts : List Token} (mark : t.isWord = false) (h : Apart ts) :
    Apart (t :: ts) := by
  cases ts with
  | nil => trivial
  | cons u us => exact ⟨fun hword => absurd hword (by simp [mark]), h⟩

theorem isWord_itemTokens {vs : List Json} : ∀ t ∈ (itemTokens vs).head?, t.isWord = false := by
  cases vs with
  | nil => nofun
  | cons v vs =>
    intro t ht
    obtain rfl : Token.comma = t := Option.some.inj ht
    rfl

theorem isWord_membersTokens {ms : List (Name × Json)} :
    ∀ t ∈ (membersTokens ms).head?, t.isWord = false := by
  cases ms with
  | nil => nofun
  | cons m ms =>
    intro t ht
    obtain rfl : Token.comma = t := Option.some.inj ht
    rfl

theorem Apart.close {ts : List Token} {t : Token} (h : Apart ts) (mark : t.isWord = false) :
    Apart (ts ++ [t]) := by
  refine h.append trivial fun u hu => ?_
  obtain rfl := Option.some.inj hu
  exact mark

mutual

/-- **In the tokens of a value no two words touch.** -/
theorem apart_tokens : (v : Json) → Apart v.tokens
  | .null => trivial
  | .bool _ => trivial
  | .number _ => trivial
  | .string _ => trivial
  | .array [] => ⟨nofun, trivial⟩
  | .array (v :: vs) =>
    (((apart_tokens v).append (apart_itemTokens vs) isWord_itemTokens).close rfl).cons rfl
  | .object [] => ⟨nofun, trivial⟩
  | .object (m :: ms) =>
    (((apart_memberTokens m).append (apart_membersTokens ms) isWord_membersTokens).close rfl).cons
      rfl
  termination_by structural v => v

theorem apart_itemTokens : (vs : List Json) → Apart (itemTokens vs)
  | [] => trivial
  | v :: vs => ((apart_tokens v).append (apart_itemTokens vs) isWord_itemTokens).cons rfl
  termination_by structural vs => vs

theorem apart_membersTokens : (ms : List (Name × Json)) → Apart (membersTokens ms)
  | [] => trivial
  | m :: ms =>
    ((apart_memberTokens m).append (apart_membersTokens ms) isWord_membersTokens).cons rfl
  termination_by structural ms => ms

theorem apart_memberTokens : (m : Name × Json) → Apart (memberTokens m)
  | (_, v) => ((apart_tokens v).cons rfl).cons rfl
  termination_by structural m => m

end

/-! ## 5. Texts -/

/-- **The texts that give a value are those that it is written as.** -/
theorem parse?_eq_some_iff {text : String} {v : Json} : parse? text = some v ↔ IsText text v := by
  unfold parse? parseChars? IsText
  rw [Option.bind_eq_some_iff]
  constructor
  · rintro ⟨ts, hlex, htokens⟩
    obtain rfl := ofTokens?_eq_some_iff.mp htokens
    exact (Lexer.lex_eq_some_iff.mp hlex).written
  · intro h
    exact ⟨v.tokens, Lexer.lex_eq_some_iff.mpr (.of_written h (apart_tokens v)),
      ofTokens?_eq_some_iff.mpr rfl⟩

end TemplateClient.Json
