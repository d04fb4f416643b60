import TemplateClient.Json.Writer
import TemplateClient.Proofs.Json.Members
import TemplateClient.Proofs.Json.Spelling

/-!
# Records as they are written

The writer is held to the grammar. Each character between quotes is written as one piece that spells
it, so a text between quotes is a string that spells the text, and a record of texts is an object of
such strings.

* `exists_piece`, `exists_pieces` -- a character, and a text, between quotes;
* `exists_object` -- a record is the text of an object with its members, in their order;
* `printing_writeRecord` -- no control character is written.
-/

namespace TemplateClient.Json

/-! ## 1. Between quotes -/

/-- A control character is written with two digits after two zeros. -/
theorem hexFrom?_control {n : Nat} (control : n < 0x20) :
    hexFrom? 0 ['0', '0', Hex.lower (n / 16), Hex.lower (n % 16)] = some n := by
  have hzero : Hex.value? '0' = some 0 := by decide
  have hhigh : Hex.value? (Hex.lower (n / 16)) = some (n / 16) := Hex.value?_lower (by omega)
  have hlow : Hex.value? (Hex.lower (n % 16)) = some (n % 16) := Hex.value?_lower (by omega)
  simp only [hexFrom?, hzero, hhigh, hlow, Option.bind_some]
  exact congrArg some (by omega)

/-- The three forms of a character between quotes: a short escape, a unit, or itself. -/
theorem escape_cases (c : Char) :
    (∃ e, Lexer.escape? e = some c ∧ escape c = ['\\', e]) ∨
      (c.toNat < 0x20 ∧
        escape c = ['\\', 'u', '0', '0', Hex.lower (c.toNat / 16), Hex.lower (c.toNat % 16)]) ∨
      (0x20 ≤ c.toNat ∧ c ≠ '\x22' ∧ c ≠ '\\' ∧ escape c = [c]) := by
  by_cases quote : c = '\x22'
  · subst quote
    exact .inl ⟨'\x22', rfl, rfl⟩
  by_cases backslash : c = '\\'
  · subst backslash
    exact .inl ⟨'\\', rfl, rfl⟩
  by_cases feed : c = '\n'
  · subst feed
    exact .inl ⟨'n', rfl, rfl⟩
  by_cases back : c = '\r'
  · subst back
    exact .inl ⟨'r', rfl, rfl⟩
  by_cases tab : c = '\t'
  · subst tab
    exact .inl ⟨'t', rfl, rfl⟩
  by_cases erase : c = '\x08'
  · subst erase
    exact .inl ⟨'b', rfl, rfl⟩
  by_cases page : c = '\x0c'
  · subst page
    exact .inl ⟨'f', rfl, rfl⟩
  right
  rw [escape, if_neg quote, if_neg backslash, if_neg feed, if_neg back, if_neg tab, if_neg erase,
    if_neg page]
  split
  · next control => exact .inl ⟨control, rfl⟩
  · next printing => exact .inr ⟨Nat.not_lt.mp printing, quote, backslash, rfl⟩

/-- **A character is written as one piece that spells it.** -/
theorem exists_piece (c : Char) :
    ∃ p : Piece, p.Spelled (escape c) ∧
      ∀ ps cs, Piece.Spells ps cs → Piece.Spells (p :: ps) (c :: cs) := by
  rcases escape_cases c with ⟨e, named, h⟩ | ⟨control, h⟩ | ⟨printing, quote, backslash, h⟩
  · rw [h]
    exact ⟨.char c, .escape e c named, fun _ _ rest => .char c rest⟩
  · rw [h]
    refine ⟨.unit (.ofNat c.toNat), .unit _ _ rfl (hexFrom?_control control),
      fun ps cs rest => ?_⟩
    have hunit : (UInt16.ofNat c.toNat).toNat = c.toNat :=
      UInt16.toNat_ofNat_of_lt' (Nat.lt_trans control (by decide))
    have hhigh : Piece.isHigh (.ofNat c.toNat) = false := by
      rw [Piece.isHigh, hunit, decide_eq_false (by omega), Bool.false_and]
    have hlow : Piece.isLow (.ofNat c.toNat) = false := by
      rw [Piece.isLow, hunit, decide_eq_false (by omega), Bool.false_and]
    have hspells := Piece.Spells.unit (.ofNat c.toNat) hhigh hlow rest
    rwa [hunit, Char.ofNat_toNat] at hspells
  · rw [h]
    exact ⟨.char c, .plain c printing quote backslash, fun _ _ rest => .char c rest⟩

/-- **A text between quotes** is written piece by piece, and the pieces spell it. -/
theorem exists_pieces (cs : List Char) :
    ∃ ps, Token.Spelled (.string ps) (quote cs) ∧ Piece.Spells ps cs := by
  suffices h : ∃ ps, Spelled ps (cs.flatMap escape) ∧ Piece.Spells ps cs by
    obtain ⟨ps, inside, spells⟩ := h
    exact ⟨ps, .string inside, spells⟩
  induction cs with
  | nil => exact ⟨[], .nil, .nil⟩
  | cons c cs ih =>
    obtain ⟨ps, inside, spells⟩ := ih
    obtain ⟨p, piece, spell⟩ := exists_piece c
    exact ⟨p :: ps, .cons piece inside, spell ps cs spells⟩

/-! ## 2. Records -/

theorem Written.append {ts us : List Token} {cs ds : List Char} (h : Written ts cs)
    (rest : Written us ds) : Written (ts ++ us) (cs ++ ds) := by
  induction h with
  | done => exact rest
  | blank space _ ih => exact .blank space ih
  | token spelled _ ih =>
    rw [List.append_assoc]
    exact .token spelled ih

theorem Written.single {t : Token} {w : List Char} (spelled : t.Spelled w) : Written [t] w := by
  have h := Written.token spelled .done
  rwa [List.append_nil] at h

/-- The value of a member as it is written, with the name that is written in front of it. -/
def WrittenAs (n : String × Json) (m : String × String) : Prop := n.1 = m.1 ∧ TextOf n.2 m.2

/-- A member is written as its name and a string that spells its text. -/
theorem exists_member (m : String × String) :
    ∃ k v, Written (memberTokens (k, v)) (writeMember m) ∧ Piece.Spells k m.1.toList ∧
      TextOf v m.2 := by
  obtain ⟨k, nameSpelled, nameSpells⟩ := exists_pieces m.1.toList
  obtain ⟨ps, textSpelled, textSpells⟩ := exists_pieces m.2.toList
  refine ⟨k, .string ps, ?_, nameSpells, .string textSpells⟩
  exact .token nameSpelled (.token (w := [':']) .colon (.single textSpelled))

theorem exists_rest (ms : List (String × String)) :
    ∃ ks members, Written (membersTokens ks) (writeRest ms) ∧ Named ks members ∧
      List.Forall₂ WrittenAs members ms := by
  induction ms with
  | nil => exact ⟨[], [], .done, .nil, .nil⟩
  | cons m ms ih =>
    obtain ⟨ks, members, written, names, each⟩ := ih
    obtain ⟨k, v, first, name, text⟩ := exists_member m
    refine ⟨(k, v) :: ks, (m.1, v) :: members, ?_, .cons ⟨name, rfl⟩ names, .cons ⟨rfl, text⟩ each⟩
    exact .token (w := [',']) .comma (first.append written)

/-- **A record is written as an object** whose members are those of the record, in their order. -/
theorem exists_object (ms : List (String × String)) :
    ∃ ks members, Written (Json.object ks).tokens (writeRecord ms) ∧ Named ks members ∧
      List.Forall₂ WrittenAs members ms := by
  cases ms with
  | nil =>
    refine ⟨[], [], ?_, .nil, .nil⟩
    exact .token (w := ['\x7b']) .objectOpen (.single .objectClose)
  | cons m ms =>
    obtain ⟨k, v, first, name, text⟩ := exists_member m
    obtain ⟨ks, members, written, names, each⟩ := exists_rest ms
    refine ⟨(k, v) :: ks, (m.1, v) :: members, ?_, .cons ⟨name, rfl⟩ names, .cons ⟨rfl, text⟩ each⟩
    rw [Json.tokens]
    exact .token (w := ['\x7b']) .objectOpen
      ((first.append written).append (.single .objectClose))

/-! ## 3. What is never written -/

theorem printing_of_escape? {e c : Char} (named : Lexer.escape? e = some c) : 0x20 ≤ e.toNat := by
  unfold Lexer.escape? at named
  split at named
  case h_9 => cases named
  all_goals decide

theorem printing_escape (c : Char) : ∀ d ∈ escape c, 0x20 ≤ d.toNat := by
  have digit : ∀ n, n < 16 → 0x20 ≤ (Hex.lower n).toNat := by decide
  rcases escape_cases c with ⟨e, named, h⟩ | ⟨control, h⟩ | ⟨printing, -, -, h⟩
  · rw [h, List.forall_mem_cons, List.forall_mem_singleton]
    exact ⟨by decide, printing_of_escape? named⟩
  · rw [h]
    simp only [List.forall_mem_cons]
    exact ⟨by decide, by decide, by decide, by decide, digit _ (by omega), digit _ (by omega),
      nofun⟩
  · rw [h, List.forall_mem_singleton]
    exact printing

theorem printing_quote (cs : List Char) : ∀ d ∈ quote cs, 0x20 ≤ d.toNat := by
  intro d hd
  rcases List.mem_cons.mp hd with rfl | hd
  · decide
  · rcases List.mem_append.mp hd with hd | hd
    · obtain ⟨c, -, hc⟩ := List.mem_flatMap.mp hd
      exact printing_escape c d hc
    · rw [List.mem_singleton.mp hd]
      decide

theorem printing_writeMember (m : String × String) : ∀ d ∈ writeMember m, 0x20 ≤ d.toNat := by
  intro d hd
  rcases List.mem_append.mp hd with hd | hd
  · exact printing_quote _ d hd
  · rcases List.mem_cons.mp hd with rfl | hd
    · decide
    · exact printing_quote _ d hd

theorem printing_writeRest (ms : List (String × String)) :
    ∀ d ∈ writeRest ms, 0x20 ≤ d.toNat := by
  induction ms with
  | nil => nofun
  | cons m ms ih =>
    intro d hd
    rcases List.mem_cons.mp hd with rfl | hd
    · decide
    · rcases List.mem_append.mp hd with hd | hd
      · exact printing_writeMember m d hd
      · exact ih d hd

/-- **No control character is written**, whatever the texts of the record are. -/
theorem printing_writeRecord (ms : List (String × String)) :
    ∀ d ∈ writeRecord ms, 0x20 ≤ d.toNat := by
  cases ms with
  | nil =>
    intro d hd
    have hbraces : d = '\x7b' ∨ d = '\x7d' := by simpa [writeRecord] using hd
    rcases hbraces with rfl | rfl <;> decide
  | cons m ms =>
    intro d hd
    rcases List.mem_cons.mp hd with rfl | hd
    · decide
    · rcases List.mem_append.mp hd with hd | hd
      · rcases List.mem_append.mp hd with hd | hd
        · exact printing_writeMember m d hd
        · exact printing_writeRest ms d hd
      · rw [List.mem_singleton.mp hd]
        decide

end TemplateClient.Json
