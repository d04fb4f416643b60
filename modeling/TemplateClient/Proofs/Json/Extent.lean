import TemplateClient.Proofs.Json.Reading
import TemplateClient.Proofs.Json.Writing

/-!
# Where a text ends

A value in brackets tells by itself where it ends: the mark that closes it is a token of its own,
whatever follows it, and nothing may follow the value. So a text that begins with such a value and
goes on with anything but white space is no text of any value. Numbers are different: `1` and `12`
are both texts.

* `Lexer.State.after?`, `Lexer.tokensFrom_append` -- the machine stopped between two characters;
* `Lexer.lex_append_of_mark` -- tokens that end with a mark stay when the text goes on;
* `IsText.blank_of_append` -- what may follow the text of a value in brackets;
* `IsText.append_blank` -- white space may.
-/

namespace TemplateClient.Json

/-! ## 1. The machine between two characters -/

namespace Lexer

/-- The state after some characters, and the tokens that they have completed. -/
def State.after? (state : State) : List Char → Option (State × List Token)
  | [] => some (state, [])
  | c :: cs =>
    (state.step c).bind fun (next, ts) => (next.after? cs).map fun (last, us) => (last, ts ++ us)

/-- Reading a text in two parts, by induction on the first. -/
theorem tokensFrom_append (state : State) (cs ds : List Char) :
    tokensFrom state (cs ++ ds) =
      (state.after? cs).bind fun (last, ts) => (tokensFrom last ds).map (ts ++ ·) := by
  induction cs generalizing state with
  | nil => simp [State.after?]
  | cons c cs ih =>
    rw [List.cons_append, tokensFrom_cons, State.after?]
    cases state.step c with
    | none => rfl
    | some next =>
      simp only [Option.bind_some, ih]
      cases next.1.after? cs with
      | none => rfl
      | some last =>
        simp only [Option.bind_some, Option.map_some, Option.map_map]
        congr 1
        funext us
        exact (List.append_assoc _ _ _).symm

theorem tokensFrom_nil (state : State) : tokensFrom state [] = state.finish := by
  simp [tokensFrom, run]

/-- The end of a text completes nothing, or one word. -/
theorem finish_eq_some {state : State} {ts : List Token} (h : state.finish = some ts) :
    (state = .between ∧ ts = []) ∨ ∃ t, ts = [t] ∧ t.isWord = true := by
  cases state with
  | between => exact .inl ⟨rfl, (Option.some.inj h).symm⟩
  | word collected =>
    obtain ⟨t, read, rfl⟩ := Option.map_eq_some_iff.mp h
    exact .inr ⟨t, rfl, (word?_eq_some_iff.mp read).1⟩
  | _ => cases h

/-- **Tokens that end with a mark or a string stay when the text goes on**: nothing is under way at
their end, so what follows is read by itself. -/
theorem lex_append_of_mark {cs : List Char} {ts : List Token} {t : Token}
    (h : lex cs = some (ts ++ [t])) (mark : t.isWord = false) (ds : List Char) :
    lex (cs ++ ds) = (lex ds).map ((ts ++ [t]) ++ ·) := by
  have hread : tokensFrom .between (cs ++ []) = some (ts ++ [t]) := by
    rw [List.append_nil]
    exact h
  rw [tokensFrom_append] at hread
  obtain ⟨⟨last, us⟩, hafter, hfinish⟩ := Option.bind_eq_some_iff.mp hread
  obtain ⟨vs, hvs, hsplit⟩ := Option.map_eq_some_iff.mp hfinish
  rw [tokensFrom_nil] at hvs
  have hbetween : last = .between ∧ us = ts ++ [t] := by
    rcases finish_eq_some hvs with ⟨hlast, rfl⟩ | ⟨w, rfl, hword⟩
    · exact ⟨hlast, by rw [← hsplit, List.append_nil]⟩
    · have hlast : w = t := (List.append_inj' hsplit rfl).2 |> List.singleton_inj.mp
      rw [hlast, mark] at hword
      cases hword
  show tokensFrom .between (cs ++ ds) = (tokensFrom .between ds).map ((ts ++ [t]) ++ ·)
  rw [tokensFrom_append, hafter, hbetween.1, hbetween.2, Option.bind_some]

end Lexer

/-! ## 2. Values in brackets -/

/-- The value is an array or an object. -/
def IsBracketed : Json → Prop
  | .array _ => True
  | .object _ => True
  | _ => False

/-- The last token of a value in brackets closes it. -/
theorem IsBracketed.exists_last {v : Json} (h : v.IsBracketed) :
    ∃ ts t, v.tokens = ts ++ [t] ∧ t.isWord = false := by
  cases v with
  | array vs =>
    cases vs with
    | nil => exact ⟨[.arrayOpen], .arrayClose, rfl, rfl⟩
    | cons v vs => exact ⟨.arrayOpen :: (v.tokens ++ itemTokens vs), .arrayClose, rfl, rfl⟩
  | object ms =>
    cases ms with
    | nil => exact ⟨[.objectOpen], .objectClose, rfl, rfl⟩
    | cons m ms =>
      exact ⟨.objectOpen :: (memberTokens m ++ membersTokens ms), .objectClose, rfl, rfl⟩
  | _ => exact absurd h id

/-- No token can follow the tokens of a whole value. -/
theorem tokens_eq_append {v w : Json} {us : List Token} (h : w.tokens = v.tokens ++ us) :
    us = [] ∧ w = v := by
  have hread : ofTokens? (v.tokens ++ us) = some w := ofTokens?_eq_some_iff.mpr h.symm
  have hv : Draft.empty.pushAll v.tokens = some ⟨[], .done v⟩ := Draft.pushAll_tokens [] v
  unfold ofTokens? at hread
  rw [Draft.pushAll_append, hv, Option.bind_some] at hread
  cases us with
  | nil =>
    have hvalue : Draft.value? ⟨[], .done v⟩ = some w := hread
    exact ⟨rfl, (Option.some.inj hvalue).symm⟩
  | cons u us =>
    have hstuck : Draft.push ⟨[], .done v⟩ u = none := by
      cases u <;> rfl
    rw [Draft.pushAll, hstuck] at hread
    cases hread

namespace IsText

/-- **What follows the text of a value in brackets is white space**, if all of it is a text again,
and then that is a text of the same value. -/
theorem blank_of_append {text more : String} {v w : Json} (h : IsText text v)
    (bracketed : v.IsBracketed) (whole : IsText (text ++ more) w) :
    w = v ∧ ∀ c ∈ more.toList, IsBlank c := by
  obtain ⟨ts, t, htokens, mark⟩ := bracketed.exists_last
  have hlex : Lexer.lex text.toList = some (ts ++ [t]) := by
    rw [← htokens]
    exact Lexer.lex_eq_some_iff.mpr (.of_written h (apart_tokens v))
  have hwhole : Lexer.lex (text.toList ++ more.toList) = some w.tokens := by
    rw [← String.toList_append]
    exact Lexer.lex_eq_some_iff.mpr (.of_written whole (apart_tokens w))
  rw [Lexer.lex_append_of_mark hlex mark, ← htokens] at hwhole
  obtain ⟨us, hmore, hsplit⟩ := Option.map_eq_some_iff.mp hwhole
  obtain ⟨rfl, rfl⟩ := tokens_eq_append hsplit.symm
  refine ⟨rfl, ?_⟩
  have hwritten : Written [] more.toList := (Lexer.lex_eq_some_iff.mp hmore).written
  generalize more.toList = cs at hwritten
  generalize hnone : ([] : List Token) = none at hwritten
  induction hwritten with
  | done => exact nofun
  | blank space _ ih => exact List.forall_mem_cons.mpr ⟨space, ih hnone⟩
  | token => cases hnone

/-- White space may follow any text. -/
theorem append_blank {text more : String} {v : Json} (h : IsText text v)
    (blank : ∀ c ∈ more.toList, IsBlank c) : IsText (text ++ more) v := by
  have hmore : Written [] more.toList := by
    generalize more.toList = cs at blank
    induction cs with
    | nil => exact .done
    | cons c cs ih =>
      obtain ⟨space, rest⟩ := List.forall_mem_cons.mp blank
      exact .blank space (ih rest)
  have hboth := Written.append h hmore
  rw [List.append_nil] at hboth
  unfold IsText
  rw [String.toList_append]
  exact hboth

end IsText

end TemplateClient.Json
