import TemplateClient.Proofs.Json.Spelling

/-!
# Reading tokens

The machine that cuts a text into tokens is held to the grammar. For each of its states the
continuations are the texts that it can still read, and one character takes a continuation of a
state to one of the next state. A word goes on as long as there are word characters, so the machine
reads the texts in which no two words touch.

* `Lexed` -- texts in which every word ends where no word character follows;
* `Lexer.Continues`, `Lexer.continues_step` -- the continuations of a state, and one character;
* `Lexer.lex_eq_some_iff` -- the tokens that are read;
* `Lexed.of_written` -- tokens that are kept apart by marks are read as they are written.
-/

namespace TemplateClient.Json

/-! ## 1. Words that end -/

/-- No word character comes next. -/
def Stops (cs : List Char) : Prop := ∀ c ∈ cs.head?, Lexer.isWord c = false

/-- Tokens written one after the other, where a word is not followed by a word character. -/
inductive Lexed : List Token → List Char → Prop where
  | done : Lexed [] []
  | blank {c : Char} {ts : List Token} {cs : List Char} (space : Lexer.isSpace c = true)
      (rest : Lexed ts cs) : Lexed ts (c :: cs)
  | token {t : Token} {ts : List Token} {w cs : List Char} (spelled : t.Spelled w)
      (ends : t.isWord = true → Stops cs) (rest : Lexed ts cs) : Lexed (t :: ts) (w ++ cs)

theorem isSpace_iff {c : Char} : Lexer.isSpace c = true ↔ IsBlank c := by
  simp [Lexer.isSpace, IsBlank, or_assoc]

theorem Lexed.written {ts : List Token} {cs : List Char} (h : Lexed ts cs) : Written ts cs := by
  induction h with
  | done => exact .done
  | blank space _ ih => exact .blank (isSpace_iff.mp space) ih
  | token spelled _ _ ih => exact .token spelled ih

/-- The three kinds of tokens: words, marks of one character, and strings. -/
theorem Token.Spelled.kinds {t : Token} {w : List Char} (h : t.Spelled w) :
    (t.isWord = true ∧ Lexer.word? w = some t ∧ w ≠ [] ∧ ∀ c ∈ w, Lexer.isWord c = true) ∨
      (∃ c, w = [c] ∧ Lexer.mark? c = some t ∧ t.isWord = false) ∨
      ∃ ps body, t = .string ps ∧ w = '\x22' :: (body ++ ['\x22']) ∧ Json.Spelled ps body := by
  cases h with
  | null => exact .inl ⟨rfl, rfl, List.cons_ne_nil _ _, List.all_eq_true.mp rfl⟩
  | yes => exact .inl ⟨rfl, rfl, List.cons_ne_nil _ _, List.all_eq_true.mp rfl⟩
  | no => exact .inl ⟨rfl, rfl, List.cons_ne_nil _ _, List.all_eq_true.mp rfl⟩
  | number n wellFormed =>
    refine .inl ⟨rfl, Lexer.word?_eq_some_iff.mpr ⟨rfl, .number n wellFormed⟩, ?_,
      Numeral.isWord_chars wellFormed⟩
    obtain ⟨c, cs, hcs, -⟩ := Numeral.exists_head_chars wellFormed
    rw [hcs]
    exact List.cons_ne_nil c cs
  | string inside => exact .inr (.inr ⟨_, _, rfl, rfl, inside⟩)
  | _ => exact .inr (.inl ⟨_, rfl, rfl, rfl⟩)

namespace Lexer

/-- A mark is no white space, no quote and no word character. -/
theorem of_mark? {c : Char} {t : Token} (h : mark? c = some t) :
    isSpace c = false ∧ c ≠ '\x22' ∧ isWord c = false ∧ t.isWord = false ∧ t.Spelled [c] := by
  unfold mark? at h
  split at h
  all_goals first
    | (obtain rfl := Option.some.inj h
       exact ⟨by decide, by decide, by decide, rfl, by constructor⟩)
    | cases h

theorem of_isWord {c : Char} (h : isWord c = true) : isSpace c = false ∧ c ≠ '\x22' := by
  constructor
  · refine Bool.eq_false_iff.mpr fun hspace => ?_
    rcases isSpace_iff.mp hspace with rfl | rfl | rfl | rfl <;> exact absurd h (by decide)
  · rintro rfl
    exact absurd h (by decide)

/-! ## 2. Continuations -/

/-- What can follow inside a string of which `collected` has been read. -/
def InText (collected : List Piece) (ts : List Token) (cs : List Char) : Prop :=
  ∃ ps body rest ts', cs = body ++ '\x22' :: rest ∧ Json.Spelled ps body ∧
    ts = .string (collected.reverse ++ ps) :: ts' ∧ Lexed ts' rest

/-- The texts that can follow in a state, and the tokens that they add. -/
def Continues : State → List Token → List Char → Prop
  | .between, ts, cs => Lexed ts cs
  | .word collected, ts, cs =>
    ∃ w rest t ts', cs = w ++ rest ∧ (∀ c ∈ w, isWord c = true) ∧ Stops rest ∧
      word? (collected.reverse ++ w) = some t ∧ ts = t :: ts' ∧ Lexed ts' rest
  | .text collected, ts, cs => InText collected ts cs
  | .escape collected, ts, cs =>
    ∃ p w rest, cs = w ++ rest ∧ p.Spelled ('\\' :: w) ∧ InText (p :: collected) ts rest
  | .unit collected count value, ts, cs =>
    ∃ digits n rest, cs = digits ++ rest ∧ digits.length + count = 4 ∧
      hexFrom? value digits = some n ∧ InText (.unit (.ofNat n) :: collected) ts rest

/-- A unit escape has read at most three digits. -/
def State.Valid : State → Prop
  | .unit _ count _ => count ≤ 3
  | _ => True

/-- The tokens from a state on. -/
def tokensFrom (state : State) (cs : List Char) : Option (List Token) := run [] state cs

theorem run_eq (done : List Token) (state : State) (cs : List Char) :
    run done state cs = (tokensFrom state cs).map (done.reverse ++ ·) := by
  induction cs generalizing done state with
  | nil => simp [tokensFrom, run]
  | cons c cs ih =>
    simp only [tokensFrom, run]
    split
    · rfl
    · next state' ts _ =>
      rw [ih, ih (ts.reverse ++ []), Option.map_map]
      congr 1
      funext us
      simp

theorem tokensFrom_cons (state : State) (c : Char) (cs : List Char) :
    tokensFrom state (c :: cs) =
      (state.step c).bind fun (state, ts) => (tokensFrom state cs).map (ts ++ ·) := by
  simp only [tokensFrom, run]
  cases state.step c with
  | none => rfl
  | some next =>
    have h := run_eq (next.2.reverse ++ []) next.1 cs
    simpa [tokensFrom] using h

/-! ## 3. One character -/

/-- The continuations after a character: those that lead on from the next state. -/
def Advances (next : Option (State × List Token)) (ts : List Token) (cs : List Char) : Prop :=
  ∃ state new ts', next = some (state, new) ∧ ts = new ++ ts' ∧ Continues state ts' cs

theorem advances_some {state : State} {new ts : List Token} {cs : List Char} :
    Advances (some (state, new)) ts cs ↔ ∃ ts', ts = new ++ ts' ∧ Continues state ts' cs := by
  constructor
  · rintro ⟨_, _, ts', h, heq, hc⟩
    cases h
    exact ⟨ts', heq, hc⟩
  · rintro ⟨ts', heq, hc⟩
    exact ⟨state, new, ts', rfl, heq, hc⟩

theorem advances_silent {state : State} {ts : List Token} {cs : List Char} :
    Advances (some (state, [])) ts cs ↔ Continues state ts cs := by
  rw [advances_some]
  constructor
  · rintro ⟨ts', rfl, hc⟩
    exact hc
  · exact fun hc => ⟨ts, rfl, hc⟩

theorem not_advances_none {ts : List Token} {cs : List Char} : ¬ Advances none ts cs :=
  fun ⟨_, _, _, h, _⟩ => nomatch h

/-- Between two tokens a character is white space or begins a token. -/
theorem lexed_cons {c : Char} {ts : List Token} {cs : List Char} :
    Lexed ts (c :: cs) ↔ Advances (State.begin? c) ts cs := by
  constructor
  · generalize htext : c :: cs = text
    intro h
    cases h with
    | done => cases htext
    | blank space rest =>
      cases htext
      rw [State.begin?, if_pos space, advances_silent]
      exact rest
    | token spelled ends rest =>
      rcases spelled.kinds with ⟨isword, read, nonempty, chars⟩ | ⟨d, rfl, mark, -⟩ |
        ⟨ps, body, rfl, rfl, inside⟩
      · obtain ⟨d, w, rfl⟩ := List.exists_cons_of_ne_nil nonempty
        cases htext
        have hd : isWord c = true := chars c List.mem_cons_self
        obtain ⟨hspace, hquote⟩ := of_isWord hd
        rw [State.begin?, if_neg (by simp [hspace]), if_neg hquote, if_pos hd, advances_silent]
        exact ⟨w, _, _, _, rfl, fun e he => chars e (List.mem_cons_of_mem _ he), ends isword, read,
          rfl, rest⟩
      · cases htext
        obtain ⟨hspace, hquote, hword, -⟩ := of_mark? mark
        rw [State.begin?, if_neg (by simp [hspace]), if_neg hquote, if_neg (by simp [hword]), mark]
        exact advances_some.mpr ⟨_, rfl, rest⟩
      · rw [List.cons_append] at htext
        cases htext
        rw [State.begin?, if_neg (by decide), if_pos rfl, advances_silent]
        exact ⟨ps, body, _, _, by simp, inside, rfl, rest⟩
  · intro h
    unfold State.begin? at h
    split at h
    · next space => exact .blank space (advances_silent.mp h)
    · split at h
      · next hquote =>
        obtain ⟨ps, body, rest, ts', rfl, inside, rfl, hrest⟩ := advances_silent.mp h
        have hlexed := Lexed.token (Token.Spelled.string inside) nofun hrest
        rw [hquote]
        simpa using hlexed
      · split at h
        · next hword =>
          obtain ⟨w, rest, t, ts', rfl, chars, stops, read, rfl, hrest⟩ := advances_silent.mp h
          obtain ⟨-, spelled⟩ := word?_eq_some_iff.mp read
          exact .token spelled (fun _ => stops) hrest
        · cases hmark : mark? c with
          | none =>
            rw [hmark] at h
            exact absurd h not_advances_none
          | some t =>
            rw [hmark] at h
            obtain ⟨ts', rfl, hrest⟩ := advances_some.mp h
            obtain ⟨-, -, -, hword, spelled⟩ := of_mark? hmark
            exact .token (w := [c]) spelled (by simp [hword]) hrest

/-- A word goes on, or it ends before a character that begins something new. -/
theorem word_cons {collected : List Char} {c : Char} {ts : List Token} {cs : List Char} :
    Continues (.word collected) ts (c :: cs) ↔
      Advances (State.step c (.word collected)) ts cs := by
  by_cases hc : isWord c = true
  · rw [State.step, if_pos hc, advances_silent]
    constructor
    · rintro ⟨w, rest, t, ts', hw, chars, stops, read, rfl, hrest⟩
      cases w with
      | nil =>
        obtain rfl : c :: cs = rest := hw
        exact absurd hc (by simp [stops c rfl])
      | cons d w =>
        obtain ⟨rfl, rfl⟩ := List.cons.inj hw
        refine ⟨w, rest, t, ts', rfl, fun e he => chars e (List.mem_cons_of_mem _ he), stops, ?_,
          rfl, hrest⟩
        simpa using read
    · rintro ⟨w, rest, t, ts', rfl, chars, stops, read, rfl, hrest⟩
      refine ⟨c :: w, rest, t, ts', rfl, List.forall_mem_cons.mpr ⟨hc, chars⟩, stops, ?_, rfl,
        hrest⟩
      simpa using read
  · rw [State.step, if_neg hc]
    constructor
    · rintro ⟨w, rest, t, ts', hw, chars, stops, read, rfl, hrest⟩
      cases w with
      | nil =>
        obtain rfl : c :: cs = rest := hw
        obtain ⟨state, new, ts'', hbegin, rfl, hnext⟩ := lexed_cons.mp hrest
        rw [List.append_nil] at read
        exact ⟨state, t :: new, ts'', by simp [read, hbegin], rfl, hnext⟩
      | cons d w =>
        obtain ⟨rfl, rfl⟩ := List.cons.inj hw
        exact absurd (chars c List.mem_cons_self) hc
    · rintro ⟨state, new, ts', hstep, rfl, hnext⟩
      simp only [Option.bind_eq_bind, Option.bind_eq_some_iff, Option.pure_def] at hstep
      obtain ⟨t, read, ⟨state', new'⟩, hbegin, heq⟩ := hstep
      cases heq
      refine ⟨[], c :: cs, t, new' ++ ts', rfl, nofun, ?_, by rwa [List.append_nil], rfl, ?_⟩
      · intro d hd
        obtain rfl : c = d := Option.some.inj hd
        exact Bool.eq_false_iff.mpr hc
      · exact lexed_cons.mpr ⟨_, new', ts', hbegin, rfl, hnext⟩

/-- Inside a string a character is the quote that ends it, or it begins a piece. -/
theorem text_cons {collected : List Piece} {c : Char} {ts : List Token} {cs : List Char} :
    InText collected ts (c :: cs) ↔ Advances (State.step c (.text collected)) ts cs := by
  constructor
  · rintro ⟨ps, body, rest, ts', hbody, inside, rfl, hrest⟩
    cases inside with
    | nil =>
      obtain ⟨rfl, rfl⟩ := List.cons.inj hbody
      rw [State.step, if_pos rfl, advances_some]
      exact ⟨ts', by rw [List.append_nil]; rfl, hrest⟩
    | @cons p ps w body piece tail =>
      rw [List.append_assoc] at hbody
      have hgoes : InText (p :: collected) (.string (collected.reverse ++ p :: ps) :: ts')
          (body ++ '\x22' :: rest) := ⟨ps, body, rest, ts', rfl, tail, by simp, hrest⟩
      cases piece with
      | plain d printing quote backslash =>
        obtain ⟨rfl, rfl⟩ := List.cons.inj hbody
        rw [State.step, if_neg quote, if_neg backslash, if_neg (Nat.not_lt.mpr printing),
          advances_silent]
        exact hgoes
      | escape e d named =>
        obtain ⟨rfl, rfl⟩ := List.cons.inj hbody
        rw [State.step, if_neg (by decide), if_pos rfl, advances_silent]
        exact ⟨.char d, [e], _, rfl, .escape e d named, hgoes⟩
      | unit digits n four value =>
        obtain ⟨rfl, rfl⟩ := List.cons.inj hbody
        rw [State.step, if_neg (by decide), if_pos rfl, advances_silent]
        exact ⟨_, _, _, rfl, .unit digits n four value, hgoes⟩
  · intro h
    rw [State.step] at h
    split at h
    · next hquote =>
      obtain ⟨ts', rfl, hrest⟩ := advances_some.mp h
      exact ⟨[], [], cs, ts', by rw [hquote]; rfl, .nil, by rw [List.append_nil]; rfl, hrest⟩
    · next hquote =>
      split at h
      · next hbackslash =>
        obtain ⟨p, w, rest, rfl, piece, ps, body, rest', ts', rfl, inside, rfl, hrest⟩ :=
          advances_silent.mp h
        exact ⟨p :: ps, '\\' :: w ++ body, rest', ts', by simp [hbackslash], .cons piece inside,
          by simp, hrest⟩
      · next hbackslash =>
        split at h
        · exact absurd h not_advances_none
        · next hprinting =>
          obtain ⟨ps, body, rest, ts', rfl, inside, rfl, hrest⟩ := advances_silent.mp h
          have piece := Piece.Spelled.plain c (Nat.not_lt.mp hprinting) hquote hbackslash
          exact ⟨.char c :: ps, [c] ++ body, rest, ts', rfl, .cons piece inside, by simp, hrest⟩

/-- After a backslash a character names another one or announces a unit. -/
theorem escape_cons {collected : List Piece} {c : Char} {ts : List Token} {cs : List Char} :
    Continues (.escape collected) ts (c :: cs) ↔
      Advances (State.step c (.escape collected)) ts cs := by
  constructor
  · rintro ⟨p, w, rest, hw, piece, hrest⟩
    cases piece with
    | plain d printing quote backslash => exact absurd rfl backslash
    | escape e d named =>
      obtain ⟨rfl, rfl⟩ := List.cons.inj hw
      have hu : c ≠ 'u' := by
        rintro rfl
        cases named
      rw [State.step, if_neg hu, named]
      exact advances_silent.mpr hrest
    | unit digits n four value =>
      obtain ⟨rfl, rfl⟩ := List.cons.inj hw
      rw [State.step, if_pos rfl, advances_silent]
      exact ⟨digits, n, rest, rfl, four, value, hrest⟩
  · intro h
    rw [State.step] at h
    split at h
    · next hu =>
      obtain ⟨digits, n, rest, rfl, four, value, hrest⟩ := advances_silent.mp h
      rw [hu]
      exact ⟨_, 'u' :: digits, rest, rfl, .unit digits n four value, hrest⟩
    · cases hnamed : escape? c with
      | none =>
        rw [hnamed] at h
        exact absurd h not_advances_none
      | some d =>
        rw [hnamed] at h
        exact ⟨.char d, [c], cs, rfl, .escape c d hnamed, advances_silent.mp h⟩

/-- A unit goes on with a digit until it has four. -/
theorem unit_cons {collected : List Piece} {count value : Nat} {c : Char} {ts : List Token}
    {cs : List Char} (valid : count ≤ 3) :
    Continues (.unit collected count value) ts (c :: cs) ↔
      Advances (State.step c (.unit collected count value)) ts cs := by
  constructor
  · rintro ⟨digits, n, rest, hdigits, four, hvalue, hrest⟩
    cases digits with
    | nil => simp at four; omega
    | cons d ds =>
      obtain ⟨rfl, rfl⟩ := List.cons.inj hdigits
      rw [List.length_cons] at four
      obtain ⟨v, hv, hvalue⟩ := Option.bind_eq_some_iff.mp hvalue
      by_cases hcount : count = 3
      · obtain rfl : ds = [] := List.eq_nil_of_length_eq_zero (by omega)
        obtain rfl := Option.some.inj hvalue
        simp only [State.step, hv, hcount, Option.bind_eq_bind, Option.bind_some, if_true,
          Option.pure_def]
        exact advances_silent.mpr hrest
      · simp only [State.step, hv, hcount, Option.bind_eq_bind, Option.bind_some, if_false,
          Option.pure_def]
        exact advances_silent.mpr ⟨ds, n, rest, rfl, by omega, hvalue, hrest⟩
  · intro h
    unfold State.step at h
    cases hv : Hex.value? c with
    | none =>
      rw [hv] at h
      exact absurd h not_advances_none
    | some v =>
      simp only [hv, Option.bind_eq_bind, Option.bind_some, Option.pure_def] at h
      split at h
      · next hcount =>
        refine ⟨[c], value * 16 + v, cs, rfl, by simp [hcount], ?_, advances_silent.mp h⟩
        simp [hexFrom?, hv]
      · obtain ⟨digits, n, rest, rfl, four, hvalue, hrest⟩ := advances_silent.mp h
        refine ⟨c :: digits, n, rest, rfl, by rw [List.length_cons]; omega, ?_, hrest⟩
        rw [hexFrom?, hv, Option.bind_some, hvalue]

/-- **One character takes a continuation of a state to one of the next state.** -/
theorem continues_step {state : State} {c : Char} {ts : List Token} {cs : List Char}
    (valid : state.Valid) : Continues state ts (c :: cs) ↔ Advances (state.step c) ts cs := by
  cases state with
  | between => exact lexed_cons
  | word collected => exact word_cons
  | text collected => exact text_cons
  | escape collected => exact escape_cons
  | unit collected count value => exact unit_cons valid

theorem valid_step {state state' : State} {c : Char} {ts : List Token} (valid : state.Valid)
    (h : state.step c = some (state', ts)) : state'.Valid := by
  have hbegin {ts : List Token} (h : State.begin? c = some (state', ts)) : state'.Valid := by
    unfold State.begin? at h
    split at h
    · cases h; trivial
    · split at h
      · cases h; trivial
      · split at h
        · cases h; trivial
        · obtain ⟨t, -, ht⟩ := Option.map_eq_some_iff.mp h
          cases ht
          trivial
  cases state with
  | between => exact hbegin h
  | word collected =>
    rw [State.step] at h
    split at h
    · cases h; trivial
    · simp only [Option.bind_eq_bind, Option.bind_eq_some_iff, Option.pure_def] at h
      obtain ⟨t, -, ⟨state'', new⟩, hb, heq⟩ := h
      cases heq
      exact hbegin hb
  | text collected =>
    rw [State.step] at h
    split at h
    · cases h; trivial
    · split at h
      · cases h; trivial
      · split at h
        · cases h
        · cases h; trivial
  | escape collected =>
    rw [State.step] at h
    split at h
    · cases h; exact Nat.zero_le 3
    · obtain ⟨d, -, hd⟩ := Option.map_eq_some_iff.mp h
      cases hd
      trivial
  | unit collected count value =>
    have hcount : count ≤ 3 := valid
    simp only [State.step, Option.bind_eq_bind, Option.bind_eq_some_iff, Option.pure_def] at h
    obtain ⟨d, -, h⟩ := h
    split at h
    · cases h; trivial
    · cases h
      show count + 1 ≤ 3
      omega

/-! ## 4. Whole texts -/

theorem lexed_nil {ts : List Token} : Lexed ts [] ↔ ts = [] := by
  constructor
  · generalize htext : [] = text
    intro h
    cases h with
    | done => rfl
    | blank => cases htext
    | token spelled =>
      obtain ⟨hw, -⟩ := List.append_eq_nil_iff.mp htext.symm
      subst hw
      rcases spelled.kinds with ⟨-, -, h, -⟩ | ⟨_, h, -⟩ | ⟨_, _, -, h, -⟩
      · exact absurd rfl h
      · cases h
      · cases h
  · rintro rfl
    exact .done

theorem not_inText_nil {collected : List Piece} {ts : List Token} : ¬ InText collected ts [] := by
  rintro ⟨ps, body, rest, ts', h, -⟩
  exact absurd h.symm (List.append_ne_nil_of_right_ne_nil body (List.cons_ne_nil _ _))

/-- The end of the text completes what the state has begun. -/
theorem continues_nil {state : State} {ts : List Token} (valid : state.Valid) :
    Continues state ts [] ↔ state.finish = some ts := by
  cases state with
  | between => exact lexed_nil.trans ⟨fun h => h ▸ rfl, fun h => (Option.some.inj h).symm⟩
  | word collected =>
    constructor
    · rintro ⟨w, rest, t, ts', h, chars, stops, read, rfl, hrest⟩
      obtain ⟨rfl, rfl⟩ := List.append_eq_nil_iff.mp h.symm
      rw [List.append_nil] at read
      rw [lexed_nil.mp hrest, State.finish, read]
      rfl
    · intro h
      obtain ⟨t, read, rfl⟩ := Option.map_eq_some_iff.mp h
      exact ⟨[], [], t, [], rfl, nofun, nofun, by rwa [List.append_nil], rfl, .done⟩
  | text collected => exact iff_of_false not_inText_nil nofun
  | escape collected =>
    refine iff_of_false ?_ nofun
    rintro ⟨p, w, rest, h, -, hrest⟩
    obtain ⟨-, rfl⟩ := List.append_eq_nil_iff.mp h.symm
    exact not_inText_nil hrest
  | unit collected count value =>
    refine iff_of_false ?_ nofun
    rintro ⟨digits, n, rest, h, -, -, hrest⟩
    obtain ⟨-, rfl⟩ := List.append_eq_nil_iff.mp h.symm
    exact not_inText_nil hrest

/-- **The machine reads exactly the continuations of its state**, by induction on the text. -/
theorem tokensFrom_eq_some_iff {state : State} {ts : List Token} {cs : List Char}
    (valid : state.Valid) : tokensFrom state cs = some ts ↔ Continues state ts cs := by
  induction cs generalizing state ts with
  | nil =>
    rw [continues_nil valid]
    simp [tokensFrom, run]
  | cons c cs ih =>
    rw [tokensFrom_cons, continues_step valid, Option.bind_eq_some_iff]
    constructor
    · rintro ⟨⟨state', new⟩, hstep, h⟩
      obtain ⟨ts', hrest, rfl⟩ := Option.map_eq_some_iff.mp h
      exact ⟨state', new, ts', hstep, rfl, (ih (valid_step valid hstep)).mp hrest⟩
    · rintro ⟨state', new, ts', hstep, rfl, hrest⟩
      refine ⟨(state', new), hstep, ?_⟩
      simp only [(ih (valid_step valid hstep)).mpr hrest, Option.map_some]

/-- **The tokens of a text** are those that it is written with, if every word ends where no word
character follows. -/
theorem lex_eq_some_iff {ts : List Token} {cs : List Char} : lex cs = some ts ↔ Lexed ts cs :=
  tokensFrom_eq_some_iff (show State.Valid .between from trivial)

end Lexer

/-! ## 5. Words kept apart -/

/-- No two words follow one another. -/
def Apart : List Token → Prop
  | t :: u :: ts => (t.isWord = true → u.isWord = false) ∧ Apart (u :: ts)
  | _ => True

/-- What is written as tokens that begin with no word begins with no word character. -/
theorem Written.stops {ts : List Token} {cs : List Char} (h : Written ts cs)
    (apart : ∀ t ∈ ts.head?, t.isWord = false) : Stops cs := by
  intro c hc
  cases h with
  | done => cases hc
  | blank space rest =>
    obtain rfl := Option.some.inj hc
    rcases space with rfl | rfl | rfl | rfl <;> decide
  | token spelled rest =>
    rcases spelled.kinds with ⟨hword, -⟩ | ⟨d, rfl, hmark, -⟩ | ⟨ps, body, -, rfl, -⟩
    · exact absurd hword (by simp [apart _ rfl])
    · obtain rfl := Option.some.inj hc
      exact (Lexer.of_mark? hmark).2.2.1
    · obtain rfl := Option.some.inj hc
      decide

/-- **Tokens of which no two words touch are read as they are written.** -/
theorem Lexed.of_written {ts : List Token} {cs : List Char} (h : Written ts cs)
    (apart : Apart ts) : Lexed ts cs := by
  induction h with
  | done => exact .done
  | blank space rest ih => exact .blank (isSpace_iff.mpr space) (ih apart)
  | @token t ts w cs spelled rest ih =>
    cases ts with
    | nil => exact .token spelled (fun _ => rest.stops nofun) (ih trivial)
    | cons u us =>
      refine .token spelled (fun hword => rest.stops fun v hv => ?_) (ih apart.2)
      obtain rfl := Option.some.inj hv
      exact apart.1 hword

end TemplateClient.Json
