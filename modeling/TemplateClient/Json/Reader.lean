import TemplateClient.Json.Lexer

/-!
# From tokens to a tree

The tokens of a text are taken one by one. What has been read is either a finished value or an
unfinished one: a stack of open arrays and objects, and a place inside the innermost of them that
says what may come next.

* `Opened` -- an array or object of which a value is being read;
* `Place` -- what may come next;
* `Draft`, `Draft.push` -- an unfinished text, and the effect of one more token;
* `Json.ofTokens?`, `Json.parse?` -- the value that tokens, or a text, spell.
-/

namespace TemplateClient.Json

/-! ## 1. Unfinished texts -/

/-- An array or object of which a value is being read; what stands before is kept latest first. -/
inductive Opened where
  | array (before : List Json)
  | object (before : List (Name × Json)) (name : Name)

/-- What may come next. -/
inductive Place where
  /-- A value. -/
  | value
  /-- The first item of an array, or its end. -/
  | firstItem
  /-- The name of a member; before the first member also the end of the object. -/
  | name (before : List (Name × Json))
  /-- The name of a first member, or the end of the object. -/
  | firstName
  /-- The colon after a name. -/
  | colon (before : List (Name × Json)) (name : Name)
  /-- The comma or the end that follows a value; at the top nothing follows it. -/
  | done (v : Json)

/-- An unfinished text. -/
structure Draft where
  opened : List Opened
  place : Place

namespace Draft

/-- Nothing has been read. -/
def empty : Draft := ⟨[], .value⟩

/-- The effect of a token that begins a value. -/
def beginValue (opened : List Opened) : Token → Option Draft
  | .null => some ⟨opened, .done .null⟩
  | .bool b => some ⟨opened, .done (.bool b)⟩
  | .number n => some ⟨opened, .done (.number n)⟩
  | .string s => some ⟨opened, .done (.string s)⟩
  | .arrayOpen => some ⟨.array [] :: opened, .firstItem⟩
  | .objectOpen => some ⟨opened, .firstName⟩
  | _ => none

/-- The effect of one more token. -/
def push (d : Draft) (t : Token) : Option Draft :=
  match d.place with
  | .value => beginValue d.opened t
  | .firstItem =>
    match t, d.opened with
    | .arrayClose, .array [] :: opened => some ⟨opened, .done (.array [])⟩
    | t, opened => beginValue opened t
  | .firstName =>
    match t with
    | .string k => some ⟨d.opened, .colon [] k⟩
    | .objectClose => some ⟨d.opened, .done (.object [])⟩
    | _ => none
  | .name before =>
    match t with
    | .string k => some ⟨d.opened, .colon before k⟩
    | _ => none
  | .colon before k =>
    match t with
    | .colon => some ⟨.object before k :: d.opened, .value⟩
    | _ => none
  | .done v =>
    match t, d.opened with
    | .comma, .array before :: opened => some ⟨.array (v :: before) :: opened, .value⟩
    | .arrayClose, .array before :: opened => some ⟨opened, .done (.array (v :: before).reverse)⟩
    | .comma, .object before k :: opened => some ⟨opened, .name ((k, v) :: before)⟩
    | .objectClose, .object before k :: opened =>
      some ⟨opened, .done (.object ((k, v) :: before).reverse)⟩
    | _, _ => none

/-- The effect of several tokens. -/
def pushAll (d : Draft) : List Token → Option Draft
  | [] => some d
  | t :: ts =>
    match d.push t with
    | none => none
    | some d => pushAll d ts

/-- The value that has been read, if nothing is left open. -/
def value? (d : Draft) : Option Json :=
  match d.opened, d.place with
  | [], .done v => some v
  | _, _ => none

theorem pushAll_append (d : Draft) (ts us : List Token) :
    d.pushAll (ts ++ us) = (d.pushAll ts).bind (·.pushAll us) := by
  induction ts generalizing d with
  | nil => rfl
  | cons t ts ih =>
    simp only [List.cons_append, pushAll]
    cases d.push t with
    | none => rfl
    | some e => exact ih e

end Draft

/-! ## 2. Whole texts -/

/-- The value that the tokens spell, if they spell one and nothing is left over. -/
def ofTokens? (ts : List Token) : Option Json :=
  (Draft.empty.pushAll ts).bind Draft.value?

/-- The value that the characters spell. -/
def parseChars? (cs : List Char) : Option Json :=
  (Lexer.lex cs).bind ofTokens?

/-- The value that a text spells: one value, with nothing but white space around it. -/
def parse? (s : String) : Option Json :=
  parseChars? s.toList

end TemplateClient.Json
