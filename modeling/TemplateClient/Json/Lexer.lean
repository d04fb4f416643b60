import TemplateClient.Json.Basic
import TemplateClient.Number.Hex

/-!
# From characters to tokens

The characters of a JSON text fall into tokens from left to right. Between two tokens stands any
run of space, tab, line feed and carriage return. A string runs from quote to quote; a word -- a
number or one of the three literals -- is a longest run of word characters; every other token is a
single character.

* `Lexer.State`, `Lexer.State.step` -- what is under way after some characters;
* `lex` -- all tokens of a text, or nothing if some part of it is no token.
-/

namespace TemplateClient.Json.Lexer

/-! ## 1. Classes of characters -/

/-- The white space of JSON. -/
def isSpace (c : Char) : Bool := c == ' ' || c == '\t' || c == '\n' || c == '\r'

/-- The characters of numbers and literals. -/
def isWord (c : Char) : Bool := c.isAlphanum || c == '+' || c == '-' || c == '.'

/-- The token that a single character is. -/
def mark? : Char → Option Token
  | '[' => some .arrayOpen
  | ']' => some .arrayClose
  | '\x7b' => some .objectOpen
  | '\x7d' => some .objectClose
  | ',' => some .comma
  | ':' => some .colon
  | _ => none

/-- The token that a whole word is. -/
def word? (cs : List Char) : Option Token :=
  if cs = ['n', 'u', 'l', 'l'] then some .null
  else if cs = ['t', 'r', 'u', 'e'] then some (.bool true)
  else if cs = ['f', 'a', 'l', 's', 'e'] then some (.bool false)
  else (Numeral.ofChars? cs).map .number

/-- The character that a two-character escape names. -/
def escape? : Char → Option Char
  | '\x22' => some '\x22'
  | '\\' => some '\\'
  | '/' => some '/'
  | 'b' => some '\x08'
  | 'f' => some '\x0c'
  | 'n' => some '\n'
  | 'r' => some '\r'
  | 't' => some '\t'
  | _ => none

/-! ## 2. One character at a time -/

/-- What is under way after some characters; what has been collected is kept latest first. -/
inductive State where
  | between
  | word (collected : List Char)
  | text (collected : List Piece)
  /-- After a backslash inside a string. -/
  | escape (collected : List Piece)
  /-- Inside a unit escape, `count` digits of value `value` being read. -/
  | unit (collected : List Piece) (count : Nat) (value : Nat)
deriving DecidableEq, Repr

/-- The effect of a character that begins something new. -/
def State.begin? (c : Char) : Option (State × List Token) :=
  if isSpace c then some (.between, [])
  else if c = '\x22' then some (.text [], [])
  else if isWord c then some (.word [c], [])
  else (mark? c).map fun t => (.between, [t])

/-- The effect of one character: the new state, and the tokens that it completes. -/
def State.step (c : Char) : State → Option (State × List Token)
  | .between => State.begin? c
  | .word collected =>
    if isWord c then some (.word (c :: collected), [])
    else do
      let t ← word? collected.reverse
      let (state, ts) ← State.begin? c
      return (state, t :: ts)
  | .text collected =>
    if c = '\x22' then some (.between, [.string collected.reverse])
    else if c = '\\' then some (.escape collected, [])
    else if c.toNat < 0x20 then none
    else some (.text (.char c :: collected), [])
  | .escape collected =>
    if c = 'u' then some (.unit collected 0 0, [])
    else (escape? c).map fun d => (.text (.char d :: collected), [])
  | .unit collected count value => do
    let d ← Hex.value? c
    let value := value * 16 + d
    if count = 3 then
      return (.text (.unit (UInt16.ofNat value) :: collected), [])
    else
      return (.unit collected (count + 1) value, [])

/-- The tokens that the end of the text completes. -/
def State.finish : State → Option (List Token)
  | .between => some []
  | .word collected => (word? collected.reverse).map ([·])
  | _ => none

/-! ## 3. Whole texts -/

/-- The tokens of the characters `cs`, after the tokens `done` (latest first). -/
def run (done : List Token) (state : State) : List Char → Option (List Token)
  | [] => state.finish.map fun ts => done.reverse ++ ts
  | c :: cs =>
    match state.step c with
    | none => none
    | some (state, ts) => run (ts.reverse ++ done) state cs

/-- The tokens of a text. -/
def lex (cs : List Char) : Option (List Token) :=
  run [] .between cs

end TemplateClient.Json.Lexer
