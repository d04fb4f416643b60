import TemplateClient.Charset.Basic

/-!
# Media types

A media type is a type and a subtype with a slash between them, and parameters, each behind a
semicolon. A value may stand in quotes; it has at least one character, which may be a quote itself,
and a backslash in it is a character like any other.

* `MediaType.Place`, `MediaType.Place.step` -- what is under way after some characters;
* `MediaType.parameters?` -- the parameters of a media type, or nothing if it is malformed;
* `MediaType.charset` -- the encoding that a media type announces, UTF-8 if it announces none.
-/

namespace TemplateClient.MediaType

/-! ## 1. Characters -/

/-- The characters of names, and of values outside quotes. -/
def isToken (c : Char) : Bool :=
  c.isAlphanum
    || ['!', '#', '$', '%', '&', '\x27', '*', '+', '-', '.', '^', '_', '\x60', '|', '~'].contains c

/-- The characters that may stand in quotes; only ASCII is readable in a media type. -/
def isQuotable (c : Char) : Bool := 0x20 ≤ c.toNat && c.toNat < 0x7F

/-! ## 2. One character at a time -/

/-- What is under way; names and values are kept latest character first. -/
inductive Place where
  | type (seen : Bool)
  | subtype (seen : Bool)
  /-- Behind a semicolon. -/
  | between
  | name (key : List Char)
  /-- Behind an equals sign. -/
  | equals (key : List Char)
  | plain (key text : List Char)
  | quoted (key text : List Char)
  /-- Behind a value in quotes. -/
  | closed

/-- The parameters of a media type, by name. -/
abbrev Parameters := List (String × String)

/-- A parameter with its name in lower case. -/
def parameter (name value : List Char) : String × String :=
  (String.ofList (name.reverse.map Char.toLower), String.ofList value.reverse)

/-- What is under way after one more character, and the parameter that it completes. -/
def Place.step (p : Place) (c : Char) : Option (Place × Option (String × String)) :=
  match p with
  | .type seen =>
    if isToken c then some (.type true, none)
    else if c = '/' ∧ seen then some (.subtype false, none)
    else none
  | .subtype seen =>
    if isToken c then some (.subtype true, none)
    else if c = ';' ∧ seen then some (.between, none)
    else none
  | .between =>
    if c = ' ' then some (.between, none)
    else if isToken c then some (.name [c], none)
    else none
  | .name key =>
    if isToken c then some (.name (c :: key), none)
    else if c = '=' then some (.equals key, none)
    else none
  | .equals key =>
    if c = '\x22' then some (.quoted key [], none)
    else if isToken c then some (.plain key [c], none)
    else none
  | .plain key text =>
    if isToken c then some (.plain key (c :: text), none)
    else if c = ';' then some (.between, some (parameter key text))
    else none
  | .quoted key text =>
    if c = '\x22' ∧ text ≠ [] then some (.closed, some (parameter key text))
    else if isQuotable c then some (.quoted key (c :: text), none)
    else none
  | .closed =>
    if c = ' ' then some (.closed, none)
    else if c = ';' then some (.between, none)
    else none

/-- The parameter that the end completes, where a media type may end. -/
def Place.finish : Place → Option (Option (String × String))
  | .subtype _ => some none
  | .between => some none
  | .equals key => some (some (parameter key []))
  | .plain key text => some (some (parameter key text))
  | .closed => some none
  | _ => none

/-! ## 3. Whole media types -/

/-- The parameters that characters give from a place on. -/
def parametersFrom? (p : Place) : List Char → Option Parameters
  | [] => p.finish.map Option.toList
  | c :: cs =>
    match p.step c with
    | none => none
    | some (next, found) => (parametersFrom? next cs).map (found.toList ++ ·)

/-- The parameters of a media type, in order; nothing if it is malformed. -/
def parameters? (text : String) : Option Parameters :=
  parametersFrom? (.type false) text.toList

/-- The encoding that a media type announces; UTF-8 if it is malformed, or announces none that is
known. -/
def charset (text : String) : Charset :=
  match parameters? text with
  | none => .utf8
  | some ps => ((ps.lookup "charset").bind Charset.ofLabel?).getD .utf8

end TemplateClient.MediaType
