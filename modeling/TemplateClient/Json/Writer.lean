import TemplateClient.Json.Basic
import TemplateClient.Number.Hex

/-!
# Writing texts and records

A text is written between quotes with the fewest escapes: a quote, a backslash and the characters
below U+0020 are escaped, and every other character stands for itself. A record of texts is written
without white space, its members in the order given.
-/

namespace TemplateClient.Json

/-! ## 1. Texts -/

/-- A character as it is written inside quotes. -/
def escape (c : Char) : List Char :=
  if c = '\x22' then ['\\', '\x22']
  else if c = '\\' then ['\\', '\\']
  else if c = '\n' then ['\\', 'n']
  else if c = '\r' then ['\\', 'r']
  else if c = '\t' then ['\\', 't']
  else if c = '\x08' then ['\\', 'b']
  else if c = '\x0c' then ['\\', 'f']
  else if c.toNat < 0x20 then
    ['\\', 'u', '0', '0', Hex.lower (c.toNat / 16), Hex.lower (c.toNat % 16)]
  else [c]

/-- A text between quotes. -/
def quote (cs : List Char) : List Char :=
  '\x22' :: (cs.flatMap escape ++ ['\x22'])

/-! ## 2. Records -/

/-- A member whose value is a text. -/
def writeMember (m : String × String) : List Char :=
  quote m.1.toList ++ ':' :: quote m.2.toList

/-- The members after the first, each with the comma in front of it. -/
def writeRest : List (String × String) → List Char
  | [] => []
  | m :: ms => ',' :: (writeMember m ++ writeRest ms)

/-- A record of texts, written as an object. -/
def writeRecord : List (String × String) → List Char
  | [] => ['\x7b', '\x7d']
  | m :: ms => '\x7b' :: (writeMember m ++ writeRest ms ++ ['\x7d'])

end TemplateClient.Json
