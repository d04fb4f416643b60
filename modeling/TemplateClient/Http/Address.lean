import TemplateClient.Http.Host
import TemplateClient.Text.Blank

/-!
# Web addresses

The address of a service, as a URL gives it. Reading is lenient in the way of browsers: white space
at the ends does not count, nor do tabs and line ends anywhere, backslashes are slashes, and the
number of slashes after the scheme is free.

* `Scheme`, `Origin`, `Address` -- where a request goes and how, and what it asks for there;
* `Address.resolve` -- segments of a path, with those of one or two points carried out;
* `Address.targetOf` -- a path and a query as they are sent;
* `Address.parse?` -- the address that a text gives;
* `Address.refer?` -- where a reference leads from an address.
-/

namespace TemplateClient

/-- How a service is reached: in plain text, or through an encrypted connection. -/
inductive Scheme where
  | http
  | https
deriving DecidableEq, Repr

namespace Scheme

/-- The text of a scheme in front of an address. -/
def text : Scheme → String
  | .http => "http:"
  | .https => "https:"

/-- The port that is used when an address names none. -/
def usualPort : Scheme → Nat
  | .http => 80
  | .https => 443

end Scheme

/-- Where a service is reached. -/
structure Origin where
  scheme : Scheme
  host : Host
  port : Nat
deriving DecidableEq, Repr

/-- The text of an origin behind the scheme; the usual port is left out. -/
def Origin.text (o : Origin) : String :=
  if o.port = o.scheme.usualPort then o.host.text else o.host.text ++ ":" ++ toString o.port

/-- Where a request goes, and the path and query that it asks for there. -/
structure Address where
  origin : Origin
  target : String
deriving DecidableEq, Repr

namespace Address

/-! ## 1. Percent escapes -/

/-- A byte as a percent escape. -/
def escapeByte (b : UInt8) : List Char :=
  ['%', Hex.upper (b.toNat / 16), Hex.upper (b.toNat % 16)]

/-- The text with every character outside the class `stays` as the percent escapes of its bytes. -/
def escape (stays : Char → Bool) (cs : List Char) : List Char :=
  cs.flatMap fun c => if stays c then [c] else (String.utf8EncodeChar c).flatMap escapeByte

/-- The characters of ASCII that are visible. -/
def isVisible (c : Char) : Bool := 0x20 < c.toNat && c.toNat < 0x7F

/-- The characters that stay in a path. -/
def staysInPath (c : Char) : Bool :=
  isVisible c && !(['\x22', '#', '<', '>', '?', '\x60', '\x7b', '\x7d'].contains c)

/-- The characters that stay in a query. -/
def staysInQuery (c : Char) : Bool :=
  isVisible c && !(['\x22', '#', '\x27', '<', '>'].contains c)

/-- The characters that stay in a fragment. -/
def staysInFragment (c : Char) : Bool :=
  isVisible c && !(['\x22', '<', '>', '\x60'].contains c)

/-! ## 2. Paths and queries -/

/-- A slash of either kind. -/
def isSlash (c : Char) : Bool := c == '/' || c == '\\'

/-- The segment with its escaped points replaced. -/
def plainPoints : List Char → List Char
  | '%' :: '2' :: 'e' :: cs => '.' :: plainPoints cs
  | '%' :: '2' :: 'E' :: cs => '.' :: plainPoints cs
  | c :: cs => c :: plainPoints cs
  | [] => []

/-- The segment is the letter of a drive. -/
def isDrive : List Char → Bool
  | [c, d] => c.isAlpha && (d == ':' || d == '|')
  | _ => false

/-- The segments without the latest one, unless that is the letter of a drive. -/
def parent : List (List Char) → List (List Char)
  | [] => []
  | s :: front => if isDrive s then s :: front else front

/-- The segments that are left after `front` (latest first): one point stands for nothing, and two
take the segment before them away. At the end of a path, either leaves an empty segment. -/
def resolve (front : List (List Char)) : List (List Char) → List (List Char)
  | [] => front.reverse
  | s :: rest =>
    let back := if rest.isEmpty then [[]] else []
    if plainPoints s = ['.'] then resolve (back ++ front) rest
    else if plainPoints s = ['.', '.'] then resolve (back ++ parent front) rest
    else resolve (s :: front) rest

/-- The path that characters give, as it is sent. -/
def path (cs : List Char) : List Char :=
  let cs := if cs.head?.any isSlash then cs.drop 1 else cs
  (resolve [] (cs.splitOnP isSlash)).flatMap fun s => '/' :: escape staysInPath s

/-- The path and the query that characters give, as they are sent. What follows a number sign does
not count. -/
def targetOf (cs : List Char) : List Char :=
  let cs := cs.takeWhile (· != '#')
  let query := match cs.dropWhile (· != '?') with
    | [] => []
    | _ :: query => '?' :: escape staysInQuery query
  path (cs.takeWhile (· != '?')) ++ query

/-- The fragment that characters give. It is never sent. -/
def fragmentOf (cs : List Char) : List Char :=
  match cs.dropWhile (· != '#') with
  | [] => []
  | _ :: fragment => '#' :: escape staysInFragment fragment

/-! ## 3. Authorities -/

/-- The host is over: a path, a query or a fragment begins. -/
def endsHost (c : Char) : Bool := isSlash c || c == '?' || c == '#'

/-- What follows the last at sign, or everything. -/
def withoutUser (cs : List Char) : List Char :=
  (cs.reverse.takeWhile (· != '@')).reverse

/-- The port that characters spell; without a digit, the usual one. -/
def port? (scheme : Scheme) (cs : List Char) : Option Nat :=
  if cs.isEmpty then some scheme.usualPort
  else if cs.all Char.isDigit then (Host.digits? 10 cs).filter (· < 0x10000)
  else none

section Names

-- how names with characters outside of ASCII are written in ASCII
variable (toAscii? : String → Option String)

/-- The host, and what follows it: a host in brackets ends with them, and any other at a colon. -/
def host? (cs : List Char) : Option (Host × List Char) :=
  match cs with
  | '[' :: cs =>
    match cs.dropWhile (· != ']') with
    | [] => none
    | _ :: rest => (Host.groups? (cs.takeWhile (· != ']'))).map (.ipv6 ·, rest)
  | cs => (Host.parse? toAscii? (cs.takeWhile (· != ':'))).map (·, cs.dropWhile (· != ':'))

/-- The origin that the characters between scheme and path give. -/
def origin? (scheme : Scheme) (cs : List Char) : Option Origin := do
  match ← host? toAscii? (withoutUser cs) with
  | (host, []) => return ⟨scheme, host, scheme.usualPort⟩
  | (host, ':' :: cs) => return ⟨scheme, host, ← port? scheme cs⟩
  | _ => none

end Names

/-! ## 4. Addresses -/

/-- Stripped of what does not count at the ends and in between. -/
def clean (cs : List Char) : List Char :=
  let isEdge := fun (c : Char) => c.toNat ≤ 0x20
  (Text.dropEndWhile isEdge (cs.dropWhile isEdge)).filter fun c =>
    c != '\t' && c != '\n' && c != '\r'

/-- The scheme in front, written in either case, and what follows it. -/
def afterScheme? (cs : List Char) : Option (Scheme × List Char) :=
  if (cs.take 5).map Char.toLower = ['h', 't', 't', 'p', ':'] then some (.http, cs.drop 5)
  else if (cs.take 6).map Char.toLower = ['h', 't', 't', 'p', 's', ':'] then
    some (.https, cs.drop 6)
  else none

/-- The characters that an address may have when it is written out. -/
def lengthLimit : Nat := 65534

/-- The address that a text gives. It must not be too long when it is written out. -/
def parse? (toAscii? : String → Option String) (url : String) : Option Address := do
  let (scheme, cs) ← afterScheme? (clean url.toList)
  let cs := cs.dropWhile isSlash
  let origin ← origin? toAscii? scheme (cs.takeWhile fun c => !endsHost c)
  let rest := cs.dropWhile fun c => !endsHost c
  let target := targetOf rest
  guard (scheme.text.length + "//".length + origin.text.length + target.length
    + (fragmentOf rest).length ≤ lengthLimit)
  return ⟨origin, String.ofList target⟩

/-! ## 5. References -/

/-- What follows the scheme in front, whatever scheme it is. -/
def afterAnyScheme? : List Char → Option (List Char)
  | [] => none
  | c :: cs =>
    match cs.dropWhile fun c => c.isAlphanum || c == '+' || c == '-' || c == '.' with
    | ':' :: rest => if c.isAlpha then some rest else none
    | _ => none

/-- The path that a reference spells from an address: from the root, in the place of what follows
the last slash, or the same one. -/
def pathFrom (base : Address) (cs : List Char) : List Char :=
  let path := base.target.toList.takeWhile (· != '?')
  match cs with
  | '/' :: _ => cs
  | [] => base.target.toList
  | '#' :: _ => base.target.toList
  | '?' :: _ => path ++ cs
  | _ => Text.dropEndWhile (· != '/') path ++ cs

/-- Where a reference leads from an address: nowhere if it cannot be read, and to no address if it
has another scheme. -/
def refer? (toAscii? : String → Option String) (base : Address) (reference : String) :
    Option (Option Address) :=
  let cs := (clean reference.toList).map fun c => if c = '\\' then '/' else c
  match afterScheme? cs, afterAnyScheme? cs with
  | some _, _ => (parse? toAscii? reference).map some
  | none, some rest => if rest.take 2 = ['/', '/'] then some none else none
  | none, none =>
    if cs.take 2 = ['/', '/'] then
      (parse? toAscii? (base.origin.scheme.text ++ String.ofList cs)).map some
    else some (some { base with target := String.ofList (targetOf (base.pathFrom cs)) })

end Address

end TemplateClient
