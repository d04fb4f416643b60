import TemplateClient.Http.Exchange

/-!
# Requests and replies as bytes

Each exchange has a connection of its own, which ends with the reply.

* `HttpRequest.toBytes` -- a request as it is sent;
* `Wire.head?`, `Wire.unchunk` -- the lines in front of a body, and a body that comes in pieces;
* `HttpReply.ofBytes?` -- the reply that all bytes from a connection give.
-/

namespace TemplateClient

/-! ## 1. Requests -/

/-- A request as it is sent. -/
def HttpRequest.toBytes (origin : Origin) (r : HttpRequest) : ByteArray :=
  let line := fun s => s ++ "\r\n"
  (line (r.method ++ " " ++ r.target ++ " HTTP/1.1")
    ++ line ("host: " ++ origin.text)
    ++ String.join (r.contentType.toList.map fun type => line ("content-type: " ++ type))
    ++ line ("content-length: " ++ toString r.body.utf8ByteSize)
    ++ line "accept: */*"
    ++ line "connection: close"
    ++ line "" ++ r.body).toUTF8

/-! ## 2. Parts of a reply -/

namespace Wire

/-- The next line, without its end, and what follows it; none if no line ends. -/
def line? : List UInt8 → Option (List Char × List UInt8)
  | [] => none
  | 0x0A :: bs => some ([], bs)
  | 0x0D :: 0x0A :: bs => some ([], bs)
  | b :: bs => (line? bs).map fun (cs, rest) => (Char.ofNat b.toNat :: cs, rest)

/-- At most `n` lines up to an empty one, and what follows it. -/
def lines? : Nat → List UInt8 → Option (List (List Char) × List UInt8)
  | 0, _ => none
  | n + 1, bs =>
    match line? bs with
    | none => none
    | some ([], rest) => some ([], rest)
    | some (l, rest) => (lines? n rest).map fun (ls, rest) => (l :: ls, rest)

/-- The status that a first line gives. -/
def status? : List Char → Option Nat
  | 'H' :: 'T' :: 'T' :: 'P' :: '/' :: '1' :: '.' :: _ :: ' ' :: a :: b :: c :: rest =>
    if rest.head?.all (· == ' ') then Host.digits? 10 [a, b, c] else none
  | _ => none

/-- The text without spaces and tabs at its ends. -/
def trim (cs : List Char) : List Char :=
  let isSpace := fun c => c == ' ' || c == '\t'
  Text.dropEndWhile isSpace (cs.dropWhile isSpace)

/-- A header line: its name in lower case, and its value. -/
def header? (cs : List Char) : Option (String × String) :=
  match cs.dropWhile (· != ':') with
  | [] => none
  | _ :: value =>
    some (String.ofList ((cs.takeWhile (· != ':')).map Char.toLower), String.ofList (trim value))

/-- The lines in front of a body. -/
structure Head where
  status : Nat
  headers : List (String × String)

/-- The head that bytes begin with, and what follows it. -/
def head? (bs : List UInt8) : Option (Head × List UInt8) := do
  match ← lines? bs.length bs with
  | (first :: rest, body) =>
    return ({ status := ← status? first, headers := ← rest.mapM header? }, body)
  | _ => none

/-- The body that at most `n` pieces make up, each behind its length, and whether it is cut. -/
def unchunk : Nat → List UInt8 → List UInt8 × Bool
  | 0, _ => ([], true)
  | n + 1, bs =>
    match line? bs with
    | none => ([], true)
    | some (l, rest) =>
      match Host.digits? 16 (l.takeWhile fun c => (Hex.value? c).isSome) with
      | none => ([], true)
      | some 0 => ([], false)
      | some size =>
        if rest.length < size then (rest, true)
        else
          let (body, isCut) := unchunk n (((line? (rest.drop size)).map Prod.snd).getD [])
          (rest.take size ++ body, isCut)

/-- The reply that a head and what follows it make up. -/
def Head.reply (h : Head) (bs : List UInt8) : HttpReply :=
  let reply : HttpReply := {
    status := h.status
    contentType := (h.headers.lookup "content-type").getD ""
    body := bs
    location := h.headers.lookup "location" }
  if h.headers.lookup "transfer-encoding" = some "chunked" then
    let (body, isCut) := unchunk bs.length bs
    { reply with body, isCut }
  else match (h.headers.lookup "content-length").bind fun v => Host.digits? 10 v.toList with
    | some size => { reply with body := bs.take size, isCut := bs.length < size }
    | none => reply

/-- The reply behind at most `n` provisional ones. -/
def reply? : Nat → List UInt8 → Option HttpReply
  | 0, _ => none
  | n + 1, bs =>
    match head? bs with
    | none => none
    | some (h, rest) =>
      if h.status < 200 ∧ h.status ≠ 101 then reply? n rest else some (h.reply rest)

end Wire

/-! ## 3. Replies -/

/-- The reply that all bytes from a connection give; none if they hold no reply. -/
def HttpReply.ofBytes? (bs : List UInt8) : Option HttpReply :=
  Wire.reply? bs.length bs

end TemplateClient
