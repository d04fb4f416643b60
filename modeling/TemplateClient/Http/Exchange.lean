import TemplateClient.Http.Address
import TemplateClient.Http.MediaType
import TemplateClient.Service.Failure

/-!
# Exchanges with the service

A request is posted to the address that the settings give. A reply may point elsewhere: then the
client asks there, a limited number of times. The last reply is final: its body is read as an answer
if the status is a success, and kept as text otherwise.

* `HttpRequest`, `HttpRequest.post?`, `HttpRequest.redirected?` -- what is sent, and where to;
* `HttpReply`, `HttpReply.answer` -- what comes back, and the answer that it is;
* `Client.exchange` -- the answer to a request, by whatever means requests are sent;
* `Network.exchange` -- the answer to a request on a network, and all that the network is asked.
-/

namespace TemplateClient

/-! ## 1. Requests -/

/-- A request as the service sees it. -/
structure HttpRequest where
  method : String := "POST"
  target : String
  contentType : Option String := some "application/json"
  body : String
deriving DecidableEq, Repr

namespace HttpRequest

/-- The request that carries values to a URL, and the origin that it goes to; none if the URL is
unusable. -/
def post? (toAscii? : String → Option String) (url : String) (values : FormValues) :
    Option (Origin × HttpRequest) :=
  (Address.parse? toAscii? url).map fun a =>
    (a.origin, { target := a.target, body := values.toText })

/-- The request for another target that follows a reply with that status; none if the status does
not point elsewhere. A post that was found elsewhere or is to be looked up there turns into a plain
reading. -/
def redirected? (r : HttpRequest) (status : Nat) : Option (String → HttpRequest) :=
  let again := fun target => { r with target }
  let reading := fun target => { method := "GET", target, contentType := none, body := "" }
  if status = 307 ∨ status = 308 then some again
  else if status = 303 then some reading
  else if status = 301 ∨ status = 302 then some (if r.method = "POST" then reading else again)
  else none

end HttpRequest

/-! ## 2. Replies -/

/-- What comes back on a connection. -/
structure HttpReply where
  status : Nat
  contentType : String
  body : List UInt8
  /-- The connection ended before the body did. -/
  isCut : Bool := false
  /-- Where the reply points, in the words of the service. -/
  location : Option String := none
deriving DecidableEq, Repr

namespace HttpReply

/-- The status is one that a final reply can have, and the content type is a single line. -/
def isReadable (r : HttpReply) : Bool :=
  (r.status == 101 || (200 ≤ r.status && r.status ≤ 999))
    && r.contentType.toList.all fun c => c == '\t' || (0x20 ≤ c.toNat && c.toNat != 0x7F)

/-- The status is a success. -/
def isSuccess (r : HttpReply) : Bool := 200 ≤ r.status && r.status < 300

/-- A reply with that status has no body, whatever follows it. -/
def hasNoBody (r : HttpReply) : Bool := r.status == 101 || r.status == 204 || r.status == 304

/-- The content type without the white space at its ends. -/
def mediaType (r : HttpReply) : String :=
  let isSpace := fun c => c == ' ' || c == '\t'
  String.ofList (Text.dropEndWhile isSpace (r.contentType.toList.dropWhile isSpace))

/-- The text of the body, if it is complete. -/
def text? (r : HttpReply) : Option String :=
  if r.hasNoBody then some ""
  else if r.isCut then none
  else some ((MediaType.charset r.mediaType).decode r.body)

/-- The answer that a reply is. -/
def answer (r : HttpReply) : Answer :=
  if !r.isReadable then .error (.noAnswer "the reply is malformed")
  else if r.isSuccess then
    match r.text? with
    | some text => Answer.ofBody text
    | none => .error (.noAnswer "the reply was cut short")
  else .error (.refused r.status (r.text?.getD ""))

end HttpReply

/-- The answer to what came back. -/
def Answer.ofReply? : Option HttpReply → Answer
  | some reply => reply.answer
  | none => .error (.noAnswer "no reply came")

/-! ## 3. Clients -/

/-- What the client takes from elsewhere. -/
structure Client where
  /-- How the name of a host is written in ASCII. -/
  toAscii? : String → Option String
  /-- Where a reference leads from an address: nowhere if it cannot be read, and to no address if
  the client cannot go there. -/
  refer? : Address → String → Option (Option Address)

namespace Client

/-- The requests that follow a post at most. -/
def redirectLimit : Nat := 10

/-- The request that follows a reply to `request`; nothing if the reply is final, and no request if
it points to where the client cannot go. -/
def next? (c : Client) (origin : Origin) (request : HttpRequest) (reply : HttpReply) :
    Option (Option (Origin × HttpRequest)) := do
  guard reply.isReadable
  let redirected ← request.redirected? reply.status
  let place ← c.refer? ⟨origin, request.target⟩ (← reply.location)
  return place.map fun address => (address.origin, redirected address.target)

section Sending

variable {m : Type → Type} [Monad m] (c : Client)
  (send : Origin → HttpRequest → m (Option HttpReply))

/-- What comes of a reply to a request: it is final, or the client goes on where it points if it
can. -/
def pursue (goOn : Origin → HttpRequest → m (Option HttpReply)) (origin : Origin)
    (request : HttpRequest) : Option HttpReply → m (Option HttpReply)
  | none => return none
  | some reply =>
    match c.next? origin request reply with
    | none => return some reply
    | some none => return none
    | some (some (origin, request)) => goOn origin request

/-- The final reply to a request, after at most `n` more requests; none if none came, or if the last
reply that was looked at points elsewhere, to where the client cannot go or once more. -/
def ask : Nat → Origin → HttpRequest → m (Option HttpReply)
  | 0, origin, request => do
    c.pursue (fun _ _ => return none) origin request (← send origin request)
  | n + 1, origin, request => do
    c.pursue (ask n) origin request (← send origin request)

/-- The final reply to values that are posted to a URL. -/
def fetch (url : String) (values : FormValues) : m (Option HttpReply) :=
  match HttpRequest.post? c.toAscii? url values with
  | some (origin, request) => c.ask send redirectLimit origin request
  | none => return none

/-- The answer to values that are posted to a URL. -/
def exchange (url : String) (values : FormValues) : m Answer :=
  return Answer.ofReply? (← c.fetch send url values)

end Sending

end Client

/-! ## 4. Networks -/

/-- The requests that a network has been asked, in order, and where each went. -/
abbrev Asked := List (Origin × HttpRequest)

/-- A network that a client is on: what comes back from an origin for a request, after all that has
been asked before; nothing if the origin cannot be reached or closes the connection without a
reply. -/
structure Network extends Client where
  reply? : Asked → Origin → HttpRequest → Option HttpReply

namespace Network

/-- A request on a network that keeps a list of what it is asked. -/
def send (net : Network) (origin : Origin) (request : HttpRequest) :
    StateM Asked (Option HttpReply) := do
  let before ← get
  set (before ++ [(origin, request)])
  return net.reply? before origin request

/-- The final reply to values that are posted to a URL, and all that the network is asked. -/
def fetch (net : Network) (url : String) (values : FormValues) : Option HttpReply × Asked :=
  (net.toClient.fetch net.send url values).run []

/-- The answer to values that are posted to a URL, and all that the network is asked. -/
def exchange (net : Network) (url : String) (values : FormValues) : Answer × Asked :=
  (net.toClient.exchange net.send url values).run []

end Network

end TemplateClient
