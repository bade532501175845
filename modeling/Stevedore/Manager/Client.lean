import Stevedore.Manager.Call
import Stevedore.Manager.EventStream
import Stevedore.Text.Base64

/-!
# The client of the manager

Every call is a request of its own. A subscription is answered by a stream of events and by the id
of that stream, which every later call names; without a subscription that has succeeded no call is
made. A call that names no framework is made in the name of the one that the client knows: the id
given with a subscription, or the one that a stream has since reported.
-/

namespace Stevedore.Manager

/-- Where the manager is and how to authenticate. -/
structure Endpoint where
  /-- The manager's address. -/
  master : String
  /-- The user, if the manager asks for one. -/
  username : Option String
  /-- The user's password. -/
  password : Option String
  deriving DecidableEq, Repr

namespace Endpoint

/-- The address that calls go to. -/
def url (e : Endpoint) : String :=
  String.ofList (e.master.toList.reverse.dropWhile (· == '/')).reverse ++ "/api/v1/scheduler"

/-- What a request says of its user. -/
def authorization (e : Endpoint) : Option String :=
  e.username.map fun user =>
    "Basic " ++ Text.base64 (Text.encode (user ++ ":" ++ e.password.getD ""))

end Endpoint

/-- A request to the manager. Its body is a call in JSON, and JSON is what it accepts. -/
structure Request where
  /-- The address. -/
  url : String
  /-- What it says of its user. -/
  authorization : Option String
  /-- The stream that it belongs to. -/
  streamId : Option String
  /-- The call. -/
  call : Call
  deriving DecidableEq

/-- The kind of content that a request accepts and has. -/
def Request.contentType : String := "application/json"

/-- An answer of the manager. -/
structure Response where
  /-- The status. -/
  status : Nat
  /-- The id of a stream, as it was sent. -/
  streamId : Option (List UInt8)
  /-- The body. -/
  body : Body
  deriving DecidableEq, Repr

namespace Response

/-- Whether the manager has accepted the request. -/
def isSuccess (r : Response) : Bool :=
  decide (200 ≤ r.status ∧ r.status < 300)

/-- The id of a stream, if it consists of visible characters. -/
def streamId? (r : Response) : Option String :=
  r.streamId.bind fun bytes =>
    if bytes.all fun b => b == 0x09 || (0x20 ≤ b && b < 0x7F) then Text.decode? bytes else none

/-- The body as text, or no text if the connection broke. -/
def text (r : Response) : String :=
  if r.body.broken then ""
  else String.ofList ((Text.symbols r.body.chunks.flatten).map (·.getD '\ufffd'))

end Response

/-- What becomes of a request. -/
inductive Reply where
  /-- It does not reach the manager. -/
  | unreachable
  /-- It reaches the manager, and the connection breaks before an answer. -/
  | dropped
  /-- It is answered. -/
  | answered (response : Response)
  deriving DecidableEq, Repr

/-- What a client remembers. -/
structure Session where
  /-- The stream of the last subscription, if that has succeeded. -/
  streamId : Option String
  /-- The framework's id as far as it is known. -/
  frameworkId : Option Id
  deriving DecidableEq, Repr

namespace Session

/-- A session that has not begun. -/
def fresh : Session := ⟨none, none⟩

/-- A subscription begins: the stream before it no longer counts. -/
def subscribing (s : Session) (info : FrameworkInfo) : Session :=
  ⟨none, info.id <|> s.frameworkId⟩

/-- A stream has been opened. -/
def opened (s : Session) (streamId : String) : Session :=
  { s with streamId := some streamId }

/-- A message has been read. -/
def observe (s : Session) (m : Message) : Session :=
  match m.kind, m.subscribed with
  | .subscribed, some subscription => { s with frameworkId := some subscription.frameworkId }
  | _, _ => s

/-- A call as it is made in a session. -/
def complete (s : Session) (c : Call) : Call :=
  { c with frameworkId := c.frameworkId <|> s.frameworkId }

end Session

/-- A client. -/
structure Client where
  /-- Where the manager is. -/
  endpoint : Endpoint
  /-- What it remembers. -/
  session : Session
  /-- The requests that have reached the manager, in order. -/
  arrived : List Request

namespace Client

/-- A client that has made no request. -/
def ofEndpoint (e : Endpoint) : Client := ⟨e, .fresh, []⟩

/-- The request of a call. -/
def request (c : Client) (streamId : Option String) (call : Call) : Request :=
  ⟨c.endpoint.url, c.endpoint.authorization, streamId, call⟩

/-- Make a request. -/
def exchange (c : Client) (r : Request) : Reply → Except Fault Response × Client
  | .unreachable => (.error .transport, c)
  | .dropped => (.error .transport, { c with arrived := c.arrived ++ [r] })
  | .answered response =>
    (if response.isSuccess then .ok response
      else .error (.status response.status response.text),
      { c with arrived := c.arrived ++ [r] })

/-- Subscribe. -/
def subscribe (c : Client) (info : FrameworkInfo) (reply : Reply) :
    Except Fault EventStream × Client :=
  let c := { c with session := c.session.subscribing info }
  match c.exchange (c.request none (.subscribing info)) reply with
  | (.error fault, c) => (.error fault, c)
  | (.ok response, c) =>
    match response.streamId? with
    | none => (.error (.protocol .missingStreamId), c)
    | some id => (.ok (.ofBody response.body), { c with session := c.session.opened id })

/-- Make a call. -/
def call (c : Client) (call : Call) (reply : Reply) : Except Fault Unit × Client :=
  match c.session.streamId with
  | none => (.error .notSubscribed, c)
  | some id =>
    let (outcome, c) := c.exchange (c.request (some id) (c.session.complete call)) reply
    (outcome.map fun _ => (), c)

/-- Take the next item of a stream. -/
def poll (c : Client) (s : EventStream) : Option Item × EventStream × Client :=
  match s.poll with
  | (some (.ok m), s) => (some (.ok m), s, { c with session := c.session.observe m })
  | (item, s) => (item, s, c)

end Client

end Stevedore.Manager
