import Logbook.Act
import Logbook.Digest.Base64
import Logbook.Json.Basic
import Logbook.Web.Address

/-!
# The outbox

Requests to other services over HTTP. A request counts as sent whatever becomes of it; it is a
success if the answer has a status from 200 to 299. A request to an address that is not absolute is
sent to the root of nowhere, and no answer to it is a success. Who asks is said by the request
itself, or else by its address.
-/

namespace Logbook

/-- The body of a request: a JSON value, or a form of names and texts. -/
inductive Content where
  | json (value : Json)
  | form (pairs : List (String × String))
  deriving DecidableEq, Repr

/-- A request to an address as it is written. -/
structure Request where
  url : String
  authorization : Option String := none
  content : Content
  deriving DecidableEq, Repr

/-- What becomes of a request. -/
inductive Reply where
  | status (code : Int)
  | refused
  | crash
  deriving DecidableEq, Repr

/-- What becomes of requests to an address, and the requests sent so far. -/
structure Outbox where
  replies : String → Reply := fun _ => .status 200
  sent : List Request := []

namespace Content

/-- The body as it is answered. -/
def toJson : Content → Json
  | json v => v
  | form ps => .arr (ps.map fun (k, v) => .arr [.str k, .str v])

/-- Has the body a written form? Infinities and NaN have none in JSON. -/
def isWritable : Content → Bool
  | json v => !v.hasUnbounded
  | form _ => true

end Content

/-- A name and a password as a request gives them. -/
def basicAuthorization (name password : String) : String :=
  "Basic " ++ String.ofList (Digest.base64 (Text.toUtf8 (name ++ ":" ++ password).toList))

/-- Who asks, as an absolute address tells it. -/
def WebAddress.authorization? (a : WebAddress) : Option String :=
  let (name, password) := a.credentials
  if a.isAbsolute && (name != "" || password != "") then some (basicAuthorization name password)
  else none

namespace Request

/-- The request to an address. -/
def addressed (a : WebAddress) (authorization : Option String) (content : Content) : Request where
  url := (if a.isAbsolute then a else a.fromRoot).text
  authorization := authorization.or a.authorization?
  content := content

/-- The request as it is answered. -/
def toJson (r : Request) : Json :=
  .obj [("method", .str "POST"), ("url", .str r.url), ("auth", .orNull .str r.authorization),
    ("body", r.content.toJson)]

end Request

namespace Reply

/-- The fault of a request over a channel, if it fails. -/
def fault? (channel : String) (isAbsolute : Bool) : Reply → Option Fault
  | .status n =>
    if !isAbsolute then some .badValue
    else if 200 ≤ n && n ≤ 299 then none
    else some (.problem (.deliveryFailed channel))
  | .refused => some (.problem (.deliveryFailed channel))
  | .crash => some .crash

end Reply

namespace Outbox

/-- Sends a request over a channel. -/
def post (channel address : String) (authorization : Option String) (content : Content) :
    Act Outbox Unit := do
  let a ← Act.ofExcept (WebAddress.ofText address)
  if !content.isWritable then throw .badValue
  let r := Request.addressed a authorization content
  let box ← get
  set { box with sent := box.sent ++ [r] }
  match (box.replies r.url).fault? channel a.isAbsolute with
  | some f => throw f
  | none => pure ()

end Outbox

end Logbook
