import Courier.Entity
import Courier.Entity.Codec
import Courier.Limiter.Window
import Courier.Status

/-!
# Failures

Everything that can go wrong with a call, in one type. `Failure.message` words it, and
`status?`, `cause?` and `isCanceled` look through the wrappings that a batch puts around
the failure of one of its requests.

A status failure keeps what the response said. Its redacted form leaves the body out.
-/

namespace Courier

/-- Why a request could not be given its credentials. No credential is part of it. -/
inductive AuthFault where
  | invalidHeader (name : String)
  | invalidCredentials
  | tokenSource (message : String)
  deriving Repr, DecidableEq, Inhabited

/-- The wording of a fault. -/
def AuthFault.message : AuthFault → String
  | .invalidHeader name => "invalid header '" ++ name ++ "'"
  | .invalidCredentials => "invalid credentials"
  | .tokenSource message => "token source failed: " ++ message

/-- A response that does not mean success, or whose body does not decode. -/
structure StatusFailure where
  /-- The number of the call. -/
  id : Nat
  status : Status
  method : String
  url : String
  entity : Option Entity
  text : String
  cause : Option Status.Cause
  deriving Repr, DecidableEq, Inhabited

namespace StatusFailure

/-- The text of an unexpected status. -/
def unexpectedText (status : Status) : String :=
  Text.trimEnd ("unexpected status code: " ++ toString status ++ " "
    ++ (Status.reason? status).getD "")

/-- The failure of a call that got an unexpected status. -/
def unexpected (id : Nat) (method url : String) (status : Status) (entity : Option Entity) :
    StatusFailure :=
  { id, status, method, url, entity, text := unexpectedText status, cause := Status.cause? status }

/-- The request and text, the cause if there is one, and the body if it was kept. -/
def message (e : StatusFailure) : String :=
  e.method ++ " " ++ e.url ++ ": " ++ e.text
    ++ (match e.cause with
      | some c => "; because: " ++ c.message
      | none => "")
    ++ (match e.entity with
      | some entity => "\n" ++ entity.display
      | none => "")

/-- The method and URL of the request. -/
def requestLine (e : StatusFailure) : String :=
  e.method ++ " " ++ e.url

/-- The wording without body and cause. -/
def redacted (e : StatusFailure) : String :=
  e.requestLine ++ ": " ++ e.text

end StatusFailure

/-- Why a call, a batch or a client failed. -/
inductive Failure where
  | invalidUrl (url reason : String)
  | request (reason : String)
  | authorization (fault : AuthFault)
  /-- The transport gave no response, because of a timeout or for another reason. -/
  | transport (timeout : Bool)
  | status (e : StatusFailure)
  | rateLimit (id : Nat) (method url : String) (source : Limiter.Refusal)
  | canceled
  | marshal (reason : String)
  | unmarshal (reason : String)
  | unsupportedType (contentType : String)
  | observer (reason : String)
  /-- The request of a batch at `index` could not be produced. -/
  | producer (index : Nat) (source : Failure)
  /-- The request of a batch at `index` failed. -/
  | multiplex (index : Nat) (source : Failure)
  /-- A part of a batch crashed. -/
  | crashed (text : String)
  | config (reason : String)
  deriving Repr, DecidableEq, Inhabited

namespace Failure

/-- The number of a call in at least six digits. -/
def callNumber (id : Nat) : String :=
  String.ofList ((List.replicate (6 - (Nat.toDigits 10 id).length) '0') ++ Nat.toDigits 10 id)

/-- The wording of a failure at an instant. Failures of the transport are not worded in
detail. -/
def message (now : Instant) : Failure → String
  | .invalidUrl url reason => "invalid url '" ++ url ++ "': " ++ reason
  | .request reason => "invalid request: " ++ reason
  | .authorization fault => "could not authorize request: " ++ fault.message
  | .transport _ => "transport error: <transport>"
  | .status e => e.message
  | .rateLimit id method url source =>
    "[" ++ callNumber id ++ "] " ++ method ++ " " ++ url ++ ": rate limit error: "
      ++ source.message now
  | .canceled => "request canceled"
  | .marshal reason => "could not marshal entity: " ++ reason
  | .unmarshal reason => "could not unmarshal entity: " ++ reason
  | .unsupportedType contentType => "unsupported content type '" ++ contentType ++ "'"
  | .observer reason => "request rejected by observer: " ++ reason
  | .producer index source =>
    "could not produce request " ++ toString index ++ ": " ++ source.message now
  | .multiplex index source =>
    "could not multiplex request " ++ toString index ++ ": " ++ source.message now
  | .crashed text => "request worker panicked: " ++ text
  | .config reason => "invalid configuration: " ++ reason

/-- The status failure that a failure is or wraps. -/
def statusFailure? : Failure → Option StatusFailure
  | .status e => some e
  | .producer _ source => source.statusFailure?
  | .multiplex _ source => source.statusFailure?
  | _ => none

/-- The status of a status failure, through wrappings. -/
def status? (f : Failure) : Option Status :=
  f.statusFailure?.map StatusFailure.status

/-- The cause of a status failure, through wrappings. -/
def cause? (f : Failure) : Option Status.Cause :=
  f.statusFailure?.bind StatusFailure.cause

/-- Whether cancellation is what a failure is or wraps. -/
def isCanceled : Failure → Bool
  | .canceled => true
  | .producer _ source => source.isCanceled
  | .multiplex _ source => source.isCanceled
  | _ => false

/-- The wordings of what a failure goes back to, the nearest first. -/
def sources (now : Instant) : Failure → List String
  | .authorization fault => [fault.message]
  | .transport _ => []
  | .status e => (e.cause.map Status.Cause.message).toList
  | .rateLimit _ _ _ source => [source.message now]
  | .producer _ source => source.message now :: source.sources now
  | .multiplex _ source => source.message now :: source.sources now
  | _ => []

/-- The failure of a datum that is not encoded. -/
def ofEncode : Codec.EncodeFault → Failure
  | .json fault => .marshal fault.message
  | .form fault => .marshal fault.message
  | .notScalar => .marshal "only scalar values can be sent as text/plain"
  | .unsupported contentType => .unsupportedType contentType

/-- The failure of bytes that are not decoded. Where a JSON text goes wrong is not worded. -/
def ofDecode : Codec.DecodeFault → Failure
  | .json => .unmarshal "<json>"
  | .form fault => .unmarshal fault.message
  | .shape fault => .unmarshal fault.message
  | .notText fault => .unmarshal ("text/plain body is not utf-8: " ++ fault.message)
  | .unsupported contentType => .unsupportedType contentType

end Failure

end Courier
