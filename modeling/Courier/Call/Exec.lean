import Courier.Call.Run

/-!
# Calls for values

Most calls are made for the value in the response. A body that does not decode is a failure
of the call, which keeps the body for a reader if the call is traced.
-/

namespace Courier.Client

variable {σ : Type} (client : Client σ)

/-- The request for a target with a datum as its body, in the client's content type. -/
def compose (method target : String) (input : Option Datum) : Except Failure Request :=
  match input with
  | none => .ok { method, target }
  | some d => ({ method, target : Request }).entity client.contentType d

/-- Whether calls to a URL are traced at all. -/
def traces (u : Url) : Bool :=
  client.tracing.showsHeaders u || client.tracing.followsSteps u

/-- The failure of a call whose response does not decode. -/
def decodeFailure (id : Nat) (method : String) (response : Response) (e : Entity)
    (fault : Failure) (now : Instant) : Failure :=
  .status {
    id
    status := response.status
    method
    url := (response.url.map Url.print).getD ""
    entity := if (response.url.map client.traces).getD false then some e else none
    text := "could not unmarshal response: " ++ fault.message now
    cause := none }

/-- The value in a response to a call. -/
def decode (id : Nat) (method : String) (shape : Shape) (response : Response) (now : Instant) :
    Except Failure Json :=
  if response.status = Status.noContent then response.value shape
  else
    match response.entity? with
    | none => .error (.transport false)
    | some e =>
      (Codec.decode e.contentType shape e.data).mapError fun fault =>
        client.decodeFailure id method response e (.ofDecode fault) now

/-- Run a call for the value in its response. -/
def exec (id : Nat) (request : Request) (shape : Shape) (scene : Scene σ) :
    Option (Answer Failure Json) × Scene σ :=
  match client.run id request none scene with
  | (some (.ok response), scene) =>
    (some (.ofExcept (client.decode id request.method shape response scene.clock.now)), scene)
  | (some (.error stop), scene) => (some (.error stop), scene)
  | (none, scene) => (none, scene)

end Courier.Client
