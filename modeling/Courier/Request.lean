import Courier.Failure
import Courier.Header.Map
import Courier.Url.Parser

/-!
# Requests

A request has a method, a target, headers and perhaps a body. The target is a URL or is
relative to a client's base ; `Request.resolve` makes of it the `Outgoing` request that is
sent. Every other function builds a request from another one, or fails and leaves it alone.
-/

namespace Courier

/-- A request as it is written down. -/
structure Request where
  method : String := "GET"
  /-- A URL, or a reference to one from a base. -/
  target : String
  headers : Headers := {}
  body : Option Bytes := none
  deriving Repr, DecidableEq, Inhabited

/-- A request as it is sent. -/
structure Outgoing where
  method : String
  url : Url
  headers : Headers
  body : Option Bytes
  deriving Repr, DecidableEq, Inhabited

namespace Request

/-- The request with one value under a name. -/
def header (r : Request) (name : Header.Name) (v : Header.Value) : Request :=
  { r with headers := r.headers.insert name v }

/-- The request with one more value under a name. -/
def append (r : Request) (name : Header.Name) (v : Header.Value) : Request :=
  { r with headers := r.headers.append name v }

/-- The request with a header given as texts. -/
def tryHeader (r : Request) (name v : String) : Except Failure Request :=
  match Header.Name.parse? name, Header.Value.ofText? v with
  | none, _ => .error (.request ("invalid header name '" ++ name ++ "': " ++ Header.invalidName))
  | some _, none =>
    .error (.request ("invalid value for header '" ++ name ++ "': " ++ Header.invalidValue))
  | some n, some v => .ok (r.header n v)

/-- The request with a body. -/
def withBody (r : Request) (body : Bytes) : Request :=
  { r with body := some body }

/-- The request with a datum as its body. The content type becomes a header if there is none. -/
def entity (r : Request) (contentType : String) (d : Datum) : Except Failure Request :=
  match Codec.encode contentType d with
  | .error e => .error (.ofEncode e)
  | .ok body =>
    if r.headers.contains Header.contentType then .ok (r.withBody body)
    else
      match Header.Value.ofText? contentType with
      | some v => .ok ((r.withBody body).header Header.contentType v)
      | none =>
        .error (.request ("invalid content type '" ++ contentType ++ "': " ++ Header.invalidValue))

/-- The request with a datum as its body in JSON. -/
def json (r : Request) (d : Datum) : Except Failure Request :=
  r.entity MediaType.json d

/-- The request with every name of `headers` standing for exactly its values there. -/
def configure (r : Request) (headers : Headers) : Request :=
  { r with headers := r.headers.replaceWith headers }

/-- The URL of a target, seen from a base. -/
def resolveUrl (base : Option Url) (target : String) : Except Failure Url :=
  match Url.parse target with
  | .ok u => .ok u
  | .error .relativeWithoutBase =>
    match base with
    | none => .error (.invalidUrl target "relative url without a base url")
    | some base => (Url.join base target).mapError fun fault => .invalidUrl target fault.message
  | .error fault => .error (.invalidUrl target fault.message)

/-- The request as it is sent by a client with a base. -/
def resolve (r : Request) (base : Option Url) : Except Failure Outgoing :=
  (resolveUrl base r.target).map fun url =>
    { method := r.method, url, headers := r.headers, body := r.body }

end Request

/-- The URL with a datum as its query. An empty form leaves no query. -/
def Url.withParams (url : String) (params : Datum) : Except Failure String :=
  match Url.parse url with
  | .error fault => .error (.invalidUrl url fault.message)
  | .ok u =>
    match Form.ofDatum params with
    | .error fault => .error (.marshal fault.message)
    | .ok pairs =>
      .ok (u.withQuery (if pairs = [] then none else some (Form.print pairs))).print

end Courier
