import Courier.Failure
import Courier.Header.Map
import Courier.Url

/-!
# Responses

A response knows where it came from and what size it announced. Its body is missing where
the connection breaks off while it is read.
-/

namespace Courier

/-- A response. -/
structure Response where
  status : Status
  /-- Where it came from, if it came from anywhere. -/
  url : Option Url
  headers : Headers
  /-- The body, if all of it can be read. -/
  body : Option Bytes
  /-- The announced size. -/
  size : Option Nat
  deriving Repr, DecidableEq, Inhabited

namespace Response

/-- The content type, empty if it is missing or no plain text. -/
def contentType (r : Response) : String :=
  ((r.headers.first? Header.contentType).bind Header.Value.text?).getD ""

/-- The body with its content type. -/
def entity? (r : Response) : Option Entity :=
  r.body.map fun data => ⟨r.contentType, data⟩

/-- The value that a response holds. No content stands for null. -/
def value (r : Response) (shape : Shape) : Except Failure Json :=
  if r.status = 204 then shape.ofNull.mapError fun fault => .unmarshal fault.message
  else
    match r.entity? with
    | none => .error (.transport false)
    | some e => (Codec.decode e.contentType shape e.data).mapError .ofDecode

/-- The response put together again around its body, once that was read. Its size is known then. -/
def restored (r : Response) (body : Bytes) : Response :=
  { r with body := some body, size := some body.length }

/-- The announced size for a reader. -/
def sizeText (r : Response) : String :=
  match r.size with
  | some n => Size.print n
  | none => "<unknown>"

end Response

end Courier
