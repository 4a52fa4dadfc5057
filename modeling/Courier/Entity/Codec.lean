import Courier.Entity.MediaType
import Courier.Form.Codec

/-!
# Codecs

Three media types have a codec : JSON, URL-encoded forms and plain text. Plain text is
written from scalars only and carries a text without quotes ; reading takes it as JSON if
it is that between blanks and has the shape asked for, and otherwise as a text.
-/

namespace Courier.Codec

/-- Why a datum is not encoded. -/
inductive EncodeFault where
  | json (fault : Datum.JsonFault)
  | form (fault : Form.EncodeFault)
  | notScalar
  | unsupported (contentType : String)
  deriving Repr, DecidableEq

/-- Why bytes are not decoded. -/
inductive DecodeFault where
  /-- The bytes are no JSON text of the shape. -/
  | json
  | form (fault : Form.DecodeFault)
  | shape (fault : Shape.Mismatch)
  | notText (fault : Utf8.Fault)
  | unsupported (contentType : String)
  deriving Repr, DecidableEq

/-- The media types with a codec. -/
inductive Kind where
  | json
  | form
  | text
  deriving Repr, DecidableEq

/-- The codec of a content type. -/
def kind? (contentType : String) : Option Kind :=
  let essence := MediaType.essence contentType
  if essence = MediaType.json then some .json
  else if essence = MediaType.urlEncoded then some .form
  else if essence = MediaType.plainText then some .text
  else none

/-- The plain text of a JSON value. -/
def scalarText : Json → Except EncodeFault (List Char)
  | .string s => .ok s.toList
  | .number n => .ok n.write.toList
  | .boolean b => .ok (Json.write (.boolean b))
  | _ => .error .notScalar

/-- The bytes of a datum under a content type. -/
def encode (contentType : String) (d : Datum) : Except EncodeFault Bytes :=
  match kind? contentType with
  | some .json => (d.writeJson.mapError .json).map fun cs => Utf8.encode (String.ofList cs)
  | some .form => ((Form.ofDatum d).mapError .form).map fun pairs => Utf8.encode (Form.print pairs)
  | some .text =>
    match d.toJson with
    | .error e => .error (.json e)
    | .ok v => (scalarText v).map fun cs => Utf8.encode (String.ofList cs)
  | none => .error (.unsupported contentType)

/-- The value that plain text holds. -/
def decodeText (shape : Shape) (text : String) : Except DecodeFault Json :=
  match shape.ofJson? ((Text.trimChars text.toList).map some) with
  | some v => .ok v
  | none => (shape.ofText text).mapError .shape

/-- The value of a shape that bytes hold under a content type. -/
def decode (contentType : String) (shape : Shape) (data : Bytes) : Except DecodeFault Json :=
  match kind? contentType with
  | some .json =>
    match shape.ofJson? (Utf8.symbols data) with
    | some v => .ok v
    | none => .error .json
  | some .form => (Form.read (Form.decode data) shape).mapError .form
  | some .text =>
    match Utf8.decode data with
    | .error e => .error (.notText e)
    | .ok text => decodeText shape text
  | none => .error (.unsupported contentType)

end Courier.Codec
