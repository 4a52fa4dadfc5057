import Courier.Json.Printer
import Courier.Text.Utf8

/-!
# Data to be encoded

A datum is what a caller hands over to be sent. It is richer than JSON : it tells an
absent value from a unit value, lists from tuples, maps with keys of any kind from
records, and it may refuse to be encoded at all. `Datum.toJson` gives its JSON value,
`Datum.writeJson` its JSON text, which keeps the order and number of a map's entries.
-/

namespace Courier

/-- A value that a caller wants encoded. -/
inductive Datum where
  /-- An optional value that is not there. -/
  | absent
  | unit
  | boolean (b : Bool)
  | integer (n : Int)
  | real (x : Real64)
  | char (c : Char)
  | text (s : String)
  | bytes (b : Bytes)
  | sequence (items : List Datum)
  /-- A fixed number of values of different kinds. -/
  | tuple (items : List Datum)
  | map (entries : List (Datum × Datum))
  /-- Named fields. -/
  | record (fields : List (String × Datum))
  /-- A value that fails to be encoded and says why. -/
  | refusal (reason : String)
  deriving Repr, Inhabited

/-- Why a datum has no JSON form. -/
inductive Datum.JsonFault where
  | keyNotText
  | refused (reason : String)
  deriving Repr, DecidableEq

namespace Datum

/-- The wording of a fault. -/
def JsonFault.message : JsonFault → String
  | .keyNotText => "key must be a string"
  | .refused reason => reason

/-- The text of a key of an object. -/
def keyText : Datum → Except JsonFault String
  | .text s => .ok s
  | .char c => .ok (String.singleton c)
  | .integer n => .ok (toString n)
  | .boolean b => .ok (if b then "true" else "false")
  | .refusal reason => .error (.refused reason)
  | _ => .error .keyNotText

mutual

/-- The JSON value of a datum. A number that is not finite becomes null. -/
def toJson : Datum → Except JsonFault Json
  | .absent => .ok .null
  | .unit => .ok .null
  | .boolean b => .ok (.boolean b)
  | .integer n => .ok (.integer n)
  | .real (.finite x) => .ok (.number (.real x))
  | .real _ => .ok .null
  | .char c => .ok (.string (String.singleton c))
  | .text s => .ok (.string s)
  | .bytes b => .ok (.array (b.map fun x => .natural x.toNat))
  | .sequence items => (toJsonItems items).map .array
  | .tuple items => (toJsonItems items).map .array
  | .map entries => (toJsonEntries entries).map Json.ofFields
  | .record fields => (toJsonFields fields).map Json.ofFields
  | .refusal reason => .error (.refused reason)

/-- The JSON values of a list. -/
def toJsonItems : List Datum → Except JsonFault (List Json)
  | [] => .ok []
  | d :: rest =>
    match toJson d with
    | .error e => .error e
    | .ok v => (toJsonItems rest).map (v :: ·)

/-- The entries of a map, keys as text. -/
def toJsonEntries : List (Datum × Datum) → Except JsonFault (List (String × Json))
  | [] => .ok []
  | (k, d) :: rest =>
    match keyText k with
    | .error e => .error e
    | .ok k =>
      match toJson d with
      | .error e => .error e
      | .ok v => (toJsonEntries rest).map ((k, v) :: ·)

/-- The fields of a record. -/
def toJsonFields : List (String × Datum) → Except JsonFault (List (String × Json))
  | [] => .ok []
  | (k, d) :: rest =>
    match toJson d with
    | .error e => .error e
    | .ok v => (toJsonFields rest).map ((k, v) :: ·)

end

/-- A datum with the same JSON value. -/
def ofJson : Json → Datum
  | .null => .unit
  | .boolean b => .boolean b
  | .number (.integer n) => .integer n
  | .number (.real x) => .real (.finite x)
  | .string s => .text s
  | .array items => .sequence (ofItems items)
  | .object fields => .map (ofFields fields)
where
  /-- The data of an array. -/
  ofItems : List Json → List Datum
    | [] => []
    | v :: rest => ofJson v :: ofItems rest
  /-- The entries of an object. -/
  ofFields : List (String × Json) → List (Datum × Datum)
    | [] => []
    | (k, v) :: rest => (.text k, ofJson v) :: ofFields rest

/-- A key and the text of its value, as an entry of an object. -/
def writeEntry (key : Except JsonFault String) (shown : Except JsonFault (List Char)) :
    Except JsonFault (List Char) :=
  match key with
  | .error e => .error e
  | .ok k => shown.map fun cs => Json.writeText k ++ ':' :: cs

mutual

/-- The JSON text of a datum, in which a map keeps all its entries in their order. -/
def writeJson : Datum → Except JsonFault (List Char)
  | .sequence items => (writeItems items).map fun body => '[' :: body ++ [']']
  | .tuple items => (writeItems items).map fun body => '[' :: body ++ [']']
  | .map entries => (writeEntries entries).map fun body => '\x7b' :: body ++ ['\x7d']
  | .record fields => (writeFields fields).map fun body => '\x7b' :: body ++ ['\x7d']
  | d => d.toJson.map Json.write

/-- The items of an array, a comma between them. -/
def writeItems : List Datum → Except JsonFault (List Char)
  | [] => .ok []
  | [d] => writeJson d
  | d :: e :: rest =>
    match writeJson d with
    | .error e => .error e
    | .ok shown => (writeItems (e :: rest)).map fun more => shown ++ ',' :: more

/-- The entries of an object, a comma between them. -/
def writeEntries : List (Datum × Datum) → Except JsonFault (List Char)
  | [] => .ok []
  | [(k, d)] => writeEntry (keyText k) (writeJson d)
  | (k, d) :: next :: rest =>
    match writeEntry (keyText k) (writeJson d) with
    | .error e => .error e
    | .ok shown => (writeEntries (next :: rest)).map fun more => shown ++ ',' :: more

/-- The fields of an object, a comma between them. -/
def writeFields : List (String × Datum) → Except JsonFault (List Char)
  | [] => .ok []
  | [(k, d)] => writeEntry (.ok k) (writeJson d)
  | (k, d) :: next :: rest =>
    match writeEntry (.ok k) (writeJson d) with
    | .error e => .error e
    | .ok shown => (writeFields (next :: rest)).map fun more => shown ++ ',' :: more

end

end Datum

end Courier
