import Courier.Form
import Courier.Datum
import Courier.Shape
import Courier.Text.Natural

/-!
# Data as forms

A datum has a form if it is a map, a record or a list of pairs of scalars ; nothing at all
is the empty form and an absent value leaves its pair out (`Form.ofDatum`). Reading goes
back by shape (`Form.read`) : maps and records collect the pairs under their names, and
numbers inside them are read from their text.
-/

namespace Courier.Form

/-- Why a datum has no form. -/
inductive EncodeFault where
  | notAMap
  | badPair
  | badKey
  | badValue
  | notText (fault : Utf8.Fault)
  | refused (reason : String)
  deriving Repr, DecidableEq

/-- The wording of a fault. -/
def EncodeFault.message : EncodeFault → String
  | .notAMap => "top-level serializer supports only maps and structs"
  | .badPair => "unsupported pair"
  | .badKey => "unsupported key"
  | .badValue => "unsupported value"
  | .notText fault => "invalid UTF-8: " ++ fault.message
  | .refused reason => reason

/-- How forms write doubles. -/
def floats : FloatStyle := ⟨false⟩

/-- The text of a scalar, with the fault for what is none. -/
def scalar (fault : EncodeFault) : Datum → Except EncodeFault String
  | .boolean b => .ok (if b then "true" else "false")
  | .integer n => .ok (toString n)
  | .real x => .ok (floats.writeReal x)
  | .char c => .ok (String.singleton c)
  | .text s => .ok s
  | .bytes b => (Utf8.decode b).mapError .notText
  | .refusal reason => .error (.refused reason)
  | _ => .error fault

/-- The pair of a key and a value, and nothing if the value is absent. -/
def pairOf (key value : Datum) : Except EncodeFault Pairs :=
  match scalar .badKey key with
  | .error e => .error e
  | .ok k =>
    match value with
    | .absent => .ok []
    | value => (scalar .badValue value).map fun v => [(k, v)]

/-- The pair that an item of a list is. -/
def pairOfItem : Datum → Except EncodeFault Pairs
  | .tuple [k, v] => pairOf k v
  | .refusal reason => .error (.refused reason)
  | _ => .error .badPair

/-- All results in order, up to the first fault. -/
def gather (results : List (Except EncodeFault Pairs)) : Except EncodeFault Pairs :=
  (results.mapM id).map List.flatten

/-- The form of a datum. -/
def ofDatum : Datum → Except EncodeFault Pairs
  | .absent => .ok []
  | .unit => .ok []
  | .sequence items => gather (items.map pairOfItem)
  | .tuple items => gather (items.map pairOfItem)
  | .map entries => gather (entries.map fun (k, v) => pairOf k v)
  | .record fields => gather (fields.map fun (k, v) => pairOf (.text k) v)
  | .refusal reason => .error (.refused reason)
  | _ => .error .notAMap

/-- Why a form does not have a shape. -/
inductive DecodeFault where
  /-- A whole form stands where `expected` was to stand. -/
  | map (expected : String)
  /-- A pair stands where `expected` was to stand. -/
  | pair (expected : String)
  /-- A form of `count` pairs stands where nothing was to stand. -/
  | notEmpty (count : Nat)
  | number (fault : Natural.Fault)
  /-- A text stands where `expected` was to stand. -/
  | text (s : String) (expected : String)
  | missing (field : String)
  | duplicate (field : String)
  deriving Repr, DecidableEq

/-- The wording of a fault. -/
def DecodeFault.message : DecodeFault → String
  | .map expected => "invalid type: map, expected " ++ expected
  | .pair expected => "invalid type: sequence, expected " ++ expected
  | .notEmpty count => "invalid length " ++ toString count ++ ", expected 0 elements in map"
  | .number fault => fault.message
  | .text s expected => "invalid type: string " ++ Text.quoted s ++ ", expected " ++ expected
  | .missing field => "missing field `" ++ field ++ "`"
  | .duplicate field => "duplicate field `" ++ field ++ "`"

/-- The value of a text inside a form. -/
def readScalar (s : String) : Shape → Except DecodeFault Json
  | .any => .ok (.string s)
  | .string => .ok (.string s)
  | .unsigned bits =>
    ((Natural.readBounded (Nat.pow 2 bits) s.toList).map Json.natural).mapError .number
  | .optional inner => readScalar s inner
  | shape => .error (.text s shape.expected)

/-- Values under the names of a form. -/
def readEntries (inner : Shape) : Pairs → Except DecodeFault (List (String × Json))
  | [] => .ok []
  | (k, s) :: rest =>
    match readScalar s inner with
    | .error e => .error e
    | .ok v => (readEntries inner rest).map ((k, v) :: ·)

/-- The known fields among the pairs of a form. -/
def readFields (fields : List (String × Shape)) :
    Pairs → List (String × Json) → Except DecodeFault (List (String × Json))
  | [], found => .ok found
  | (k, s) :: rest, found =>
    match fields.lookup k with
    | none => readFields fields rest found
    | some inner =>
      if (found.lookup k).isSome then .error (.duplicate k)
      else match readScalar s inner with
        | .error e => .error e
        | .ok v => readFields fields rest ((k, v) :: found)

/-- The first field of a record that is required and not found. -/
def missing? (found : List (String × Json)) : List (String × Shape) → Option String
  | [] => none
  | (name, shape) :: rest =>
    match found.lookup name, shape with
    | some _, _ => missing? found rest
    | none, .optional _ => missing? found rest
    | none, _ => some name

/-- The value of a form. -/
def read (pairs : Pairs) : Shape → Except DecodeFault Json
  | .any => .ok (Json.ofFields (pairs.map fun (k, s) => (k, .string s)))
  | .unit => if pairs = [] then .ok .null else .error (.notEmpty pairs.length)
  | .optional _ => .error (.map "option")
  | .sequence .pair => .ok (.array (pairs.map fun (k, s) => .array [.string k, .string s]))
  | .sequence inner =>
    if pairs = [] then .ok (.array []) else .error (.pair inner.expected)
  | .dictionary inner => (readEntries inner pairs).map Json.ofFields
  | .record _ fields =>
    match readFields fields pairs [] with
    | .error e => .error e
    | .ok found =>
      match missing? found fields with
      | some name => .error (.missing name)
      | none => .ok (Json.ofFields ((Shape.complete found fields).getD []))
  | shape => .error (.map shape.expected)

end Courier.Form
