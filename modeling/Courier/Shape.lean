import Courier.Json.Document
import Courier.Text.Quoted

/-!
# Shapes of decoded values

A shape says what a body has to decode into. The same shape reads three sources : a JSON
document (`Shape.ofDocument?`), a bare text (`Shape.ofText`) and nothing at all
(`Shape.ofNull`). The decoded value is shown as JSON, so a shape is a set of values with
a way into it from every source.

A record reads from an object by its field names, ignoring what it does not know, and
from an array by the order of its fields.
-/

namespace Courier

/-- What a body decodes into. -/
inductive Shape where
  /-- Any JSON value. -/
  | any
  | string
  /-- A natural number below `2 ^ bits`. -/
  | unsigned (bits : Nat)
  /-- An integer from `-2 ^ (bits - 1)` up to `2 ^ (bits - 1)`, excluded. -/
  | signed (bits : Nat)
  /-- A double. -/
  | real
  | boolean
  /-- Nothing. -/
  | unit
  /-- A value that may be null. -/
  | optional (inner : Shape)
  | sequence (inner : Shape)
  /-- Values under text keys. -/
  | dictionary (inner : Shape)
  /-- Two texts. -/
  | pair
  /-- Named fields, of which the optional ones may be missing. -/
  | record (name : String) (fields : List (String × Shape))
  deriving Repr, Inhabited

/-- Why a value that is not JSON text does not have a shape. -/
inductive Shape.Mismatch where
  /-- A text where `expected` was to stand. -/
  | text (s : String) (expected : String)
  /-- Null where `expected` was to stand. -/
  | null (expected : String)
  deriving Repr, DecidableEq

namespace Shape

/-- The wording of a mismatch. -/
def Mismatch.message : Mismatch → String
  | .text s expected => "invalid type: string " ++ Text.quoted s ++ ", expected " ++ expected
  | .null expected => "invalid type: null, expected " ++ expected

/-- What a shape calls the values it takes. -/
def expected : Shape → String
  | .any => "any valid JSON value"
  | .string => "a string"
  | .unsigned bits => "u" ++ toString bits
  | .signed bits => "i" ++ toString bits
  | .real => "f64"
  | .boolean => "a boolean"
  | .unit => "unit"
  | .optional inner => inner.expected
  | .sequence _ => "a sequence"
  | .dictionary _ => "a map"
  | .pair => "a tuple of size 2"
  | .record name _ => "struct " ++ name

/-- The value of a bare text. -/
def ofText (s : String) : Shape → Except Mismatch Json
  | .any => .ok (.string s)
  | .string => .ok (.string s)
  | .optional inner => ofText s inner
  | shape => .error (.text s shape.expected)

/-- The value of an absent body. -/
def ofNull : Shape → Except Mismatch Json
  | .any => .ok .null
  | .unit => .ok .null
  | .optional _ => .ok .null
  | shape => .error (.null shape.expected)

/-- Whether an integer is in the range of a shape. -/
def holds (n : Int) : Shape → Bool
  | .unsigned bits => 0 ≤ n ∧ n < Nat.pow 2 bits
  | .signed bits => -(Nat.pow 2 (bits - 1) : Nat) ≤ n ∧ n < Nat.pow 2 (bits - 1)
  | _ => false

/-- The double nearest to an integer. -/
def realOfInt (n : Int) : Option Binary64 :=
  Binary64.ofFraction? (n < 0) n.natAbs 1

/-- The fields of a record in its own order. A field that is missing is left out if its shape
is optional, and so is one that is null ; else a missing field means failure. -/
def complete (found : List (String × Json)) :
    List (String × Shape) → Option (List (String × Json))
  | [] => some []
  | (name, shape) :: rest =>
    match found.lookup name, shape with
    | none, .optional _ => complete found rest
    | some .null, .optional _ => complete found rest
    | none, _ => none
    | some v, _ => (complete found rest).map ((name, v) :: ·)

open Json (Document)

/-- The value of a document that is nested at most `depth` deep. Fields that a record does
not know may be of any depth and hold any text or number. -/
def ofDocumentFrom? : Nat → Nat → Shape → Document → Option Json
  | 0, _, _, _ => none
  | fuel + 1, depth, shape, doc =>
    match shape, doc with
    | .any, doc => doc.value? depth
    | .optional _, .null => some .null
    | .optional inner, doc => ofDocumentFrom? fuel depth inner doc
    | .string, .string s => s.map .string
    | .boolean, .boolean b => some (.boolean b)
    | .unit, .null => some .null
    | .real, .number n =>
      n.value?.bind fun
        | .integer i => (realOfInt i).map fun x => .number (.real x)
        | .real x => some (.number (.real x))
    | .unsigned bits, .number n =>
      n.value?.bind fun
        | .integer i => if holds i (.unsigned bits) then some (.integer i) else none
        | .real _ => none
    | .signed bits, .number n =>
      n.value?.bind fun
        | .integer i => if holds i (.signed bits) then some (.integer i) else none
        | .real _ => none
    | .pair, .array [.string (some a), .string (some b)] =>
      if depth = 0 then none else some (.array [.string a, .string b])
    | .sequence inner, .array docs =>
      match depth with
      | 0 => none
      | depth + 1 => (docs.mapM (ofDocumentFrom? fuel depth inner)).map .array
    | .dictionary inner, .object docs =>
      match depth with
      | 0 => none
      | depth + 1 =>
        let entry : Option String × Document → Option (String × Json)
          | (some k, d) => (ofDocumentFrom? fuel depth inner d).map fun v => (k, v)
          | (none, _) => none
        (docs.mapM entry).map Json.ofFields
    | .record _ fields, .object docs =>
      match depth with
      | 0 => none
      | depth + 1 =>
        let step (found : List (String × Json)) :
            Option String × Document → Option (List (String × Json))
          | (some k, d) =>
            match fields.lookup k with
            | none => some found
            | some inner =>
              if (found.lookup k).isSome then none
              else (ofDocumentFrom? fuel depth inner d).map fun v => (k, v) :: found
          | (none, _) => none
        (docs.foldlM step []).bind fun found => (complete found fields).map Json.ofFields
    | .record _ fields, .array docs =>
      match depth with
      | 0 => none
      | depth + 1 =>
        if docs.length = fields.length then
          let entry : (String × Shape) × Document → Option (String × Json)
            | ((name, inner), d) => (ofDocumentFrom? fuel depth inner d).map fun v => (name, v)
          ((fields.zip docs).mapM entry).bind fun found =>
            (complete found fields).map Json.ofFields
        else none
    | _, _ => none

/-- How deep a shape is. -/
def height : Shape → Nat
  | .optional inner => inner.height + 1
  | .sequence inner => inner.height + 1
  | .dictionary inner => inner.height + 1
  | .record _ fields => heights fields + 1
  | _ => 1
where
  /-- The greatest height of a field. -/
  heights : List (String × Shape) → Nat
    | [] => 0
    | (_, s) :: rest => max s.height (heights rest)

/-- The value of a document. -/
def ofDocument? (shape : Shape) (doc : Document) : Option Json :=
  ofDocumentFrom? (shape.height + 1) Json.maxDepth shape doc

/-- The value of a whole JSON text. -/
def ofJson? (shape : Shape) (cs : List Utf8.Symbol) : Option Json :=
  (Document.parse? cs).bind shape.ofDocument?

end Shape

end Courier
