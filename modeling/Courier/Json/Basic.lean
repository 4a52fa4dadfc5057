import Courier.Decimal.Binary64

/-!
# JSON values

A value is built from null, truth values, numbers, texts, arrays and objects. A number is
an integer or a double, and the two are different even where they are equal in value. An
object keeps its keys in increasing order without repetition (`Json.insert`).
-/

namespace Courier

/-- A number : an integer, or a finite double. -/
inductive Json.Number where
  | integer (n : Int)
  | real (x : Binary64)
  deriving Repr, DecidableEq, Inhabited

/-- A JSON value. -/
inductive Json where
  | null
  | boolean (b : Bool)
  | number (n : Json.Number)
  | string (s : String)
  | array (items : List Json)
  | object (fields : List (String × Json))
  deriving Repr, Inhabited, BEq

namespace Json

/-- An integer as a value. -/
def integer (n : Int) : Json :=
  .number (.integer n)

/-- A natural number as a value. -/
def natural (n : Nat) : Json :=
  .number (.integer n)

/-- Give `key` the value `v` among fields in order, replacing the value it has. -/
def insert (key : String) (v : Json) : List (String × Json) → List (String × Json)
  | [] => [(key, v)]
  | (k, w) :: rest =>
    if key = k then (key, v) :: rest
    else if key < k then (key, v) :: (k, w) :: rest
    else (k, w) :: insert key v rest

/-- The object with the given fields. Of the fields with one key the last one counts. -/
def ofFields (fields : List (String × Json)) : Json :=
  .object (fields.foldl (fun acc (k, v) => insert k v acc) [])

/-- The value of a key in an object. -/
def field? (key : String) : Json → Option Json
  | .object fields => fields.lookup key
  | _ => none

end Json

end Courier
