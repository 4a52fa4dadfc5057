import Courier.Header.Field

/-!
# Header maps

A header map gives every name a list of values. Names stand in the order in which they
first came in, the values of one name together and in order. Taking a name out moves the
last name into its place.

The view of a map is `Headers.get`, and every operation is described by it : `insert`
leaves one value, `append` adds one at the end, `remove` leaves none, and `replaceWith`
gives every name of another map exactly that map's values.
-/

namespace Courier

open Header (Name Value)

/-- A name with its values. -/
structure Headers.Entry where
  name : Name
  values : List Value
  deriving Repr, DecidableEq, Inhabited

/-- A header map. -/
structure Headers where
  entries : List Headers.Entry := []
  deriving Repr, DecidableEq, Inhabited

namespace Headers

/-- The map without a header. -/
def empty : Headers := {}

/-- The entry of a name in a list of entries. -/
def find? (name : Name) (entries : List Entry) : Option Entry :=
  entries.find? fun e => e.name = name

/-- All values of a name in order. -/
def get (h : Headers) (name : Name) : List Value :=
  match find? name h.entries with
  | some e => e.values
  | none => []

/-- The first value of a name. -/
def first? (h : Headers) (name : Name) : Option Value :=
  (h.get name).head?

/-- Whether a name has a value. -/
def contains (h : Headers) (name : Name) : Bool :=
  (find? name h.entries).isSome

/-- The names in order. -/
def names (h : Headers) : List Name :=
  h.entries.map Entry.name

/-- All names with their values, in order. -/
def fields (h : Headers) : List (Name × Value) :=
  h.entries.flatMap fun e => e.values.map fun v => (e.name, v)

/-- Give a name's entry the values that `f` makes of its present ones. A new name comes last. -/
def update (name : Name) (f : List Value → List Value) : List Entry → List Entry
  | [] => [⟨name, f []⟩]
  | e :: rest => if e.name = name then ⟨name, f e.values⟩ :: rest else e :: update name f rest

/-- Leave one value under a name. -/
def insert (h : Headers) (name : Name) (v : Value) : Headers :=
  ⟨update name (fun _ => [v]) h.entries⟩

/-- Add a value under a name. -/
def append (h : Headers) (name : Name) (v : Value) : Headers :=
  ⟨update name (· ++ [v]) h.entries⟩

/-- Put `last` in the place of a name, or drop the name where it is the last entry. -/
def swapOut (name : Name) (last : Entry) : List Entry → List Entry
  | [] => []
  | [e] => if e.name = name then [] else [e]
  | e :: f :: rest =>
    if e.name = name then last :: (f :: rest).dropLast else e :: swapOut name last (f :: rest)

/-- Leave no value under a name. -/
def remove (h : Headers) (name : Name) : Headers :=
  match h.entries.getLast? with
  | some last => ⟨swapOut name last h.entries⟩
  | none => h

/-- Add several values under a name. -/
def appendAll (h : Headers) (name : Name) (vs : List Value) : Headers :=
  vs.foldl (fun h v => h.append name v) h

/-- Give every name of `other` exactly its values there. -/
def replaceWith (h other : Headers) : Headers :=
  other.entries.foldl (fun h e => (h.remove e.name).appendAll e.name e.values) h

/-- Give every name of `defaults` its values there, except names that already have a value. -/
def withDefaults (h defaults : Headers) : Headers :=
  defaults.entries.foldl
    (fun h e => if h.contains e.name then h else h.appendAll e.name e.values) h

/-- The map of names and values, appended in order. -/
def ofFields (fields : List (Name × Value)) : Headers :=
  fields.foldl (fun h (n, v) => h.append n v) empty

end Headers

end Courier
