/-!
# Splitting and joining characters

`splitAt` cuts a list at every occurrence of a separator, so a list without it is
one part and every list has a part more than it has separators. `lines` cuts at
line feeds, drops the empty part after a last line feed and the carriage return
before one.
-/

namespace Courier.Text

/-- Cut at every occurrence of `sep`. There is always at least one part. -/
def splitAt {α : Type} [DecidableEq α] (sep : α) : List α → List (List α)
  | [] => [[]]
  | c :: rest =>
    if c = sep then [] :: splitAt sep rest
    else match splitAt sep rest with
      | part :: parts => (c :: part) :: parts
      | [] => [[c]]

/-- What stands before the first `sep`, and what stands after it if there is one. -/
def cutAt {α : Type} [DecidableEq α] (sep : α) (cs : List α) : List α × Option (List α) :=
  match cs.dropWhile (· ≠ sep) with
  | [] => (cs, none)
  | _ :: rest => (cs.takeWhile (· ≠ sep), some rest)

/-- A line without the carriage return that ends it. -/
def dropReturn (line : List Char) : List Char :=
  if line.getLast? = some '\r' then line.dropLast else line

/-- The lines of a text : a line feed ends a line, and so does one after a carriage return.
The part after the last line feed is a line if it is not empty. -/
def lines (s : String) : List String :=
  let parts := splitAt '\n' s.toList
  let ended := parts.dropLast.map dropReturn
  let last := parts.getLast?.getD []
  (if last = [] then ended else ended ++ [last]).map String.ofList

/-- Put `sep` between the texts. -/
def join (sep : String) (parts : List String) : String :=
  sep.intercalate parts

end Courier.Text
