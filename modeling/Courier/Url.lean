import Courier.Url.Host
import Courier.Form

/-!
# URLs

A URL has a scheme, an authority with user, host and port unless it is of a kind without
one, a path, and perhaps a query and a fragment. The path is a list of segments, or a
text without structure. `Url.print` writes a URL out ; it is written in one way only, since
a URL keeps its parts in encoded form and no port that goes without saying.
-/

namespace Courier

open Url (Host)

/-- What stands between the two slashes and the path. -/
structure Url.Authority where
  username : String := ""
  password : String := ""
  /-- Files may have none. -/
  host : Option Host
  /-- The port, if it is not the usual one. -/
  port : Option Nat := none
  deriving Repr, DecidableEq, Inhabited

/-- A path. -/
inductive Url.Path where
  /-- Segments, a slash before each. -/
  | segments (list : List String)
  /-- A text that other URLs cannot be relative to. -/
  | bare (text : String)
  deriving Repr, DecidableEq, Inhabited

/-- A URL. -/
structure Url where
  scheme : String
  authority : Option Url.Authority
  path : Url.Path
  query : Option String := none
  fragment : Option String := none
  deriving Repr, DecidableEq, Inhabited

namespace Url

/-- The path as text. -/
def Path.print : Path → String
  | .segments list => String.join (list.map ("/" ++ ·))
  | .bare text => text

/-- The authority as text. -/
def Authority.print (a : Authority) : String :=
  let user :=
    if a.username = "" ∧ a.password = "" then ""
    else a.username ++ (if a.password = "" then "" else ":" ++ a.password) ++ "@"
  user ++ (a.host.map Host.print).getD "" ++ (a.port.map fun p => ":" ++ toString p).getD ""

/-- The path of a URL as text. -/
def pathText (u : Url) : String :=
  u.path.print

/-- What stands before the path. A path that begins with an empty segment is kept from being
read as an authority. -/
def front (u : Url) : String :=
  match u.authority, u.path with
  | some a, _ => u.scheme ++ "://" ++ a.print
  | none, .segments ("" :: _ :: _) => u.scheme ++ ":/."
  | none, _ => u.scheme ++ ":"

/-- A URL as text. -/
def print (u : Url) : String :=
  u.front ++ u.pathText ++ (u.query.map ("?" ++ ·)).getD "" ++ (u.fragment.map ("#" ++ ·)).getD ""

/-- A scheme that the web treats in a special way. -/
def isSpecial (scheme : String) : Bool :=
  scheme ∈ ["http", "https", "ws", "wss", "ftp", "file"]

/-- The usual port of a scheme. -/
def defaultPort? : String → Option Nat
  | "http" => some 80
  | "ws" => some 80
  | "https" => some 443
  | "wss" => some 443
  | "ftp" => some 21
  | _ => none

/-- The part of a URL that its query is. -/
def queryPart (scheme : String) : Part :=
  if isSpecial scheme then .specialQuery else .query

/-- A path that ends the URL. Spaces at the end of one without structure are dropped. -/
def Path.atEnd : Path → Path
  | .segments list => .segments list
  | .bare text => .bare (String.ofList (text.toList.reverse.dropWhile (· = ' ')).reverse)

/-- The URL with another query, encoded where that is needed, or without one. -/
def withQuery (u : Url) (query : Option String) : Url :=
  let encoded (q : String) : String :=
    String.ofList (encode (queryPart u.scheme)
      (q.toList.filter fun c => c ≠ '\t' ∧ c ≠ '\n' ∧ c ≠ '\x0d'))
  { u with
    path := if query.isNone ∧ u.fragment.isNone then u.path.atEnd else u.path
    query := query.map encoded }

/-- The URL with pairs added at the end of its query. The query is there afterwards even if it is
empty. -/
def appendPairs (u : Url) (pairs : Form.Pairs) : Url :=
  let present := u.query.getD ""
  let added := Form.print pairs
  let joined :=
    if present = "" then added else if added = "" then present else present ++ "&" ++ added
  { u with query := some joined }

/-- What a request for the URL asks a server for. -/
def requestTarget (u : Url) : String :=
  (if u.pathText = "" then "/" else u.pathText) ++ (u.query.map ("?" ++ ·)).getD ""

end Url

end Courier
