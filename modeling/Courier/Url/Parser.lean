import Courier.Url

/-!
# Reading URLs

`Url.parse` reads an absolute URL and `Url.join` one that may be relative to a base. Both
are forgiving in the way of the web : blanks and control characters at the ends and tabs
and line ends anywhere are dropped, a special scheme takes any number of slashes and
backslashes before its host, dot segments are resolved, and characters that may not stand
where they do are encoded.
-/

namespace Courier.Url

/-- The characters that count. -/
def cleaned (s : String) : List Char :=
  let isEdge (c : Char) : Bool := c ≤ ' '
  let trimmed := ((s.toList.dropWhile isEdge).reverse.dropWhile isEdge).reverse
  trimmed.filter fun c => c ≠ '\t' ∧ c ≠ '\n' ∧ c ≠ '\x0d'

/-- A character of a scheme after its first. -/
def isSchemeChar (c : Char) : Bool :=
  Ascii.isLetter c ∨ Ascii.isDigit c ∨ c = '+' ∨ c = '-' ∨ c = '.'

/-- The scheme in small letters and what follows its colon. -/
def splitScheme (cs : List Char) : Option (String × List Char) :=
  match cs with
  | c :: _ =>
    if Ascii.isLetter c then
      match cs.dropWhile isSchemeChar with
      | ':' :: rest => some (String.ofList ((cs.takeWhile isSchemeChar).map Ascii.lower), rest)
      | _ => none
    else none
  | [] => none

/-- A slash of either direction. -/
def isSlash (c : Char) : Bool :=
  c = '/' ∨ c = '\\'

/-- A slash that ends a segment of the scheme. -/
def endsSegment (special : Bool) (c : Char) : Bool :=
  c = '/' ∨ (special ∧ c = '\\')

/-! ### Query and fragment -/

/-- The characters before a query or fragment, the query and the fragment. -/
def splitTail (cs : List Char) : List Char × Option (List Char) × Option (List Char) :=
  let (front, fragment) := Text.cutAt '#' cs
  let (path, query) := Text.cutAt '?' front
  (path, query, fragment)

/-- The encoded query. -/
def queryText (scheme : String) (query : Option (List Char)) : Option String :=
  query.map fun q => String.ofList (encode (queryPart scheme) q)

/-- The encoded fragment. -/
def fragmentText (fragment : Option (List Char)) : Option String :=
  fragment.map fun f => String.ofList (encode .fragment f)

/-! ### Paths -/

/-- A segment that stands for its own directory, after encoding. -/
def isSingleDot (segment : String) : Bool :=
  Ascii.lowercase segment ∈ [".", "%2e"]

/-- A segment that stands for the directory above. -/
def isDoubleDot (segment : String) : Bool :=
  Ascii.lowercase segment ∈ ["..", "%2e%2e", "%2e.", ".%2e"]

/-- A segment that names a drive, with a colon or with a bar in its place. -/
def isDrive (segment : String) : Bool :=
  match segment.toList with
  | [c, mark] => Ascii.isLetter c ∧ (mark = ':' ∨ mark = '|')
  | _ => false

/-- A segment that names a drive with a colon. -/
def isPlainDrive (segment : String) : Bool :=
  isDrive segment ∧ segment.toList.getLast? = some ':'

/-- The segment of a drive with a colon. -/
def plainDrive (segment : String) : String :=
  String.ofList (segment.toList.take 1 ++ [':'])

/-- A path that is being read : its segments, the last one first. The last one is empty after a
slash. A path without segments has not begun. -/
abbrev Trail := List String

namespace Trail

/-- The path up to its last slash. The path of a file keeps a drive that stands last. -/
def parent (isFile : Bool) : Trail → Trail
  | [] => []
  | last :: front => if isFile ∧ isPlainDrive last then last :: front else "" :: front

/-- The path without its last directory, which a drive never is. -/
def up (isFile : Bool) : Trail → Trail
  | "" :: dir :: front => if isDrive dir then "" :: dir :: front else parent isFile (dir :: front)
  | t => parent isFile t

/-- The path with a slash at its end. -/
def closed : Trail → Trail
  | "" :: front => "" :: front
  | t => "" :: t

/-- The path with characters at its end, and perhaps a slash. A drive at the front of a file is
written with a colon. -/
def extend (isFile : Bool) (segment : String) (slash : Bool) (t : Trail) : Trail :=
  let ended (t : Trail) : Trail := if slash then "" :: t else t
  match t with
  | [] => if segment = "" then (if slash then [""] else []) else ended [segment]
  | [""] => ended [if isFile ∧ isDrive segment then plainDrive segment else segment]
  | last :: front => ended ((last ++ segment) :: front)

/-- The path with a slash after a drive that is all of it, before anything else follows. -/
def leaveDrive (isFile : Bool) (segment : String) : Trail → Trail
  | [drive] => if isFile ∧ segment ≠ "" ∧ isPlainDrive drive then ["", drive] else [drive]
  | t => t

/-- The path after one more segment, which a slash may follow. -/
def step (isFile : Bool) (segment : String) (slash : Bool) (t : Trail) : Trail :=
  let t := t.leaveDrive isFile segment
  if isDoubleDot segment then
    if slash then (t.up isFile).closed else t.up isFile
  else if isSingleDot segment then t.closed
  else t.extend isFile segment slash

/-- The path after several segments with slashes between them. -/
def walk (isFile : Bool) (t : Trail) : List String → Trail
  | [] => t
  | [last] => t.step isFile last false
  | s :: rest => walk isFile (t.step isFile s true) rest

end Trail

/-- Cut at the slashes that end segments. -/
def splitSegments (special : Bool) (cs : List Char) : List String :=
  (Text.splitAt '/' (cs.map fun c => if endsSegment special c then '/' else c)).map fun s =>
    String.ofList (encode .path s)

/-- The segments of a path that goes on with characters. -/
def segmentsOn (scheme : String) (t : Trail) (cs : List Char) : List String :=
  (t.walk (scheme = "file") (splitSegments (isSpecial scheme) cs)).reverse

/-- The path of a file begins with one slash. -/
def trimFile (segments : List String) : List String :=
  match segments.dropWhile (· = "") with
  | [] => [""]
  | segments => segments

/-- The path after an authority. -/
def pathAfterAuthority (scheme : String) (cs : List Char) : Path :=
  let special := isSpecial scheme
  match cs with
  | [] => .segments (if special then [""] else [])
  | c :: rest =>
    .segments (segmentsOn scheme [""] (if endsSegment special c then rest else c :: rest))

/-! ### Authorities -/

/-- Whether a character ends a user's name and password. -/
def endsUser (special : Bool) (c : Char) : Bool :=
  endsSegment special c ∨ c = '?' ∨ c = '#'

/-- The characters before the last at sign, and those after it. -/
def splitUser (cs : List Char) : Option (List Char × List Char) :=
  let back := cs.reverse
  if '@' ∈ cs then
    some ((back.dropWhile (· ≠ '@')).tail.reverse, (back.takeWhile (· ≠ '@')).reverse)
  else none

/-- The characters of a host, which end at a colon outside brackets. -/
def hostChars (special : Bool) : Bool → List Char → List Char × List Char
  | _, [] => ([], [])
  | inside, c :: rest =>
    if (c = ':' ∧ !inside) ∨ endsUser special c then ([], c :: rest)
    else
      let inside := if c = '[' then true else if c = ']' then false else inside
      let (host, more) := hostChars special inside rest
      (c :: host, more)

/-- The port after a colon, and what follows it. Slashes of both directions end a port. -/
def portOf (scheme : String) (cs : List Char) : Except Fault (Option Nat × List Char) :=
  let ds := cs.takeWhile Ascii.isDigit
  let rest := cs.dropWhile Ascii.isDigit
  let n := ds.foldl (fun n c => n * 10 + (c.toNat - '0'.toNat)) 0
  if n > 65535 ∨ !(rest.head?.map (endsUser true)).getD true then .error .invalidPort
  else .ok (if ds = [] ∨ defaultPort? scheme = some n then none else some n, rest)

/-- Host and port, and what follows them. -/
def hostAndPort (scheme : String) (cs : List Char) :
    Except Fault (Host × Option Nat × List Char) :=
  let special := isSpecial scheme
  let (host, rest) := hostChars special false cs
  if host = [] ∧ (special ∨ rest.head? = some ':') then .error .emptyHost
  else
    match (if special then Host.parse host else Host.parseBare host) with
    | .error e => .error e
    | .ok h =>
      match rest with
      | ':' :: port => (portOf scheme port).map fun (p, rest) => (h, p, rest)
      | rest => .ok (h, none, rest)

/-- The authority that characters begin with, and what follows it. A user needs a host. -/
def authorityOf (scheme : String) (cs : List Char) : Except Fault (Authority × List Char) :=
  let special := isSpecial scheme
  let front := cs.takeWhile fun c => !endsUser special c
  let rest := cs.dropWhile fun c => !endsUser special c
  match splitUser front with
  | none =>
    (hostAndPort scheme cs).map fun (h, p, rest) => ({ host := some h, port := p }, rest)
  | some (user, host) =>
    let (name, password) := Text.cutAt ':' user
    let isNamed := name ≠ [] ∨ password.getD [] ≠ []
    if user = [] ∧ host = [] ∧ rest ≠ [] then .error .emptyHost
    else
      match hostAndPort scheme (host ++ rest) with
      | .error e => .error e
      | .ok (h, p, rest) =>
        if h = .domain "" ∧ isNamed then .error .emptyHost
        else
          .ok ({ username := String.ofList (encode .userinfo name)
                 password := String.ofList (encode .userinfo (password.getD []))
                 host := some h
                 port := p }, rest)

/-- The URL after the two slashes of its authority. -/
def afterSlashes (scheme : String) (cs : List Char) : Except Fault Url :=
  (authorityOf scheme cs).map fun (a, rest) =>
    let (path, query, fragment) := splitTail rest
    { scheme
      authority := some a
      path := pathAfterAuthority scheme path
      query := queryText scheme query
      fragment := fragmentText fragment }

/-! ### Files -/

/-- The host of a file, which is none for the machine itself. -/
def fileHost (cs : List Char) : Except Fault (Option Host) :=
  if cs = [] then .ok none
  else (Host.parse cs).map fun h => if h = .domain "localhost" then none else some h

/-- The URL of a file, given its host and the characters by which its path goes on. -/
def filePath (host : Option Host) (t : Trail) (cs : List Char) : Url :=
  let (path, query, fragment) := splitTail cs
  { scheme := "file"
    authority := some { host }
    path := .segments (trimFile (segmentsOn "file" t path))
    query := queryText "file" query
    fragment := fragmentText fragment }

/-- The URL of a file on a host, given the characters after the host. A file on a drive has no
host. -/
def hostedFile (host : Host) (cs : List Char) : Url :=
  let cs := match cs with
    | c :: rest => if isSlash c then rest else c :: rest
    | [] => []
  let onDrive := ((segmentsOn "file" [""] (splitTail cs).1).head?.map isPlainDrive).getD false
  filePath (if onDrive then none else some host) [""] cs

/-- Whether characters begin with a segment that names a drive. -/
def startsWithDrive (cs : List Char) : Bool :=
  isDrive (String.ofList (cs.takeWhile fun c => !endsUser true c))

/-- The URL of a file after its scheme. The base is a file, if there is one : what is relative to
it keeps its host, and what starts at the root keeps its drive or else its host. Nothing is
kept before a drive. -/
def parseFile (base : Option Url) (cs : List Char) : Except Fault Url :=
  match cs with
  | a :: rest =>
    if !isSlash a then .ok (filePath none [""] cs)
    else if (rest.head?.map isSlash).getD false then afterTwo rest.tail
    else if startsWithDrive rest then .ok (filePath none [] cs)
    else
      match base.map segmentsOf with
      | some (drive :: _) =>
        if isPlainDrive drive then .ok (filePath none [drive] cs)
        else .ok (filePath (hostOf base) [] cs)
      | _ => .ok (filePath (hostOf base) [] cs)
  | [] => .ok (filePath none [""] [])
where
  /-- The host of the base. -/
  hostOf (base : Option Url) : Option Host :=
    (base.bind Url.authority).bind Authority.host
  /-- The segments of the base. -/
  segmentsOf (base : Url) : List String :=
    match base.path with
    | .segments list => list
    | .bare _ => []
  /-- The URL after two slashes. -/
  afterTwo (cs : List Char) : Except Fault Url :=
    if startsWithDrive cs then .ok (filePath none [""] cs)
    else
      (fileHost (cs.takeWhile fun c => !endsUser true c)).map fun host =>
        let rest := cs.dropWhile fun c => !endsUser true c
        match host with
        | some host => hostedFile host rest
        | none => filePath none [""] rest

/-! ### Whole URLs -/

/-- The URL after the colon of its scheme. -/
def afterScheme (scheme : String) (cs : List Char) : Except Fault Url :=
  if scheme = "file" then parseFile none cs
  else if isSpecial scheme then afterSlashes scheme (cs.dropWhile isSlash)
  else
    match cs with
    | '/' :: '/' :: rest => afterSlashes scheme rest
    | _ =>
      let (path, query, fragment) := splitTail cs
      .ok {
        scheme
        authority := none
        path := match path with
          | '/' :: rest => .segments (segmentsOn scheme [""] rest)
          | path => .bare (String.ofList (encode .plain path))
        query := queryText scheme query
        fragment := fragmentText fragment }

/-- The absolute URL that a text writes. -/
def parse (s : String) : Except Fault Url :=
  match splitScheme (cleaned s) with
  | some (scheme, rest) => afterScheme scheme rest
  | none => .error .relativeWithoutBase

/-- The URL that characters without a scheme write relative to a base. -/
def relative (base : Url) (cs : List Char) : Except Fault Url :=
  let isFile : Bool := base.scheme = "file"
  let (path, query, fragment) := splitTail cs
  let onPath (segments : List String) : Url :=
    { base with
      path := .segments (if isFile then trimFile segments else segments)
      query := queryText base.scheme query
      fragment := fragmentText fragment }
  match base.path with
  | .bare _ =>
    if cs.head? = some '#' then .ok { base with fragment := fragmentText fragment }
    else .error .relativeWithBareBase
  | .segments list =>
    match path with
    | [] =>
      let kept := if query.isSome then queryText base.scheme query else base.query
      .ok { base with query := kept, fragment := fragmentText fragment }
    | a :: rest =>
      if isFile ∧ startsWithDrive cs then parseFile none cs
      else if !isSlash a then
        let front := Trail.parent isFile list.reverse
        .ok (onPath (segmentsOn base.scheme (if front = [] then [""] else front) path))
      else if isFile then parseFile (some base) cs
      else if !(rest.head?.map isSlash).getD false then
        .ok (onPath (segmentsOn base.scheme [""] rest))
      else if a = '/' ∧ rest.head? = some '/' then afterSlashes base.scheme (cs.drop 2)
      else afterSlashes base.scheme (cs.dropWhile isSlash)

/-- The URL that a text writes, relative to a base if it has no scheme, or has the base's special
scheme without two slashes. -/
def join (base : Url) (s : String) : Except Fault Url :=
  let cs := cleaned s
  match splitScheme cs with
  | some (scheme, rest) =>
    if isSpecial scheme ∧ scheme = base.scheme ∧ (rest.takeWhile isSlash).length < 2 then
      relative base rest
    else afterScheme scheme rest
  | none => relative base cs

end Courier.Url
