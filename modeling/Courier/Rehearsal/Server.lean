import Courier.Client

/-!
# Scripted servers

A rehearsal replaces the network by a script. A scripted server answers from a list of
replies for the path, or from a list for all paths, or with a default reply. The link to it
is up or down ; over a link that is down every request fails at once, and the server does not
hear of it.
-/

namespace Courier.Rehearsal

/-- What a reply says about the length of its body. -/
inductive Announcement where
  | truth
  | claim (length : Nat)
  | nothing
  deriving Repr, DecidableEq, Inhabited

/-- How a reply goes wrong. -/
inductive Fault where
  | broken
  /-- The server never answers. -/
  | silence
  deriving Repr, DecidableEq, Inhabited

/-- A reply in a script. -/
structure Reply where
  status : Status := 200
  contentType : Option Header.Value := none
  headers : Headers := {}
  body : Bytes := []
  delay : Duration := 0
  announcement : Announcement := .truth
  fault : Option Fault := none
  /-- The connection stays open after the headers, and no body comes. -/
  withholdsBody : Bool := false
  deriving Repr, Inhabited

/-- A server with its script. -/
structure Server where
  responses : List Reply := []
  routes : List (String × List Reply) := []
  default : Reply
  deriving Repr, Inhabited

/-- The link to a server. -/
inductive Link where
  | up
  | down
  deriving Repr, DecidableEq, Inhabited

namespace Reply

/-- Whether a reply has no body by its nature. -/
def isBare (reply : Reply) (method : String) : Bool :=
  method = "HEAD" ∨ reply.status = Status.noContent ∨ reply.status = Status.notModified

/-- The announced length of the body. -/
def announced (reply : Reply) : Option Nat :=
  match reply.announcement with
  | .truth => some reply.body.length
  | .claim n => some n
  | .nothing => none

/-- The header that announces the length. -/
def lengthHeader (reply : Reply) : List (Header.Name × Header.Value) :=
  if reply.status = Status.noContent ∨ reply.status = Status.notModified then []
  else
    (reply.announced.map fun n =>
      (Header.contentLength, { bytes := Utf8.encode (toString n) : Header.Value })).toList

/-- The response that a reply is to a request. -/
def response (reply : Reply) (r : Outgoing) : Response :=
  let bare := reply.isBare r.method
  { status := reply.status
    url := some r.url
    headers := Headers.ofFields
      ((reply.contentType.map fun v => (Header.contentType, v)).toList
        ++ reply.headers.fields ++ reply.lengthHeader)
    body :=
      if bare then some []
      else if reply.withholdsBody then none
      else
        match reply.announcement with
        | .claim n => if n ≤ reply.body.length then some (reply.body.take n) else none
        | _ => some reply.body
    size := if bare then some 0 else reply.announced }

end Reply

namespace Server

/-- Take the next reply of a path from the routes. The last reply of a path stays. -/
def takeRoute (path : String) :
    List (String × List Reply) → Option (Reply × List (String × List Reply))
  | [] => none
  | (p, replies) :: rest =>
    if p = path then
      match replies with
      | [] => none
      | [last] => some (last, (p, [last]) :: rest)
      | next :: more => some (next, (p, more) :: rest)
    else (takeRoute path rest).map fun (reply, rest) => (reply, (p, replies) :: rest)

/-- The reply to a request for a path. -/
def take (s : Server) (path : String) : Reply × Server :=
  match takeRoute path s.routes with
  | some (reply, routes) => (reply, { s with routes })
  | none =>
    match s.responses with
    | reply :: responses => (reply, { s with responses })
    | [] => (s.default, s)

/-- Carry a request to a server and back, waiting for `timeout` at most. -/
def deliver (link : Link) (timeout : Duration) (r : Outgoing) (s : Server) : Delivery × Server :=
  match link with
  | .down => ({ after := 0, result := .error false }, s)
  | .up =>
    let (reply, s) := s.take r.url.pathText
    let late : Delivery := { after := timeout, result := .error true }
    let delivery : Delivery :=
      if reply.fault = some .silence ∨ timeout ≤ reply.delay then late
      else if reply.fault = some .broken then { after := reply.delay, result := .error false }
      else { after := reply.delay, result := .ok (reply.response r) }
    (delivery, s)

end Server

end Courier.Rehearsal
