import Courier.Authorizer
import Courier.Digest.Sha256
import Courier.Options
import Courier.Redaction
import Courier.Response

/-!
# Clients

A client knows how its calls go : what they are relative to, who authorizes them, who paces
them, who watches them, what carries them, and when they are tried again. Its collaborators
live in a world with states `σ`, and each of them may crash.

Derived clients are copies : the client they come from stays as it is.
-/

namespace Courier

/-- Something that paces calls. -/
structure Limiter (σ : Type) where
  /-- What is left at an instant. -/
  report : Instant → σ → Answer Empty Limiter.Report × σ
  /-- When a call that comes at an instant may go on. -/
  next : Instant → Outgoing → σ → Answer Limiter.Refusal Instant × σ
  /-- Learn from the response to a call that came at an instant, at the time of a clock. -/
  update : Instant → Clock → Response → σ → Answer Limiter.Refusal Unit × σ

/-- Something that watches calls, and may refuse them before they are sent and after they are
answered. -/
structure Observer (σ : Type) where
  willSend : Outgoing → σ → Answer Failure Unit × σ
  didReceive : Outgoing → Response → σ → Answer Failure Unit × σ
  failed : Outgoing → Failure → σ → Answer Empty Unit × σ

/-- The end of a request on its way : how long it takes, and a response, or whether it took too
long. -/
structure Delivery where
  after : Duration
  result : Except Bool Response
  deriving Inhabited

/-- Something that carries requests. -/
abbrev Transport (σ : Type) := Instant → Outgoing → σ → Delivery × σ

/-- How calls go. -/
structure Client (σ : Type) where
  base : Option Url
  authorizer : Option (Authorizer σ) := none
  limiter : Option (Limiter σ) := none
  observers : List (Observer σ) := []
  transport : Transport σ
  /-- The statuses that are tried again. For a call the order does not count. The notation for
  diagnostics follows it, and it may differ from one client to another with the same statuses. -/
  retryStatuses : List Status
  backoff : Duration
  headers : Headers
  contentType : String
  tracing : Tracing
  /-- What stands for a secret in a trace, next to its length. -/
  digest : Bytes → Bytes := Sha256.digest

namespace Client

variable {σ : Type}

/-- The client of options in an environment. The transport is given the longest time an answer may
take. -/
def ofOptions (o : Options) (env : Environment) (transport : Duration → Transport σ) :
    Except Failure (Client σ) :=
  match o.base, o.tracing.overlay env with
  | .error f, _ => .error f
  | .ok _, .error f => .error f
  | .ok base, .ok tracing =>
    .ok {
      base
      transport := transport (o.timeout.getD Options.sharedTimeout)
      retryStatuses := o.retryStatuses
      backoff := o.backoff
      headers := o.headers
      contentType := o.contentType
      tracing }

/-- The client with another base. -/
def withBase (c : Client σ) (base : Url) : Client σ :=
  { c with base := some base }

/-- The client with an authorizer. -/
def withAuthorizer (c : Client σ) (a : Authorizer σ) : Client σ :=
  { c with authorizer := some a }

/-- The client with a limiter, which all copies share. -/
def withLimiter (c : Client σ) (l : Limiter σ) : Client σ :=
  { c with limiter := some l }

/-- The client with one more observer. -/
def withObserver (c : Client σ) (o : Observer σ) : Client σ :=
  { c with observers := c.observers ++ [o] }

/-- A client for diagnostics. -/
def describe (c : Client σ) : String :=
  Text.record "ApiClient" [
    ("base", Text.optional (c.base.map fun u => Text.quoted u.print)),
    ("authorizer", Text.optional (c.authorizer.map fun _ => Text.quoted "<redacted>")),
    ("rate_limited", Text.truth c.limiter.isSome),
    ("retry_status", Text.set (c.retryStatuses.eraseDups.map toString)),
    ("backoff", c.backoff.print),
    ("headers", Text.quoted (c.headers.sanitized c.digest)),
    ("content_type", Text.quoted c.contentType),
    ("debug", c.tracing.describe)]

/-- Observers for diagnostics. -/
def describeObservers (observers : List (Observer σ)) : String :=
  Text.record "Observers" [("len", toString observers.length)]

end Client

end Courier
