import Courier.Header.Map
import Courier.Tracing
import Courier.Entity.MediaType
import Courier.Url.Parser

/-!
# Options of a client

Where a client starts from, when it gives up waiting, which statuses it tries again and
after how long, and which headers and content type it sends unless a request says
otherwise.
-/

namespace Courier

/-- What a client is made from. -/
structure Options where
  baseUrl : Option String := none
  timeout : Option Duration := none
  retryStatuses : List Status := []
  retryDelay : Option Duration := none
  headers : Headers := {}
  contentType : String := MediaType.json
  tracing : Tracing := {}
  deriving Repr, Inhabited

namespace Options

/-- The statuses that usually pass. -/
def recoverableStatuses : List Status := [500, 502, 503, 504]

/-- The delay before a first retry unless another one is given. -/
def defaultRetryDelay : Duration := 180 * second

/-- How long an answer may take unless another time is given. -/
def sharedTimeout : Duration := 60 * second

/-- The options with one value under a name. -/
def withHeader (o : Options) (name : Header.Name) (v : Header.Value) : Options :=
  { o with headers := o.headers.insert name v }

/-- The options with every name of `headers` standing for exactly its values there. -/
def withHeaders (o : Options) (headers : Headers) : Options :=
  { o with headers := o.headers.replaceWith headers }

/-- The options with all tracing on or off. -/
def withDebug (o : Options) (on : Bool) : Options :=
  { o with tracing := { o.tracing with debug := on, verbose := on } }

/-- The delay before a first retry. No delay stands for the usual one. -/
def backoff (o : Options) : Duration :=
  match o.retryDelay with
  | none => defaultRetryDelay
  | some d => if d = 0 then defaultRetryDelay else d

/-- The base, unless it is blank. -/
def base (o : Options) : Except Failure (Option Url) :=
  match o.baseUrl with
  | none => .ok none
  | some text =>
    if Text.isAllBlank text then .ok none
    else
      match Url.parse text with
      | .ok u => .ok (some u)
      | .error fault => .error (.invalidUrl text fault.message)

end Options

end Courier
