import Courier.Failure
import Courier.Pattern.Parser
import Courier.Url

/-!
# Tracing

Calls are traced if they are asked to : verbose tracing follows every step, and tracing for
debugging shows headers, and bodies too if it is verbose. A filter limits both to URLs
whose path it is found in. The environment can switch tracing on and replace the filter.
-/

namespace Courier

/-- The value of an environment variable. -/
abbrev Environment := String → Option String

/-- Whether a variable is set to anything. -/
def Environment.flag (env : Environment) (name : String) : Bool :=
  (env name).getD "" ≠ ""

/-- What is traced. -/
structure Tracing where
  debug : Bool := false
  verbose : Bool := false
  filter : Option Pattern := none
  deriving Repr, Inhabited

namespace Tracing

/-- What is traced in an environment. -/
def overlay (t : Tracing) (env : Environment) : Except Failure Tracing :=
  let debug := t.debug || env.flag "DEBUG_API_CLIENT"
  let verbose := debug || t.verbose || env.flag "VERBOSE_API_CLIENT"
  match env "DEBUG_API_CLIENT_FILTER" with
  | none => .ok { debug, verbose, filter := t.filter }
  | some "" => .ok { debug, verbose, filter := t.filter }
  | some text =>
    match Pattern.parse? text with
    | some pattern => .ok { debug, verbose, filter := some pattern }
    | none => .error (.config "invalid DEBUG_API_CLIENT_FILTER: <regex>")

/-- Whether calls to a URL pass the filter. -/
def admits (t : Tracing) (u : Url) : Bool :=
  match t.filter with
  | some pattern => pattern.isIn u.pathText
  | none => true

/-- Whether every step of a call to a URL is traced. -/
def followsSteps (t : Tracing) (u : Url) : Bool :=
  t.verbose && t.admits u

/-- Whether headers of a call to a URL are traced. -/
def showsHeaders (t : Tracing) (u : Url) : Bool :=
  t.debug && t.admits u

/-- What is traced, for diagnostics. -/
def describe (t : Tracing) : String :=
  Text.record "DebugOptions" [("debug", Text.truth t.debug), ("verbose", Text.truth t.verbose),
    ("filter", Text.optional (t.filter.map Pattern.describe))]

end Tracing

/-- A line of a trace with its fields. -/
structure Trace where
  text : String
  /-- The number of the call. -/
  call : Option Nat := none
  /-- The place in a batch. -/
  index : Option Nat := none
  elapsed : Option Duration := none
  error : Option String := none
  deriving Repr, DecidableEq, Inhabited

end Courier
