/-!
# Status codes

The three digits of a response's status, the reason that goes with each registered one,
and the sentinel causes of six common failures.
-/

namespace Courier

/-- A status code. -/
abbrev Status := Nat

namespace Status

def noContent : Status := 204
def notModified : Status := 304
def tooManyRequests : Status := 429

/-- Codes from 200 up to 299 mean success. -/
def isSuccess (s : Status) : Bool :=
  200 ≤ s ∧ s < 300

/-- The registered reason of a code. -/
def reason? : Status → Option String
  | 100 => "Continue"
  | 101 => "Switching Protocols"
  | 102 => "Processing"
  | 103 => "Early Hints"
  | 200 => "OK"
  | 201 => "Created"
  | 202 => "Accepted"
  | 203 => "Non Authoritative Information"
  | 204 => "No Content"
  | 205 => "Reset Content"
  | 206 => "Partial Content"
  | 207 => "Multi-Status"
  | 208 => "Already Reported"
  | 226 => "IM Used"
  | 300 => "Multiple Choices"
  | 301 => "Moved Permanently"
  | 302 => "Found"
  | 303 => "See Other"
  | 304 => "Not Modified"
  | 305 => "Use Proxy"
  | 307 => "Temporary Redirect"
  | 308 => "Permanent Redirect"
  | 400 => "Bad Request"
  | 401 => "Unauthorized"
  | 402 => "Payment Required"
  | 403 => "Forbidden"
  | 404 => "Not Found"
  | 405 => "Method Not Allowed"
  | 406 => "Not Acceptable"
  | 407 => "Proxy Authentication Required"
  | 408 => "Request Timeout"
  | 409 => "Conflict"
  | 410 => "Gone"
  | 411 => "Length Required"
  | 412 => "Precondition Failed"
  | 413 => "Payload Too Large"
  | 414 => "URI Too Long"
  | 415 => "Unsupported Media Type"
  | 416 => "Range Not Satisfiable"
  | 417 => "Expectation Failed"
  | 418 => "I'm a teapot"
  | 421 => "Misdirected Request"
  | 422 => "Unprocessable Entity"
  | 423 => "Locked"
  | 424 => "Failed Dependency"
  | 425 => "Too Early"
  | 426 => "Upgrade Required"
  | 428 => "Precondition Required"
  | 429 => "Too Many Requests"
  | 431 => "Request Header Fields Too Large"
  | 451 => "Unavailable For Legal Reasons"
  | 500 => "Internal Server Error"
  | 501 => "Not Implemented"
  | 502 => "Bad Gateway"
  | 503 => "Service Unavailable"
  | 504 => "Gateway Timeout"
  | 505 => "HTTP Version Not Supported"
  | 506 => "Variant Also Negotiates"
  | 507 => "Insufficient Storage"
  | 508 => "Loop Detected"
  | 510 => "Not Extended"
  | 511 => "Network Authentication Required"
  | _ => none

/-- A code with its reason. -/
def print (s : Status) : String :=
  toString s ++ " " ++ (reason? s).getD "<unknown status code>"

/-- The sentinel causes of common failures. -/
inductive Cause where
  | badRequest
  | unauthorized
  | forbidden
  | notFound
  | unprocessableEntity
  | internalServerError
  deriving Repr, DecidableEq, Inhabited

/-- The wording of a cause. -/
def Cause.message : Cause → String
  | .badRequest => "bad request"
  | .unauthorized => "unauthorized"
  | .forbidden => "forbidden"
  | .notFound => "not found"
  | .unprocessableEntity => "unprocessable entity"
  | .internalServerError => "internal server error"

/-- The cause that a code stands for. -/
def cause? : Status → Option Cause
  | 400 => some .badRequest
  | 401 => some .unauthorized
  | 403 => some .forbidden
  | 404 => some .notFound
  | 422 => some .unprocessableEntity
  | 500 => some .internalServerError
  | _ => none

end Status

end Courier
