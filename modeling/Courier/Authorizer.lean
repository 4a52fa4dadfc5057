import Courier.Request
import Courier.Crash

/-!
# Credentials

An authorizer gives an outgoing request its credentials. Credentials come as headers, as
query parameters, as a user's name and password, or as a token, which may have to be asked
for. All headers that are set from a secret are marked sensitive, and the notation of
credentials for diagnostics shows names only.

An authorizer answers at once : the time that a source takes to give a token is left out.
Nobody looks for cancellation in that time, so a call that is canceled in it goes on to its
next wait.

A name and a password are written in base 64 : three bytes become four characters of the
standard alphabet, and a group of one or two bytes at the end is filled up with equals signs.
-/

namespace Courier

/-! ### Base 64 -/

namespace Base64

/-- The standard alphabet. -/
def alphabet : List Char :=
  "ABCDEFGHIJKLMNOPQRSTUVWXYZabcdefghijklmnopqrstuvwxyz0123456789+/".toList

/-- The character of a number below 64. -/
def symbol (n : Nat) : Char :=
  alphabet.getD n '='

/-- The characters of a byte sequence. -/
def encodeChars : Bytes → List Char
  | a :: b :: c :: rest =>
    symbol (a.toNat / 4) :: symbol (a.toNat % 4 * 16 + b.toNat / 16)
      :: symbol (b.toNat % 16 * 4 + c.toNat / 64) :: symbol (c.toNat % 64) :: encodeChars rest
  | [a, b] =>
    [symbol (a.toNat / 4), symbol (a.toNat % 4 * 16 + b.toNat / 16), symbol (b.toNat % 16 * 4), '=']
  | [a] => [symbol (a.toNat / 4), symbol (a.toNat % 4 * 16), '=', '=']
  | [] => []

/-- A byte sequence in base 64. -/
def encode (bytes : Bytes) : String :=
  String.ofList (encodeChars bytes)

end Base64

/-! ### Tokens and credentials -/

/-- Something that gives requests their credentials, in a world of states `σ`. -/
abbrev Authorizer (σ : Type) := Outgoing → σ → Answer AuthFault Outgoing × σ

/-- An access token. -/
structure Token where
  text : String
  kind : Option String := none
  deriving Repr, DecidableEq, Inhabited

namespace Token

/-- The scheme of a token. The usual kinds have a spelling of their own. -/
def scheme (t : Token) : String :=
  let kind := t.kind.getD ""
  let folded := Ascii.lowercase kind
  if kind = "" ∨ folded = "bearer" then "Bearer"
  else if folded = "mac" then "MAC"
  else if folded = "basic" then "Basic"
  else kind

/-- A token for diagnostics. -/
def describe (t : Token) : String :=
  Text.record "Token" [("access_token", Text.quoted "<redacted>"),
    ("token_type", Text.optional (t.kind.map Text.quoted))]

end Token

/-- The ways to authorize a request. -/
inductive Credentials (σ : Type) where
  | header (headers : Headers)
  | query (params : Form.Pairs)
  | basic (username password : String)
  | bearer (token : String)
  /-- A token that is asked for at every request. -/
  | oauth (source : σ → Answer AuthFault Token × σ)

namespace Credentials

variable {σ : Type}

/-- A single header with a secret value. -/
def single (name v : String) : Except AuthFault (Credentials σ) :=
  match Header.Name.parse? name, Header.Value.ofText? v with
  | some n, some v => .ok (.header (Headers.empty.insert n v.secret))
  | _, _ => .error (.invalidHeader name)

/-- The request with a secret text as its authorization. -/
def authorized (r : Outgoing) (text : String) : Answer AuthFault Outgoing :=
  match Header.Value.ofText? text with
  | some v => .ok { r with headers := r.headers.insert Header.authorization v.secret }
  | none => Answer.fail .invalidCredentials

/-- The request with a header authorizer's headers : the first value of every name. -/
def firstValues (h headers : Headers) : Headers :=
  headers.names.foldl (fun h name =>
    match headers.first? name with
    | some v => h.insert name v
    | none => h) h

/-- Give a request its credentials. -/
def authorize (c : Credentials σ) : Authorizer σ := fun r s =>
  match c with
  | .header headers => (.ok { r with headers := firstValues r.headers headers }, s)
  | .query params => (.ok { r with url := r.url.appendPairs params }, s)
  | .basic username password =>
    (authorized r ("Basic " ++ Base64.encode (Utf8.encode (username ++ ":" ++ password))), s)
  | .bearer token => (authorized r ("Bearer " ++ token), s)
  | .oauth source =>
    match source s with
    | (.ok token, s) => (authorized r (token.scheme ++ " " ++ token.text), s)
    | (.error stop, s) => (.error stop, s)

/-- Credentials for diagnostics. -/
def describe : Credentials σ → String
  | .header headers =>
    Text.record "HeaderAuthorizer"
      [("headers", Text.list (headers.names.map fun n => Text.quoted n.text))]
  | .query params =>
    Text.record "QueryAuthorizer"
      [("params", Text.list (params.map fun (k, _) => Text.quoted k))]
  | .basic username _ =>
    Text.record "BasicAuthorizer"
      [("username", Text.quoted username), ("password", Text.quoted "<redacted>")]
  | .bearer _ => Text.record "BearerAuthorizer" [("token", Text.quoted "<redacted>")]
  | .oauth _ => "OAuthAuthorizer \x7b .. \x7d"

end Credentials

end Courier
