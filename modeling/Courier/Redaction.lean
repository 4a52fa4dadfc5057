import Courier.Header.Map
import Courier.Text.Split
import Courier.Digest.Sha256

/-!
# Redaction

Headers that carry credentials, and headers that are marked sensitive, are shown by the
length and digest of their values only. `Headers.sanitized` shows a header map with one
line for each value. Any function may serve as the digest.
-/

namespace Courier

namespace Redaction

/-- The stand-in for a secret. -/
def mask (digest : Bytes → Bytes) (secret : Bytes) : String :=
  "<apiclient: redacted " ++ toString secret.length ++ " bytes; SHA256="
    ++ Hex.encode (digest secret) ++ ">"

/-- The headers that carry credentials. -/
def credentialNames : List Header.Name :=
  [Header.authorization, Header.proxyAuthorization, Header.cookie, Header.setCookie]

/-- Whether a header's value is kept out of logs. -/
def isSecret (name : Header.Name) (v : Header.Value) : Bool :=
  decide (name ∈ credentialNames) || v.sensitive

/-- A header's value for logs. -/
def shown (digest : Bytes → Bytes) (name : Header.Name) (v : Header.Value) : String :=
  if isSecret name v then mask digest v.bytes else v.lossy

/-- Every line of a text behind a mark. -/
def indent (mark text : String) : String :=
  Text.join "\n" ((Text.lines text).map (mark ++ ·))

end Redaction

/-- A header map for logs. -/
def Headers.sanitized (h : Headers) (digest : Bytes → Bytes) : String :=
  Text.join "\n" (h.fields.map fun (n, v) => n.text ++ ": " ++ Redaction.shown digest n v)

end Courier
