import Courier.Url.Label
import Courier.Url.Percent
import Courier.Text.Split

/-!
# Hosts

A host is a domain, an address of version 4 or an address of version 6 between brackets.
A domain in ASCII is kept in small letters, and its international labels have to stand for
labels (`Courier.Url.Label`) ; one whose last part is a number has to be an address, whose
parts may be decimal, octal or hexadecimal and of which the last one fills all bytes that
are left. Schemes without special treatment keep their hosts as they are.
-/

namespace Courier.Url

/-- Why a text is no URL. -/
inductive Fault where
  | emptyHost
  | invalidPort
  | invalidIpv4
  | invalidIpv6
  | invalidDomain
  | invalidDomainCharacter
  /-- There is neither a scheme nor a base. -/
  | relativeWithoutBase
  /-- The base has no path to resolve against. -/
  | relativeWithBareBase
  deriving Repr, DecidableEq

/-- The wording of a fault. -/
def Fault.message : Fault → String
  | .emptyHost => "empty host"
  | .invalidPort => "invalid port number"
  | .invalidIpv4 => "invalid IPv4 address"
  | .invalidIpv6 => "invalid IPv6 address"
  | .invalidDomain => "invalid international domain name"
  | .invalidDomainCharacter => "invalid domain character"
  | .relativeWithoutBase => "relative URL without a base"
  | .relativeWithBareBase => "relative URL with a cannot-be-a-base base"

/-- A host. -/
inductive Host where
  | domain (name : String)
  | ipv4 (address : Nat)
  /-- Eight pieces of 16 bits. -/
  | ipv6 (pieces : List Nat)
  deriving Repr, DecidableEq, Inhabited

namespace Host

/-! ### Addresses of version 4 -/

/-- The number that characters write to a base, if all of them are digits of it. -/
def numeral? (base : Nat) (cs : List Char) : Option Nat :=
  cs.foldlM (fun n c =>
    (Ascii.hexValue? c).bind fun d => if d < base then some (n * base + d) else none) 0

/-- A part of an address : decimal, octal after a zero, hexadecimal after `0x`. -/
def part? (cs : List Char) : Option Nat :=
  match cs with
  | [] => none
  | '0' :: 'x' :: rest => numeral? 16 rest
  | '0' :: 'X' :: rest => numeral? 16 rest
  | '0' :: c :: rest => numeral? 8 (c :: rest)
  | cs => numeral? 10 cs

/-- The parts of a dotted name, without an empty last one. -/
def dotted (cs : List Char) : List (List Char) :=
  let parts := Text.splitAt '.' cs
  if parts.length > 1 ∧ parts.getLast? = some [] then parts.dropLast else parts

/-- Whether a domain ends in a number, so that it has to be an address. -/
def endsInNumber (cs : List Char) : Bool :=
  match (dotted cs).getLast? with
  | some last => last ≠ [] ∧ (last.all Ascii.isDigit ∨ (part? last).isSome)
  | none => false

/-- The address of parts, of which the last one fills the bytes that are left. -/
def assemble? (numbers : List Nat) : Option Nat :=
  match numbers.getLast? with
  | none => none
  | some last =>
    let front := numbers.dropLast
    if numbers.length > 4 ∨ front.any (· > 255) ∨ last ≥ Nat.pow 256 (4 - front.length) then none
    else some (front.foldl (fun n p => n * 256 + p) 0 * Nat.pow 256 (4 - front.length) + last)

/-- The address that a domain writes. -/
def ipv4? (cs : List Char) : Option Nat :=
  let parts := dotted cs
  if parts.length > 4 then none
  else (parts.mapM part?).bind assemble?

/-- An address as four decimal numbers. -/
def printIpv4 (n : Nat) : String :=
  ".".intercalate ([n / 16777216 % 256, n / 65536 % 256, n / 256 % 256, n % 256].map toString)

/-! ### Addresses of version 6 -/

/-- A piece of up to four hexadecimal digits. -/
def piece? (cs : List Char) : Option Nat :=
  if cs = [] ∨ cs.length > 4 then none else numeral? 16 cs

/-- One of the four decimal numbers at the end of an address. -/
def octet? (cs : List Char) : Option Nat :=
  if cs = [] ∨ (cs.length > 1 ∧ cs.head? = some '0') ∨ !cs.all Ascii.isDigit then none
  else (numeral? 10 cs).bind fun n => if n ≤ 255 then some n else none

/-- Two pieces written as four decimal numbers. -/
def embedded? (cs : List Char) : Option (List Nat) :=
  match Text.splitAt '.' cs with
  | [a, b, c, d] =>
    match octet? a, octet? b, octet? c, octet? d with
    | some a, some b, some c, some d => some [a * 256 + b, c * 256 + d]
    | _, _, _, _ => none
  | _ => none

/-- Pieces with a colon between them. Only the last part of the address may be decimal. -/
def pieces? (isLast : Bool) (cs : List Char) : Option (List Nat) :=
  if cs = [] then some []
  else
    let parts := Text.splitAt ':' cs
    match (parts.dropLast.mapM piece?), parts.getLast? with
    | some front, some last =>
      if isLast ∧ '.' ∈ last then (embedded? last).map (front ++ ·)
      else (piece? last).map fun p => front ++ [p]
    | _, _ => none

/-- The characters around the first double colon. -/
def aroundGap : List Char → Option (List Char × List Char)
  | ':' :: ':' :: rest => some ([], rest)
  | c :: rest => (aroundGap rest).map fun (front, back) => (c :: front, back)
  | [] => none

/-- The eight pieces that a text writes, a double colon standing for one zero piece at least. -/
def ipv6? (cs : List Char) : Option (List Nat) :=
  match aroundGap cs with
  | none => (pieces? true cs).bind fun ps => if ps.length = 8 then some ps else none
  | some (front, back) =>
    match pieces? false front, pieces? true back with
    | some a, some b =>
      if a.length + b.length ≤ 7 then some (a ++ List.replicate (8 - a.length - b.length) 0 ++ b)
      else none
    | _, _ => none

/-- How many zeros stand at the front. -/
def zerosAt (pieces : List Nat) : Nat :=
  (pieces.takeWhile (· = 0)).length

/-- Where the first of the longest runs of zeros begins, and its length. -/
def longestRun (pieces : List Nat) : Nat × Nat :=
  (List.range pieces.length).foldl
    (fun best i =>
      let run := zerosAt (pieces.drop i)
      if run > best.2 then (i, run) else best) (0, 0)

/-- Pieces with a colon between them. -/
def joinPieces (pieces : List Nat) : String :=
  ":".intercalate (pieces.map fun p => String.ofList ((Nat.toDigits 16 p).map Ascii.lower))

/-- An address with its first longest run of two or more zero pieces left out. -/
def printIpv6 (pieces : List Nat) : String :=
  let (start, length) := longestRun pieces
  if length < 2 then joinPieces pieces
  else joinPieces (pieces.take start) ++ "::" ++ joinPieces (pieces.drop (start + length))

/-! ### Hosts -/

/-- A host as it stands in a URL. -/
def print : Host → String
  | .domain name => name
  | .ipv4 n => printIpv4 n
  | .ipv6 pieces => "[" ++ printIpv6 pieces ++ "]"

/-- A character that no domain holds. -/
def isForbidden (c : Char) : Bool :=
  c ≤ ' ' ∨ c = '\x7f' ∨ c ∈ "%#/:<>?@[\\]^|".toList

/-- A character that no host of any scheme holds. -/
def isForbiddenBare (c : Char) : Bool :=
  c ∈ "\x00\t\n\x0d #/:<>?@[\\]^|".toList

/-- The address between brackets. -/
def bracketed? (cs : List Char) : Except Fault Host :=
  if cs.getLast? = some ']' then
    match ipv6? (cs.tail.dropLast) with
    | some pieces => .ok (.ipv6 pieces)
    | none => .error .invalidIpv6
  else .error .invalidIpv6

/-- The host of a scheme with special treatment. -/
def parse (cs : List Char) : Except Fault Host :=
  if cs.head? = some '[' then bracketed? cs
  else
    match Utf8.decode? (unescape cs) with
    | none => .error .invalidDomain
    | some decoded =>
      let name := decoded.toList.map Ascii.lower
      if name.any isForbidden ∨ !Label.isDomain name then .error .invalidDomain
      else if name = [] then .error .emptyHost
      else if endsInNumber name then
        match ipv4? name with
        | some n => .ok (.ipv4 n)
        | none => .error .invalidIpv4
      else .ok (.domain (String.ofList name))

/-- The host of any other scheme. -/
def parseBare (cs : List Char) : Except Fault Host :=
  if cs.head? = some '[' then bracketed? cs
  else if cs.any isForbiddenBare then .error .invalidDomainCharacter
  else .ok (.domain (String.ofList (encode .plain cs)))

end Host

end Courier.Url
