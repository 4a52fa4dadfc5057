import Courier.Text.Ascii
import Courier.Text.Utf8

/-!
# SHA-256

The digest of FIPS 180-4. The message is cut into blocks of sixty-four bytes, the last
of them padded with a one bit, zeros and the message's length in bits ; every block is
expanded to sixty-four words and folded into a state of eight words.

Digests, like other bytes, are written as hexadecimal digits, two small ones a byte.
-/

namespace Courier

/-! ### Bytes as hexadecimal digits -/

namespace Hex

/-- The two digits of a byte. -/
def ofByte (b : UInt8) : List Char :=
  [Ascii.hexDigit (b.toNat / 16), Ascii.hexDigit (b.toNat % 16)]

/-- The digits of a byte sequence. -/
def encode (bytes : Bytes) : String :=
  String.ofList (bytes.flatMap ofByte)

/-- The bytes that pairs of digits of either case write. -/
def decodeChars : List Char → Option Bytes
  | [] => some []
  | h :: l :: rest =>
    match Ascii.hexValue? h, Ascii.hexValue? l, decodeChars rest with
    | some hi, some lo, some bytes => some (UInt8.ofNat (hi * 16 + lo) :: bytes)
    | _, _, _ => none
  | [_] => none

/-- The bytes that a text of digit pairs writes. -/
def decode? (s : String) : Option Bytes :=
  decodeChars s.toList

end Hex

/-! ### The digest -/

namespace Sha256

/-- The chaining state. -/
structure State where
  (a b c d e f g h : UInt32)

/-- The state before the first block. -/
def initial : State :=
  ⟨0x6a09e667, 0xbb67ae85, 0x3c6ef372, 0xa54ff53a, 0x510e527f, 0x9b05688c, 0x1f83d9ab, 0x5be0cd19⟩

/-- The sixty-four round constants. -/
def constants : List UInt32 :=
  [0x428a2f98, 0x71374491, 0xb5c0fbcf, 0xe9b5dba5, 0x3956c25b, 0x59f111f1, 0x923f82a4, 0xab1c5ed5,
   0xd807aa98, 0x12835b01, 0x243185be, 0x550c7dc3, 0x72be5d74, 0x80deb1fe, 0x9bdc06a7, 0xc19bf174,
   0xe49b69c1, 0xefbe4786, 0x0fc19dc6, 0x240ca1cc, 0x2de92c6f, 0x4a7484aa, 0x5cb0a9dc, 0x76f988da,
   0x983e5152, 0xa831c66d, 0xb00327c8, 0xbf597fc7, 0xc6e00bf3, 0xd5a79147, 0x06ca6351, 0x14292967,
   0x27b70a85, 0x2e1b2138, 0x4d2c6dfc, 0x53380d13, 0x650a7354, 0x766a0abb, 0x81c2c92e, 0x92722c85,
   0xa2bfe8a1, 0xa81a664b, 0xc24b8b70, 0xc76c51a3, 0xd192e819, 0xd6990624, 0xf40e3585, 0x106aa070,
   0x19a4c116, 0x1e376c08, 0x2748774c, 0x34b0bcb5, 0x391c0cb3, 0x4ed8aa4a, 0x5b9cca4f, 0x682e6ff3,
   0x748f82ee, 0x78a5636f, 0x84c87814, 0x8cc70208, 0x90befffa, 0xa4506ceb, 0xbef9a3f7, 0xc67178f2]

/-- Rotation to the right. -/
def rotate (x : UInt32) (n : UInt32) : UInt32 :=
  (x >>> n) ||| (x <<< (32 - n))

/-- One round with its schedule word and constant. -/
def round (s : State) (w k : UInt32) : State :=
  let sum1 := rotate s.e 6 ^^^ rotate s.e 11 ^^^ rotate s.e 25
  let choice := (s.e &&& s.f) ^^^ ((s.e ^^^ 0xffffffff) &&& s.g)
  let t1 := s.h + sum1 + choice + k + w
  let sum0 := rotate s.a 2 ^^^ rotate s.a 13 ^^^ rotate s.a 22
  let majority := (s.a &&& s.b) ^^^ (s.a &&& s.c) ^^^ (s.b &&& s.c)
  ⟨t1 + (sum0 + majority), s.a, s.b, s.c, s.d + t1, s.e, s.f, s.g⟩

/-- The schedule word that follows the last sixteen, of which the newest comes first. -/
def nextWord : List UInt32 → UInt32
  | _ :: w14 :: _ :: _ :: _ :: _ :: w9 :: _ :: _ :: _ :: _ :: _ :: _ :: _ :: w1 :: w0 :: _ =>
    let s0 := rotate w1 7 ^^^ rotate w1 18 ^^^ (w1 >>> 3)
    let s1 := rotate w14 17 ^^^ rotate w14 19 ^^^ (w14 >>> 10)
    w0 + s0 + w9 + s1
  | _ => 0

/-- Add `n` words to a schedule, which has its newest word first. -/
def expand : Nat → List UInt32 → List UInt32
  | 0, ws => ws
  | n + 1, ws => expand n (nextWord ws :: ws)

/-- Run the rounds of schedule words and constants. -/
def rounds : State → List UInt32 → List UInt32 → State
  | s, w :: ws, k :: ks => rounds (round s w k) ws ks
  | s, _, _ => s

/-- Fold one block of sixteen words, newest first, into the state. -/
def compress (s : State) (block : List UInt32) : State :=
  let t := rounds s (expand 48 block).reverse constants
  ⟨s.a + t.a, s.b + t.b, s.c + t.c, s.d + t.d, s.e + t.e, s.f + t.f, s.g + t.g, s.h + t.h⟩

/-- A message being read : the state after its whole blocks, the words of the open block and
the bytes of the open word, both newest first. -/
structure Reader where
  state : State := initial
  words : List UInt32 := []
  held : Nat := 0
  word : UInt32 := 0
  bytes : Nat := 0

/-- Read one byte. -/
def Reader.push (r : Reader) (b : UInt8) : Reader :=
  let word := (r.word <<< 8) ||| b.toUInt32
  if r.bytes < 3 then { r with word, bytes := r.bytes + 1 }
  else if r.held < 15 then
    { r with words := word :: r.words, held := r.held + 1, word := 0, bytes := 0 }
  else { state := compress r.state (word :: r.words) }

/-- The eight bytes of a length in bits. -/
def lengthBytes (bits : Nat) : Bytes :=
  [56, 48, 40, 32, 24, 16, 8, 0].map fun shift => UInt8.ofNat (bits >>> shift)

/-- The padding after a message of `n` bytes. -/
def padding (n : Nat) : Bytes :=
  0x80 :: List.replicate ((119 - n % 64) % 64) 0 ++ lengthBytes (8 * n)

/-- The four bytes of a word. -/
def wordBytes (w : UInt32) : Bytes :=
  [(w >>> 24).toUInt8, (w >>> 16).toUInt8, (w >>> 8).toUInt8, w.toUInt8]

/-- The digest of a message. -/
def digest (message : Bytes) : Bytes :=
  let r := (padding message.length).foldl Reader.push (message.foldl Reader.push {})
  let s := r.state
  [s.a, s.b, s.c, s.d, s.e, s.f, s.g, s.h].flatMap wordBytes

/-- The digest in hexadecimal digits. -/
def hexDigest (message : Bytes) : String :=
  Hex.encode (digest message)

end Sha256

end Courier
