import Courier.Digest.Sha256

/-!
# Hexdumps

A dump has one line for every row of bytes : the row's offset in at least eight
hexadecimal digits, two digits and a blank for every byte, blanks in the place of the
bytes that a short last row lacks, and between bars one character a byte, which is the
byte itself if it prints and a point otherwise.
-/

namespace Courier.Hexdump

/-- The bytes of a row. -/
def width : Nat := 20

/-- Cut into rows of `n + 1` bytes, after the rows that are done, of which the last comes
first. -/
def rowsAfter (n : Nat) (done : List Bytes) : Bytes → List Bytes
  | [] => done.reverse
  | b :: rest => rowsAfter n ((b :: rest.take n) :: done) (rest.drop n)
termination_by bytes => bytes.length

/-- Cut into rows of `n + 1` bytes. -/
def rows (n : Nat) (bytes : Bytes) : List Bytes :=
  rowsAfter n [] bytes

/-- The offset of a row. -/
def offset (n : Nat) : List Char :=
  let digits := (Nat.toDigits 16 n).map Ascii.lower
  List.replicate (8 - digits.length) '0' ++ digits

/-- The digits of a row, filled up to its width. -/
def columns (row : Bytes) : List Char :=
  row.flatMap (fun b => Hex.ofByte b ++ [' ']) ++ List.replicate (3 * (width - row.length)) ' '

/-- The character that stands for a byte. -/
def shown (b : UInt8) : Char :=
  if Ascii.isGraphic b ∨ b = 0x20 then Char.ofNat b.toNat else '.'

/-- The line of a row that begins at an offset. -/
def line (start : Nat) (row : Bytes) : List Char :=
  offset start ++ [' ', ' '] ++ columns row ++ [' ', '|'] ++ row.map shown ++ ['|', '\n']

/-- The lines of a byte sequence. -/
def lines (bytes : Bytes) : List String :=
  (rows (width - 1) bytes).zipIdx.map fun (row, k) => String.ofList (line (width * k) row)

/-- The dump of a byte sequence. -/
def dump (bytes : Bytes) : String :=
  String.join (lines bytes)

end Courier.Hexdump
