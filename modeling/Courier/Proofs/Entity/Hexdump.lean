import Courier.Entity
import Courier.Proofs.Digest.Hex
import Courier.Proofs.Text.Digits
import Courier.Proofs.Text.Split
import Courier.Proofs.Url.Numeral
import Mathlib.Data.List.Forall2

/-!
# Hexdumps read back

A line of a dump is its offset, its columns and its text (`Hexdump.Line`), and `Hexdump.Line.Shows`
says what these promise of a row of bytes, by reading them : the offset as a numeral, the columns as
pairs of digits. The rows of a byte sequence are the stretches of twenty bytes that begin at the
multiples of twenty (`Hexdump.rowsAfter_eq`), put together they are the sequence
(`Hexdump.flatten_rowsAfter`), and each is shown by its line (`Hexdump.shows_lineOf`). So the bytes
are read back from the lines of their dump (`Hexdump.read?_dump`).
-/

namespace Courier

namespace Hexdump

variable {start : Nat} {row data : Bytes} {c : Char} {holds : Char → Prop}

/-! ## Rows -/

/-- How many rows there are : the first one is as good as full. -/
theorem count_cons (n : Nat) (b : UInt8) (rest : Bytes) :
    ((b :: rest).length + n) / (n + 1) = ((rest.drop n).length + n) / (n + 1) + 1 := by
  have hcons : rest.length + 1 + n = rest.length + (n + 1) := by omega
  have hdrop : (rest.length - n + n) / (n + 1) = rest.length / (n + 1) := by
    rcases Nat.lt_or_ge rest.length n with hlt | hge
    · rw [Nat.div_eq_of_lt (by omega), Nat.div_eq_of_lt (by omega)]
    · rw [Nat.sub_add_cancel hge]
  rw [List.length_cons, List.length_drop, hcons, hdrop, Nat.add_div_right _ (Nat.succ_pos n)]

/-- Behind the rows that are done come the stretches of the bytes that begin at the multiples of
the width. -/
theorem rowsAfter_eq (n : Nat) (done : List Bytes) (bytes : Bytes) :
    rowsAfter n done bytes = done.reverse ++
      (List.range ((bytes.length + n) / (n + 1))).map fun k =>
        (bytes.drop ((n + 1) * k)).take (n + 1) := by
  fun_induction rowsAfter n done bytes with
  | case1 done =>
    have hcount : ([] : Bytes).length + n < n + 1 := by simp
    rw [Nat.div_eq_of_lt hcount]
    simp
  | case2 done b rest ih =>
    have hdrop (k : Nat) : (b :: rest).drop ((n + 1) * (k + 1)) =
        (rest.drop n).drop ((n + 1) * k) := by
      have hstep : (n + 1) * (k + 1) = n + (n + 1) * k + 1 := by
        rw [Nat.mul_succ]
        omega
      rw [hstep, List.drop_succ_cons, List.drop_drop]
    rw [ih, count_cons, List.range_succ_eq_map, List.map_cons, List.map_map,
      List.reverse_cons, List.append_assoc, List.singleton_append]
    simp only [Function.comp_def, Nat.succ_eq_add_one, hdrop]
    rfl

/-- No byte is lost between two rows, and none is in both. -/
theorem flatten_rowsAfter (n : Nat) (done : List Bytes) (bytes : Bytes) :
    (rowsAfter n done bytes).flatten = done.reverse.flatten ++ bytes := by
  fun_induction rowsAfter n done bytes with
  | case1 done => simp
  | case2 done b rest ih =>
    rw [ih, List.reverse_cons, List.flatten_concat, List.append_assoc, List.cons_append,
      List.take_append_drop]

/-! ## Lines -/

/-- A line in its parts. -/
structure Line where
  /-- What stands before the first blank. -/
  offset : List Char
  /-- Three characters for each byte that a row may have. -/
  columns : List Char
  /-- What stands between the bars. -/
  text : List Char

/-- The line that its parts make. -/
def Line.write (l : Line) : String :=
  String.ofList (l.offset ++ [' ', ' '] ++ l.columns ++ [' ', '|'] ++ l.text ++ ['|'])

/-- A character stands for a byte : the one that the byte is the code of, if it is printable ASCII,
and otherwise a point. -/
def Stands (b : UInt8) (c : Char) : Prop :=
  if 0x20 ≤ b.toNat ∧ b.toNat < 0x7F then c.toNat = b.toNat else c = '.'

/-- A line shows the row of bytes that begins at an offset. -/
structure Line.Shows (l : Line) (start : Nat) (row : Bytes) : Prop where
  offset : Url.Host.numeral? 16 l.offset = some start
  small : ∀ c ∈ l.offset, ∃ n < 16, c = Ascii.hexDigit n
  long : 8 ≤ l.offset.length
  /-- The offset has more than eight digits only if it needs them. -/
  tight : ∀ w, 8 ≤ w → (l.offset.length ≤ w ↔ start < 16 ^ w)
  /-- The bar after the columns stands at the same place in a short row. -/
  width : l.columns.length = 3 * 20
  /-- The digits of each byte have a place of their own. -/
  cells : ∀ i b, row[i]? = some b → Hex.decodeChars ((l.columns.drop (3 * i)).take 2) = some [b]
  padding : ∀ c ∈ l.columns.drop (3 * row.length), c = ' '
  bytes : Hex.decodeChars (l.columns.filter (· ≠ ' ')) = some row
  text : List.Forall₂ Stands row l.text

/-- The line of a row, in its parts. -/
def lineOf (start : Nat) (row : Bytes) : Line where
  offset := offset start
  columns := columns row
  text := row.map shown

theorem ofList_line (start : Nat) (row : Bytes) :
    String.ofList (line start row) = (lineOf start row).write ++ "\n" := by
  have hfeed : "\n" = String.ofList ['\n'] := rfl
  rw [Line.write, hfeed, ← String.ofList_append]
  simp [line, lineOf]

/-! ### Offsets -/

theorem lower_digitChar : ∀ d < 16, Ascii.lower d.digitChar = d.digitChar := by
  decide

theorem offset_eq (start : Nat) : offset start =
    List.replicate (8 - (Nat.toDigits 16 start).length) '0' ++ Nat.toDigits 16 start := by
  have hsmall : ∀ c ∈ Nat.toDigits 16 start, Ascii.lower c = c :=
    Natural.forall_mem_toDigits (by decide) lower_digitChar start
  simp only [offset, List.map_congr_left hsmall, List.map_id']

theorem numeral?_offset (start : Nat) : Url.Host.numeral? 16 (offset start) = some start := by
  rw [offset_eq, Url.Host.numeral?_zeros_append (by decide)]
  exact Url.Host.numeral?_toDigits (by decide) (by decide) start

/-- What holds of every small digit holds of all characters of an offset. -/
theorem forall_mem_offset (hdigit : ∀ d < 16, holds (Ascii.hexDigit d)) (start : Nat) :
    ∀ c ∈ offset start, holds c := by
  rw [offset_eq]
  refine List.forall_mem_append.2 ⟨fun c hc => ?_, ?_⟩
  · rw [List.eq_of_mem_replicate hc]
    exact hdigit 0 (by decide)
  · exact Natural.forall_mem_toDigits (by decide)
      (fun d hd => Ascii.hexDigit_eq_digitChar hd ▸ hdigit d hd) start

theorem length_offset (start : Nat) :
    (offset start).length = max 8 (Nat.toDigits 16 start).length := by
  rw [offset_eq, List.length_append, List.length_replicate]
  omega

theorem length_offset_le_iff {w : Nat} (h : 8 ≤ w) :
    (offset start).length ≤ w ↔ start < 16 ^ w := by
  rw [length_offset, ← Nat.length_toDigits_le_iff (by decide) (Nat.lt_of_lt_of_le (by decide) h)]
  omega

/-! ### Columns -/

theorem length_cells (row : Bytes) :
    (row.flatMap fun b => Hex.ofByte b ++ [' ']).length = 3 * row.length := by
  induction row with
  | nil => rfl
  | cons b row ih =>
    rw [List.flatMap_cons, List.length_append, ih, List.length_cons, Nat.mul_succ, Nat.add_comm]
    rfl

theorem length_columns (h : row.length ≤ width) : (columns row).length = 3 * width := by
  rw [columns, List.length_append, length_cells, List.length_replicate]
  omega

/-- The digits of a byte stand where the bytes before it end, whatever comes after the row. -/
theorem cells_append (rest : List Char) {i : Nat} {b : UInt8} (h : row[i]? = some b) :
    (((row.flatMap fun b => Hex.ofByte b ++ [' ']) ++ rest).drop (3 * i)).take 2 =
      Hex.ofByte b := by
  induction row generalizing i with
  | nil => cases h
  | cons first row ih =>
    cases i with
    | zero =>
      obtain rfl : first = b := Option.some.inj h
      rfl
    | succ i =>
      rw [List.flatMap_cons, List.append_assoc, Nat.mul_succ, Nat.add_comm, ← List.drop_drop]
      exact ih h

/-- What holds of every small digit and of a blank holds of all characters of the columns. -/
theorem forall_mem_columns (hdigit : ∀ d < 16, holds (Ascii.hexDigit d)) (hblank : holds ' ')
    (row : Bytes) : ∀ c ∈ columns row, holds c := by
  refine List.forall_mem_append.2 ⟨fun c hc => ?_, fun c hc => ?_⟩
  · obtain ⟨b, -, hc⟩ := List.mem_flatMap.1 hc
    rcases List.mem_append.1 hc with hc | hc
    · exact Hex.forall_mem_ofByte hdigit b c hc
    · rwa [List.mem_singleton.1 hc]
  · rwa [List.eq_of_mem_replicate hc]

theorem filter_columns (row : Bytes) :
    (columns row).filter (· ≠ ' ') = row.flatMap Hex.ofByte := by
  have hcell (b : UInt8) : (Hex.ofByte b ++ [' ']).filter (· ≠ ' ') = Hex.ofByte b := by
    rw [List.filter_append, List.filter_eq_self.2 (Hex.forall_mem_ofByte (by decide) b),
      List.filter_cons_of_neg (by decide), List.filter_nil, List.append_nil]
  rw [columns, List.filter_append, List.filter_flatMap, List.filter_replicate_of_neg (by decide),
    List.append_nil]
  simp only [hcell]

/-! ### Texts -/

theorem stands_shown (b : UInt8) : Stands b (shown b) := by
  have hgraphic : Ascii.isGraphic b ∨ b = 0x20 ↔ 0x20 ≤ b.toNat ∧ b.toNat < 0x7F := by
    simp only [Ascii.isGraphic, decide_eq_true_eq, UInt8.le_iff_toNat_le, ← UInt8.toNat_inj,
      UInt8.reduceToNat]
    omega
  unfold Stands shown
  simp only [hgraphic]
  split
  · next h =>
    have hvalid : b.toNat.isValidChar := .inl (by omega)
    rw [Char.ofNat, dif_pos hvalid]
    rfl
  · rfl

theorem Stands.ne_breaks {b : UInt8} (h : Stands b c) : c ≠ '\n' ∧ c ≠ '\r' := by
  unfold Stands at h
  split at h
  · next hb =>
    constructor <;>
    · rintro rfl
      simp only [Char.reduceToNat] at h
      omega
  · rw [h]
    decide

/-! ### Whole lines -/

/-- The line of a row shows the row. -/
theorem shows_lineOf (start : Nat) (h : row.length ≤ width) :
    (lineOf start row).Shows start row where
  offset := numeral?_offset start
  small := forall_mem_offset (fun d hd => ⟨d, hd, rfl⟩) start
  long := length_offset start ▸ Nat.le_max_left 8 _
  tight _ hw := length_offset_le_iff hw
  width := length_columns h
  cells i b hb := by
    have hbyte := Hex.decodeChars_flatMap_ofByte [b]
    rw [lineOf, columns, cells_append _ hb]
    simpa using hbyte
  padding c hc := by
    rw [lineOf, columns, ← length_cells, List.drop_left] at hc
    exact List.eq_of_mem_replicate hc
  bytes := by rw [lineOf, filter_columns, Hex.decodeChars_flatMap_ofByte]
  text := List.forall₂_map_right_iff.2 (List.forall₂_same.2 fun b _ => stands_shown b)

theorem isLine_write (start : Nat) (row : Bytes) : Text.IsLine (lineOf start row).write := by
  refine Text.isLine_ofList ?_
  simp only [lineOf, List.forall_mem_append]
  refine ⟨⟨⟨⟨⟨?_, by simp⟩, ?_⟩, by simp⟩, ?_⟩, by simp⟩
  · exact forall_mem_offset (by decide) start
  · exact forall_mem_columns (by decide) (by decide) row
  · simpa using fun b _ => (stands_shown b).ne_breaks

/-! ## Dumps -/

/-- The lines of a dump in their parts. -/
def shownLines (data : Bytes) : List Line :=
  (List.range ((data.length + 19) / 20)).map fun k =>
    lineOf (20 * k) ((data.drop (20 * k)).take 20)

theorem length_shownLines (data : Bytes) : (shownLines data).length = (data.length + 19) / 20 := by
  rw [shownLines, List.length_map, List.length_range]

theorem lines_eq (data : Bytes) : lines data = (shownLines data).map fun l => l.write ++ "\n" := by
  have hrows : rows (width - 1) data = (List.range ((data.length + 19) / 20)).map fun k =>
      (data.drop (20 * k)).take 20 := rowsAfter_eq 19 [] data
  refine List.ext_getElem? fun k => ?_
  simp only [lines, hrows, shownLines, ofList_line, List.getElem?_map, List.getElem?_zipIdx]
  cases hk : (List.range ((data.length + 19) / 20))[k]? with
  | none => rfl
  | some j =>
    obtain ⟨hlt, rfl⟩ := List.getElem?_eq_some_iff.1 hk
    simp [width]

theorem dump_eq (data : Bytes) :
    dump data = String.join ((shownLines data).map fun l => l.write ++ "\n") := by
  rw [dump, lines_eq]

theorem lines_dump_append (data : Bytes) (rest : String) :
    Text.lines (dump data ++ rest) = (shownLines data).map Line.write ++ Text.lines rest := by
  have hlines : ∀ part ∈ (shownLines data).map Line.write, Text.IsLine part := by
    simp only [shownLines, List.map_map, List.forall_mem_map]
    exact fun k _ => isLine_write _ _
  rw [dump_eq, ← Text.lines_ended_append hlines, List.map_map]
  rfl

theorem lines_dump (data : Bytes) : Text.lines (dump data) = (shownLines data).map Line.write := by
  have hnone : Text.lines "" = [] := rfl
  have hlines := lines_dump_append data ""
  rwa [hnone, String.append_empty, List.append_nil] at hlines

/-- Each line of a dump shows its row. -/
theorem shows_of_shownLines {k : Nat} {l : Line} (h : (shownLines data)[k]? = some l) :
    l.Shows (20 * k) ((data.drop (20 * k)).take 20) := by
  rw [shownLines, List.getElem?_map] at h
  obtain ⟨j, hj, rfl⟩ := Option.map_eq_some_iff.1 h
  obtain ⟨hlt, rfl⟩ := List.getElem?_eq_some_iff.1 hj
  rw [List.getElem_range]
  exact shows_lineOf _ (List.length_take_le _ _)

/-- The columns of all lines, one after the other, are read as the bytes. -/
theorem decodeChars_columns (data : Bytes) :
    Hex.decodeChars (((shownLines data).flatMap Line.columns).filter (· ≠ ' ')) = some data := by
  have hrows : (List.range ((data.length + 19) / 20)).flatMap (fun k =>
      (data.drop (20 * k)).take 20) = data := by
    rw [List.flatMap_def, ← List.nil_append (List.map _ _), ← List.reverse_nil,
      ← rowsAfter_eq 19 [] data, flatten_rowsAfter]
    rfl
  have hcolumns : ((shownLines data).flatMap Line.columns).filter (· ≠ ' ') =
      data.flatMap Hex.ofByte := by
    simp only [shownLines, lineOf, List.flatMap_map, List.filter_flatMap, filter_columns]
    rw [← List.flatMap_assoc, hrows]
  rw [hcolumns, Hex.decodeChars_flatMap_ofByte]

/-- The bytes that the lines of a dump show, from the columns behind the offsets. -/
def read? (lines : List String) : Option Bytes :=
  Hex.decodeChars ((lines.flatMap fun line =>
    ((line.toList.dropWhile (· ≠ ' ')).drop 2).take 60).filter (· ≠ ' '))

theorem columns_of_write {l : Line} (h : l.Shows start row) :
    ((l.write.toList.dropWhile (· ≠ ' ')).drop 2).take 60 = l.columns := by
  have hdigit : ∀ n < 16, decide (Ascii.hexDigit n ≠ ' ') = true := by decide
  have hoffset : ∀ c ∈ l.offset, decide (c ≠ ' ') = true := fun c hc => by
    obtain ⟨n, hn, rfl⟩ := h.small c hc
    exact hdigit n hn
  have hchars : l.write.toList =
      l.offset ++ ' ' :: ' ' :: (l.columns ++ ([' ', '|'] ++ l.text ++ ['|'])) := by
    simp [Line.write]
  rw [hchars, Text.dropWhile_append hoffset (by simp), List.drop_succ_cons, List.drop_succ_cons,
    List.drop_zero]
  exact List.take_left' h.width

theorem read?_dump (data : Bytes) : read? (Text.lines (dump data)) = some data := by
  rw [← decodeChars_columns data, read?, lines_dump, List.flatMap_map]
  congr 2
  refine List.flatMap_congr fun l hl => ?_
  obtain ⟨k, hk⟩ := List.mem_iff_getElem?.1 hl
  exact columns_of_write (shows_of_shownLines hk)

end Hexdump

end Courier
