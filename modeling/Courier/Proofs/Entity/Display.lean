import Courier.Proofs.Entity.Hexdump

/-!
# Binary entities read back from their displays

The lines of a display are a rule, those of the caption, a second rule and those of the body
(`Entity.lines_display`). No line of a dump is a rule, so a dump is what stands after the last one,
even if the content type has line feeds and rules of its own (`Entity.bodyLines_display`). It is
read back, and the caption is what is left : no two binary entities have the same display.

An entity that is shown as text can imitate the display of a binary one whose content type has line
feeds. It cannot do so if that content type is a line, as one from a header is : then there is one
line between the rules, which is the caption of both (`Entity.caption_eq`), and a caption gives away
the content type, since a size has no parenthesis (`Size.forall_mem_print`).
-/

namespace Courier

/-! ## Sizes -/

namespace Size

variable {holds : Char → Prop}

theorem forall_mem_fixed (hdigit : ∀ d < 10, holds d.digitChar) (hpoint : holds '.') (places : Nat)
    (x : Binary64) : ∀ c ∈ (x.fixed places).toList, holds c := by
  have hwhole := Natural.forall_mem_toString hdigit
  have hpart := Natural.forall_mem_toDigits (by decide) hdigit
  unfold Binary64.fixed
  split
  next num den hfraction =>
  dsimp only
  split
  · exact hwhole _
  · simp only [String.toList_append, String.toList_ofList, List.forall_mem_append]
    refine ⟨⟨hwhole _, by simpa using hpoint⟩, fun c hc => ?_, hpart _⟩
    rw [List.eq_of_mem_replicate hc]
    exact hdigit 0 (by decide)

theorem scaled_mem (x : Binary64) (unit : String) (rest : List String) :
    (scaled x unit rest).2 ∈ unit :: rest := by
  induction rest generalizing x unit with
  | nil => exact List.mem_singleton_self unit
  | cons next rest ih =>
    rw [scaled]
    split
    · exact List.mem_cons_self
    · exact List.mem_cons_of_mem unit (ih _ next)

/-- What holds of digits, the point, the blank and the letters of units holds of all characters of
a size. -/
theorem forall_mem_print (hdigit : ∀ d < 10, holds d.digitChar)
    (hmark : ∀ c ∈ ['.', ' ', 'B', 'k', 'M', 'G', 'T', 'P', 'E'], holds c) (size : Nat) :
    ∀ c ∈ (print size).toList, holds c := by
  simp only [List.forall_mem_cons] at hmark
  obtain ⟨hpoint, hblank, hletters⟩ := hmark
  unfold print
  split
  · simp only [String.toList_append, List.forall_mem_append]
    exact ⟨Natural.forall_mem_toString hdigit size, by simp [hblank, hletters]⟩
  · split
    next x unit hscaled =>
    have hunit : unit ∈ units := by
      have hmem := scaled_mem (reduce ((Binary64.ofNat? size).getD (.zero false))) "kB" units.tail
      rwa [hscaled] at hmem
    have hchars : ∀ c ∈ unit.toList, holds c := by
      simp only [units, List.mem_cons, List.not_mem_nil, or_false] at hunit
      obtain rfl | rfl | rfl | rfl | rfl | rfl := hunit <;> simp [hletters]
    simp only [String.toList_append, List.forall_mem_append]
    exact ⟨⟨forall_mem_fixed hdigit hpoint _ _, by simp [hblank]⟩, hchars⟩

end Size

namespace Entity

open Hexdump (Line dump)

variable {e e' : Entity}

/-! ## Captions -/

theorem isLine_caption (h : Text.IsLine e.contentType) : Text.IsLine e.caption := by
  have hsize : Text.IsLine (Size.print e.data.length) :=
    Text.isLine_of_forall_mem (Size.forall_mem_print (by decide) (by simp) _)
  exact ((h.append ⟨by decide, by decide⟩).append hsize).append ⟨by decide, by decide⟩

/-- From its end, a caption is cut at the parenthesis before the size. -/
theorem cutAt_caption (e : Entity) : Text.cutAt '(' e.caption.toList.reverse =
    (')' :: (Size.print e.data.length).toList.reverse,
      some (' ' :: e.contentType.toList.reverse)) := by
  have hsize : ∀ c ∈ (Size.print e.data.length).toList, c ≠ '(' :=
    Size.forall_mem_print (by decide) (by simp) _
  have hafter : '(' ∉ ')' :: (Size.print e.data.length).toList.reverse := by
    simpa using fun hmem => hsize _ hmem rfl
  rw [← Text.cutAt_append_cons hafter]
  simp [caption]

theorem contentType_eq (h : e'.caption = e.caption) : e'.contentType = e.contentType := by
  have hcut := cutAt_caption e'
  rw [h, cutAt_caption e] at hcut
  have hreverse := List.cons.inj (Option.some.inj (Prod.mk.inj hcut).2)
  exact String.toList_inj.1 (List.reverse_injective hreverse.2.symm)

/-! ## Lines -/

/-- The lines of a display are a rule, the caption, a rule and the body. -/
theorem lines_display (e : Entity) : Text.lines e.display =
    "---" :: ((Text.splitAt '\n' e.caption.toList).map fun part =>
      String.ofList (Text.dropReturn part)) ++ "---" :: Text.lines (e.body ++ "#") := by
  have hline : Text.IsLine "---" := ⟨by decide, by decide⟩
  have hrule : "---\n" = "---" ++ "\n" := rfl
  have hnext : "\n---\n" = "\n" ++ ("---" ++ "\n") := rfl
  have hparts : e.display =
      "---" ++ "\n" ++ (e.caption ++ "\n" ++ ("---" ++ "\n" ++ (e.body ++ "#"))) := by
    simp only [display, hrule, hnext, String.append_assoc]
  rw [hparts, Text.lines_append hline, Text.lines_append_feed, Text.lines_append hline]
  rfl

theorem lines_body (h : e.isBinary) :
    Text.lines (e.body ++ "#") = Text.lines (dump e.data) ++ ["#"] := by
  have hmark : Text.lines "#" = ["#"] := rfl
  rw [body, if_pos h, Hexdump.lines_dump_append, ← Hexdump.lines_dump, hmark]

/-- A dump has no rule in it, as each of its lines ends in a bar. -/
theorem rule_not_mem (data : Bytes) : "---" ∉ Text.lines (dump data) ++ ["#"] := by
  rw [Hexdump.lines_dump, List.mem_append, not_or]
  refine ⟨fun hmem => ?_, by simp⟩
  obtain ⟨l, -, heq⟩ := List.mem_map.1 hmem
  have hbar : '|' ∈ l.write.toList := by simp [Line.write]
  rw [heq] at hbar
  exact absurd hbar (by decide)

/-- The lines between the last rule of a display and its end. -/
def bodyLines (display : String) : List String :=
  ((Text.lines display).reverse.takeWhile (· ≠ "---")).tail.reverse

theorem bodyLines_display (h : e.isBinary) : bodyLines e.display = Text.lines (dump e.data) := by
  have hrules : ∀ line ∈ (Text.lines (dump e.data) ++ ["#"]).reverse,
      decide (line ≠ "---") = true := fun line hline =>
    decide_eq_true (ne_of_mem_of_not_mem (List.mem_reverse.1 hline) (rule_not_mem e.data))
  rw [bodyLines, lines_display, lines_body h, List.reverse_append, List.reverse_cons,
    List.append_assoc, Text.takeWhile_append hrules (by simp)]
  simp

/-! ## Equal displays -/

theorem data_eq (h : e.isBinary) (h' : e'.isBinary) (heq : e'.display = e.display) :
    e'.data = e.data := by
  have hread := Hexdump.read?_dump e'.data
  rw [← bodyLines_display h', heq, bodyLines_display h, Hexdump.read?_dump] at hread
  exact (Option.some.inj hread).symm

/-- A caption of one line is the line that it is. -/
theorem caption_of_splitAt {part : List Char} (h : Text.splitAt '\n' e.caption.toList = [part]) :
    String.ofList (Text.dropReturn part) = e.caption := by
  have hpart : part = e.caption.toList := by
    have hjoin : ['\n'].intercalate (e.caption.toList.splitOn '\n') = e.caption.toList :=
      List.intercalate_splitOn '\n'
    rwa [← Text.splitAt_eq_splitOn, h, List.intercalate_singleton] at hjoin
  have hend : e.caption.toList =
      (e.contentType ++ " (" ++ Size.print e.data.length).toList ++ [')'] := by simp [caption]
  have hlast : e.caption.toList.getLast? ≠ some '\r' := by
    rw [hend, List.getLast?_concat]
    decide
  rw [hpart, Text.dropReturn, if_neg hlast, String.ofList_toList]

/-- If one line stands between the rules of one display, so it does in the other. -/
theorem caption_eq (h : e.isBinary) (hline : Text.IsLine e.contentType)
    (heq : e'.display = e.display) : e'.caption = e.caption := by
  have hcaption := isLine_caption hline
  have hlines := congrArg Text.lines heq
  rw [lines_display, lines_display, lines_body h, Text.splitAt_of_not_mem hcaption.1,
    List.map_singleton, Text.dropReturn_of_isLine hcaption, String.ofList_toList] at hlines
  have hone := Text.eq_singleton_of_append_cons (by simp [Text.splitAt_ne_nil])
    (rule_not_mem e.data) (List.cons.inj hlines).2
  obtain ⟨part, hpart, hread⟩ := List.map_eq_singleton_iff.1 hone
  rw [← caption_of_splitAt hpart, hread]

theorem eq_of_display_eq (h : e.isBinary) (h' : e'.isBinary) (heq : e'.display = e.display) :
    e' = e := by
  have hdata := data_eq h h' heq
  have htype : e'.contentType = e.contentType := by
    simp only [display, body, caption, if_pos h, if_pos h', hdata] at heq
    simpa [← String.toList_inj] using heq
  obtain ⟨contentType, data⟩ := e
  obtain ⟨contentType', data'⟩ := e'
  exact congrArg₂ Entity.mk htype hdata

/-- If the content type of a binary entity is a line, all entities with its display are binary. -/
theorem isBinary_of_display_eq (h : e.isBinary) (hline : Text.IsLine e.contentType)
    (heq : e'.display = e.display) : e'.isBinary := by
  rw [isBinary, contentType_eq (caption_eq h hline heq)]
  exact h

/-- A dump has a line for every twenty bytes, which shows them, and the columns of all lines are
read as the bytes. So no two binary entities have the same display, and no other entity at all has
that of a binary one whose content type is a line. -/
theorem dump_legible :
    (∀ data : Bytes, ∃ lines : List Line,
      dump data = String.join (lines.map fun l => l.write ++ "\n") ∧
      Text.lines (dump data) = lines.map Line.write ∧
      lines.length = (data.length + 19) / 20 ∧
      (∀ (k : Nat) (l : Line), lines[k]? = some l →
        l.Shows (20 * k) ((data.drop (20 * k)).take 20)) ∧
      Hex.decodeChars ((lines.flatMap Line.columns).filter (· ≠ ' ')) = some data) ∧
    (∀ e e' : Entity, e.isBinary → e'.isBinary → e'.display = e.display → e' = e) ∧
    ∀ e e' : Entity, e.isBinary → Text.IsLine e.contentType → e'.display = e.display → e' = e := by
  refine ⟨fun data => ?_, fun e e' => eq_of_display_eq, fun e e' h hline heq =>
    eq_of_display_eq h (isBinary_of_display_eq h hline heq) heq⟩
  exact ⟨Hexdump.shownLines data, Hexdump.dump_eq data, Hexdump.lines_dump data,
    Hexdump.length_shownLines data, fun k l => Hexdump.shows_of_shownLines,
    Hexdump.decodeChars_columns data⟩

/-- A row of bars and a line feed behind it have two lines. -/
theorem dump_legible_bars :
    ∃ lines : List Line,
      Text.lines (dump (List.replicate 20 0x7C ++ [0x0A])) = lines.map Line.write ∧
      lines.length = 2 ∧
      ∀ other : Entity,
        other.display = (mk "application/pdf" (List.replicate 20 0x7C ++ [0x0A])).display →
          other = mk "application/pdf" (List.replicate 20 0x7C ++ [0x0A]) := by
  obtain ⟨hdump, -, hdisplay⟩ := dump_legible
  obtain ⟨lines, -, hlines, hlength, -, -⟩ := hdump (List.replicate 20 0x7C ++ [0x0A])
  exact ⟨lines, hlines, hlength, fun other =>
    hdisplay _ other (by decide) ⟨by decide, by decide⟩⟩

end Entity

end Courier
