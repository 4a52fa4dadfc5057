import Courier.Entity.Codec
import Courier.Proofs.Text.Ascii
import Mathlib.Data.List.TakeWhile

/-!
# How a content type names a media type

A content type names a media type if that is what stands before the first semicolon, between blanks
and in any case of letters (`MediaType.Names`). The codec of a content type is the one of the media
type that it names, and there is none if it names no media type with a codec
(`Codec.kind?_eq_some_iff`).
-/

namespace Courier

/-! ## Blanks at the ends -/

namespace Text

variable {cs before after : List Char}

/-- A text with no blank at either end. -/
def IsTrimmed (cs : List Char) : Prop :=
  (∀ c ∈ cs.head?, isBlank c = false) ∧ ∀ c ∈ cs.getLast?, isBlank c = false

theorem dropWhile_isBlank_append (hbefore : ∀ c ∈ before, isBlank c)
    (h : ∀ c ∈ cs.head?, isBlank c = false) (hcs : cs ≠ []) :
    (before ++ cs).dropWhile isBlank = cs := by
  rw [List.dropWhile_append_of_pos hbefore]
  cases cs with
  | nil => exact absurd rfl hcs
  | cons c cs => exact List.dropWhile_cons_of_neg (by simp [h c rfl])

/-- What stands between blanks is found there. -/
theorem trimChars_append (hcs : IsTrimmed cs) (hne : cs ≠ []) (hbefore : ∀ c ∈ before, isBlank c)
    (hafter : ∀ c ∈ after, isBlank c) : trimChars (before ++ cs ++ after) = cs := by
  have hhead : ∀ c ∈ (cs ++ after).head?, isBlank c = false := by
    rw [List.head?_append, List.head?_eq_some_head hne, Option.some_or]
    exact fun c hc => hcs.1 c (List.head?_eq_some_head hne ▸ hc)
  have hlast : ∀ c ∈ cs.reverse.head?, isBlank c = false := by
    rw [List.head?_reverse]
    exact hcs.2
  rw [trimChars, List.append_assoc, dropWhile_isBlank_append hbefore hhead (by simp [hne]),
    trimEndChars, List.reverse_append, dropWhile_isBlank_append (by simpa using hafter) hlast
      (by simpa using hne), List.reverse_reverse]

theorem IsTrimmed.trimChars_eq (h : IsTrimmed cs) : trimChars cs = cs := by
  by_cases hne : cs = []
  · rw [hne]
    rfl
  · have hempty : ∀ c ∈ [], isBlank c := fun c hc => by cases hc
    simpa using trimChars_append h hne hempty hempty

theorem isTrimmed_of_not_isBlank (h : ∀ c ∈ cs, isBlank c = false) : IsTrimmed cs :=
  ⟨fun c hc => h c (List.mem_of_mem_head? hc), fun c hc => h c (List.mem_of_getLast? hc)⟩

/-- A text is what is left of it, with blanks before and after. -/
theorem exists_trimChars (cs : List Char) : ∃ before after, cs = before ++ trimChars cs ++ after ∧
    (∀ c ∈ before, isBlank c) ∧ ∀ c ∈ after, isBlank c := by
  refine ⟨cs.takeWhile isBlank, ((cs.dropWhile isBlank).reverse.takeWhile isBlank).reverse, ?_,
    fun c => List.mem_takeWhile_imp, fun c hc => List.mem_takeWhile_imp (List.mem_reverse.1 hc)⟩
  rw [trimChars, trimEndChars, List.append_assoc, ← List.reverse_append,
    List.takeWhile_append_dropWhile, List.reverse_reverse, List.takeWhile_append_dropWhile]

end Text

/-! ## Media types -/

namespace MediaType

/-- Before the first semicolon of a content type, between blanks and in any case of letters,
stands a media type. -/
def Names (contentType media : String) : Prop :=
  ∃ before word after : List Char,
    (contentType.toList = before ++ word ++ after ∨
      ∃ parameters, contentType.toList = before ++ word ++ after ++ ';' :: parameters) ∧
    ';' ∉ before ++ word ++ after ∧
    (∀ c ∈ before, Text.isBlank c) ∧ (∀ c ∈ after, Text.isBlank c) ∧
    Ascii.sameIgnoringCase (String.ofList word) media

/-- A media type as it is written here : in small letters, without blanks at its ends. -/
structure Normal (media : String) : Prop where
  small : media.toList.map Ascii.lower = media.toList
  trimmed : Text.IsTrimmed media.toList
  ne_empty : media ≠ ""

variable {contentType media : String} {word : List Char}

theorem Normal.isTrimmed (h : Normal media) (hword : word.map Ascii.lower = media.toList) :
    Text.IsTrimmed word := by
  obtain ⟨hhead, hlast⟩ := h.trimmed
  rw [← hword] at hhead hlast
  constructor
  · intro c hc
    rw [← Ascii.isBlank_lower]
    exact hhead _ (by simpa using ⟨c, hc, rfl⟩)
  · intro c hc
    rw [← Ascii.isBlank_lower]
    exact hlast _ (by simpa using ⟨c, hc, rfl⟩)

theorem Normal.ne_nil (h : Normal media) (hword : word.map Ascii.lower = media.toList) :
    word ≠ [] := by
  rintro rfl
  exact h.ne_empty (String.toList_eq_nil_iff.1 hword.symm)

theorem Normal.names_iff (h : Normal media) :
    Ascii.sameIgnoringCase (String.ofList word) media ↔ word.map Ascii.lower = media.toList := by
  rw [Ascii.sameIgnoringCase, decide_eq_true_iff, String.toList_ofList, h.small]

/-- What stands before the first semicolon. -/
theorem takeWhile_semicolon {front : List Char} (hfront : ';' ∉ front)
    (htext : contentType.toList = front ∨
      ∃ parameters, contentType.toList = front ++ ';' :: parameters) :
    contentType.toList.takeWhile (· ≠ ';') = front := by
  have hall : ∀ c ∈ front, decide (c ≠ ';') = true := fun c hc =>
    decide_eq_true (ne_of_mem_of_not_mem hc hfront)
  rcases htext with htext | ⟨parameters, htext⟩ <;> rw [htext]
  · exact List.takeWhile_eq_self_iff.2 hall
  · rw [List.takeWhile_append_of_pos hall]
    simp

/-- A text ends before its first semicolon, or goes on with it. -/
theorem eq_takeWhile_semicolon (cs : List Char) : cs = cs.takeWhile (· ≠ ';') ∨
    ∃ parameters, cs = cs.takeWhile (· ≠ ';') ++ ';' :: parameters := by
  have hsplit := List.takeWhile_append_dropWhile (p := (· ≠ ';')) (l := cs)
  cases hrest : cs.dropWhile (· ≠ ';') with
  | nil =>
    rw [hrest, List.append_nil] at hsplit
    exact .inl hsplit.symm
  | cons c parameters =>
    have hc := List.head?_dropWhile_not (· ≠ ';') cs
    rw [hrest] at hc
    obtain rfl : c = ';' := by simpa using hc
    exact .inr ⟨parameters, by rw [← hrest, hsplit]⟩

/-- The media type of a content type is the one that it names. -/
theorem essence_eq_iff (h : Normal media) :
    essence contentType = media ↔ Names contentType media := by
  constructor
  · intro hessence
    obtain ⟨before, after, hfront, hbefore, hafter⟩ :=
      Text.exists_trimChars (contentType.toList.takeWhile (· ≠ ';'))
    have hnot : ';' ∉ contentType.toList.takeWhile (· ≠ ';') := fun hmem => by
      simpa using List.mem_takeWhile_imp hmem
    refine ⟨before, Text.trimChars (contentType.toList.takeWhile (· ≠ ';')), after, ?_, ?_, hbefore,
      hafter, h.names_iff.2 ?_⟩
    · rw [← hfront]
      exact eq_takeWhile_semicolon contentType.toList
    · rwa [← hfront]
    · rw [← hessence, essence, String.toList_ofList]
  · rintro ⟨before, word, after, htext, hnot, hbefore, hafter, hsame⟩
    have hword := h.names_iff.1 hsame
    rw [essence, takeWhile_semicolon hnot htext,
      Text.trimChars_append (h.isTrimmed hword) (h.ne_nil hword) hbefore hafter, hword,
      String.ofList_toList]

end MediaType

namespace Codec

/-- The media type of a codec. -/
def Kind.media : Kind → String
  | .json => MediaType.json
  | .form => MediaType.urlEncoded
  | .text => MediaType.plainText

theorem Kind.normal_media (kind : Kind) : MediaType.Normal kind.media := by
  cases kind <;>
  · refine ⟨by decide, ⟨?_, ?_⟩, by decide⟩ <;> rintro c ⟨⟩ <;> decide

/-- The codec of a content type is the one for the media type that it names. -/
theorem kind?_eq_some_iff {contentType : String} {kind : Kind} :
    kind? contentType = some kind ↔ MediaType.Names contentType kind.media := by
  rw [← MediaType.essence_eq_iff kind.normal_media]
  have hform : MediaType.urlEncoded ≠ MediaType.json := by decide
  have htext : MediaType.plainText ≠ MediaType.json := by decide
  have hplain : MediaType.plainText ≠ MediaType.urlEncoded := by decide
  unfold kind?
  generalize MediaType.essence contentType = essence
  constructor
  · intro hkind
    dsimp only at hkind
    repeat' split at hkind
    all_goals cases hkind
    all_goals assumption
  · rintro rfl
    cases kind <;> simp [Kind.media, hform, htext, hplain]

end Codec

end Courier
