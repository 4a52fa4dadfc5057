import Courier.Text.Split

/-!
# Lists taken apart at a separator

A list without the separator is one part (`Text.splitAt_of_not_mem`), and what stands before the
first separator is a part of its own (`Text.splitAt_append_cons`, `Text.cutAt_append_cons`). Cutting
at every separator is what the standard library calls splitting (`Text.splitAt_eq_splitOn`), so
parts that are joined with a separator that none of them holds are the parts of the whole. What is
written for items one by one is read back one by one (`Text.mapM_map_of_forall_mem`). The lines of a
text are those before a line feed and those after it (`Text.lines_append_feed`), so lines that were
joined, or that were ended one by one, are taken apart again (`Text.lines_join`,
`Text.lines_ended_append`).
-/

namespace Courier.Text

variable {α : Type} [DecidableEq α] {sep : α} {cs : List α}

theorem splitAt_of_not_mem (h : sep ∉ cs) : splitAt sep cs = [cs] := by
  induction cs with
  | nil => rfl
  | cons c cs ih =>
    obtain ⟨hc, hcs⟩ := not_or.1 (mt List.mem_cons.2 h)
    rw [splitAt, if_neg (Ne.symm hc), ih hcs]

theorem splitAt_ne_nil (sep : α) (cs : List α) : splitAt sep cs ≠ [] := by
  cases cs with
  | nil => simp [splitAt]
  | cons c cs =>
    unfold splitAt
    split
    · simp
    · split <;> simp

theorem splitAt_eq_splitOn (sep : α) (cs : List α) : splitAt sep cs = cs.splitOn sep := by
  induction cs with
  | nil => rfl
  | cons c cs ih =>
    rw [splitAt, List.splitOn_cons_eq_if_modifyHead, ih]
    simp only [beq_iff_eq]
    split
    · rfl
    · obtain ⟨part, parts, hparts⟩ := List.exists_cons_of_ne_nil (List.splitOn_ne_nil sep cs)
      rw [hparts]
      rfl

/-- The parts before a separator and the parts after it. -/
theorem splitAt_append (sep : α) (cs rest : List α) :
    splitAt sep (cs ++ sep :: rest) = splitAt sep cs ++ splitAt sep rest := by
  simp only [splitAt_eq_splitOn]
  exact List.splitOn_append_cons_self cs rest

theorem splitAt_append_cons (h : sep ∉ cs) (rest : List α) :
    splitAt sep (cs ++ sep :: rest) = cs :: splitAt sep rest := by
  rw [splitAt_append, splitAt_of_not_mem h, List.singleton_append]

/-- A part holds what the whole does, and not the separator. -/
theorem forall_mem_of_mem_splitAt {part : List α} (h : part ∈ splitAt sep cs) :
    ∀ c ∈ part, c ∈ cs ∧ c ≠ sep := by
  induction cs generalizing part with
  | nil =>
    obtain rfl := List.mem_singleton.1 h
    exact fun c hc => nomatch hc
  | cons c cs ih =>
    have hrest {part : List α} (h : part ∈ splitAt sep cs) : ∀ d ∈ part, d ∈ c :: cs ∧ d ≠ sep :=
      fun d hd => ⟨List.mem_cons_of_mem c (ih h d hd).1, (ih h d hd).2⟩
    unfold splitAt at h
    split at h
    · rcases List.mem_cons.1 h with rfl | h
      · exact fun d hd => nomatch hd
      · exact hrest h
    next hc =>
    split at h
    · next first parts hparts =>
      rcases List.mem_cons.1 h with rfl | h
      · exact List.forall_mem_cons.2 ⟨⟨List.mem_cons_self, hc⟩, hrest (hparts ▸ List.mem_cons_self)⟩
      · exact hrest (hparts ▸ List.mem_cons_of_mem first h)
    · next hnil => exact absurd hnil (splitAt_ne_nil sep cs)

omit [DecidableEq α] in
/-- What is put together with a separator holds nothing beyond the parts and the separator. -/
theorem mem_intercalate {c : α} {parts : List (List α)} (h : c ∈ [sep].intercalate parts) :
    c = sep ∨ ∃ part ∈ parts, c ∈ part := by
  induction parts with
  | nil => cases h
  | cons part parts ih =>
    cases parts with
    | nil => exact .inr ⟨part, List.mem_cons_self, by simpa using h⟩
    | cons next parts =>
      rw [List.intercalate_cons_cons, List.mem_append, List.mem_append, List.mem_singleton] at h
      obtain (h | h) | h := h
      · exact .inr ⟨part, List.mem_cons_self, h⟩
      · exact .inl h
      · exact (ih h).imp_right fun ⟨part, hpart, hc⟩ => ⟨part, List.mem_cons_of_mem _ hpart, hc⟩

omit [DecidableEq α] in
/-- A front that is not empty and ends where the only separator of a list stands in second place is
the first item. -/
theorem eq_singleton_of_append_cons {a : α} {front rest tail : List α} (hne : front ≠ [])
    (hnot : sep ∉ tail) (h : front ++ sep :: rest = a :: sep :: tail) : front = [a] := by
  obtain ⟨b, bs, rfl⟩ := List.exists_cons_of_ne_nil hne
  rw [List.cons_append] at h
  obtain ⟨rfl, hrest⟩ := List.cons.inj h
  cases bs with
  | nil => rfl
  | cons c cs =>
    rw [List.cons_append] at hrest
    obtain ⟨-, rfl⟩ := List.cons.inj hrest
    exact absurd (List.mem_append_right cs List.mem_cons_self) hnot

theorem cutAt_of_not_mem (h : sep ∉ cs) : cutAt sep cs = (cs, none) := by
  have hall : ∀ c ∈ cs, decide (c ≠ sep) = true := fun c hc =>
    decide_eq_true (ne_of_mem_of_not_mem hc h)
  have hnil : cs.dropWhile (· ≠ sep) = [] := by
    rw [← List.append_nil cs, List.dropWhile_append_of_pos hall]
    rfl
  rw [cutAt, hnil]

theorem cutAt_append_cons (h : sep ∉ cs) (rest : List α) :
    cutAt sep (cs ++ sep :: rest) = (cs, some rest) := by
  have hall : ∀ c ∈ cs, decide (c ≠ sep) = true := fun c hc =>
    decide_eq_true (ne_of_mem_of_not_mem hc h)
  rw [cutAt, List.dropWhile_append_of_pos hall, List.takeWhile_append_of_pos hall]
  simp

/-! ## The longest front of one kind -/

section Front

variable {β : Type} {holds : β → Bool} {front rest : List β}

theorem takeWhile_append (hfront : ∀ c ∈ front, holds c)
    (hrest : ∀ c ∈ rest.head?, holds c = false) : (front ++ rest).takeWhile holds = front := by
  rw [List.takeWhile_append_of_pos hfront]
  cases rest with
  | nil => simp
  | cons c rest => simp [hrest c rfl]

theorem dropWhile_append (hfront : ∀ c ∈ front, holds c)
    (hrest : ∀ c ∈ rest.head?, holds c = false) : (front ++ rest).dropWhile holds = rest := by
  rw [List.dropWhile_append_of_pos hfront]
  cases rest with
  | nil => rfl
  | cons c rest => exact List.dropWhile_cons_of_neg (by simp [hrest c rfl])

end Front

/-! ## Parts read one by one -/

variable {β γ : Type} {read : β → Option γ}

theorem mapM_map_of_forall_mem {write : γ → β} {items : List γ}
    (h : ∀ item ∈ items, read (write item) = some item) :
    (items.map write).mapM read = some items := by
  induction items with
  | nil => rfl
  | cons item items ih =>
    obtain ⟨hitem, hitems⟩ := List.forall_mem_cons.1 h
    rw [List.map_cons, List.mapM_cons, hitem, ih hitems]
    rfl

theorem exists_of_mem_mapM {parts : List β} {items : List γ} {item : γ}
    (h : parts.mapM read = some items) (hitem : item ∈ items) :
    ∃ part ∈ parts, read part = some item := by
  induction parts generalizing items with
  | nil =>
    obtain rfl : [] = items := Option.some.inj h
    cases hitem
  | cons part parts ih =>
    rw [List.mapM_cons] at h
    obtain ⟨first, hfirst, h⟩ := Option.bind_eq_some_iff.1 h
    obtain ⟨others, hothers, h⟩ := Option.bind_eq_some_iff.1 h
    obtain rfl : first :: others = items := Option.some.inj h
    obtain rfl | hitem := List.mem_cons.1 hitem
    · exact ⟨part, List.mem_cons_self, hfirst⟩
    · obtain ⟨part, hpart, hread⟩ := ih hothers hitem
      exact ⟨part, List.mem_cons_of_mem _ hpart, hread⟩

/-! ## Lines -/

section Lines

/-- A text that nothing in it breaks. -/
def IsLine (s : String) : Prop :=
  '\n' ∉ s.toList ∧ '\r' ∉ s.toList

variable {s t : String} {parts : List String}

theorem IsLine.append (hs : IsLine s) (ht : IsLine t) : IsLine (s ++ t) := by
  unfold IsLine
  simp only [String.toList_append, List.mem_append, not_or]
  exact ⟨⟨hs.1, ht.1⟩, hs.2, ht.2⟩

theorem isLine_of_forall_mem (h : ∀ c ∈ s.toList, c ≠ '\n' ∧ c ≠ '\r') : IsLine s :=
  ⟨fun hmem => (h _ hmem).1 rfl, fun hmem => (h _ hmem).2 rfl⟩

theorem isLine_ofList {cs : List Char} (h : ∀ c ∈ cs, c ≠ '\n' ∧ c ≠ '\r') :
    IsLine (String.ofList cs) :=
  isLine_of_forall_mem (by rwa [String.toList_ofList])

theorem dropReturn_of_isLine (hs : IsLine s) : dropReturn s.toList = s.toList := by
  refine if_neg fun hlast => ?_
  exact hs.2 (List.mem_of_getLast? hlast)

/-- A line feed ends the line before it, and the text after it has its own lines. -/
theorem lines_append_feed (s rest : String) : lines (s ++ "\n" ++ rest) =
    ((splitAt '\n' s.toList).map fun part => String.ofList (dropReturn part)) ++ lines rest := by
  have hchars : (s ++ "\n" ++ rest).toList = s.toList ++ '\n' :: rest.toList := by simp
  have hne := splitAt_ne_nil '\n' rest.toList
  have hlast : (splitAt '\n' s.toList ++ splitAt '\n' rest.toList).getLast? =
      (splitAt '\n' rest.toList).getLast? := by
    rw [List.getLast?_append, List.getLast?_eq_some_getLast hne, Option.some_or]
  simp only [lines, hchars, splitAt_append, hlast, List.dropLast_append_of_ne_nil hne,
    List.map_append]
  split <;> simp

/-- A line before a line feed comes first. -/
theorem lines_append (hs : IsLine s) (rest : String) :
    lines (s ++ "\n" ++ rest) = s :: lines rest := by
  rw [lines_append_feed, splitAt_of_not_mem hs.1, List.map_singleton, dropReturn_of_isLine hs,
    String.ofList_toList, List.singleton_append]

theorem lines_of_isLine (hs : IsLine s) (hne : s ≠ "") : lines s = [s] := by
  have hchars : s.toList ≠ [] := fun h => hne (String.toList_eq_nil_iff.1 h)
  simp [lines, splitAt_of_not_mem hs.1, hchars]

/-- Lines that were joined are taken apart again. -/
theorem lines_join : ∀ {parts : List String}, (∀ part ∈ parts, IsLine part ∧ part ≠ "") →
    lines (join "\n" parts) = parts
  | [], _ => rfl
  | [part], h => by
    obtain ⟨hline, hne⟩ := h part (by simp)
    simpa [join] using lines_of_isLine hline hne
  | part :: next :: parts, h => by
    have hjoin : join "\n" (part :: next :: parts) =
        part ++ "\n" ++ join "\n" (next :: parts) := String.intercalate_cons_cons
    rw [hjoin, lines_append (h part (by simp)).1, lines_join fun p hp => h p (by simp [hp])]

/-- Lines that were ended one by one are taken apart again, whatever comes after them. -/
theorem lines_ended_append (h : ∀ part ∈ parts, IsLine part) (rest : String) :
    lines (String.join (parts.map (· ++ "\n")) ++ rest) = parts ++ lines rest := by
  induction parts with
  | nil => simp
  | cons part parts ih =>
    obtain ⟨hpart, hparts⟩ := List.forall_mem_cons.1 h
    rw [List.map_cons, String.join_cons, String.append_assoc, lines_append hpart, ih hparts,
      List.cons_append]

end Lines

end Courier.Text
