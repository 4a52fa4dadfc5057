import Courier.Proofs.Url.Authority
import Courier.Proofs.Url.Segments

/-!
# URLs read back

A URL of a special scheme that is no file is normal as reading gives it (`Url.normal_of_parse`) :
each part of it is one that its own reader gives, so none holds what ends it. A normal URL is
written without blanks (`Url.Normal.mem_print`) and is read back from what is written for it
(`Url.parse_print`). It stays normal with any query that needs no encoding
(`Url.Normal.replaceQuery`).
-/

namespace Courier.Url

variable {scheme : String} {u : Url} {a : Authority} {query fragment : Option String}
  {mark : Char} {cs rest : List Char}

/-- A scheme of URLs with a host. -/
structure Hosted (scheme : String) : Prop where
  special : isSpecial scheme
  not_file : scheme ≠ "file"

/-- A URL with a host, as reading gives it. -/
structure Normal (u : Url) : Prop where
  hosted : Hosted u.scheme
  authority : ∃ a, u.authority = some a ∧ a.Normal u.scheme
  path : u.path.Normal
  query : ∀ q ∈ u.query, Kept .specialQuery q.toList
  fragment : ∀ f ∈ u.fragment, Kept .fragment f.toList

/-- A normal URL stays normal with any query that needs no encoding. -/
theorem Normal.replaceQuery (h : u.Normal) (hquery : ∀ q ∈ query, Kept .specialQuery q.toList) :
    { u with query }.Normal :=
  { h with query := hquery }

/-! ## Query and fragment -/

/-- A text after the sign that begins it, and nothing without a text. -/
def marked (mark : Char) (text : Option String) : List Char :=
  (text.map fun t => mark :: t.toList).getD []

theorem toList_marked {sign : String} (h : sign.toList = [mark]) (text : Option String) :
    ((text.map (sign ++ ·)).getD "").toList = marked mark text := by
  cases text <;> simp [marked, h]

theorem cutAt_marked (h : mark ∉ cs) (text : Option String) :
    Text.cutAt mark (cs ++ marked mark text) = (cs, text.map String.toList) := by
  cases text with
  | none => exact (congrArg _ (List.append_nil cs)).trans (Text.cutAt_of_not_mem h)
  | some t => exact Text.cutAt_append_cons h t.toList

theorem shown_marked {part : Part} {text : Option String} (hmark : ' ' < mark)
    (htext : ∀ t ∈ text, Kept part t.toList) (hpart : part ≠ .plain) :
    ∀ c ∈ marked mark text, ' ' < c := by
  cases text with
  | none => exact fun c hc => nomatch hc
  | some t =>
    exact List.forall_mem_cons.2 ⟨hmark, fun c hc => blank_lt_of_keeps (htext t rfl c hc) hpart⟩

/-- Query and fragment as they stand after the path. -/
def tail (query fragment : Option String) : List Char :=
  marked '?' query ++ marked '#' fragment

theorem splitTail_append {path : List Char} (hpath : ∀ c ∈ path, c ≠ '?' ∧ c ≠ '#')
    (hquery : ∀ q ∈ query, '#' ∉ q.toList) :
    splitTail (path ++ tail query fragment) =
      (path, query.map String.toList, fragment.map String.toList) := by
  have hmark : '?' ∉ path := fun hmem => (hpath '?' hmem).1 rfl
  have hfront : '#' ∉ path ++ marked '?' query := by
    refine List.not_mem_append (fun hmem => (hpath '#' hmem).2 rfl) ?_
    cases query with
    | none => exact List.not_mem_nil
    | some q => simpa [marked] using hquery q rfl
  unfold splitTail tail
  rw [← List.append_assoc, cutAt_marked hfront]
  dsimp only
  rw [cutAt_marked hmark]

/-- A text of a part that needs no encoding is read as it stands. -/
theorem map_encode_toList {part : Part} {text : Option String}
    (h : ∀ t ∈ text, Kept part t.toList) :
    (text.map String.toList).map (fun cs => String.ofList (encode part cs)) = text := by
  cases text with
  | none => rfl
  | some t =>
    rw [Option.map_some, Option.map_some, encode_of_kept (h t rfl), String.ofList_toList]

/-- A part that is read needs no encoding. -/
theorem kept_of_mem_map_encode {part : Part} {text : Option (List Char)} {t : String}
    (h : t ∈ text.map fun cs => String.ofList (encode part cs)) : Kept part t.toList := by
  obtain ⟨cs, -, rfl⟩ := Option.map_eq_some_iff.1 h
  rw [String.toList_ofList]
  exact kept_encode part cs

theorem queryPart_of_special (hspecial : isSpecial scheme) : queryPart scheme = .specialQuery :=
  if_pos hspecial

/-! ## Schemes -/

/-- A special scheme is written in small letters. -/
theorem scheme_letters (hspecial : isSpecial scheme) :
    (∀ c ∈ scheme.toList, ' ' < c ∧ Ascii.isLetter c ∧ Ascii.lower c = c) ∧ scheme ≠ "" := by
  have hall : ["http", "https", "ws", "wss", "ftp", "file"].all fun scheme =>
      scheme.toList.all (fun c => ' ' < c ∧ Ascii.isLetter c ∧ Ascii.lower c = c) ∧
        scheme ≠ "" := by
    decide
  simpa using List.all_eq_true.1 hall scheme (of_decide_eq_true hspecial)

theorem splitScheme_append (hspecial : isSpecial scheme) (rest : List Char) :
    splitScheme (scheme.toList ++ ':' :: rest) = some (scheme, rest) := by
  obtain ⟨hletters, hne⟩ := scheme_letters hspecial
  have hchars : ∀ c ∈ scheme.toList, isSchemeChar c := fun c hc => by
    simp [isSchemeChar, (hletters c hc).2.1]
  have hcolon : ∀ c ∈ (':' :: rest).head?, isSchemeChar c = false := by
    rintro c ⟨⟩
    decide
  obtain ⟨c, cs, hcs⟩ := List.exists_cons_of_ne_nil (mt String.toList_eq_nil_iff.1 hne)
  have hsmall : scheme.toList.map Ascii.lower = scheme.toList := by
    rw [List.map_congr_left fun c hc => (hletters c hc).2.2, List.map_id']
  have htake := Text.takeWhile_append hchars hcolon
  have hdrop := Text.dropWhile_append hchars hcolon
  have hhead : Ascii.isLetter c := (hletters c (hcs ▸ List.mem_cons_self)).2.1
  rw [hcs, List.cons_append] at htake hdrop ⊢
  unfold splitScheme
  dsimp only
  rw [if_pos hhead, htake, hdrop, ← hcs, hsmall, String.ofList_toList]
  rfl

theorem scheme_of_afterTwo (h : parseFile.afterTwo cs = .ok u) : u.scheme = "file" := by
  unfold parseFile.afterTwo at h
  split at h
  · cases h
    rfl
  · cases hhost : fileHost (cs.takeWhile fun c => !endsUser true c) with
    | error e => rw [hhost] at h; cases h
    | ok host =>
      rw [hhost] at h
      cases host <;> cases h <;> rfl

theorem scheme_of_parseFile {base : Option Url} (h : parseFile base cs = .ok u) :
    u.scheme = "file" := by
  unfold parseFile at h
  split at h
  · split at h
    · cases h
      rfl
    split at h
    · exact scheme_of_afterTwo h
    split at h
    · cases h
      rfl
    split at h
    · split at h <;> cases h <;> rfl
    · cases h
      rfl
  · cases h
    rfl

/-- The parts of a URL that was read after two slashes. -/
theorem exists_of_afterSlashes (h : afterSlashes scheme cs = .ok u) :
    ∃ a rest, authorityOf scheme cs = .ok (a, rest) ∧ u =
      { scheme
        authority := some a
        path := pathAfterAuthority scheme (splitTail rest).1
        query := queryText scheme (splitTail rest).2.1
        fragment := fragmentText (splitTail rest).2.2 } := by
  unfold afterSlashes at h
  cases hread : authorityOf scheme cs with
  | error e =>
    rw [hread] at h
    cases h
  | ok read =>
    rw [hread] at h
    exact ⟨read.1, read.2, rfl, (Except.ok.inj h).symm⟩

theorem scheme_of_afterSlashes (h : afterSlashes scheme cs = .ok u) : u.scheme = scheme := by
  obtain ⟨a, rest, -, rfl⟩ := exists_of_afterSlashes h
  rfl

theorem scheme_of_afterScheme (h : afterScheme scheme cs = .ok u) : u.scheme = scheme := by
  unfold afterScheme at h
  split at h
  · next hfile => rw [scheme_of_parseFile h, hfile]
  split at h
  · exact scheme_of_afterSlashes h
  split at h
  · exact scheme_of_afterSlashes h
  · cases h
    rfl

/-! ## Whole URLs -/

theorem toList_print (h : u.authority = some a) : u.print.toList =
    u.scheme.toList ++ ':' :: '/' :: '/' ::
      (a.print.toList ++ (u.path.print.toList ++ tail u.query u.fragment)) := by
  have hquery := toList_marked (show "?".toList = ['?'] from rfl) u.query
  have hfragment := toList_marked (show "#".toList = ['#'] from rfl) u.fragment
  have hfront : u.front = u.scheme ++ "://" ++ a.print := by
    unfold front
    rw [h]
  rw [print, hfront, pathText, tail]
  simp only [String.toList_append, hquery, hfragment, List.append_assoc]
  rfl

theorem Normal.mem_print (h : u.Normal) : ∀ c ∈ u.print.toList, ' ' < c := by
  obtain ⟨a, hauthority, ha⟩ := h.authority
  rw [toList_print hauthority, tail]
  simp only [List.forall_mem_append, List.forall_mem_cons]
  exact ⟨fun c hc => ((scheme_letters h.hosted.special).1 c hc).1, by decide, by decide, by decide,
    fun c hc => (ha.mem_print c hc).1, fun c hc => (h.path.mem_print c hc).1,
    shown_marked (by decide) h.query (by decide),
    shown_marked (by decide) h.fragment (by decide)⟩

/-- Characters that show are read as they stand. -/
theorem cleaned_of_shown {s : String} (h : ∀ c ∈ s.toList, ' ' < c) : cleaned s = s.toList := by
  have htrim {cs : List Char} (hcs : ∀ c ∈ cs, ' ' < c) :
      cs.dropWhile (fun c => decide (c ≤ ' ')) = cs :=
    Text.dropWhile_append (fun c (hc : c ∈ []) => nomatch hc) fun c hc =>
      decide_eq_false (Char.not_le.2 (hcs c (List.mem_of_mem_head? hc)))
  have hbreak : ∀ c ∈ s.toList, decide (c ≠ '\t' ∧ c ≠ '\n' ∧ c ≠ '\x0d') = true := by
    intro c hc
    have hne {d : Char} (hd : d ≤ ' ') : c ≠ d := fun heq => Char.not_le.2 (h c hc) (heq ▸ hd)
    exact decide_eq_true ⟨hne (by decide), hne (by decide), hne (by decide)⟩
  unfold cleaned
  dsimp only
  rw [htrim h, htrim (by simpa using h), List.reverse_reverse, List.filter_eq_self.2 hbreak]

theorem afterSlashes_append (h : u.Normal) (hauthority : u.authority = some a)
    (ha : a.Normal u.scheme) : afterSlashes u.scheme
      (a.print.toList ++ (u.path.print.toList ++ tail u.query u.fragment)) = .ok u := by
  have hrest : Ends (u.path.print.toList ++ tail u.query u.fragment) := by
    obtain ⟨list, -, -, -, hprint⟩ := h.path.exists_segments
    rw [hprint]
    rintro c ⟨⟩
    decide
  have hpath : ∀ c ∈ u.path.print.toList, c ≠ '?' ∧ c ≠ '#' := fun c hc =>
    (h.path.mem_print c hc).2
  have hquery : ∀ q ∈ u.query, '#' ∉ q.toList := fun q hq =>
    not_mem_of_kept (h.query q hq) (by decide)
  unfold afterSlashes
  rw [authorityOf_print h.hosted.special ha hrest]
  simp only [Except.map, splitTail_append hpath hquery, queryText, fragmentText,
    queryPart_of_special h.hosted.special, map_encode_toList h.query, map_encode_toList h.fragment,
    pathAfterAuthority_print h.hosted.special h.hosted.not_file h.path, ← hauthority]

/-- A normal URL is read back from what is written for it. -/
theorem parse_print (h : u.Normal) : parse u.print = .ok u := by
  obtain ⟨a, hauthority, ha⟩ := h.authority
  have hslashes : ∀ c ∈ ['/', '/'], isSlash c := by simp [isSlash]
  have hstop : ∀ c ∈ (a.print.toList ++ (u.path.print.toList ++ tail u.query u.fragment)).head?,
      isSlash c = false := by
    obtain ⟨c, cs, hcs⟩ := List.exists_cons_of_ne_nil ha.print_ne_nil
    have hc : endsUser true c = false := (ha.mem_print c (hcs ▸ List.mem_cons_self)).2
    rw [hcs]
    rintro c ⟨⟩
    simp only [endsUser, endsSegment_true, decide_eq_false_iff_not, not_or] at hc
    exact Bool.eq_false_iff.2 hc.1
  have hafter : afterScheme u.scheme ('/' :: '/' ::
      (a.print.toList ++ (u.path.print.toList ++ tail u.query u.fragment))) = .ok u := by
    unfold afterScheme
    rw [if_neg h.hosted.not_file, if_pos h.hosted.special]
    exact (congrArg _ (Text.dropWhile_append hslashes hstop)).trans
      (afterSlashes_append h hauthority ha)
  unfold parse
  rw [cleaned_of_shown h.mem_print, toList_print hauthority, splitScheme_append h.hosted.special]
  exact hafter

theorem normal_of_afterSlashes (hosted : Hosted scheme) (h : afterSlashes scheme cs = .ok u) :
    u.Normal := by
  obtain ⟨a, rest, hread, rfl⟩ := exists_of_afterSlashes h
  exact {
    hosted := hosted
    authority := ⟨a, rfl, Authority.normal_of_authorityOf hosted.special hread⟩
    path := Path.normal_of_pathAfterAuthority hosted.special hosted.not_file _
    query := fun q hq => queryPart_of_special hosted.special ▸ kept_of_mem_map_encode hq
    fragment := fun f hf => kept_of_mem_map_encode hf }

/-- Every URL with a host that is read is normal. -/
theorem normal_of_parse {s : String} (h : parse s = .ok u) (hosted : Hosted u.scheme) :
    u.Normal := by
  unfold parse at h
  split at h
  · next scheme rest _ =>
    obtain rfl := scheme_of_afterScheme h
    unfold afterScheme at h
    rw [if_neg hosted.not_file, if_pos hosted.special] at h
    exact normal_of_afterSlashes hosted h
  · cases h

end Courier.Url
