import Courier.Proofs.Text.Split
import Courier.Proofs.Url.Encoding
import Courier.Url.Parser

/-!
# Paths read back

A segment that is read holds no slash (`Segment.Fit`), and one that stays in its path stands for no
other directory (`Segment.Clean`). While the path of a URL that is no file is read, an empty segment
after clean ones is open (`Trail.step_cases`), so a path that is read has clean segments only
(`Path.normal_of_pathAfterAuthority`). Clean segments are taken as they are (`Trail.walk_of_clean`),
so such a path is read back from what is written for it (`pathAfterAuthority_print`).
-/

namespace Courier.Url

variable {segment scheme : String} {segments front : List String} {cs : List Char}

/-! ## Segments -/

namespace Segment

/-- A segment as it is encoded, without slashes of either direction. -/
structure Fit (segment : String) : Prop where
  kept : Kept .path segment.toList
  whole : ∀ c ∈ segment.toList, isSlash c = false

/-- A segment that stands for a directory or file of its own. -/
structure Clean (segment : String) : Prop extends Fit segment where
  single : isSingleDot segment = false
  double : isDoubleDot segment = false

theorem clean_empty : Clean "" where
  kept := fun c hc => nomatch hc
  whole := fun c hc => nomatch hc
  single := by decide
  double := by decide

end Segment

open Segment (Fit Clean clean_empty)

theorem endsSegment_true (c : Char) : endsSegment true c = isSlash c := by
  simp [endsSegment, isSlash]

theorem fit_of_mem_splitSegments (h : segment ∈ splitSegments true cs) : Fit segment := by
  obtain ⟨part, hpart, rfl⟩ := List.mem_map.1 h
  have hwhole : ∀ c ∈ part, isSlash c = false := by
    intro c hc
    obtain ⟨hmem, hne⟩ := Text.forall_mem_of_mem_splitAt hpart c hc
    obtain ⟨d, -, rfl⟩ := List.mem_map.1 hmem
    rw [endsSegment_true] at hne ⊢
    split at hne
    · exact absurd rfl hne
    · next hd => rw [if_neg hd, Bool.eq_false_iff.2 hd]
  constructor
  · rw [String.toList_ofList]
    exact kept_encode .path part
  · intro c hc
    rw [String.toList_ofList] at hc
    obtain hc | hkept := mem_encode hc
    · exact hwhole c hc
    · have hne {d : Char} (hd : Part.userinfo.keeps d = false) : c ≠ d :=
        ne_of_keeps (hkept .userinfo) hd
      simp [isSlash, hne (d := '/') (by decide), hne (d := '\\') (by decide)]

/-- Segments are read back from what is written with slashes between them. -/
theorem splitSegments_intercalate (h : ∀ s ∈ segments, Fit s) (hne : segments ≠ []) :
    splitSegments true (['/'].intercalate (segments.map String.toList)) = segments := by
  have hslashes : ∀ c ∈ ['/'].intercalate (segments.map String.toList),
      (if endsSegment true c then '/' else c) = c := by
    intro c hc
    obtain rfl | ⟨part, hpart, hc⟩ := Text.mem_intercalate hc
    · exact if_pos (by decide)
    · obtain ⟨s, hs, rfl⟩ := List.mem_map.1 hpart
      rw [endsSegment_true, (h s hs).whole c hc]
      rfl
  have hparts : ∀ part ∈ segments.map String.toList, '/' ∉ part := by
    intro part hpart hslash
    obtain ⟨s, hs, rfl⟩ := List.mem_map.1 hpart
    exact absurd ((h s hs).whole '/' hslash) (by decide)
  have hencoded : ∀ s ∈ segments, String.ofList (encode .path s.toList) = s := by
    intro s hs
    rw [encode_of_kept (h s hs).kept, String.ofList_toList]
  unfold splitSegments
  rw [List.map_congr_left hslashes, List.map_id', Text.splitAt_eq_splitOn,
    List.splitOn_intercalate '/' hparts (by simpa using hne), List.map_map]
  exact (List.map_congr_left hencoded).trans (List.map_id' segments)

/-! ## Trails -/

namespace Trail

theorem leaveDrive_false (t : Trail) : t.leaveDrive false segment = t := by
  unfold leaveDrive
  split <;> simp

/-- A clean segment is put where the open one was. -/
theorem step_of_clean (h : Clean segment) (slash : Bool) (front : List String) :
    Trail.step false segment slash ("" :: front) =
      if slash then "" :: segment :: front else segment :: front := by
  unfold step
  rw [leaveDrive_false, h.double, h.single]
  cases front <;> simp [extend]

/-- Clean segments are put one after the other, each but the last one before an open one. -/
theorem walk_of_clean (h : ∀ s ∈ segments, Clean s) (hne : segments ≠ []) (front : List String) :
    Trail.walk false ("" :: front) segments = segments.reverse ++ front := by
  induction segments generalizing front with
  | nil => exact absurd rfl hne
  | cons s segments ih =>
    obtain ⟨hs, hsegments⟩ := List.forall_mem_cons.1 h
    cases segments with
    | nil => exact step_of_clean hs false front
    | cons next segments =>
      have hstep : Trail.walk false ("" :: front) (s :: next :: segments) =
          Trail.walk false ("" :: s :: front) (next :: segments) := by
        rw [walk, step_of_clean hs]
        · rfl
        · exact List.cons_ne_nil _ _
      rw [hstep, ih hsegments (List.cons_ne_nil _ _), List.reverse_cons (a := s),
        List.append_assoc, List.singleton_append]

theorem up_of_open (front : List String) : ∃ front', Trail.up false ("" :: front) = "" :: front' ∧
    ∀ s ∈ front', s ∈ front := by
  cases front with
  | nil => exact ⟨[], rfl, fun s hs => hs⟩
  | cons dir front =>
    have hup : Trail.up false ("" :: dir :: front) =
        if isDrive dir then "" :: dir :: front else "" :: front := rfl
    rw [hup]
    split
    · exact ⟨dir :: front, rfl, fun s hs => hs⟩
    · exact ⟨front, rfl, fun s hs => List.mem_cons_of_mem dir hs⟩

/-- One segment more leaves an open segment after clean ones, unless it is a clean one at the
end. -/
theorem step_cases (h : Fit segment) (hfront : ∀ s ∈ front, Clean s) (slash : Bool) :
    (∃ front', Trail.step false segment slash ("" :: front) = "" :: front' ∧
      ∀ s ∈ front', Clean s) ∨
    (slash = false ∧ Clean segment ∧
      Trail.step false segment slash ("" :: front) = segment :: front) := by
  by_cases hdouble : isDoubleDot segment
  · obtain ⟨front', hup, hsub⟩ := up_of_open front
    refine .inl ⟨front', ?_, fun s hs => hfront s (hsub s hs)⟩
    unfold step
    rw [leaveDrive_false, if_pos hdouble, hup]
    exact ite_self _
  by_cases hsingle : isSingleDot segment
  · refine .inl ⟨front, ?_, hfront⟩
    unfold step
    rw [leaveDrive_false, if_neg hdouble, if_pos hsingle]
    rfl
  have hclean : Clean segment := ⟨h, Bool.eq_false_iff.2 hsingle, Bool.eq_false_iff.2 hdouble⟩
  cases slash with
  | true =>
    exact .inl ⟨segment :: front, step_of_clean hclean true front,
      List.forall_mem_cons.2 ⟨hclean, hfront⟩⟩
  | false => exact .inr ⟨rfl, hclean, step_of_clean hclean false front⟩

/-- A path that is walked from an open segment has clean segments, whatever is on the way. -/
theorem clean_walk (h : ∀ s ∈ segments, Fit s) (hfront : ∀ s ∈ front, Clean s) :
    Trail.walk false ("" :: front) segments ≠ [] ∧
      ∀ s ∈ Trail.walk false ("" :: front) segments, Clean s := by
  have hopen (front : List String) (hfront : ∀ s ∈ front, Clean s) :
      "" :: front ≠ [] ∧ ∀ s ∈ "" :: front, Clean s :=
    ⟨List.cons_ne_nil _ _, List.forall_mem_cons.2 ⟨clean_empty, hfront⟩⟩
  induction segments generalizing front with
  | nil => exact hopen front hfront
  | cons s segments ih =>
    obtain ⟨hs, hsegments⟩ := List.forall_mem_cons.1 h
    cases segments with
    | nil =>
      rw [walk]
      obtain ⟨front', hstep, hfront'⟩ | ⟨-, hclean, hstep⟩ := step_cases hs hfront false
      · exact hstep ▸ hopen front' hfront'
      · exact hstep ▸ ⟨List.cons_ne_nil _ _, List.forall_mem_cons.2 ⟨hclean, hfront⟩⟩
    | cons next segments =>
      obtain ⟨front', hstep, hfront'⟩ | ⟨hslash, -, -⟩ := step_cases hs hfront true
      · rw [walk, hstep]
        · exact ih hsegments hfront'
        · exact List.cons_ne_nil _ _
      · cases hslash

end Trail

/-! ## Paths -/

namespace Path

/-- The path of a URL with an authority that is no file, as reading gives it. -/
def Normal : Path → Prop
  | .segments list => list ≠ [] ∧ ∀ s ∈ list, Clean s
  | .bare _ => False

variable {path : Path}

theorem Normal.exists_segments (h : path.Normal) : ∃ list, path = .segments list ∧
    list ≠ [] ∧ (∀ s ∈ list, Clean s) ∧
      path.print.toList = '/' :: ['/'].intercalate (list.map String.toList) := by
  have hprint : ∀ list : List String, list ≠ [] → (Path.segments list).print.toList =
      '/' :: ['/'].intercalate (list.map String.toList) := by
    intro list hne
    induction list with
    | nil => exact absurd rfl hne
    | cons s list ih =>
      cases list with
      | nil => simp [print]
      | cons next list =>
        have ih := ih (List.cons_ne_nil _ _)
        simp only [print, String.toList_join, List.map_cons, List.flatMap_cons,
          String.toList_append] at ih ⊢
        rw [ih, List.intercalate_cons_cons]
        simp
  cases path with
  | segments list => exact ⟨list, rfl, h.1, h.2, hprint list h.1⟩
  | bare text => exact h.elim

theorem Normal.mem_print (h : path.Normal) :
    ∀ c ∈ path.print.toList, ' ' < c ∧ c ≠ '?' ∧ c ≠ '#' := by
  obtain ⟨list, -, -, hclean, hprint⟩ := h.exists_segments
  rw [hprint]
  refine List.forall_mem_cons.2 ⟨by decide, fun c hc => ?_⟩
  obtain rfl | ⟨part, hpart, hc⟩ := Text.mem_intercalate hc
  · decide
  · obtain ⟨s, hs, rfl⟩ := List.mem_map.1 hpart
    have hkept := (hclean s hs).kept c hc
    exact ⟨blank_lt_of_keeps hkept (by decide), ne_of_keeps hkept (by decide),
      ne_of_keeps hkept (by decide)⟩

end Path

/-- A path is read back from what is written for it. -/
theorem pathAfterAuthority_print {path : Path} (hspecial : isSpecial scheme)
    (hfile : scheme ≠ "file") (h : path.Normal) :
    pathAfterAuthority scheme path.print.toList = path := by
  obtain ⟨list, hpath, hne, hclean, hprint⟩ := h.exists_segments
  have hslash : endsSegment true '/' = true := by decide
  unfold pathAfterAuthority segmentsOn
  simp only [hprint, hspecial, hslash, if_true, hfile, decide_false]
  rw [splitSegments_intercalate (fun s hs => (hclean s hs).toFit) hne,
    Trail.walk_of_clean hclean hne, List.append_nil, List.reverse_reverse, hpath]

/-- Every path that is read after an authority is normal. -/
theorem Path.normal_of_pathAfterAuthority (hspecial : isSpecial scheme) (hfile : scheme ≠ "file")
    (cs : List Char) : (pathAfterAuthority scheme cs).Normal := by
  have hnormal (cs : List Char) : (Path.segments (segmentsOn scheme [""] cs)).Normal := by
    unfold segmentsOn
    simp only [hspecial, hfile, decide_false]
    have hempty : ∀ s ∈ ([] : List String), Clean s := fun s hs => nomatch hs
    obtain ⟨hne, hclean⟩ := Trail.clean_walk
      (fun s (hs : s ∈ splitSegments true cs) => fit_of_mem_splitSegments hs) hempty
    exact ⟨by simpa using hne, by simpa using hclean⟩
  unfold pathAfterAuthority
  dsimp only
  split
  · rw [hspecial]
    exact ⟨List.cons_ne_nil _ _, List.forall_mem_singleton.2 clean_empty⟩
  · exact hnormal _

end Courier.Url
