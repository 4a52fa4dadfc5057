import Courier.Proofs.Url.Ipv4
import Mathlib.Data.List.Basic
import Mathlib.Data.List.TakeWhile

/-!
# Addresses of version 6

Pieces are read back from what is written for them (`Host.pieces?_joinPieces`). A double colon
stands only where the longest run of zeros is left out, since no piece is written without a digit
(`Host.aroundGap_colons`), and what is left out are zeros (`Host.longestRun_le`). So an address is
read back (`Host.ipv6?_print`), and every address that is read has eight pieces of 16 bits
(`Host.pieces_of_ipv6?`).
-/

namespace Courier.Url.Host

variable {base n p : Nat} {cs rest : List Char} {ps : List Nat} {isLast : Bool}

/-! ## Pieces -/

/-- Pieces with a colon between them. -/
def colons (ps : List Nat) : List Char :=
  [':'].intercalate (ps.map (Nat.toDigits 16))

theorem toList_joinPieces (ps : List Nat) : (joinPieces ps).toList = colons ps := by
  have hsmall (p : Nat) : (Nat.toDigits 16 p).map Ascii.lower = Nat.toDigits 16 p := by
    have hlower : ∀ c ∈ Nat.toDigits 16 p, Ascii.lower c = c :=
      Natural.forall_mem_toDigits (by decide) (by decide) p
    rw [List.map_congr_left hlower, List.map_id']
  rw [joinPieces, String.toList_intercalate, List.map_map, colons]
  simp only [Function.comp_def, String.toList_ofList, hsmall]
  rfl

theorem colon_not_mem_toDigits (p : Nat) : ':' ∉ Nat.toDigits 16 p := by
  have hne : ∀ c ∈ Nat.toDigits 16 p, c ≠ ':' :=
    Natural.forall_mem_toDigits (by decide) (by decide) p
  exact fun hcolon => hne ':' hcolon rfl

theorem piece?_toDigits (h : p < 65536) : piece? (Nat.toDigits 16 p) = some p := by
  have hlength : (Nat.toDigits 16 p).length ≤ 4 :=
    (Nat.length_toDigits_le_iff (by decide) (by decide)).2 h
  have hlong : ¬ (Nat.toDigits 16 p = [] ∨ (Nat.toDigits 16 p).length > 4) :=
    not_or.2 ⟨Nat.toDigits_ne_nil, Nat.not_lt.2 hlength⟩
  rw [piece?, if_neg hlong]
  exact numeral?_toDigits (by decide) (by decide) p

theorem splitAt_colons (h : ps ≠ []) :
    Text.splitAt ':' (colons ps) = ps.map (Nat.toDigits 16) := by
  rw [Text.splitAt_eq_splitOn]
  refine List.splitOn_intercalate ':' (fun digits hdigits hcolon => ?_) (by simpa using h)
  obtain ⟨p, -, rfl⟩ := List.mem_map.1 hdigits
  exact colon_not_mem_toDigits p hcolon

/-- What is written for a piece and further ones begins with no colon. -/
theorem exists_colons (p : Nat) (ps : List Nat) :
    ∃ c cs, colons (p :: ps) = c :: cs ∧ c ≠ ':' := by
  obtain ⟨c, digits, hdigits⟩ := List.exists_cons_of_ne_nil (Nat.toDigits_ne_nil (n := p) (b := 16))
  have hc : c ≠ ':' := fun hc => colon_not_mem_toDigits p (by simp [hdigits, hc])
  cases ps with
  | nil => exact ⟨c, digits, by simp [colons, hdigits], hc⟩
  | cons q ps =>
    exact ⟨c, digits ++ ':' :: colons (q :: ps),
      by simp [colons, List.intercalate_cons_cons, hdigits], hc⟩

theorem colons_ne_nil (h : ps ≠ []) : colons ps ≠ [] := by
  obtain ⟨p, ps, rfl⟩ := List.exists_cons_of_ne_nil h
  obtain ⟨c, cs, hcolons, -⟩ := exists_colons p ps
  exact hcolons ▸ List.cons_ne_nil c cs

/-- Pieces are read back from what is written for them. -/
theorem pieces?_joinPieces (h : ∀ p ∈ ps, p < 65536) :
    pieces? isLast (joinPieces ps).toList = some ps := by
  rw [toList_joinPieces]
  obtain rfl | ⟨front, last, rfl⟩ := List.eq_nil_or_concat' ps
  · rfl
  have hfront : (front.map (Nat.toDigits 16)).mapM piece? = some front :=
    Text.mapM_map_of_forall_mem fun p hp => piece?_toDigits (h p (List.mem_append_left _ hp))
  have hlast : piece? (Nat.toDigits 16 last) = some last := piece?_toDigits (h last (by simp))
  have hdot : ∀ c ∈ Nat.toDigits 16 last, c ≠ '.' :=
    Natural.forall_mem_toDigits (by decide) (by decide) last
  unfold pieces?
  rw [if_neg (colons_ne_nil (List.concat_ne_nil last front)),
    splitAt_colons (List.concat_ne_nil last front), List.map_append, List.map_singleton]
  have hplain : ¬ (isLast ∧ '.' ∈ Nat.toDigits 16 last) := fun h => hdot '.' h.2 rfl
  simp [hfront, hlast, hplain]

theorem lt_of_piece? (h : piece? cs = some p) : p < 65536 := by
  unfold piece? at h
  split at h
  · cases h
  · next hlength =>
    have hpow : 16 ^ cs.length ≤ 16 ^ 4 :=
      Nat.pow_le_pow_right (by decide) (Nat.not_lt.1 (not_or.1 hlength).2)
    exact Nat.lt_of_lt_of_le (numeral?_lt h) hpow

theorem le_of_octet? (h : octet? cs = some n) : n ≤ 255 := by
  unfold octet? at h
  split at h
  · cases h
  · obtain ⟨m, -, h⟩ := Option.bind_eq_some_iff.1 h
    split at h
    · next hm => exact Option.some.inj h ▸ hm
    · cases h

theorem lt_of_embedded? (h : embedded? cs = some ps) : ∀ p ∈ ps, p < 65536 := by
  unfold embedded? at h
  split at h
  · split at h
    · next a b c d ha hb hc hd =>
      have := le_of_octet? ha
      have := le_of_octet? hb
      have := le_of_octet? hc
      have := le_of_octet? hd
      obtain rfl := Option.some.inj h
      simp only [List.forall_mem_cons, List.not_mem_nil, false_imp_iff, implies_true, and_true]
      omega
    · cases h
  · cases h

/-- Pieces that are read have 16 bits. -/
theorem lt_of_pieces? (h : pieces? isLast cs = some ps) : ∀ p ∈ ps, p < 65536 := by
  unfold pieces? at h
  split at h
  · obtain rfl := Option.some.inj h
    exact fun p hp => nomatch hp
  dsimp only at h
  split at h
  · next front last hfront _ =>
    have hsmall : ∀ p ∈ front, p < 65536 := fun p hp =>
      let ⟨_, _, hpart⟩ := Text.exists_of_mem_mapM hfront hp
      lt_of_piece? hpart
    split at h
    · obtain ⟨ends, hends, rfl⟩ := Option.map_eq_some_iff.1 h
      exact List.forall_mem_append.2 ⟨hsmall, lt_of_embedded? hends⟩
    · obtain ⟨p, hp, rfl⟩ := Option.map_eq_some_iff.1 h
      exact List.forall_mem_append.2 ⟨hsmall, List.forall_mem_singleton.2 (lt_of_piece? hp)⟩
  · cases h

/-! ## The double colon -/

theorem aroundGap_append (h : ':' ∉ cs) (rest : List Char) :
    aroundGap (cs ++ rest) = (aroundGap rest).map fun (front, back) => (cs ++ front, back) := by
  induction cs with
  | nil => simp
  | cons c cs ih =>
    obtain ⟨hc, hcs⟩ := not_or.1 (mt List.mem_cons.2 h)
    have hstep : aroundGap (c :: (cs ++ rest)) =
        (aroundGap (cs ++ rest)).map fun (front, back) => (c :: front, back) := by
      conv_lhs => unfold aroundGap
      split
      · next heq => exact absurd (List.cons.inj heq).1.symm hc
      · next heq =>
        obtain ⟨rfl, rfl⟩ := List.cons.inj heq
        rfl
      · next heq => cases heq
    rw [List.cons_append, hstep, ih hcs, Option.map_map]
    rfl

theorem aroundGap_colon (h : rest.head? ≠ some ':') :
    aroundGap (':' :: rest) = (aroundGap rest).map fun (front, back) => (':' :: front, back) := by
  conv_lhs => unfold aroundGap
  split
  · next heq => exact absurd (congrArg List.head? (List.cons.inj heq).2) h
  · next heq =>
    obtain ⟨rfl, rfl⟩ := List.cons.inj heq
    rfl
  · next heq => cases heq

/-- No double colon stands between pieces. -/
theorem aroundGap_colons (ps : List Nat) (rest : List Char) :
    aroundGap (colons ps ++ rest) =
      (aroundGap rest).map fun (front, back) => (colons ps ++ front, back) := by
  induction ps with
  | nil => simp [colons]
  | cons p ps ih =>
    cases ps with
    | nil => simpa [colons] using aroundGap_append (colon_not_mem_toDigits p) rest
    | cons q ps =>
      have hcolons : colons (p :: q :: ps) = Nat.toDigits 16 p ++ ':' :: colons (q :: ps) := by
        simp [colons, List.intercalate_cons_cons]
      have hhead : (colons (q :: ps) ++ rest).head? ≠ some ':' := by
        obtain ⟨c, cs, hnext, hc⟩ := exists_colons q ps
        rw [hnext]
        exact fun heq => hc (Option.some.inj heq)
      rw [hcolons, List.append_assoc, aroundGap_append (colon_not_mem_toDigits p), List.cons_append,
        aroundGap_colon hhead, ih, Option.map_map, Option.map_map]
      simp [Function.comp_def]

/-! ## The longest run -/

/-- The longest run is one of zeros. -/
theorem longestRun_le (ps : List Nat) :
    (longestRun ps).2 ≤ zerosAt (ps.drop (longestRun ps).1) := by
  unfold longestRun
  refine List.foldlRecOn (motive := fun best : Nat × Nat => best.2 ≤ zerosAt (ps.drop best.1))
    (List.range ps.length) _ (Nat.zero_le _) fun best hbest i _ => ?_
  dsimp only
  split
  · exact Nat.le_refl _
  · exact hbest

theorem take_of_le_zerosAt (h : n ≤ zerosAt ps) :
    n ≤ ps.length ∧ ps.take n = List.replicate n 0 := by
  have hsplit : ps.takeWhile (· = 0) ++ ps.dropWhile (· = 0) = ps := List.takeWhile_append_dropWhile
  have hlength : n ≤ ps.length := Nat.le_trans h (List.takeWhile_prefix _).length_le
  refine ⟨hlength, List.eq_replicate_iff.2 ⟨List.length_take_of_le hlength, fun p hp => ?_⟩⟩
  rw [← hsplit, List.take_append_of_le_length h] at hp
  simpa using List.mem_takeWhile_imp (List.mem_of_mem_take hp)

/-! ## Addresses -/

theorem ipv6?_gap {front back : List Nat} (hfront : ∀ p ∈ front, p < 65536)
    (hback : ∀ p ∈ back, p < 65536) (hlength : front.length + back.length ≤ 7) :
    ipv6? (joinPieces front ++ "::" ++ joinPieces back).toList =
      some (front ++ List.replicate (8 - front.length - back.length) 0 ++ back) := by
  have hgap : aroundGap (joinPieces front ++ "::" ++ joinPieces back).toList =
      some ((joinPieces front).toList, (joinPieces back).toList) := by
    rw [String.toList_append, String.toList_append, toList_joinPieces, List.append_assoc,
      aroundGap_colons]
    simp [aroundGap]
  unfold ipv6?
  rw [hgap]
  dsimp only
  rw [pieces?_joinPieces hfront, pieces?_joinPieces hback]
  exact if_pos hlength

/-- An address is read back from what is written for it. -/
theorem ipv6?_print (hlength : ps.length = 8) (h : ∀ p ∈ ps, p < 65536) :
    ipv6? (printIpv6 ps).toList = some ps := by
  unfold printIpv6
  dsimp only
  split
  · have hwhole : aroundGap (joinPieces ps).toList = none := by
      rw [toList_joinPieces, ← List.append_nil (colons ps), aroundGap_colons]
      rfl
    unfold ipv6?
    rw [hwhole]
    simp [pieces?_joinPieces h, hlength]
  next hlong =>
  obtain ⟨hroom, hzeros⟩ := take_of_le_zerosAt (longestRun_le ps)
  generalize (longestRun ps).1 = start, (longestRun ps).2 = run at hlong hroom hzeros
  rw [List.length_drop] at hroom
  have hparts : ps.take start ++ List.replicate run 0 ++ ps.drop (start + run) = ps := by
    rw [← hzeros, List.append_assoc, ← List.drop_drop, List.take_append_drop,
      List.take_append_drop]
  have hfront : (ps.take start).length = start := List.length_take_of_le (by omega)
  have hback : (ps.drop (start + run)).length = 8 - (start + run) := by
    rw [List.length_drop, hlength]
  have hrun : 8 - start - (8 - (start + run)) = run := by omega
  rw [ipv6?_gap (fun p hp => h p (List.mem_of_mem_take hp))
    (fun p hp => h p (List.mem_of_mem_drop hp)) (by omega), hfront, hback, hrun, hparts]

/-- What holds of a colon and of every hexadecimal digit holds of all characters of an address. -/
theorem forall_mem_printIpv6 {holds : Char → Prop} (hcolon : holds ':')
    (hdigit : ∀ d < 16, holds d.digitChar) (ps : List Nat) :
    ∀ c ∈ (printIpv6 ps).toList, holds c := by
  have hpieces (ps : List Nat) : ∀ c ∈ (joinPieces ps).toList, holds c := by
    intro c hc
    rw [toList_joinPieces] at hc
    obtain rfl | ⟨digits, hdigits, hc⟩ := Text.mem_intercalate hc
    · exact hcolon
    · obtain ⟨p, -, rfl⟩ := List.mem_map.1 hdigits
      exact Natural.forall_mem_toDigits (by decide) hdigit p c hc
  unfold printIpv6
  dsimp only
  split
  · exact hpieces ps
  · simp only [String.toList_append, List.forall_mem_append]
    exact ⟨⟨hpieces _, by simpa using hcolon⟩, hpieces _⟩

/-- Every address that is read has eight pieces of 16 bits. -/
theorem pieces_of_ipv6? (h : ipv6? cs = some ps) : ps.length = 8 ∧ ∀ p ∈ ps, p < 65536 := by
  unfold ipv6? at h
  split at h
  · obtain ⟨qs, hqs, h⟩ := Option.bind_eq_some_iff.1 h
    split at h
    · next hlength =>
      obtain rfl := Option.some.inj h
      exact ⟨hlength, lt_of_pieces? hqs⟩
    · cases h
  · split at h
    · next front back hfront hback =>
      split at h
      · next hlength =>
        obtain rfl := Option.some.inj h
        refine ⟨?_, List.forall_mem_append.2 ⟨List.forall_mem_append.2 ⟨lt_of_pieces? hfront, ?_⟩,
          lt_of_pieces? hback⟩⟩
        · simp only [List.length_append, List.length_replicate]
          omega
        · intro p hp
          rw [List.eq_of_mem_replicate hp]
          decide
      · cases h
    · cases h

end Courier.Url.Host
