import Courier.Proofs.Text.Ascii
import Courier.Proofs.Text.Utf8
import Courier.Proofs.Url.Encoding
import Courier.Proofs.Url.Ipv6

/-!
# Hosts read back

A host that is read is normal (`Host.normal_of_parse`) : a name in small letters that is no address,
or an address whose numbers have the bits that they may have. A normal host is read back from what
is written for it (`Host.parse_print`). Outside brackets it is written in characters that a domain
may hold (`Host.Normal.spelling`), so nothing in it ends a host.
-/

namespace Courier.Url

/-! ## Labels -/

/-- Digits and dots make labels that stand for themselves. -/
theorem Label.isDomain_of_digits {name : List Char}
    (h : ∀ c ∈ name, c ≠ 'x' ∧ (Text.Direction.ofChar c).isRightward = false) :
    isDomain name := by
  have hread : ((Text.splitAt '.' name).map id).mapM decode? = some (Text.splitAt '.' name) := by
    refine Text.mapM_map_of_forall_mem fun label hlabel => if_neg fun hmarker => ?_
    have hx : 'x' ∈ label.take 4 := hmarker ▸ List.mem_cons_self
    have hmem := (Text.forall_mem_of_mem_splitAt hlabel 'x' (List.mem_of_mem_take hx)).1
    exact (h 'x' hmem).1 rfl
  have hleft : ((Text.splitAt '.' name).any fun label =>
      label.any fun c => (Text.Direction.ofChar c).isRightward) = false := by
    simp only [List.any_eq_false, Bool.not_eq_true]
    exact fun label hlabel c hc => (h c (Text.forall_mem_of_mem_splitAt hlabel c hc).1).2
  rw [List.map_id] at hread
  unfold isDomain
  rw [hread]
  simp [hleft]

namespace Host

variable {cs name : List Char} {host : Host}

/-! ## Names -/

/-- A name in small letters, of an address or of a domain. -/
structure IsName (name : List Char) : Prop where
  allowed : ∀ c ∈ name, isForbidden c = false
  small : ∀ c ∈ name, Ascii.lower c = c
  labels : Label.isDomain name
  ne_nil : name ≠ []

theorem ne_of_allowed {c d : Char} (hc : isForbidden c = false) (hd : isForbidden d) : c ≠ d := by
  rintro rfl
  rw [hc] at hd
  cases hd

/-- A name is read as an address if it ends in a number, and else as itself. -/
theorem parse_of_isName (h : IsName name) :
    parse name = if endsInNumber name then
      match ipv4? name with
      | some n => .ok (.ipv4 n)
      | none => .error .invalidIpv4
    else .ok (.domain (String.ofList name)) := by
  have hne {d : Char} (hd : isForbidden d) : ∀ c ∈ name, c ≠ d := fun c hc =>
    ne_of_allowed (h.allowed c hc) hd
  have hbracket : name.head? ≠ some '[' := fun hhead =>
    hne (by decide) '[' (List.mem_of_mem_head? hhead) rfl
  have hdecoded : Utf8.decode? (unescape name) = some (String.ofList name) := by
    rw [unescape_of_not_mem fun hsign => hne (by decide) '%' hsign rfl, Utf8.decode?,
      Utf8.decode_encode]
    rfl
  have hsmall : name.map Ascii.lower = name := by
    rw [List.map_congr_left h.small, List.map_id']
  have hallowed : name.any isForbidden = false := by
    simpa using h.allowed
  unfold parse
  rw [if_neg hbracket, hdecoded]
  dsimp only
  rw [String.toList_ofList, hsmall, hallowed, h.labels]
  exact (if_neg (by decide)).trans (if_neg h.ne_nil)

/-! ## Normal hosts -/

/-- A host as reading gives it. -/
def Normal : Host → Prop
  | .domain name => IsName name.toList ∧ endsInNumber name.toList = false
  | .ipv4 n => n < 2 ^ 32
  | .ipv6 pieces => pieces.length = 8 ∧ ∀ p ∈ pieces, p < 65536

theorem normal_of_bracketed? (h : bracketed? cs = .ok host) : host.Normal := by
  unfold bracketed? at h
  split at h
  · split at h
    · next pieces hpieces =>
      cases h
      exact pieces_of_ipv6? hpieces
    · cases h
  · cases h

/-- Every host that is read is normal. -/
theorem normal_of_parse (h : parse cs = .ok host) : host.Normal := by
  unfold parse at h
  split at h
  · exact normal_of_bracketed? h
  split at h
  · cases h
  next decoded _ =>
  dsimp only at h
  split at h
  · cases h
  next hvalid =>
  split at h
  · cases h
  next hne =>
  obtain ⟨hallowed, hlabels⟩ : (∀ c ∈ decoded.toList.map Ascii.lower, isForbidden c = false) ∧
      Label.isDomain (decoded.toList.map Ascii.lower) := by
    simpa [not_or] using hvalid
  have hsmall : ∀ c ∈ decoded.toList.map Ascii.lower, Ascii.lower c = c :=
    List.forall_mem_map.2 fun c _ => Ascii.lower_lower c
  have hname : IsName (decoded.toList.map Ascii.lower) := ⟨hallowed, hsmall, hlabels, hne⟩
  split at h
  · split at h
    · next n hn =>
      cases h
      exact lt_of_ipv4? hn
    · cases h
  · next hnumber =>
    cases h
    simpa [Normal, hnumber] using hname

theorem isName_printIpv4 (n : Nat) : IsName (printIpv4 n).toList where
  allowed := forall_mem_printIpv4 (by decide) (by decide) n
  small := forall_mem_printIpv4 (by decide) (by decide) n
  labels := Label.isDomain_of_digits (forall_mem_printIpv4 (by decide) (by decide) n)
  ne_nil := by
    rw [toList_printIpv4, octets, List.map_cons, List.map_cons, List.intercalate_cons_cons]
    simp [Nat.toDigits_ne_nil]

/-- A normal host is read back from what is written for it. -/
theorem parse_print (h : host.Normal) : parse host.print.toList = .ok host := by
  cases host with
  | domain name =>
    obtain ⟨hname, hnumber⟩ := h
    rw [print, parse_of_isName hname, hnumber, String.ofList_toList]
    rfl
  | ipv4 n =>
    rw [print, parse_of_isName (isName_printIpv4 n), endsInNumber_printIpv4 n, ipv4?_print h]
    rfl
  | ipv6 pieces =>
    obtain ⟨hlength, hpieces⟩ := h
    have hprint : (Host.ipv6 pieces).print.toList = '[' :: (printIpv6 pieces).toList ++ [']'] := by
      simp [print]
    unfold parse bracketed?
    rw [hprint, if_pos (by rfl), if_pos (List.getLast?_concat), List.cons_append, List.tail_cons,
      List.dropLast_concat, ipv6?_print hlength hpieces]

/-- Outside brackets a normal host is written in characters that a domain may hold. -/
theorem Normal.spelling (h : host.Normal) :
    (∀ c ∈ host.print.toList, isForbidden c = false) ∨
      ∃ address, host.print.toList = '[' :: address ++ [']'] ∧
        ∀ c ∈ address, c = ':' ∨ isForbidden c = false := by
  cases host with
  | domain name => exact .inl h.1.allowed
  | ipv4 n => exact .inl (isName_printIpv4 n).allowed
  | ipv6 pieces =>
    exact .inr ⟨(printIpv6 pieces).toList, by simp [print],
      forall_mem_printIpv6 (.inl rfl) (by decide) pieces⟩

theorem Normal.print_ne_nil (h : host.Normal) : host.print.toList ≠ [] := by
  cases host with
  | domain name => exact h.1.ne_nil
  | ipv4 n => exact (isName_printIpv4 n).ne_nil
  | ipv6 pieces => simp [print]

end Host

end Courier.Url
