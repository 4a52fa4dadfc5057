import Courier.Proofs.Url.Host
import Courier.Url.Parser

/-!
# Authorities read back

What ends an authority stands nowhere in one that is written (`Authority.Normal.mem_print`), the
last at sign is the one after the user, and the first colon of a user is the one before the
password. So an authority as reading gives it (`Authority.normal_of_authorityOf`) is read back from
what is written for it, whatever comes after it that ends an authority (`authorityOf_print`).
-/

namespace Courier.Url

variable {scheme : String} {cs front back rest : List Char} {host : Host} {port : Option Nat}

/-- Nothing that goes on with an authority. -/
def Ends (rest : List Char) : Prop :=
  ∀ c ∈ rest.head?, endsUser true c

/-! ## Hosts and ports -/

/-- A character of an authority that is no at sign. -/
def Inside (c : Char) : Prop :=
  ' ' < c ∧ endsUser true c = false ∧ c ≠ '@'

instance : DecidablePred Inside := fun _ => inferInstanceAs (Decidable (_ ∧ _))

theorem inside_of_ne {c : Char} (hshown : ' ' < c) (hslash : c ≠ '/') (hback : c ≠ '\\')
    (hquery : c ≠ '?') (hfragment : c ≠ '#') (hsign : c ≠ '@') : Inside c :=
  ⟨hshown, by simp [endsUser, endsSegment, hslash, hback, hquery, hfragment], hsign⟩

theorem inside_of_allowed {c : Char} (h : Host.isForbidden c = false) : Inside c := by
  have hne {d : Char} (hd : Host.isForbidden d) : c ≠ d := Host.ne_of_allowed h hd
  have hshown : ¬ c ≤ ' ' := (not_or.1 (of_decide_eq_false h)).1
  exact inside_of_ne (Char.not_le.1 hshown) (hne (by decide)) (hne (by decide)) (hne (by decide))
    (hne (by decide)) (hne (by decide))

theorem inside_of_keeps {c : Char} (h : Part.userinfo.keeps c) : Inside c ∧ c ≠ ':' := by
  have hne {d : Char} (hd : Part.userinfo.keeps d = false) : c ≠ d := ne_of_keeps h hd
  exact ⟨inside_of_ne (blank_lt_of_keeps h (by decide)) (hne (by decide)) (hne (by decide))
    (hne (by decide)) (hne (by decide)) (hne (by decide)), hne (by decide)⟩

theorem Host.Normal.inside (h : host.Normal) : ∀ c ∈ host.print.toList, Inside c := by
  obtain hallowed | ⟨address, hprint, haddress⟩ := h.spelling
  · exact fun c hc => inside_of_allowed (hallowed c hc)
  · rw [hprint, List.cons_append, List.forall_mem_cons, List.forall_mem_append,
      List.forall_mem_singleton]
    refine ⟨by decide, fun c hc => ?_, by decide⟩
    obtain rfl | hallowed := haddress c hc
    · decide
    · exact inside_of_allowed hallowed

theorem hostChars_cons {c : Char} {inside : Bool} (hc : endsUser true c = false)
    (hcolon : c = ':' → inside) (rest : List Char) :
    hostChars true inside (c :: rest) =
      (c :: (hostChars true (if c = '[' then true else if c = ']' then false else inside) rest).1,
        (hostChars true (if c = '[' then true else if c = ']' then false else inside) rest).2) := by
  have hgoes : ¬ ((c = ':' ∧ !inside) ∨ endsUser true c) := by
    simpa [hc] using hcolon
  rw [hostChars, if_neg hgoes]

theorem hostChars_append {inside : Bool}
    (h : ∀ c ∈ front, Inside c ∧ c ≠ '[' ∧ c ≠ ']' ∧ (c = ':' → inside)) (rest : List Char) :
    hostChars true inside (front ++ rest) =
      (front ++ (hostChars true inside rest).1, (hostChars true inside rest).2) := by
  induction front with
  | nil => rfl
  | cons c front ih =>
    obtain ⟨⟨hc, hopen, hclose, hcolon⟩, hfront⟩ := List.forall_mem_cons.1 h
    rw [List.cons_append, hostChars_cons hc.2.1 hcolon, if_neg hopen, if_neg hclose, ih hfront]
    rfl

theorem hostChars_of_ends (h : rest.head? = some ':' ∨ Ends rest) :
    hostChars true false rest = ([], rest) := by
  cases rest with
  | nil => rfl
  | cons c rest =>
    have hstop : (c = ':' ∧ !false) ∨ endsUser true c :=
      h.imp (fun hcolon => ⟨Option.some.inj hcolon, rfl⟩) fun hends => hends c rfl
    rw [hostChars, if_pos hstop]

/-- A host is read up to the colon of a port or to the end of its authority. -/
theorem hostChars_print (h : host.Normal) (hrest : rest.head? = some ':' ∨ Ends rest) :
    hostChars true false (host.print.toList ++ rest) = (host.print.toList, rest) := by
  obtain hallowed | ⟨address, hprint, haddress⟩ := h.spelling
  · have hplain : ∀ c ∈ host.print.toList,
        Inside c ∧ c ≠ '[' ∧ c ≠ ']' ∧ (c = ':' → false = true) := fun c hc =>
      have hne {d : Char} (hd : Host.isForbidden d) : c ≠ d := Host.ne_of_allowed (hallowed c hc) hd
      ⟨h.inside c hc, hne (by decide), hne (by decide), fun hcolon =>
        absurd hcolon (hne (by decide))⟩
    rw [hostChars_append hplain, hostChars_of_ends hrest, List.append_nil]
  · have hinner : ∀ c ∈ address, Inside c ∧ c ≠ '[' ∧ c ≠ ']' ∧ (c = ':' → true = true) := by
      intro c hc
      obtain rfl | hallowed := haddress c hc
      · decide
      · exact ⟨inside_of_allowed hallowed, Host.ne_of_allowed hallowed (by decide),
          Host.ne_of_allowed hallowed (by decide), fun _ => rfl⟩
    rw [hprint, List.append_assoc, List.cons_append, hostChars_cons (by decide) (by decide),
      if_pos rfl, hostChars_append hinner, List.singleton_append,
      hostChars_cons (by decide) (by decide), if_neg (by decide), if_pos rfl,
      hostChars_of_ends hrest]
    rfl

/-- A port as reading gives it. -/
def PortOf (scheme : String) (port : Option Nat) : Prop :=
  ∀ n ∈ port, n ≤ 65535 ∧ defaultPort? scheme ≠ some n

/-- A host and a port as they stand in an authority. -/
def hostPort (host : Host) (port : Option Nat) : List Char :=
  host.print.toList ++ (port.map fun n => ':' :: Nat.toDigits 10 n).getD []

theorem isDigit_of_endsUser {c : Char} (h : endsUser true c) : Ascii.isDigit c = false := by
  have hc : (c = '/' ∨ c = '\\') ∨ c = '?' ∨ c = '#' := by
    simpa [endsUser, endsSegment] using h
  obtain (rfl | rfl) | rfl | rfl := hc <;> decide

theorem hostPort_ne_nil (h : host.Normal) (port : Option Nat) : hostPort host port ≠ [] :=
  List.append_ne_nil_of_left_ne_nil h.print_ne_nil _

theorem inside_hostPort (h : host.Normal) (port : Option Nat) :
    ∀ c ∈ hostPort host port, Inside c := by
  refine List.forall_mem_append.2 ⟨h.inside, ?_⟩
  cases port with
  | none => exact fun c hc => nomatch hc
  | some n =>
    exact List.forall_mem_cons.2
      ⟨by decide, Natural.forall_mem_toDigits (by decide) (by decide) n⟩

theorem portOf_toDigits {n : Nat} (h : PortOf scheme (some n)) (hrest : Ends rest) :
    portOf scheme (Nat.toDigits 10 n ++ rest) = .ok (some n, rest) := by
  obtain ⟨hsmall, hdefault⟩ := h n rfl
  have hdigits : ∀ c ∈ Nat.toDigits 10 n, Ascii.isDigit c := fun c hc =>
    Natural.isDigit_of_mem_toDigits hc
  have hstop : ∀ c ∈ rest.head?, Ascii.isDigit c = false := fun c hc =>
    isDigit_of_endsUser (hrest c hc)
  have hends : (rest.head?.map (endsUser true)).getD true = true := by
    cases rest with
    | nil => rfl
    | cons c rest => exact hrest c rfl
  have hread : (Nat.toDigits 10 n).foldl (fun n c => n * 10 + (c.toNat - '0'.toNat)) 0 = n :=
    Natural.ofDigits_toDigits n
  unfold portOf
  simp only [Text.takeWhile_append hdigits hstop, Text.dropWhile_append hdigits hstop, hread,
    hends]
  rw [if_neg (by simpa using hsmall), if_neg (not_or.2 ⟨Nat.toDigits_ne_nil, hdefault⟩)]

theorem hostAndPort_print (hspecial : isSpecial scheme) (hhost : host.Normal)
    (hport : PortOf scheme port) (hrest : Ends rest) :
    hostAndPort scheme (hostPort host port ++ rest) = .ok (host, port, rest) := by
  unfold hostAndPort
  cases port with
  | none =>
    have hchars :
        hostChars true false (hostPort host none ++ rest) = (host.print.toList, rest) := by
      rw [hostPort, Option.map_none, Option.getD_none, List.append_nil]
      exact hostChars_print hhost (.inr hrest)
    simp only [hspecial, hchars, Host.parse_print hhost, if_true, hhost.print_ne_nil, false_and,
      if_false]
    split
    · exact absurd (hrest _ rfl) (by decide)
    · rfl
  | some n =>
    have hchars : hostChars true false (hostPort host (some n) ++ rest) =
        (host.print.toList, ':' :: (Nat.toDigits 10 n ++ rest)) := by
      rw [hostPort, Option.map_some, Option.getD_some, List.append_assoc, List.cons_append]
      exact hostChars_print hhost (.inl rfl)
    simp only [hspecial, hchars, Host.parse_print hhost, if_true, hhost.print_ne_nil, false_and,
      if_false, portOf_toDigits hport hrest]
    rfl

theorem portOf_of_portOf (h : portOf scheme cs = .ok (port, rest)) : PortOf scheme port := by
  unfold portOf at h
  dsimp only at h
  split at h
  · cases h
  next hvalid =>
  obtain ⟨hsmall, -⟩ := not_or.1 hvalid
  split at h <;> cases h
  · exact fun n hn => nomatch hn
  · next hshown =>
    rintro n ⟨⟩
    exact ⟨Nat.not_lt.1 hsmall, (not_or.1 hshown).2⟩

/-- A host that is read is normal, and so is its port. -/
theorem normal_of_hostAndPort (hspecial : isSpecial scheme)
    (h : hostAndPort scheme cs = .ok (host, port, rest)) : host.Normal ∧ PortOf scheme port := by
  unfold hostAndPort at h
  simp only [hspecial, if_true] at h
  split at h
  · cases h
  split at h
  · cases h
  next parsed hparsed =>
  have hnormal := Host.normal_of_parse hparsed
  split at h
  · next digits _ =>
    cases hread : portOf scheme digits with
    | error e => rw [hread] at h; cases h
    | ok read =>
      rw [hread] at h
      cases h
      exact ⟨hnormal, portOf_of_portOf hread⟩
  · cases h
    exact ⟨hnormal, fun n hn => nomatch hn⟩

/-! ## Users -/

theorem splitUser_of_not_mem (h : '@' ∉ cs) : splitUser cs = none :=
  if_neg h

/-- A user ends at the last at sign. -/
theorem splitUser_append_cons (h : '@' ∉ back) :
    splitUser (front ++ '@' :: back) = some (front, back) := by
  have hback : ∀ c ∈ back.reverse, decide (c ≠ '@') = true := fun c hc =>
    decide_eq_true (ne_of_mem_of_not_mem (List.mem_reverse.1 hc) h)
  have hstop : ∀ c ∈ ('@' :: front.reverse).head?, decide (c ≠ '@') = false := by
    simp
  have hreverse : (front ++ '@' :: back).reverse = back.reverse ++ '@' :: front.reverse := by
    simp
  unfold splitUser
  rw [if_pos (by simp), hreverse, Text.takeWhile_append hback hstop,
    Text.dropWhile_append hback hstop, List.tail_cons, List.reverse_reverse, List.reverse_reverse]

namespace Authority

variable {a : Authority}

/-- An authority as reading gives it. -/
structure Normal (scheme : String) (a : Authority) : Prop where
  username : Kept .userinfo a.username.toList
  password : Kept .userinfo a.password.toList
  host : ∃ host, a.host = some host ∧ host.Normal
  port : PortOf scheme a.port

/-- A user as it stands before the at sign. -/
def user (a : Authority) : List Char :=
  a.username.toList ++ if a.password = "" then [] else ':' :: a.password.toList

theorem toList_print (hhost : a.host = some host) : a.print.toList =
    (if a.username = "" ∧ a.password = "" then [] else a.user ++ ['@']) ++
      hostPort host a.port := by
  have hport : ((a.port.map fun n => ":" ++ toString n).getD "").toList =
      (a.port.map fun n => ':' :: Nat.toDigits 10 n).getD [] := by
    cases a.port <;> simp
  have huser : (if a.username = "" ∧ a.password = "" then ""
      else a.username ++ (if a.password = "" then "" else ":" ++ a.password) ++ "@").toList =
      if a.username = "" ∧ a.password = "" then [] else a.user ++ ['@'] := by
    unfold user
    split
    · rfl
    · split <;> simp
  unfold print
  rw [hhost]
  dsimp only
  rw [String.toList_append, String.toList_append, hport, huser, List.append_assoc]
  rfl

theorem Normal.inside_user (h : a.Normal scheme) : ∀ c ∈ a.user, Inside c := by
  refine List.forall_mem_append.2 ⟨fun c hc => (inside_of_keeps (h.username c hc)).1, ?_⟩
  split
  · exact fun c hc => nomatch hc
  · exact List.forall_mem_cons.2 ⟨by decide, fun c hc => (inside_of_keeps (h.password c hc)).1⟩

/-- The first colon of a user is the one before the password. -/
theorem Normal.cutAt_user (h : a.Normal scheme) : ∃ password : Option (List Char),
    Text.cutAt ':' a.user = (a.username.toList, password) ∧
      password.getD [] = a.password.toList := by
  have hcolon : ':' ∉ a.username.toList := fun hmem =>
    (inside_of_keeps (h.username ':' hmem)).2 rfl
  unfold user
  split
  · next hempty =>
    rw [List.append_nil, Text.cutAt_of_not_mem hcolon, hempty]
    exact ⟨none, rfl, rfl⟩
  · exact ⟨some a.password.toList, Text.cutAt_append_cons hcolon _, rfl⟩

/-- No character that ends an authority stands in it. -/
theorem Normal.mem_print (h : a.Normal scheme) :
    ∀ c ∈ a.print.toList, ' ' < c ∧ endsUser true c = false := by
  obtain ⟨host, hhost, hnormal⟩ := h.host
  rw [toList_print hhost]
  refine List.forall_mem_append.2 ⟨?_, fun c hc =>
    ⟨(inside_hostPort hnormal _ c hc).1, (inside_hostPort hnormal _ c hc).2.1⟩⟩
  split
  · exact fun c hc => nomatch hc
  · exact List.forall_mem_append.2 ⟨fun c hc => ⟨(h.inside_user c hc).1, (h.inside_user c hc).2.1⟩,
      List.forall_mem_singleton.2 (by decide)⟩

theorem Normal.print_ne_nil (h : a.Normal scheme) : a.print.toList ≠ [] := by
  obtain ⟨host, hhost, hnormal⟩ := h.host
  rw [toList_print hhost]
  exact List.append_ne_nil_of_right_ne_nil _ (hostPort_ne_nil hnormal _)

end Authority

/-- An authority is read back from what is written for it. -/
theorem authorityOf_print {a : Authority} (hspecial : isSpecial scheme) (h : a.Normal scheme)
    (hrest : Ends rest) : authorityOf scheme (a.print.toList ++ rest) = .ok (a, rest) := by
  obtain ⟨host, hhost, hnormal⟩ := h.host
  have hinside : ∀ c ∈ a.print.toList, (!endsUser true c) = true := fun c hc => by
    rw [(h.mem_print c hc).2]
    rfl
  have hstop : ∀ c ∈ rest.head?, (!endsUser true c) = false := fun c hc => by
    rw [hrest c hc]
    rfl
  have hread := hostAndPort_print hspecial hnormal h.port hrest
  have hsign : '@' ∉ hostPort host a.port := fun hmem =>
    (inside_hostPort hnormal _ '@' hmem).2.2 rfl
  unfold authorityOf
  simp only [hspecial, Text.takeWhile_append hinside hstop, Text.dropWhile_append hinside hstop]
  have htext := Authority.toList_print hhost
  by_cases hanonymous : a.username = "" ∧ a.password = ""
  · rw [if_pos hanonymous, List.nil_append] at htext
    have hplain : ({ host := some host, port := a.port } : Authority) = a := by
      obtain ⟨username, password, _, port⟩ := a
      obtain ⟨rfl, rfl⟩ : username = "" ∧ password = "" := hanonymous
      rw [← hhost]
    rw [htext, splitUser_of_not_mem hsign]
    simp only [hread, Except.map, hplain]
  · rw [if_neg hanonymous, List.append_assoc, List.singleton_append] at htext
    obtain ⟨password, hcut, hpassword⟩ := h.cutAt_user
    have hnamed : ¬ (host = .domain "" ∧
        (a.username.toList ≠ [] ∨ a.password.toList ≠ [])) := fun hempty =>
      hnormal.print_ne_nil (hempty.1 ▸ rfl)
    have hshown : ¬ (a.user = [] ∧ hostPort host a.port = [] ∧ rest ≠ []) := fun hempty =>
      hostPort_ne_nil hnormal _ hempty.2.1
    rw [htext, splitUser_append_cons hsign]
    simp only [hcut, hread, hpassword, encode_of_kept h.username, encode_of_kept h.password,
      String.ofList_toList]
    rw [if_neg hshown, if_neg hnamed, ← hhost]

/-- Every authority that is read is normal. -/
theorem Authority.normal_of_authorityOf {a : Authority} (hspecial : isSpecial scheme)
    (h : authorityOf scheme cs = .ok (a, rest)) : a.Normal scheme := by
  unfold authorityOf at h
  simp only [hspecial] at h
  split at h
  · cases hread : hostAndPort scheme cs with
    | error e => rw [hread] at h; cases h
    | ok read =>
      rw [hread] at h
      cases h
      obtain ⟨hhost, hport⟩ := normal_of_hostAndPort hspecial hread
      have hnothing : Kept .userinfo "".toList := fun c hc => nomatch hc
      exact ⟨hnothing, hnothing, ⟨_, rfl, hhost⟩, hport⟩
  split at h
  · cases h
  split at h
  · cases h
  next host port more hread =>
  split at h
  · cases h
  cases h
  obtain ⟨hhost, hport⟩ := normal_of_hostAndPort hspecial hread
  have hkept (cs : List Char) : Kept .userinfo (String.ofList (encode .userinfo cs)).toList := by
    rw [String.toList_ofList]
    exact kept_encode .userinfo cs
  exact ⟨hkept _, hkept _, ⟨host, rfl, hhost⟩, hport⟩

end Courier.Url
