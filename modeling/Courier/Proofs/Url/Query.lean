import Courier.Proofs.Form.RoundTrip
import Courier.Url

/-!
# Parameters show in a URL

A URL with parameters in its query shows them : two lists of parameters, added to one URL, give the
same text only if they are the same (`Url.print_appendPairs_inj`). Parameters are read back from the
form that is written for them, so their form is part of the text and tells which they are.
-/

namespace Courier

theorem Form.print_inj {pairs pairs' : Pairs} (h : print pairs = print pairs') :
    pairs = pairs' := by
  rw [← decode_print pairs, h, decode_print]

namespace Url

theorem ne_append_amp (present added : String) : present ≠ present ++ "&" ++ added := by
  intro h
  have hlength := congrArg String.length h
  simp only [String.length_append] at hlength
  have hamp : "&".length = 1 := rfl
  omega

/-- A URL with parameters in its query shows them. -/
theorem print_appendPairs_inj {u : Url} {pairs pairs' : Form.Pairs}
    (h : (u.appendPairs pairs).print = (u.appendPairs pairs').print) : pairs = pairs' := by
  refine Form.print_inj ?_
  have hprint (pairs : Form.Pairs) : (u.appendPairs pairs).print =
      u.front ++ u.pathText ++ ("?" ++ (u.appendPairs pairs).query.getD "") ++
        (u.fragment.map ("#" ++ ·)).getD "" := rfl
  rw [hprint, hprint, String.append_left_inj, String.append_right_inj, String.append_right_inj] at h
  simp only [appendPairs, Option.getD_some] at h
  by_cases hpresent : u.query.getD "" = ""
  · rwa [if_pos hpresent, if_pos hpresent] at h
  · rw [if_neg hpresent, if_neg hpresent] at h
    split at h <;> split at h
    · next hempty hempty' => rw [hempty, hempty']
    · exact absurd h (ne_append_amp _ _)
    · exact absurd h.symm (ne_append_amp _ _)
    · exact String.append_right_inj _ |>.1 h

end Url

end Courier
