import Courier.Proofs.Form.RoundTrip
import Courier.Proofs.Url.RoundTrip
import Courier.Request

/-!
# Parameters replace a query

What is written for a form needs no encoding in a query (`Form.kept_encode`), so it stands there as
it is and pairs are read back from it. A URL with a host that is given parameters differs from what
it was in its query only, and the text of it is read as that URL, so parameters that are given
later leave nothing of the earlier ones (`Url.withParams_replaces`).
-/

namespace Courier

namespace Form

theorem kept_encodeByte (b : UInt8) : Url.Kept .specialQuery (encodeByte b) := by
  have hall : (encodeByte b).all Url.Part.specialQuery.keeps := by
    refine Utf8.forall_byte ?_ b
    decide +kernel
  exact List.all_eq_true.1 hall

theorem kept_encodePair (pair : String × String) : Url.Kept .specialQuery (encodePair pair) := by
  have htext (s : String) : Url.Kept .specialQuery (encodeText s) := fun c hc =>
    let ⟨b, _, hb⟩ := List.mem_flatMap.1 hc
    kept_encodeByte b c hb
  exact List.forall_mem_append.2
    ⟨htext pair.1, List.forall_mem_cons.2 ⟨by decide, htext pair.2⟩⟩

/-- What is written for a form needs no encoding in a query. -/
theorem kept_encode (pairs : Pairs) : Url.Kept .specialQuery (encode pairs) := by
  induction pairs with
  | nil => exact fun c hc => nomatch hc
  | cons pair pairs ih =>
    cases pairs with
    | nil => exact kept_encodePair pair
    | cons next pairs =>
      exact List.forall_mem_append.2
        ⟨kept_encodePair pair, List.forall_mem_cons.2 ⟨by decide, ih⟩⟩

/-- The query that pairs make, which is none for no pairs. -/
def query (pairs : Pairs) : Option String :=
  if pairs = [] then none else some (print pairs)

theorem kept_query (pairs : Pairs) : ∀ q ∈ query pairs, Url.Kept .specialQuery q.toList := by
  intro q hq
  unfold query at hq
  split at hq
  · cases hq
  · obtain rfl := Option.some.inj hq
    rw [print, String.toList_ofList]
    exact kept_encode pairs

theorem decode_query (pairs : Pairs) :
    decode (Utf8.encode ((query pairs).getD "")) = pairs := by
  unfold query
  split
  · next hempty =>
    rw [hempty]
    rfl
  · exact decode_print pairs

end Form

namespace Url

variable {s : String} {u : Url} {query : Option String}

/-- A query that needs no encoding stands in a normal URL as it is. -/
theorem Normal.withQuery_eq (h : u.Normal) (hquery : ∀ q ∈ query, Kept .specialQuery q.toList) :
    u.withQuery query = { u with query } := by
  obtain ⟨list, hpath, -⟩ := h.path.exists_segments
  have hend : u.path.atEnd = u.path := by
    rw [hpath]
    rfl
  have hwritten : query.map (fun q => String.ofList (encode (queryPart u.scheme)
      (q.toList.filter fun c => c ≠ '\t' ∧ c ≠ '\n' ∧ c ≠ '\x0d'))) = query := by
    cases query with
    | none => rfl
    | some q =>
      have hq : Kept .specialQuery q.toList := hquery q rfl
      have hbreak : ∀ c ∈ q.toList, decide (c ≠ '\t' ∧ c ≠ '\n' ∧ c ≠ '\x0d') = true := fun c hc =>
        decide_eq_true ⟨ne_of_keeps (hq c hc) (by decide), ne_of_keeps (hq c hc) (by decide),
          ne_of_keeps (hq c hc) (by decide)⟩
      rw [Option.map_some, List.filter_eq_self.2 hbreak, queryPart_of_special h.hosted.special,
        encode_of_kept hq, String.ofList_toList]
  simp only [withQuery, hend, ite_self, hwritten]

theorem withParams_of_parse (h : parse s = .ok u) (pairs : Form.Pairs) :
    withParams s (Form.datum pairs) = .ok (u.withQuery (Form.query pairs)).print := by
  unfold withParams
  rw [h]
  dsimp only
  rw [Form.ofDatum_datum]
  rfl

/-- Parameters for a URL of the web make the text of a URL that differs from it in its query only,
which is what is written for them and which is not there without any. They are read back from the
query, and parameters that are given to the new URL replace them. -/
theorem withParams_replaces (h : parse s = .ok u) (hscheme : u.scheme = "http" ∨ u.scheme = "https")
    (pairs later : Form.Pairs) :
    ∃ v, withParams s (Form.datum pairs) = .ok v.print ∧ parse v.print = .ok v ∧
      v = { u with query := if pairs = [] then none else some (Form.print pairs) } ∧
      Form.decode (Utf8.encode (v.query.getD "")) = pairs ∧
      withParams v.print (Form.datum later) = withParams s (Form.datum later) := by
  have hosted : Hosted u.scheme := by
    obtain hscheme | hscheme := hscheme <;> rw [hscheme] <;> exact ⟨by decide, by decide⟩
  have hu : u.Normal := normal_of_parse h hosted
  have hreplaced (pairs : Form.Pairs) :
      u.withQuery (Form.query pairs) = { u with query := Form.query pairs } :=
    hu.withQuery_eq (Form.kept_query pairs)
  have hv : Normal { u with query := Form.query pairs } := hu.replaceQuery (Form.kept_query pairs)
  refine ⟨{ u with query := Form.query pairs }, ?_, parse_print hv, rfl,
    Form.decode_query pairs, ?_⟩
  · rw [withParams_of_parse h, hreplaced]
  · rw [withParams_of_parse (parse_print hv), withParams_of_parse h, hreplaced,
      hv.withQuery_eq (Form.kept_query later)]

/-- The old query goes and the fragment stays, whatever signs the parameters hold. -/
theorem withParams_replaces_signs :
    let s := "https://me:pw@Example.com:8443/a/../b?old=1#top"
    let pairs : Form.Pairs := [("q&=", "1+2 é"), ("", "")]
    let later : Form.Pairs := [("page", "2")]
    ∃ v, withParams s (Form.datum pairs) = .ok v.print ∧
      v.print = "https://me:pw@example.com:8443/b?q%26%3D=1%2B2+%C3%A9&=#top" ∧
      parse v.print = .ok v ∧ Form.decode (Utf8.encode (v.query.getD "")) = pairs ∧
      withParams v.print (Form.datum later) = withParams s (Form.datum later) := by
  intro s pairs later
  have hparse : parse s = .ok
      { scheme := "https"
        authority := some
          { username := "me", password := "pw", host := some (.domain "example.com")
            port := some 8443 }
        path := .segments ["b"]
        query := some "old=1"
        fragment := some "top" } := by
    decide +kernel
  obtain ⟨v, hparams, hread, hv, hback, hlater⟩ :=
    withParams_replaces hparse (.inr rfl) pairs later
  refine ⟨v, hparams, ?_, hread, hback, hlater⟩
  rw [hv]
  decide +kernel

end Url

end Courier
