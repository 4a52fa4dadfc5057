import Courier.Call.Exec

/-!
# What a call for a value answers

A call whose response has come is to answer with the value that the response holds
(`Response.Holds`), or else with a status failure that says which call it was, what came from where,
and that it does not decode (`Client.Reports`). It does (`Client.Settles`), for every shape, content
type and body, except where there is no content and the shape takes no null : there the failure to
decode comes bare, with nothing about the call (`Client.exec_settles_iff`).
-/

namespace Courier

/-! ## Values of responses -/

/-- Whether a shape takes null. -/
def Shape.takesNull : Shape → Bool
  | .any | .unit | .optional _ => true
  | _ => false

/-- Null has each shape that takes it, and no other. -/
theorem Shape.ofNull_eq (shape : Shape) :
    shape.ofNull = if shape.takesNull then .ok .null else .error (.null shape.expected) := by
  cases shape <;> rfl

/-- The value that a response with a body holds in a shape. No content stands for null. -/
inductive Response.Holds (response : Response) (shape : Shape) (data : Bytes) : Json → Prop
  | empty (hstatus : response.status = Status.noContent) (hnull : shape.takesNull) :
      Holds response shape data .null
  | decoded {v : Json} (hstatus : response.status ≠ Status.noContent)
      (hdecode : Codec.decode response.contentType shape data = .ok v) :
      Holds response shape data v

/-! ## Answers -/

namespace Client

variable {σ : Type} (client : Client σ) (id : Nat) (method : String) (response : Response)
  (shape : Shape) (data : Bytes)

/-- What the failure of a call tells about a response that does not decode. The body is part of it
exactly if the call is traced. -/
structure Reports (e : StatusFailure) : Prop where
  id_eq : e.id = id
  status_eq : e.status = response.status
  method_eq : e.method = method
  url_eq : e.url = (response.url.map Url.print).getD ""
  text_eq : ∃ reason, e.text = "could not unmarshal response: " ++ reason
  cause_eq : e.cause = none
  entity_eq : e.entity = if response.url.any client.traces then some ⟨response.contentType, data⟩
    else none

/-- A call for a value answers with the value of the response, or reports that it has none. -/
inductive Settles : Answer Failure Json → Prop
  | value {v : Json} (h : response.Holds shape data v) : Settles (.ok v)
  | report {e : StatusFailure} (hnone : ∀ v, ¬response.Holds shape data v)
      (h : client.Reports id method response data e) : Settles (.fail (.status e))

variable {client id method response shape data}

theorem decodeFailure_reports (fault : Failure) (now : Instant) : ∃ e,
    client.decodeFailure id method response ⟨response.contentType, data⟩ fault now = .status e ∧
      client.Reports id method response data e := by
  refine ⟨_, rfl, rfl, rfl, rfl, rfl, ⟨_, rfl⟩, rfl, ?_⟩
  cases response.url <;> rfl

/-- A response with content is decoded, or it is reported that it does not. -/
theorem settles_of_content (hbody : response.body = some data)
    (hstatus : response.status ≠ Status.noContent) (now : Instant) :
    client.Settles id method response shape data
      (.ofExcept (client.decode id method shape response now)) := by
  have hentity : response.entity? = some ⟨response.contentType, data⟩ := by
    rw [Response.entity?, hbody]
    rfl
  rw [decode, if_neg hstatus, hentity]
  dsimp only
  cases hdecode : Codec.decode response.contentType shape data with
  | ok v => exact .value (.decoded hstatus hdecode)
  | error fault =>
    obtain ⟨e, he, hreports⟩ := decodeFailure_reports (.ofDecode fault) now
    have hfail : Answer.ofExcept ((.error fault : Except Codec.DecodeFault Json).mapError
        fun fault => client.decodeFailure id method response ⟨response.contentType, data⟩
          (.ofDecode fault) now) = .fail (.status e) := congrArg Answer.fail he
    rw [hfail]
    refine .report (fun v hv => ?_) hreports
    cases hv with
    | empty hempty => exact hstatus hempty
    | decoded _ hvalue => cases hdecode.symm.trans hvalue

theorem decode_of_empty (hstatus : response.status = Status.noContent) (now : Instant) :
    client.decode id method shape response now =
      if shape.takesNull then .ok .null
      else .error (.unmarshal ("invalid type: null, expected " ++ shape.expected)) := by
  rw [decode, if_pos hstatus, Response.value, if_pos (show response.status = 204 from hstatus),
    Shape.ofNull_eq]
  split <;> rfl

/-- A failure to decode that is not a status failure settles nothing. -/
theorem not_settles_unmarshal (reason : String) :
    ¬client.Settles id method response shape data (.fail (.unmarshal reason)) := by
  generalize hresult : (.fail (.unmarshal reason) : Answer Failure Json) = result
  rintro (h | ⟨h, -⟩) <;> cases hresult

variable {request : Request} {s s' : Scene σ}

/-- A call whose response has a readable body answers with its value or reports that it has none,
exactly where it has content or the shape takes null. Elsewhere it fails to decode and tells nothing
of the call. -/
theorem exec_settles_iff (hrun : client.run id request none s = (some (.ok response), s'))
    (hbody : response.body = some data) (shape : Shape) :
    ∃ result, client.exec id request shape s = (some result, s') ∧
      (client.Settles id request.method response shape data result ↔
        (response.status = Status.noContent → shape.takesNull)) ∧
      (response.status = Status.noContent → ¬shape.takesNull →
        result = .fail (.unmarshal ("invalid type: null, expected " ++ shape.expected))) := by
  refine ⟨.ofExcept (client.decode id request.method shape response s'.clock.now), ?_, ?_, ?_⟩
  · rw [exec, hrun]
  · by_cases hstatus : response.status = Status.noContent
    · rw [decode_of_empty hstatus]
      by_cases hnull : shape.takesNull
      · rw [if_pos hnull]
        exact iff_of_true (.value (.empty hstatus hnull)) fun _ => hnull
      · rw [if_neg hnull]
        exact iff_of_false (not_settles_unmarshal _) fun h => hnull (h hstatus)
    · exact iff_of_true (settles_of_content hbody hstatus _) fun h => absurd h hstatus
  · intro hstatus hnull
    rw [decode_of_empty hstatus, if_neg hnull]
    rfl

/-- A client that always gets the same response. -/
def answered (response : Response) : Client Unit where
  base := none
  transport := fun _ _ w => (⟨0, .ok response⟩, w)
  retryStatuses := []
  backoff := 0
  headers := {}
  contentType := ""
  tracing := {}

/-- Content of no type that has a codec is reported. -/
theorem exec_settles_untyped :
    let s : Scene Unit := { clock := ⟨0, 0⟩, world := () }
    let request : Request := { target := "mem:a" }
    let response : Response := ⟨200, none, {}, some [0x78], none⟩
    ∃ result s', (answered response).exec 0 request (.unsigned 64) s = (some result, s') ∧
      (answered response).Settles 0 "GET" response (.unsigned 64) [0x78] result := by
  have hrun : ((answered ⟨200, none, {}, some [0x78], none⟩).run 0 { target := "mem:a" } none
      { clock := ⟨0, 0⟩, world := () }).1 = some (.ok ⟨200, none, {}, some [0x78], none⟩) := rfl
  obtain ⟨result, hresult, hsettles, -⟩ := exec_settles_iff (Prod.ext hrun rfl) rfl (.unsigned 64)
  exact ⟨result, _, hresult, hsettles.2 fun hempty => absurd hempty (by decide)⟩

/-- Where no content is to be a number, the failure is bare, though the call succeeded. -/
theorem exec_empty_bare :
    let s : Scene Unit := { clock := ⟨0, 0⟩, world := () }
    let request : Request := { target := "mem:a" }
    let response : Response := ⟨204, none, {}, some [], none⟩
    let shape : Shape := .unsigned 64
    ((answered response).run 0 request none s).1 = some (.ok response) ∧
      ((answered response).exec 0 request shape s).1 =
        some (.fail (.unmarshal "invalid type: null, expected u64")) ∧
      ¬(answered response).Settles 0 "GET" response shape []
        (.fail (.unmarshal "invalid type: null, expected u64")) :=
  ⟨by rfl, by rfl, not_settles_unmarshal _⟩

end Client

end Courier
