import Courier.Request
import Courier.Crash

/-!
# Producers

A producer gives the requests of a batch one after the other, by index, until it has none
left or fails.
-/

namespace Courier

/-- Something that gives a request for an index, or none at its end. -/
abbrev Producer (σ : Type) := Nat → σ → Answer Failure (Option Request) × σ

namespace Producer

variable {σ : Type}

/-- The producer of the requests of a list. -/
def ofList (requests : List Request) : Producer σ := fun index s =>
  (.ok requests[index]?, s)

/-- The producer of requests with one method for several URLs. -/
def ofUrls (method : String) (urls : List String) : Producer σ := fun index s =>
  (.ok (urls[index]?.map fun target => { method, target }), s)

/-- The producer of requests for several URLs, for diagnostics. -/
def describeUrls (method : String) (urls : List String) : String :=
  Text.record "UrlRequestProducer"
    [("method", method), ("urls", Text.list (urls.map Text.quoted))]

end Producer

end Courier
