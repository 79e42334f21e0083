import HttpHandler.Operation.Extraction
import HttpHandler.Proofs.Extraction.Rejection
import HttpHandler.Proofs.Operation.Bridging
import HttpHandler.Proofs.Service.ErrorResponses

/-!
# Rejections are final

A rejected request is answered on the spot: the continuation does not run, and nothing behind the
extraction in a chain is looked at. A handler that surfaces the rejection instead is answered with the
same response, whether the service exposes its errors or not.
-/

namespace HttpHandler

variable {ε α : Type}

namespace Rejection

theorem own?_error (rejection : Rejection) :
    rejection.error.own? = some (400, rejection.message) := by
  obtain ⟨source, name, failure⟩ := rejection
  cases failure <;> rfl

theorem answeredStatus_error (rejection : Rejection) :
    rejection.error.answeredStatus = 400 := by
  rw [Error.answeredStatus, own?_error]

/-- A rejection is the client's fault, so that its message is answered whether errors are exposed or
not. -/
theorem answeredText_error (rejection : Rejection) (exposed : Bool) :
    rejection.error.answeredText exposed = rejection.message := by
  have rejected : ¬rejection.error.IsServerFault := by
    rw [Error.IsServerFault, answeredStatus_error]
    decide
  rw [Error.answeredText_of_not_serverFault rejected, Error.answeredText_false, own?_error]

theorem ofError_error (rejection : Rejection) :
    Response.ofError rejection.error = .plainText 400 rejection.message := by
  rw [Error.ofError_eq_plainText, answeredStatus_error, answeredText_error]

end Rejection

namespace Request

open Operation Operand

/-- Extraction whose failure is raised instead of answered. -/
def extractOrRaise (request : Request) (extractor : Extractor α) (f : α → Build ε (Operation ε)) :
    Build ε (Operation ε) :=
  Build.ofReports (extractor request) >>= orRaise f

/-- The handler of a block whose operation stands in a chain. -/
def handlerWithin (before : List (Operation ε)) (block : Request → Build ε (Operation ε))
    (fallbacks : List (Operation ε)) : Handler ε :=
  handler fun request => (within before · fallbacks) <$> block request

theorem extract_of_rejected {request : Request} {extractor : Extractor α} {rejection : Rejection}
    (rejected : extractor request = ⟨.error rejection.error, [rejection.entry]⟩)
    (f : α → Build ε (Operation ε)) :
    request.extract extractor f =
      ⟨.answer (.plainText 400 rejection.message), [.log rejection.entry]⟩ := by
  rw [extract, rejected, ← rejection.ofError_error]
  rfl

theorem extractOrRaise_of_rejected {request : Request} {extractor : Extractor α}
    {rejection : Rejection}
    (rejected : extractor request = ⟨.error rejection.error, [rejection.entry]⟩)
    (f : α → Build ε (Operation ε)) :
    request.extractOrRaise extractor f =
      ⟨.raise (.library rejection.error), [.log rejection.entry]⟩ := by
  rw [extractOrRaise, rejected]
  rfl

/-- A failed extraction is the answer of the first descriptor that fails. The continuation has no part
in it and neither have the operations behind, and those in front do what they do on being passed over.
A service answers alike when the handler raises the error instead. -/
theorem extract_rejected_is_final {extractor : Extractor α} {descriptors : List AnyDescriptor}
    (reads : extractor.Reads descriptors) {request : Request} {error : Error}
    (failed : (extractor request).value = .error error) (f : α → Build ε (Operation ε))
    {before : List (Operation ε)} (giveWay : ∀ operation ∈ before, operation.GivesWay)
    (fallbacks : List (Operation ε)) :
    ∃ rejection, firstRejection? descriptors request = some rejection ∧ error = rejection.error ∧
      request.extract extractor f =
        ⟨.answer (.plainText 400 rejection.message), [.log rejection.entry]⟩ ∧
      (within before (request.extract extractor f).value fallbacks).resolve =
        ⟨.ok (.plainText 400 rejection.message), (before.flatMap operands).flatMap passing⟩ ∧
      ∀ exposed,
        (Service.dispatch ⟨handlerWithin before (·.extract extractor f) fallbacks, exposed⟩
            request).value = .plainText 400 rejection.message ∧
        (Service.dispatch ⟨handlerWithin before (·.extractOrRaise extractor f) fallbacks, exposed⟩
            request).value = .plainText 400 rejection.message := by
  obtain ⟨rejection, first, same, rejected⟩ := reads.exists_rejection failed
  -- Answered or raised, the rejection is a terminating operation: what gives way in front of it is
  -- passed over and what stands behind it is dropped.
  have answered := extract_of_rejected rejected f
  have resolved : (within before (request.extract extractor f).value fallbacks).resolve =
      ⟨.ok (.plainText 400 rejection.message), (before.flatMap operands).flatMap passing⟩ := by
    have passed := resolve_within_terminating
      (pure (.ok (.plainText 400 rejection.message))) giveWay fallbacks
    rw [answered]
    exact passed.trans (Traced.ext rfl (List.append_nil _))
  have surfaced : (within before (request.extractOrRaise extractor f).value fallbacks).resolve.value =
      .error rejection.error := by
    have passed := resolve_within_terminating (pure (.error rejection.error)) giveWay fallbacks
    rw [extractOrRaise_of_rejected rejected f]
    exact congrArg Traced.value passed
  refine ⟨rejection, first, same, answered, resolved, fun exposed => ⟨?_, ?_⟩⟩
  · let service : Service ε := ⟨handlerWithin before (·.extract extractor f) fallbacks, exposed⟩
    have handled : (service.handler request).value = .ok (.plainText 400 rejection.message) :=
      congrArg Traced.value resolved
    exact congrArg Traced.value (Service.dispatch_of_ok handled)
  · let service : Service ε :=
      ⟨handlerWithin before (·.extractOrRaise extractor f) fallbacks, exposed⟩
    have failing : (service.handler request).value = .error rejection.error := surfaced
    have dispatched := congrArg Traced.value (Service.dispatch_of_error failing)
    rw [rejection.answeredStatus_error, rejection.answeredText_error] at dispatched
    exact dispatched

/-- Of two descriptors the first finds its value and the second one that does not convert. -/
theorem extract_rejected_is_final_second :
    let request : Request := ⟨"GET", ⟨"/users/seven", some "q=x"⟩, .empty, [], [("id", "seven")]⟩
    let query := Descriptor.queryParameter .text "q"
    let user := Descriptor.pathVariable (.integer .int) "id"
    let extractor := query.extract.both user.extract
    let error : Error := .badRequestBecause "Failed to parse path variable id."
      (.foreign "invalid digit found in string")
    let f : String × Int → Build String (Operation String) := fun _ => ⟨.notFound, [.effect "run"]⟩
    let before : List (Operation String) := [.empty (.new Status.ok)]
    extractor.Reads [⟨query⟩, ⟨user⟩] ∧ (extractor request).value = .error error ∧
      (within before (request.extract extractor f).value [.notFound]).resolve =
        ⟨.ok (.plainText 400 "Failed to parse path variable id."), [.event (.log .passedOver)]⟩ := by
  intro request query user extractor error f before
  have reads : extractor.Reads [⟨query⟩, ⟨user⟩] := .both (.single query) (.single user)
  have failed : (extractor request).value = .error error := rfl
  have giveWay : ∀ operation ∈ before, operation.GivesWay :=
    List.forall_mem_singleton.mpr (givesWay_empty _)
  have unread : firstRejection? [⟨query⟩, ⟨user⟩] request =
      some ⟨.pathVariable, "id", .invalid (.foreign "invalid digit found in string")⟩ := rfl
  obtain ⟨rejection, first, _, _, resolved, _⟩ :=
    extract_rejected_is_final reads failed f giveWay [.notFound]
  have same : rejection = ⟨.pathVariable, "id", .invalid (.foreign "invalid digit found in string")⟩ :=
    Option.some.inj (first.symm.trans unread)
  subst same
  exact ⟨reads, failed, resolved⟩

end Request

end HttpHandler
