import HttpHandler.Proofs.Descriptor.Occurrences
import HttpHandler.Proofs.Extraction.Finality

/-!
# Rejected values stay with the server

A client whose value does not convert is told which value that was, and nothing of what it was or of
what is wrong with it. Two requests that a descriptor rejects so are answered with the same response,
on the spot, by a service whose handler answers, and by one whose handler raises the rejection, whether
errors are exposed or not.
-/

namespace HttpHandler

variable {ε α β : Type} {shape : Shape}

namespace Request

open Operation

variable {request : Request} {extractor : Extractor α} {rejection : Rejection}
  (rejected : extractor request = ⟨.error rejection.error, [rejection.entry]⟩)
  (f : α → Build ε (Operation ε)) (exposed : Bool)

include rejected

theorem resolve_extract_of_rejected :
    (request.extract extractor f).value.resolve.value =
      .ok (.plainText 400 rejection.message) := by
  rw [extract_of_rejected rejected f]
  exact congrArg Traced.value (resolve_terminating _)

theorem dispatch_extract_of_rejected :
    (Service.dispatch ⟨handler (·.extract extractor f), exposed⟩ request).value =
      .plainText 400 rejection.message := by
  let service : Service ε := ⟨handler (·.extract extractor f), exposed⟩
  have handled : (service.handler request).value = .ok (.plainText 400 rejection.message) :=
    resolve_extract_of_rejected rejected f
  exact congrArg Traced.value (Service.dispatch_of_ok handled)

/-- A rejection that is raised has the service answer in place of the operation. It is no server's
fault, so that exposing errors adds nothing to its message. -/
theorem dispatch_extractOrRaise_of_rejected :
    (Service.dispatch ⟨handler (·.extractOrRaise extractor f), exposed⟩ request).value =
      .plainText 400 rejection.message := by
  let service : Service ε := ⟨handler (·.extractOrRaise extractor f), exposed⟩
  have surfaced : (service.handler request).value = .error rejection.error := by
    have raised : ((request.extractOrRaise extractor f).value.resolve).value =
        .error rejection.error := by
      rw [extractOrRaise_of_rejected rejected f]
      exact congrArg Traced.value (resolve_terminating _)
    exact raised
  have dispatched := congrArg Traced.value (Service.dispatch_of_error surfaced)
  rw [rejection.answeredStatus_error, rejection.answeredText_error] at dispatched
  exact dispatched

end Request

namespace Descriptor

/-- What a client receives for a value that does not convert, on each way that the failure may take. -/
theorem answered_of_invalid (descriptor : Descriptor β shape) {request : Request} {cause : Cause}
    (failed : descriptor.extract request = descriptor.invalid cause)
    (f : shape.Of β → Build ε (Operation ε)) :
    let rejection : Rejection := ⟨descriptor.source, descriptor.name, .invalid cause⟩
    let response : Response := .plainText 400 rejection.message
    (request.extractValue descriptor f).value.resolve.value = .ok response ∧ ∀ exposed,
      (Service.dispatch ⟨handler (·.extractValue descriptor f), exposed⟩ request).value = response ∧
      (Service.dispatch ⟨handler (·.extractOrRaise descriptor.extract f), exposed⟩ request).value =
        response := by
  intro rejection response
  have rejected : descriptor.extract request = ⟨.error rejection.error, [rejection.entry]⟩ := failed
  exact ⟨Request.resolve_extract_of_rejected rejected f, fun exposed =>
    ⟨Request.dispatch_extract_of_rejected rejected f exposed,
      Request.dispatch_extractOrRaise_of_rejected rejected f exposed⟩⟩

/-- The answer to a value that does not convert depends on the descriptor alone. For any two requests
that it rejects so, whatever their values and the causes, the operations resolve to one response, and
services answer with it too, of errors that are answered on the spot and of errors that are raised. -/
theorem invalid_answered_alike (descriptor : Descriptor β shape) {request other : Request}
    {cause otherCause : Cause} (failed : descriptor.extract request = descriptor.invalid cause)
    (otherFailed : descriptor.extract other = descriptor.invalid otherCause)
    (f g : shape.Of β → Build ε (Operation ε)) :
    ∃ response : Response,
      (request.extractValue descriptor f).value.resolve.value = .ok response ∧
      (other.extractValue descriptor g).value.resolve.value = .ok response ∧
      ∀ exposed,
        (Service.dispatch ⟨handler (·.extractValue descriptor f), exposed⟩ request).value =
            response ∧
          (Service.dispatch ⟨handler (·.extractValue descriptor g), exposed⟩ other).value =
            response ∧
          (Service.dispatch ⟨handler (·.extractOrRaise descriptor.extract f), exposed⟩
            request).value = response ∧
          (Service.dispatch ⟨handler (·.extractOrRaise descriptor.extract g), exposed⟩
            other).value = response := by
  obtain ⟨resolved, dispatched⟩ := descriptor.answered_of_invalid failed f
  obtain ⟨otherResolved, otherDispatched⟩ := descriptor.answered_of_invalid otherFailed g
  -- The message is made of the source and the name, so that the two responses are one.
  refine ⟨_, resolved, otherResolved, fun exposed => ?_⟩
  obtain ⟨answered, raised⟩ := dispatched exposed
  obtain ⟨otherAnswered, otherRaised⟩ := otherDispatched exposed
  exact ⟨answered, otherAnswered, raised, otherRaised⟩

/-- A list whose second element is unknown, and one that breaks off at its first. The causes quote what
was sent, and a client cannot tell the two requests apart. -/
theorem invalid_answered_alike_quoted :
    let kinds : Enumeration := .plain ["BOOKS", "MUSIC"]
    let shelf : Descriptor String .many := (queryParameter (.variant kinds) "shelf").csv
    let request : String → Request := fun query => ⟨"GET", ⟨"/", some query⟩, .empty, [], []⟩
    let unknown : Cause := .foreign "unknown variant `hunter2`, expected `BOOKS` or `MUSIC`"
    let otherUnknown : Cause := .foreign "unknown variant `s3cret`, expected `BOOKS` or `MUSIC`"
    let run : List String → Build Unit (Operation Unit) := fun _ => pure .notFound
    shelf.extract (request "shelf=BOOKS,hunter2") = shelf.invalid unknown ∧
      shelf.extract (request "shelf=s3cret") = shelf.invalid otherUnknown ∧
      ((request "shelf=BOOKS,hunter2").extractValue shelf run).value.resolve.value =
        ((request "shelf=s3cret").extractValue shelf run).value.resolve.value ∧
      (Service.dispatch ⟨handler (·.extractOrRaise shelf.extract run), true⟩
          (request "shelf=BOOKS,hunter2")).value =
        (Service.dispatch ⟨handler (·.extractValue shelf run), false⟩
          (request "shelf=s3cret")).value := by
  intro kinds shelf request unknown otherUnknown run
  have occurs : (request "shelf=BOOKS,hunter2").queryValues? "shelf" = some ["BOOKS,hunter2"] := by
    decide
  have otherOccurs : (request "shelf=s3cret").queryValues? "shelf" = some ["s3cret"] := by decide
  have pieces : shelf.reading.pieces "BOOKS,hunter2" [] = ["BOOKS", "hunter2"] := by decide
  have otherPieces : shelf.reading.pieces "s3cret" [] = ["s3cret"] := by decide
  have known : shelf.reading.element "BOOKS" = .ok "BOOKS" := rfl
  have message : "unknown variant " ++ Enumeration.quoted "hunter2" ++ ", " ++ kinds.expectation =
      "unknown variant `hunter2`, expected `BOOKS` or `MUSIC`" := by decide
  have otherMessage : "unknown variant " ++ Enumeration.quoted "s3cret" ++ ", " ++
      kinds.expectation = "unknown variant `s3cret`, expected `BOOKS` or `MUSIC`" := by decide
  have quoted : shelf.reading.element "hunter2" = .error unknown :=
    congrArg (fun text => Except.error (Cause.foreign text)) message
  have otherQuoted : shelf.reading.element "s3cret" = .error otherUnknown :=
    congrArg (fun text => Except.error (Cause.foreign text)) otherMessage
  have failed : shelf.extract (request "shelf=BOOKS,hunter2") = shelf.invalid unknown := by
    rw [extract_eq_invalid_iff, shelf.read_eq_gather rfl occurs pieces, Shape.gather,
      Reading.convertAll_of_ok known, Reading.convertAll_of_error quoted]
    rfl
  have otherFailed : shelf.extract (request "shelf=s3cret") = shelf.invalid otherUnknown := by
    rw [extract_eq_invalid_iff, shelf.read_eq_gather rfl otherOccurs otherPieces, Shape.gather,
      Reading.convertAll_of_error otherQuoted]
  obtain ⟨response, resolved, otherResolved, dispatched⟩ :=
    shelf.invalid_answered_alike failed otherFailed run run
  obtain ⟨-, -, raised, -⟩ := dispatched true
  obtain ⟨-, answered, -, -⟩ := dispatched false
  exact ⟨failed, otherFailed, resolved.trans otherResolved.symm, raised.trans answered.symm⟩

end Descriptor

end HttpHandler
