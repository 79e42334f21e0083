import HttpHandler.Operation.Answers
import HttpHandler.Operation.Extraction
import HttpHandler.Proofs.Operation.Chains
import HttpHandler.Proofs.Service.ErrorResponses

/-!
# What handlers do

The effects of a handler are those of its code and of the operations it resolves. Extracting, reading the
body and answering errors have none of their own, whatever they report.
-/

namespace HttpHandler

variable {ε α β φ : Type}

namespace Task

def effects (task : Task ε α) : List ε := Event.effects (Action.events task.trace)

end Task

namespace Service

end Service

theorem Operation.resolve_answer (response : Response) :
    (answer response : Operation ε).resolve = pure (.ok response) :=
  resolve_terminating _

theorem handler_extract (extractor : Extractor α) (f : α → Build ε (Operation ε))
    (request : Request) :
    handler (fun request => request.extract extractor f) request =
      (Build.ofReports (extractor request)).toTask >>= fun
        | .ok value => (f value).toTask >>= Operation.resolve
        | .error error => pure (.ok (Response.ofError error)) := by
  rw [handler, Request.extract]
  cases found : (extractor request).value with
  | ok value => apply Traced.ext <;> simp [Build.toTask, Build.ofReports, found]
  | error error =>
      apply Traced.ext <;> simp [Build.toTask, Build.ofReports, found, Operation.resolve_answer]

namespace Request

/-- A body that is there and well-formed is handed on, and the fallbacks are those of the operation that
comes of it. Otherwise the client is told what is wrong, whatever the fallbacks are. -/
theorem resolve_orAll_requireBody (request : Request) (decoder : Json.Decoder α)
    (f : α → Build ε (Operation ε)) (fallbacks : List (Operation ε)) :
    ((request.requireBody decoder f).orAll fallbacks).resolve =
      match request.decodedBody decoder with
      | .ok (some value) =>
        (f value).toTask >>= fun operation => (operation.orAll fallbacks).resolve
      | .ok none => pure (.ok (Response.ofError (.badRequest missingBodyMessage)))
      | .error error => pure (.ok (Response.ofError error)) := by
  have answered (response : Response) :
      ((Operation.answer response : Operation ε).orAll fallbacks).resolve = pure (.ok response) :=
    Operation.resolve_orAll_terminating _ fallbacks
  rw [requireBody, Operation.resolve_orAll_nested]
  match decoded : request.decodedBody decoder with
  | .ok (some value) => apply Traced.ext <;> simp [Task.onOk, bodyValue, Task.ready, decoded]
  | .ok none => apply Traced.ext <;> simp [Task.onOk, bodyValue, Task.ready, decoded, answered]
  | .error error => apply Traced.ext <;> simp [Task.onOk, bodyValue, Task.ready, decoded, answered]

end Request

end HttpHandler
