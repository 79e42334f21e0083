import HttpHandler.Traced
import HttpHandler.Log
import HttpHandler.Request

/-!
# Extractors

An extractor pulls a typed value out of a request, or fails with an error, and reports the failure.
Several extractors make one that yields all their values; it stops at the first that fails.
-/

namespace HttpHandler

abbrev Extractor (α : Type) := Request → Traced LogEntry (Except Error α)

namespace Extractor

variable {α β : Type}

def map (f : α → β) (extractor : Extractor α) : Extractor β := fun request =>
  (Except.map f) <$> extractor request

/-- Both values. The second is not looked for when the first fails. -/
def both (first : Extractor α) (second : Extractor β) : Extractor (α × β) := fun request =>
  first request >>= fun
    | .error error => pure (.error error)
    | .ok a => (Except.map fun b => (a, b)) <$> second request

def all : List (Extractor α) → Extractor (List α)
  | [] => fun _ => pure (.ok [])
  | first :: rest => fun request =>
    first request >>= fun
      | .error error => pure (.error error)
      | .ok value => (Except.map (value :: ·)) <$> all rest request

end Extractor

end HttpHandler
