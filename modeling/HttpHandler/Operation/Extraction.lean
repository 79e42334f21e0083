import HttpHandler.Operation.Chainable
import HttpHandler.Descriptor.Basic
import HttpHandler.Json.Decoder

/-!
# Working on a request

What the code of a handler can do with its request. Extraction is synchronous: the continuation runs at
once, or the operation answers a client error. Reading the body is a future, so its continuation runs
when the operation is resolved.
-/

namespace HttpHandler

def missingBodyMessage : String := "Missing required request body."

def malformedBodyMessage : String := "Failed to read request body."

def malformedBody : Error :=
  .badRequestBecause malformedBodyMessage (.json (.unplaced "the document does not have the expected form"))

namespace Request

variable {ε α β : Type} {shape : Shape}

def inspect (request : Request) (f : Request → Build ε (Operation ε)) :
    Build ε (Operation ε) := f request

/-- Builds an operation on the same request and gives the future of its outcome, without finishing
the handler. -/
def execute (request : Request) (block : Request → Build ε (Operation ε)) :
    Build ε (Task ε Outcome) := do
  let operation ← block request
  pure operation.resolve

def extract (request : Request) (extractor : Extractor α) (f : α → Build ε (Operation ε)) :
    Build ε (Operation ε) :=
  Build.ofReports (extractor request) >>= fun
    | .ok value => f value
    | .error error => pure (.answer (Response.ofError error))

def extractValue (request : Request) (descriptor : Descriptor β shape)
    (f : shape.Of β → Build ε (Operation ε)) : Build ε (Operation ε) :=
  request.extract descriptor.extract f

/-- What a decoder makes of the body. An empty body is nothing. -/
def decodedBody (request : Request) (decoder : Json.Decoder α) : Except Error (Option α) :=
  if request.body = [] then .ok none
  else match decoder.read request.body with
    | some value => .ok (some value)
    | none => .error malformedBody

def bodyValue (request : Request) (decoder : Json.Decoder α) : AsyncValue ε α :=
  .ready (request.decodedBody decoder)

def requireBody (request : Request) (decoder : Json.Decoder α) (f : α → Build ε (Operation ε)) :
    Operation ε :=
  let body : AsyncValue ε α := request.bodyValue decoder
  .nested (body >>= fun
    | .ok (some value) => (f value).toTask.mapValue .ok
    | .ok none => .ready (.ok (.answer (Response.ofError (.badRequest missingBodyMessage))))
    | .error error => .ready (.ok (.answer (Response.ofError error))))

/-- An array in the body as a stream of its elements, read before the first is asked for. An empty body
has none, and a malformed one is a single failure. -/
def bodyStream (request : Request) (decoder : Json.Decoder α) : ValueStream α :=
  if request.body = [] then []
  else match decoder.list.read request.body with
    | some elements => elements.map .ok
    | none => [.error malformedBody]

end Request

end HttpHandler
