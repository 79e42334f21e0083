import HttpHandler.Operation.Basic
import HttpHandler.Request

/-!
# Serving requests

A handler takes a request to its outcome. A service mounts a handler for a host: it collects the body,
runs the handler and answers an error that is surfaced, so that the host always gets a response.
-/

namespace HttpHandler

variable {ε : Type}

abbrev Handler (ε : Type) := Request → Task ε Outcome

def handler (block : Request → Build ε (Operation ε)) : Handler ε := fun request =>
  (block request).toTask >>= Operation.resolve

inductive IncomingFrame where
  | data (bytes : Bytes)
  | trailers
  | failed (cause : Cause)

/-- Collects a body. Trailers are dropped. -/
def IncomingFrame.collect : List IncomingFrame → Except Cause Bytes
  | [] => .ok []
  | .data bytes :: rest => (collect rest).map (bytes ++ ·)
  | .trailers :: rest => collect rest
  | .failed cause :: _ => .error cause

structure Service (ε : Type) where
  handler : Handler ε
  /-- Whether a server error's response shows the text of the error. -/
  exposeInternalErrors : Bool

namespace Service

def errorResponse (exposeInternalErrors : Bool) (error : Error) : Traced LogEntry Response :=
  if Status.isServerError error.statusCode then
    ⟨if exposeInternalErrors then .text error.statusCode error.text else .ofError error,
      [.failed error]⟩
  else ⟨.ofError error, [.rejected error]⟩

def answer (service : Service ε) (error : Error) : Task ε Response :=
  Build.toTask (Build.ofReports (errorResponse service.exposeInternalErrors error))

def dispatch (service : Service ε) (request : Request) : Task ε Response :=
  service.handler request >>= fun
    | .ok response => .ready response
    | .error error => service.answer error

/-- Serves a request whose body is still arriving. A body that cannot be read is answered without
running the handler. -/
def serve (service : Service ε) (request : Bytes → Request) (body : List IncomingFrame) :
    Task ε Response :=
  match IncomingFrame.collect body with
  | .ok bytes => service.dispatch (request bytes)
  | .error cause => service.answer (.body cause)

def shown (service : Service ε) : String :=
  "HandlerService \x7b expose_internal_errors: " ++ toString service.exposeInternalErrors ++
    ", .. \x7d"

end Service

end HttpHandler
