import HttpHandler.Operation.Chainable

/-!
# Ways to answer

The ways in which a handler can finish: with a status alone, a value, a stream, bytes, whatever a
builder makes, or an error. A value that may be absent gives a chainable operation and all others
terminate. Nothing is written as JSON before the operation is resolved.
-/

namespace HttpHandler

variable {ε α : Type}

namespace Operation

def statusOnly (status : StatusCode) : Operation ε := .answer (.empty status)

def json [Serialize α] (status : StatusCode) (value : α) : Operation ε :=
  .terminating (Build.ofWritings ((ResponseBuilder.new status).json value)).toTask

def jsonStream [Serialize α] (status : StatusCode) (elements : ValueStream α) : Operation ε :=
  .terminating (.ready (.ok ((ResponseBuilder.new status).jsonStream elements)))

def bytes (status : StatusCode) (contentType : ContentType) (bytes : Bytes) : Operation ε :=
  .answer ((ResponseBuilder.new status).bytes contentType bytes)

/-- Whatever is built from a builder of the status, once the operation is resolved. -/
def built (status : StatusCode) (f : ResponseBuilder → Build ε Outcome) : Operation ε :=
  .terminating (f (ResponseBuilder.new status)).toTask

/-- Surfaces an error, taking one of this library out of its box. -/
def raise (cause : Cause) : Operation ε := .fail (Error.ofCause cause)

def raiseInternal (message : String) : Operation ε := .fail (.internal message)

def ok [Serialize α] (value : α) : Operation ε := json Status.ok value

def created [Serialize α] (value : α) : Operation ε := json Status.created value

def noContent : Operation ε := statusOnly Status.noContent

def notFound : Operation ε := statusOnly Status.notFound

def badRequest (message : String) : Operation ε := .answer (.text Status.badRequest message)

end Operation

namespace Chainable

def ofOption (status : StatusCode) (value : Option α) : Chainable ε α :=
  ⟨.new status, .ofOption value⟩

def ofAsync (status : StatusCode) (value : AsyncValue ε α) : Chainable ε α := ⟨.new status, value⟩

end Chainable

end HttpHandler
