import HttpHandler.Operation.Basic

/-!
# Chainable operations

A chainable operation that still knows the type of its value, so that the value can be mapped, or turned
into an operation of its own, before it is written as JSON.
-/

namespace HttpHandler

abbrev AsyncValue (ε α : Type) := Task ε (Except Error (Option α))

namespace AsyncValue

variable {ε α β : Type}

def just (value : α) : AsyncValue ε α := .ready (.ok (some value))

def nothing : AsyncValue ε α := .ready (.ok none)

def ofOption (value : Option α) : AsyncValue ε α := .ready (.ok value)

def ofFuture (future : Task ε (Except Cause α)) : AsyncValue ε α :=
  future.mapValue fun
    | .ok value => .ok (some value)
    | .error cause => .error (Error.ofCause cause)

def map (value : AsyncValue ε α) (f : α → Build ε β) : AsyncValue ε β :=
  value.onOk fun
    | some a => (f a).toTask.mapValue fun b => .ok (some b)
    | none => .ready (.ok none)

end AsyncValue

structure Chainable (ε α : Type) where
  builder : ResponseBuilder
  source : AsyncValue ε α

namespace Chainable

variable {ε α β : Type}

def status (chainable : Chainable ε α) : StatusCode := chainable.builder.status

/-- Customises the response, with a value or without. The code given runs at once. -/
def withBuilder (chainable : Chainable ε α) (f : ResponseBuilder → Build ε ResponseBuilder) :
    Build ε (Chainable ε α) := do
  let builder ← f chainable.builder
  pure { chainable with builder }

def map (chainable : Chainable ε α) (f : α → Build ε β) : Chainable ε β :=
  ⟨chainable.builder, chainable.source.map f⟩

/-- Turns a value into an operation by code that first awaits. Without a value the operation is
empty. -/
def flatMapAsync (chainable : Chainable ε α)
    (f : ResponseBuilder → α → Task ε (Except Error (Operation ε))) : Operation ε :=
  .nested (chainable.source.onOk fun
    | some value => f chainable.builder value
    | none => .ready (.ok (.empty chainable.builder)))

def flatMap (chainable : Chainable ε α) (f : ResponseBuilder → α → Build ε (Operation ε)) :
    Operation ε :=
  chainable.flatMapAsync fun builder value => (f builder value).toTask.mapValue .ok

/-- Makes an attempt of what the source found. A value is written as JSON. -/
def attempt [Serialize α] (chainable : Chainable ε α) :
    Option α → Traced Writing (Except Error Attempt)
  | some value => (Except.map Attempt.value) <$> chainable.builder.json value
  | none => pure (.ok (.empty chainable.builder))

def toOperation [Serialize α] (chainable : Chainable ε α) : Operation ε :=
  .chainable (chainable.source.onOk fun found =>
    (Build.ofWritings (chainable.attempt found)).toTask)

def resolve [Serialize α] (chainable : Chainable ε α) : Task ε Outcome :=
  chainable.toOperation.resolve

end Chainable

end HttpHandler
