import HttpHandler.Operation.Basic

/-!
# Bridging futures

A bridge awaits a future of some other kind and continues with an operation: `whenSettled` with the whole
outcome of the future, `whenFulfilled` with its value, surfacing a failure. With a timeout, a future that
has not finished by then is given up and the bridge fails.
-/

namespace HttpHandler

variable {ε α : Type}

def unboxed : Except Cause α → Except Error α
  | .ok value => .ok value
  | .error cause => .error (Error.ofCause cause)

/-- Awaits a future, at most for the timeout. A future that finishes at the very moment of the timeout
is in time; one that is given up does nothing after that moment. -/
def settle (future : Task ε (Except Cause α)) (timeout : Option Timeout) :
    Task ε (Except Error α) :=
  match timeout with
  | none => future.mapValue unboxed
  | some timeout =>
    if future.duration ≤ timeout.millis then future.mapValue unboxed
    else
      ⟨.error (.timeout timeout),
        Action.cut timeout.millis future.trace ++ [.event (.log (.timedOut timeout))]⟩

namespace Operation

def whenSettled (future : Task ε (Except Cause α)) (timeout : Option Timeout)
    (f : Except Error α → Build ε (Operation ε)) : Operation ε :=
  .nested (settle future timeout >>= fun outcome => (f outcome).toTask.mapValue .ok)

def whenFulfilled (future : Task ε (Except Cause α)) (timeout : Option Timeout)
    (f : α → Build ε (Operation ε)) : Operation ε :=
  .nested ((settle future timeout).onOk fun value => (f value).toTask.mapValue .ok)

end Operation

end HttpHandler
