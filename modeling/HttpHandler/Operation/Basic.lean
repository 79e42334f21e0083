import HttpHandler.Response.Builder
import HttpHandler.Task

/-!
# Completion operations

A completion operation says how a handler eventually produces its response. It is a chain of steps. A
terminating step yields its own outcome. A chainable one yields a response only if it holds a value;
otherwise it leaves the answer to the fallback behind it, and with no fallback left it answers an empty
response of its own. A nested one is a future of another operation, which goes on in its place.
`first.or next` puts `next` behind the last step of `first`.

A future runs at most once, so what it does and what it yields in that run is all there is to say of
it. A nested step is the actions of its future followed by the operation it yields or by the error it
fails with. Steps are taken left to right, one after another, and nothing of a step happens before its
turn.
-/

namespace HttpHandler

/-- What a chainable step found when it was asked for its value. -/
inductive Attempt where
  /-- A value, and the response made of it. -/
  | value (response : Response)
  /-- Nothing, and the builder of the response to give if nothing follows. -/
  | empty (builder : ResponseBuilder)

mutual

inductive Step (ε : Type) where
  | terminating (task : Task ε Outcome)
  | chainable (attempt : Task ε (Except Error Attempt))
  /-- A future that does `actions` and then yields an operation. -/
  | deferred (actions : List (Action ε)) (inner : Operation ε)
  /-- A future that does `actions` and then fails. -/
  | aborted (actions : List (Action ε)) (error : Error)

/-- How to eventually produce a response: steps that are linked front to back. -/
inductive Operation (ε : Type) where
  | last (step : Step ε)
  | link (step : Step ε) (fallback : Operation ε)

end

inductive StepKind where
  | terminating
  | chainable
  | nested
deriving Repr, DecidableEq

def StepKind.name : StepKind → String
  | .terminating => "Terminating"
  | .chainable => "Chainable"
  | .nested => "Nested"

def Step.kind {ε : Type} : Step ε → StepKind
  | .terminating _ => .terminating
  | .chainable _ => .chainable
  | .deferred _ _ => .nested
  | .aborted _ _ => .nested

mutual

/-- The number of steps, counting those of the operations that futures yield. -/
def Step.size {ε : Type} : Step ε → Nat
  | .terminating _ => 1
  | .chainable _ => 1
  | .deferred _ inner => inner.size + 1
  | .aborted _ _ => 1

def Operation.size {ε : Type} : Operation ε → Nat
  | .last step => step.size
  | .link step fallback => step.size + fallback.size

end

/-- What the turn of one step comes to. -/
inductive Turn (ε : Type) where
  | done (outcome : Outcome)
  /-- A chain goes on in the place of the one whose turn it was. -/
  | next (rest : Operation ε)

namespace Operation

variable {ε : Type}

def terminating (task : Task ε Outcome) : Operation ε := .last (.terminating task)

def chainable (attempt : Task ε (Except Error Attempt)) : Operation ε := .last (.chainable attempt)

/-- The operation that a future of an operation stands for. -/
def nested (future : Task ε (Except Error (Operation ε))) : Operation ε :=
  match future.value with
  | .ok inner => .last (.deferred future.trace inner)
  | .error error => .last (.aborted future.trace error)

def answer (response : Response) : Operation ε := .terminating (pure (.ok response))

def fail (error : Error) : Operation ε := .terminating (pure (.error error))

def empty (builder : ResponseBuilder) : Operation ε := .chainable (pure (.ok (.empty builder)))

/-- Puts an operation behind the last step of a chain. -/
def or : Operation ε → Operation ε → Operation ε
  | .last step, next => .link step next
  | .link step fallback, next => .link step (fallback.or next)

def steps : Operation ε → List (Step ε)
  | .last step => [step]
  | .link step fallback => step :: fallback.steps

@[elab_as_elim]
theorem chain_induction {motive : Operation ε → Prop} (last : ∀ step, motive (.last step))
    (link : ∀ step fallback, motive fallback → motive (.link step fallback))
    (operation : Operation ε) : motive operation :=
  steps.induct motive last link operation

theorem steps_or (first next : Operation ε) : (first.or next).steps = first.steps ++ next.steps := by
  fun_induction or first next with
  | case1 step next => rfl
  | case2 step fallback next ih => simp only [steps, ih, List.cons_append]

/-- Whether the operation can leave the answer to a fallback. That a future yields such an operation
is not known before it is resolved. -/
def isChainable : Operation ε → Bool
  | .last step => step.kind == .chainable
  | .link step _ => step.kind == .chainable

def shownStep (step : Step ε) (fallback : String) : String :=
  "CompleteOperation \x7b kind: \"" ++ step.kind.name ++ "\", fallback: " ++ fallback ++ " \x7d"

def shown : Operation ε → String
  | .last step => shownStep step "None"
  | .link step fallback => shownStep step ("Some(" ++ fallback.shown ++ ")")

/-- Goes on after an attempt: a value answers, an empty attempt gives way to what follows. -/
def settleAttempt (fallback : Option (Operation ε)) : Attempt → Task ε (Turn ε)
  | .value response => pure (.done (.ok response))
  | .empty builder =>
    match fallback with
    | none => pure (.done (.ok builder.noBody))
    | some next => Task.report .passedOver >>= fun _ => pure (.next next)

/-- The operation that a future has yielded, with the fallback of the future behind it. -/
def splice (inner : Operation ε) : Option (Operation ε) → Operation ε
  | none => inner
  | some next => inner.or next

def takeTurn (fallback : Option (Operation ε)) : Step ε → Task ε (Turn ε)
  | .terminating task => task.mapValue .done
  | .chainable attempt => attempt >>= fun
    | .ok found => settleAttempt fallback found
    | .error error => pure (.done (.error error))
  | .deferred actions inner => ⟨.next (inner.splice fallback), actions⟩
  | .aborted actions error => ⟨.done (.error error), actions⟩

def turn : Operation ε → Task ε (Turn ε)
  | .last step => takeTurn none step
  | .link step fallback => takeTurn (some fallback) step

theorem size_or (first next : Operation ε) : (first.or next).size = first.size + next.size := by
  fun_induction or first next with
  | case1 step next => simp only [size]
  | case2 step fallback next ih => simp only [size, ih, Nat.add_assoc]

/-- Only two kinds of turns let a chain go on: a future yielded it, or an empty attempt gave way to
its fallback. -/
theorem takeTurn_next {fallback : Option (Operation ε)} {step : Step ε} {rest : Operation ε}
    (turned : (takeTurn fallback step).value = .next rest) :
    (∃ actions inner, step = .deferred actions inner ∧ rest = inner.splice fallback) ∨
      ((∃ attempt, step = .chainable attempt) ∧ fallback = some rest) := by
  cases step with
  | terminating task => simp [takeTurn] at turned
  | chainable attempt =>
      refine .inr ⟨⟨attempt, rfl⟩, ?_⟩
      cases found : attempt.value with
      | error error => simp [takeTurn, found] at turned
      | ok found' =>
          cases found' with
          | value response => simp [takeTurn, found, settleAttempt] at turned
          | empty builder =>
              cases fallback with
              | none => simp [takeTurn, found, settleAttempt] at turned
              | some next => simpa [takeTurn, found, settleAttempt] using turned
  | deferred actions inner =>
      simp only [takeTurn, Turn.next.injEq] at turned
      exact .inl ⟨actions, inner, rfl, turned.symm⟩
  | aborted actions error => simp [takeTurn] at turned

/-- The chain that goes on after a turn has fewer steps. -/
theorem size_lt_of_turn {operation rest : Operation ε} (turned : operation.turn.value = .next rest) :
    rest.size < operation.size := by
  cases operation with
  | last step =>
      obtain ⟨actions, inner, rfl, rfl⟩ | ⟨_, none⟩ := takeTurn_next turned
      · exact Nat.lt_succ_self _
      · contradiction
  | link step fallback =>
      obtain ⟨actions, inner, rfl, rfl⟩ | ⟨⟨attempt, rfl⟩, given⟩ := takeTurn_next turned
      · simp only [splice, size_or, size, Step.size]
        omega
      · cases given
        simp only [size, Step.size]
        omega

/-- Resolves a chain into the outcome it stands for, turn by turn. -/
def resolve (operation : Operation ε) : Task ε Outcome :=
  match _ : operation.turn with
  | ⟨.done outcome, actions⟩ => ⟨outcome, actions⟩
  | ⟨.next rest, actions⟩ => ⟨(), actions⟩ >>= fun _ => rest.resolve
termination_by operation.size
decreasing_by exact size_lt_of_turn (congrArg Traced.value ‹_›)

end Operation

def Turn.resolve {ε : Type} : Turn ε → Task ε Outcome
  | .done outcome => pure outcome
  | .next rest => rest.resolve

theorem Operation.resolve_eq_turn {ε : Type} (operation : Operation ε) :
    operation.resolve = operation.turn >>= Turn.resolve := by
  rw [resolve]
  split
  · rename_i outcome actions turned
    rw [turned]
    exact Traced.ext rfl (List.append_nil actions).symm
  · rename_i rest actions turned
    rw [turned]
    rfl

end HttpHandler
