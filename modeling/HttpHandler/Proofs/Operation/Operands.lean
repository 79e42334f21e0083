import HttpHandler.Operation.Chainable

/-!
# The operands of a chain

The operands of a chain are its steps front to back, with each future of an operation replaced in place
by the operands of that operation. What such a future does is done on the way to the first of them.
Resolving takes a chain apart turn by turn and splices chains into it as it goes; `some_resolve` says
that all this comes to trying the operands in order.
-/

namespace HttpHandler

variable {ε α β : Type}

inductive Finding where
  /-- A response or an error, whatever follows. -/
  | decided (outcome : Outcome)
  /-- Nothing, and the builder of the response to give if nothing follows. -/
  | empty (builder : ResponseBuilder)

namespace Finding

def ofAttempt : Except Error Attempt → Finding
  | .ok (.value response) => .decided (.ok response)
  | .ok (.empty builder) => .empty builder
  | .error error => .decided (.error error)

/-- What is answered if nothing follows. -/
def outcome : Finding → Outcome
  | .decided outcome => outcome
  | .empty builder => .ok builder.noBody

end Finding

structure Operand (ε : Type) where
  actions : List (Action ε)
  finding : Finding

/-- A task that is begun once `actions` are done. -/
def Task.after (actions : List (Action ε)) (task : Task ε α) : Task ε α :=
  ⟨task.value, actions ++ task.trace⟩

namespace Operand

/-- Whether an operand finds nothing, so that the chain goes on to the next one. -/
def isEmpty (operand : Operand ε) : Bool :=
  match operand.finding with
  | .decided _ => false
  | .empty _ => true

def after (actions : List (Action ε)) (operand : Operand ε) : Operand ε :=
  ⟨actions ++ operand.actions, operand.finding⟩

def passing (operand : Operand ε) : List (Action ε) :=
  operand.actions ++ [.event (.log .passedOver)]

/-- Tries an operand and, only if it is empty, what follows. -/
def orTry (operand : Operand ε) (follow : Option (Task ε Outcome)) : Task ε Outcome :=
  match operand.finding, follow with
  | .empty _, some next => next.after operand.passing
  | finding, _ => ⟨finding.outcome, operand.actions⟩

def tryEach (operands : List (Operand ε)) (follow : Option (Task ε Outcome)) :
    Option (Task ε Outcome) :=
  operands.foldr (fun operand follow => some (operand.orTry follow)) follow

@[simp] theorem tryEach_nil (follow : Option (Task ε Outcome)) : tryEach [] follow = follow := rfl

@[simp] theorem tryEach_cons (operand : Operand ε) (rest : List (Operand ε))
    (follow : Option (Task ε Outcome)) :
    tryEach (operand :: rest) follow = some (operand.orTry (tryEach rest follow)) := rfl

theorem tryEach_append (first next : List (Operand ε)) (follow : Option (Task ε Outcome)) :
    tryEach (first ++ next) follow = tryEach first (tryEach next follow) := List.foldr_append

theorem orTry_none (operand : Operand ε) :
    operand.orTry none = ⟨operand.finding.outcome, operand.actions⟩ := by
  cases found : operand.finding <;> simp only [orTry, found]

theorem orTry_of_decisive {operand : Operand ε} (decisive : operand.isEmpty = false)
    (follow : Option (Task ε Outcome)) :
    operand.orTry follow = ⟨operand.finding.outcome, operand.actions⟩ := by
  cases found : operand.finding with
  | decided outcome => simp only [orTry, found]
  | empty builder => simp [isEmpty, found] at decisive

theorem orTry_some_of_empty {operand : Operand ε} (empty : operand.isEmpty = true)
    (next : Task ε Outcome) : operand.orTry (some next) = next.after operand.passing := by
  cases found : operand.finding with
  | decided outcome => simp [isEmpty, found] at empty
  | empty builder => simp only [orTry, found]

theorem orTry_after (actions : List (Action ε)) (operand : Operand ε)
    (follow : Option (Task ε Outcome)) :
    (operand.after actions).orTry follow = (operand.orTry follow).after actions := by
  cases follow <;> cases found : operand.finding <;>
    simp [orTry, after, found, Task.after, passing]

theorem tryEach_some (operands : List (Operand ε)) (next : Task ε Outcome) :
    tryEach operands (some next) =
      some (operands.foldr (fun operand follow => operand.orTry (some follow)) next) := by
  induction operands with
  | nil => rfl
  | cons operand rest ih => rw [tryEach_cons, ih, List.foldr_cons]

/-- Operands that are all empty are passed over on the way to what follows. -/
theorem tryEach_some_of_isEmpty {operands : List (Operand ε)}
    (empty : ∀ operand ∈ operands, operand.isEmpty = true) (next : Task ε Outcome) :
    tryEach operands (some next) = some (next.after (operands.flatMap passing)) := by
  induction operands with
  | nil => rfl
  | cons operand rest ih =>
      have first : operand.isEmpty = true := empty operand List.mem_cons_self
      have others : tryEach rest (some next) = some (next.after (rest.flatMap passing)) :=
        ih fun other member => empty other (List.mem_cons_of_mem operand member)
      rw [tryEach_cons, others, orTry_some_of_empty first]
      simp [Task.after, List.append_assoc]

theorem tryEach_modifyHead_after (actions : List (Action ε)) {operands : List (Operand ε)}
    (some : operands ≠ []) (follow : Option (Task ε Outcome)) :
    tryEach (operands.modifyHead (after actions)) follow =
      (tryEach operands follow).map (Task.after actions) := by
  cases operands with
  | nil => contradiction
  | cons operand rest => simp [orTry_after]

end Operand

mutual

/-- The operands of a step. What a future does before it yields an operation is done on the way to the
first operand of that operation. -/
def Step.operands : Step ε → List (Operand ε)
  | .terminating task => [⟨task.trace, .decided task.value⟩]
  | .chainable attempt => [⟨attempt.trace, .ofAttempt attempt.value⟩]
  | .deferred actions inner => inner.operands.modifyHead (Operand.after actions)
  | .aborted actions error => [⟨actions, .decided (.error error)⟩]

def Operation.operands : Operation ε → List (Operand ε)
  | .last step => step.operands
  | .link step fallback => step.operands ++ fallback.operands

end

mutual

theorem Step.operands_ne_nil (step : Step ε) : step.operands ≠ [] := by
  cases step with
  | terminating task => simp [Step.operands]
  | chainable attempt => simp [Step.operands]
  | deferred actions inner =>
      simpa only [Step.operands, ne_eq, List.modifyHead_eq_nil_iff] using inner.operands_ne_nil
  | aborted actions error => simp [Step.operands]

theorem Operation.operands_ne_nil (operation : Operation ε) : operation.operands ≠ [] := by
  cases operation with
  | last step => exact step.operands_ne_nil
  | link step fallback =>
      rw [Operation.operands]
      exact List.append_ne_nil_of_left_ne_nil step.operands_ne_nil fallback.operands

end

/-- What a turn comes to if the operands of the chain that goes on are tried. -/
def Turn.tried : Turn ε → Option (Task ε Outcome)
  | .done outcome => some (pure outcome)
  | .next rest => Operand.tryEach rest.operands none

namespace Operation

open Operand

theorem operands_eq_flatMap (operation : Operation ε) :
    operation.operands = operation.steps.flatMap Step.operands := by
  induction operation using chain_induction with
  | last step => simp [operands, steps]
  | link step fallback ih => simp [operands, steps, ih]

theorem flatMap_operands (chains : List (Operation ε)) :
    chains.flatMap operands = (chains.flatMap steps).flatMap Step.operands := by
  rw [List.flatMap_assoc]
  exact congrArg chains.flatMap (funext operands_eq_flatMap)

theorem operands_or (first next : Operation ε) :
    (first.or next).operands = first.operands ++ next.operands := by
  simp only [operands_eq_flatMap, steps_or, List.flatMap_append]

theorem exists_tryEach (operation : Operation ε) (follow : Option (Task ε Outcome)) :
    ∃ task, tryEach operation.operands follow = some task := by
  obtain ⟨operand, rest, shape⟩ := List.exists_cons_of_ne_nil operation.operands_ne_nil
  exact ⟨_, by rw [shape, tryEach_cons]⟩

/-- One turn does what trying the operands of its step does, and leaves the others to be tried. -/
theorem tryEach_takeTurn (fallback : Option (Operation ε)) (step : Step ε) :
    tryEach step.operands (fallback.bind fun next => tryEach next.operands none) =
      (takeTurn fallback step).value.tried.map (Task.after (takeTurn fallback step).trace) := by
  cases step with
  | terminating task =>
      rw [Step.operands, tryEach_cons, orTry_of_decisive rfl]
      simp [takeTurn, Turn.tried, Finding.outcome, Task.after]
  | chainable attempt =>
      obtain ⟨found, actions⟩ := attempt
      rw [Step.operands, tryEach_cons, tryEach_nil]
      cases found with
      | error error =>
          rw [orTry_of_decisive rfl]
          simp [takeTurn, Turn.tried, Finding.ofAttempt, Finding.outcome, Task.after]
      | ok attempt =>
          cases attempt with
          | value response =>
              rw [orTry_of_decisive rfl]
              simp [takeTurn, settleAttempt, Turn.tried, Finding.ofAttempt, Finding.outcome,
                Task.after]
          | empty builder =>
              cases fallback with
              | none =>
                  rw [Option.bind_none, orTry_none]
                  simp [takeTurn, settleAttempt, Turn.tried, Finding.ofAttempt, Finding.outcome,
                    Task.after]
              | some next =>
                  obtain ⟨rest, tried⟩ := next.exists_tryEach none
                  rw [Option.bind_some, tried, orTry_some_of_empty rfl]
                  simp [takeTurn, settleAttempt, Turn.tried, tried, passing, Task.after,
                    Task.report]
  | deferred actions inner =>
      rw [Step.operands, tryEach_modifyHead_after actions inner.operands_ne_nil]
      -- The turn splices the chain that the future yields, so its operands stand before the fallback's.
      cases fallback with
      | none => rfl
      | some next =>
          rw [Option.bind_some, ← tryEach_append, ← operands_or]
          rfl
  | aborted actions error =>
      rw [Step.operands, tryEach_cons, orTry_of_decisive rfl]
      simp [takeTurn, Turn.tried, Finding.outcome, Task.after]

theorem tryEach_operands (operation : Operation ε) :
    tryEach operation.operands none =
      operation.turn.value.tried.map (Task.after operation.turn.trace) := by
  cases operation with
  | last step => exact tryEach_takeTurn none step
  | link step fallback =>
      rw [operands, tryEach_append]
      exact tryEach_takeTurn (some fallback) step

/-- Resolving a chain is trying its operands in order. -/
theorem some_resolve (operation : Operation ε) :
    some operation.resolve = tryEach operation.operands none := by
  -- Splicing does not follow the structure of the chain, so the induction is along its turns.
  induction operation using resolve.induct with
  | case1 operation outcome actions turned =>
      rw [tryEach_operands, resolve_eq_turn, turned]
      rfl
  | case2 operation rest actions turned ih =>
      rw [tryEach_operands, resolve_eq_turn, turned, Turn.tried, ← ih]
      rfl

/-- What trying the operands of a chain in order comes to. -/
def tried (operation : Operation ε) : Task ε Outcome :=
  (tryEach operation.operands none).get
    (Option.isSome_iff_exists.mpr (operation.exists_tryEach none))

theorem some_tried (operation : Operation ε) :
    some operation.tried = tryEach operation.operands none :=
  Option.some_get _

theorem resolve_eq_tried (operation : Operation ε) : operation.resolve = operation.tried :=
  Option.some.inj (operation.some_resolve.trans operation.some_tried.symm)

theorem resolve_eq_of_operands {first second : Operation ε}
    (same : first.operands = second.operands) : first.resolve = second.resolve := by
  apply Option.some.inj
  rw [some_resolve, some_resolve, same]

theorem operands_empty (builder : ResponseBuilder) :
    (empty builder : Operation ε).operands = [⟨[], .empty builder⟩] := rfl

theorem operands_nested_ok (actions : List (Action ε)) (inner : Operation ε) :
    (nested ⟨.ok inner, actions⟩).operands = inner.operands.modifyHead (after actions) := rfl

theorem operands_nested_error (actions : List (Action ε)) (error : Error) :
    (nested ⟨.error error, actions⟩).operands = [⟨actions, .decided (.error error)⟩] := rfl

end Operation

namespace Chainable

/-- What a chainable operation comes to: the JSON text of its value, nothing, or the error of its
source or of writing the value. -/
def finding [Serialize α] (chainable : Chainable ε α) : Finding :=
  match chainable.source.value with
  | .ok (some value) => .decided (chainable.builder.json value).value
  | .ok none => .empty chainable.builder
  | .error error => .decided (.error error)

def onValue (chainable : Chainable ε α) (actions : α → List (Action ε)) : List (Action ε) :=
  match chainable.source.value with
  | .ok (some value) => actions value
  | _ => []

theorem ofAttempt_map_value (outcome : Outcome) :
    Finding.ofAttempt (outcome.map Attempt.value) = .decided outcome := by
  cases outcome <;> rfl

/-- A value is written once the source has been awaited. Nothing else is. -/
theorem operands_toOperation [Serialize α] (chainable : Chainable ε α) :
    chainable.toOperation.operands =
      [⟨chainable.source.trace ++ chainable.onValue fun value => [.event (.written (json value))],
        chainable.finding⟩] := by
  let attempted := chainable.source.onOk fun found =>
    (Build.ofWritings (chainable.attempt found)).toTask
  have awaited : chainable.toOperation.operands =
      [⟨attempted.trace, .ofAttempt attempted.value⟩] := rfl
  rw [awaited, onValue, finding]
  cases found : chainable.source.value with
  | error error =>
      have failed : attempted = ⟨.error error, chainable.source.trace⟩ := Task.onOk_of_error found _
      rw [failed, List.append_nil]
      rfl
  | ok value? =>
      have continued : attempted = _ := Task.onOk_of_ok found _
      rw [continued]
      cases value? with
      | none => rfl
      | some value =>
          have decided := ofAttempt_map_value (chainable.builder.json value).value
          exact congrArg (fun finding => [(⟨_, finding⟩ : Operand ε)]) decided

end Chainable

end HttpHandler
