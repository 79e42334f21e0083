import HttpHandler.Proofs.Operation.Operands

/-!
# Operations within a chain

What an operation comes to when it stands behind some operations of a chain and in front of others.
The operations before it are tried first, and those behind it are the fallbacks of everything that it
leaves empty, also of the operations that its futures yield.
-/

namespace HttpHandler

variable {ε : Type}

namespace Operand

/-- What follows an operand that is not empty is not tried. -/
theorem tryEach_of_decisive {operands : List (Operand ε)}
    (decisive : ∃ operand ∈ operands, operand.isEmpty = false) (follow : Option (Task ε Outcome)) :
    tryEach operands follow = tryEach operands none := by
  induction operands with
  | nil =>
      obtain ⟨operand, member, _⟩ := decisive
      contradiction
  | cons first rest ih =>
      rw [tryEach_cons, tryEach_cons]
      cases empty : first.isEmpty with
      | false => rw [orTry_of_decisive empty, orTry_of_decisive empty]
      | true =>
          obtain ⟨operand, member, decides⟩ := decisive
          have later : operand ∈ rest := by
            obtain rfl | later := List.mem_cons.mp member
            · rw [empty] at decides
              contradiction
            · exact later
          rw [ih ⟨operand, later, decides⟩]

end Operand

namespace Operation

open Operand

def orAll (operation : Operation ε) (fallbacks : List (Operation ε)) : Operation ε :=
  fallbacks.foldl or operation

def behind (operation : Operation ε) (before : List (Operation ε)) : Operation ε :=
  before.foldr or operation

/-- An operation that stands in a chain behind some operations and in front of others. -/
def within (before : List (Operation ε)) (operation : Operation ε)
    (fallbacks : List (Operation ε)) : Operation ε :=
  (operation.orAll fallbacks).behind before

/-- What comes of a task behind some operations: their operands are tried one after another, and the task
is done if all of them are empty. -/
def leadingTo (before : List (Operation ε)) (task : Task ε Outcome) : Task ε Outcome :=
  (before.flatMap operands).foldr (fun operand follow => operand.orTry (some follow)) task

theorem steps_orAll (operation : Operation ε) (fallbacks : List (Operation ε)) :
    (operation.orAll fallbacks).steps = operation.steps ++ fallbacks.flatMap steps := by
  induction fallbacks generalizing operation with
  | nil => simp [orAll]
  | cons fallback rest ih =>
      rw [orAll, List.foldl_cons, ← orAll, ih, steps_or, List.flatMap_cons, List.append_assoc]

theorem steps_behind (before : List (Operation ε)) (operation : Operation ε) :
    (operation.behind before).steps = before.flatMap steps ++ operation.steps := by
  induction before with
  | nil => rfl
  | cons first rest ih =>
      rw [behind, List.foldr_cons, ← behind, steps_or, ih, List.flatMap_cons, List.append_assoc]

theorem operands_orAll (operation : Operation ε) (fallbacks : List (Operation ε)) :
    (operation.orAll fallbacks).operands = operation.operands ++ fallbacks.flatMap operands := by
  rw [operands_eq_flatMap, steps_orAll, List.flatMap_append, ← operands_eq_flatMap, flatMap_operands]

theorem operands_behind (before : List (Operation ε)) (operation : Operation ε) :
    (operation.behind before).operands = before.flatMap operands ++ operation.operands := by
  rw [operands_eq_flatMap, steps_behind, List.flatMap_append, ← operands_eq_flatMap,
    flatMap_operands]

theorem resolve_or_of_decisive {operation : Operation ε}
    (decisive : ∃ operand ∈ operation.operands, operand.isEmpty = false) (next : Operation ε) :
    (operation.or next).resolve = operation.resolve := by
  apply Option.some.inj
  rw [some_resolve, some_resolve, operands_or, tryEach_append, tryEach_of_decisive decisive]

/-- What a terminating operation comes to is the outcome, whatever stands behind. -/
theorem resolve_orAll_terminating (task : Task ε Outcome) (fallbacks : List (Operation ε)) :
    ((terminating task).orAll fallbacks).resolve = task := by
  apply Option.some.inj
  rw [some_resolve, operands_orAll]
  change tryEach (⟨task.trace, .decided task.value⟩ :: _) none = _
  rw [tryEach_cons, orTry_of_decisive rfl]
  rfl

theorem resolve_terminating (task : Task ε Outcome) : (terminating task).resolve = task :=
  resolve_orAll_terminating task []

theorem resolve_empty (builder : ResponseBuilder) :
    (empty builder : Operation ε).resolve = pure (.ok builder.noBody) := by
  apply Option.some.inj
  rw [some_resolve]
  rfl

theorem resolve_behind (before : List (Operation ε)) (operation : Operation ε) :
    (operation.behind before).resolve = leadingTo before operation.resolve := by
  apply Option.some.inj
  rw [leadingTo, some_resolve, operands_behind, tryEach_append, ← some_resolve, tryEach_some]

/-- A future is awaited first. Its error is the outcome, and an operation that it yields goes on with
the fallbacks of the future behind it. -/
theorem resolve_orAll_nested (future : Task ε (Except Error (Operation ε)))
    (fallbacks : List (Operation ε)) :
    ((nested future).orAll fallbacks).resolve =
      future.onOk fun operation => (operation.orAll fallbacks).resolve := by
  obtain ⟨yielded, actions⟩ := future
  apply Option.some.inj
  rw [some_resolve, operands_orAll]
  cases yielded with
  | error error =>
      rw [Task.onOk_of_error rfl, operands_nested_error, List.singleton_append, tryEach_cons,
        orTry_of_decisive rfl]
      rfl
  | ok inner =>
      rw [Task.onOk_of_ok rfl, operands_nested_ok, tryEach_append,
        tryEach_modifyHead_after actions inner.operands_ne_nil, ← tryEach_append, ← operands_orAll,
        ← some_resolve]
      rfl

theorem resolve_nested (future : Task ε (Except Error (Operation ε))) :
    (nested future).resolve = future.onOk resolve :=
  resolve_orAll_nested future []

/-- Every operand is empty, so that the answer is left to whatever stands behind. -/
def GivesWay (operation : Operation ε) : Prop :=
  ∀ operand ∈ operation.operands, operand.isEmpty = true

theorem givesWay_empty (builder : ResponseBuilder) : (empty builder : Operation ε).GivesWay := by
  simp [GivesWay, operands_empty, isEmpty]

theorem isEmpty_of_mem_flatMap_operands {before : List (Operation ε)}
    (giveWay : ∀ operation ∈ before, operation.GivesWay) :
    ∀ operand ∈ before.flatMap operands, operand.isEmpty = true := by
  intro operand member
  obtain ⟨operation, listed, found⟩ := List.mem_flatMap.mp member
  exact giveWay operation listed operand found

/-- Operations that give way are passed over on the way to the task behind them. -/
theorem leadingTo_of_givesWay {before : List (Operation ε)}
    (giveWay : ∀ operation ∈ before, operation.GivesWay) (task : Task ε Outcome) :
    leadingTo before task = task.after ((before.flatMap operands).flatMap passing) := by
  apply Option.some.inj
  rw [leadingTo, ← tryEach_some]
  exact tryEach_some_of_isEmpty (isEmpty_of_mem_flatMap_operands giveWay) task

theorem resolve_within_terminating (task : Task ε Outcome) {before : List (Operation ε)}
    (giveWay : ∀ operation ∈ before, operation.GivesWay) (fallbacks : List (Operation ε)) :
    (within before (terminating task) fallbacks).resolve =
      task.after ((before.flatMap operands).flatMap passing) := by
  rw [within, resolve_behind, leadingTo_of_givesWay giveWay, resolve_orAll_terminating]

theorem resolve_orAll_of_givesWay {operation : Operation ε} (givesWay : operation.GivesWay)
    (next : Operation ε) (rest : List (Operation ε)) :
    (operation.orAll (next :: rest)).resolve =
      (next.orAll rest).resolve.after (operation.operands.flatMap passing) := by
  apply Option.some.inj
  rw [some_resolve, operands_orAll, List.flatMap_cons, ← operands_orAll next, tryEach_append,
    ← some_resolve]
  exact tryEach_some_of_isEmpty givesWay _

end Operation

end HttpHandler
