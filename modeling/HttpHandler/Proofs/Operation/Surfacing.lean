import HttpHandler.Operation.Extraction
import HttpHandler.Proofs.Operation.Bridging
import HttpHandler.Proofs.Operation.FlatMap
import HttpHandler.Proofs.Operation.Resolution

/-!
# Errors on their way out

An error that is thrown innermost passes through futures, chainable operations, bridges and chains until
it is the outcome of the operation around them all. Some of these layers put the error into a box and
some take it out of one. `Surfaces` stacks the layers in any order and to any depth; the error that
arrives outside is the one that was thrown.
-/

namespace HttpHandler

variable {ε : Type}

/-- Whether a thrown error is not one of this library. -/
def Cause.IsForeign : Cause → Prop
  | .library _ => False
  | _ => True

/-- What carries an error outwards. -/
inductive Carrier (ε : Type) : Type 1 where
  /-- A future that fails with its error in a box. -/
  | future {α : Type} (task : Task ε (Except Cause α))
  /-- A future that fails with an error of this library. -/
  | result {α : Type} (task : Task ε (Except Error α))
  | chainable {α : Type} (chainable : Chainable ε α)
  | operation (operation : Operation ε)

/-- Whether a carrier comes to an error, which may still be in its box. -/
def Carrier.FailsWith (error : Error) : Carrier ε → Prop
  | .future task => ∃ cause, task.value = .error cause ∧ Error.ofCause cause = error
  | .result task => task.value = .error error
  | .chainable carrying => carrying.source.value = .error error
  | .operation carrying => carrying.resolve.value = .error error

/-- `Surfaces cause carrier` says that `carrier` is a stack of layers around the place where `cause` is
thrown. -/
inductive Surfaces : Cause → Carrier ε → Prop where
  | thrown {α : Type} {cause : Cause} {future : Task ε (Except Cause α)}
    (failed : future.value = .error cause) : Surfaces cause (.future future)
  | failed {α : Type} {cause : Cause} {task : Task ε (Except Error α)}
    (failed : task.value = .error (Error.ofCause cause)) : Surfaces cause (.result task)
  | raised (cause : Cause) : Surfaces cause (.operation (.raise cause))
  /-- A failure is thrown on, in a box. -/
  | boxed {α : Type} {cause : Cause} {task : Task ε (Except Error α)}
    (surfaces : Surfaces cause (.result task)) :
    Surfaces cause (.future (task.mapValue (Except.mapError .library)))
  /-- Code awaits a result and would go on with its value. -/
  | awaited {α β : Type} {cause : Cause} {task : Task ε (Except Error α)}
    (surfaces : Surfaces cause (.result task)) (next : α → Task ε (Except Error β)) :
    Surfaces cause (.result (task.onOk next))
  | ofFuture {α : Type} {cause : Cause} {future : Task ε (Except Cause α)}
    (surfaces : Surfaces cause (.future future)) :
    Surfaces cause (.result (AsyncValue.ofFuture future))
  /-- A chainable operation of any builder, that of `Chainable.ofAsync` included. -/
  | source {α : Type} {cause : Cause} {value : AsyncValue ε α}
    (surfaces : Surfaces cause (.result value)) (builder : ResponseBuilder) :
    Surfaces cause (.chainable ⟨builder, value⟩)
  | map {α β : Type} {cause : Cause} {chainable : Chainable ε α}
    (surfaces : Surfaces cause (.chainable chainable)) (f : α → Build ε β) :
    Surfaces cause (.chainable (chainable.map f))
  | toOperation {α : Type} [Serialize α] {cause : Cause} {chainable : Chainable ε α}
    (surfaces : Surfaces cause (.chainable chainable)) :
    Surfaces cause (.operation chainable.toOperation)
  | flatMap {α : Type} {cause : Cause} {chainable : Chainable ε α}
    (surfaces : Surfaces cause (.chainable chainable))
    (f : ResponseBuilder → α → Build ε (Operation ε)) :
    Surfaces cause (.operation (chainable.flatMap f))
  | flatMapAsync {α : Type} {cause : Cause} {chainable : Chainable ε α}
    (surfaces : Surfaces cause (.chainable chainable))
    (f : ResponseBuilder → α → Task ε (Except Error (Operation ε))) :
    Surfaces cause (.operation (chainable.flatMapAsync f))
  | whenFulfilled {α : Type} {cause : Cause} {future : Task ε (Except Cause α)}
    {timeout : Option Timeout} (surfaces : Surfaces cause (.future future))
    (inTime : future.InTime timeout) (f : α → Build ε (Operation ε)) :
    Surfaces cause (.operation (.whenFulfilled future timeout f))
  /-- The continuation fails with the error it got, in whatever way it does so. -/
  | whenSettled {α : Type} {cause : Cause} {future : Task ε (Except Cause α)}
    {timeout : Option Timeout} (surfaces : Surfaces cause (.future future))
    (inTime : future.InTime timeout) {f : Except Error α → Build ε (Operation ε)}
    (rethrown : Surfaces (.library (Error.ofCause cause))
      (.operation (f (.error (Error.ofCause cause))).value)) :
    Surfaces cause (.operation (.whenSettled future timeout f))
  | terminating {cause : Cause} {task : Task ε Outcome} (surfaces : Surfaces cause (.result task)) :
    Surfaces cause (.operation (.terminating task))
  /-- A future fails instead of yielding an operation. -/
  | nestedFailing {cause : Cause} {future : Task ε (Except Error (Operation ε))}
    (surfaces : Surfaces cause (.result future)) : Surfaces cause (.operation (.nested future))
  /-- A future yields an operation that fails. -/
  | nested {cause : Cause} {future : Task ε (Except Error (Operation ε))} {inner : Operation ε}
    (yielded : future.value = .ok inner) (surfaces : Surfaces cause (.operation inner)) :
    Surfaces cause (.operation (.nested future))
  | execute {cause : Cause} (request : Request) (block : Request → Build ε (Operation ε))
    (surfaces : Surfaces cause (.operation (block request).value)) :
    Surfaces cause (.result (request.execute block).value)
  /-- A place in a chain, behind operations that leave the answer open. -/
  | within {cause : Cause} {operation : Operation ε}
    (surfaces : Surfaces cause (.operation operation)) {before : List (Operation ε)}
    (giveWay : ∀ first ∈ before, first.GivesWay) (fallbacks : List (Operation ε)) :
    Surfaces cause (.operation (.within before operation fallbacks))

namespace Operand

/-- Operands behind the deciding one make no difference if it is not empty. -/
theorem Decided.append {operands passed later : List (Operand ε)} {decider : Operand ε}
    (decided : Decided operands passed decider later) (decisive : decider.isEmpty = false)
    (others : List (Operand ε)) :
    Decided (operands ++ others) passed decider (later ++ others) where
  split := by rw [decided.split, List.append_assoc, List.cons_append]
  passedOver := decided.passedOver
  decides := .inl decisive

theorem isEmpty_of_outcome_error {operand : Operand ε} {error : Error}
    (failed : operand.finding.outcome = .error error) : operand.isEmpty = false := by
  cases empty : operand.isEmpty with
  | false => rfl
  | true =>
      obtain ⟨builder, finding⟩ := exists_builder_of_isEmpty empty
      rw [finding, Finding.outcome] at failed
      contradiction

end Operand

namespace Operation

open Operand

/-- An operation that fails does so before its fallbacks are looked at. -/
theorem resolve_orAll_of_error {operation : Operation ε} {error : Error}
    (failed : operation.resolve.value = .error error) (fallbacks : List (Operation ε)) :
    (operation.orAll fallbacks).resolve = operation.resolve := by
  obtain ⟨passed, decider, later, decided⟩ := exists_decided operation.operands_ne_nil
  have resolved := resolve_of_decided decided
  have decisive : decider.isEmpty = false := by
    rw [resolved] at failed
    exact isEmpty_of_outcome_error failed
  have extended : Decided (operation.orAll fallbacks).operands passed decider
      (later ++ fallbacks.flatMap operands) := by
    rw [operands_orAll]
    exact decided.append decisive _
  rw [resolve_of_decided extended, resolved]

theorem resolve_within_value_of_error {operation : Operation ε} {error : Error}
    (failed : operation.resolve.value = .error error) {before : List (Operation ε)}
    (giveWay : ∀ operation ∈ before, operation.GivesWay) (fallbacks : List (Operation ε)) :
    (within before operation fallbacks).resolve.value = .error error := by
  rw [within, resolve_behind, leadingTo_of_givesWay giveWay, resolve_orAll_of_error failed]
  exact failed

end Operation

theorem settle_value_of_error {α : Type} {future : Task ε (Except Cause α)}
    {timeout : Option Timeout} {error : Error} (failed : (Carrier.future future).FailsWith error)
    (inTime : future.InTime timeout) : (settle future timeout).value = .error error := by
  obtain ⟨cause, thrown, rfl⟩ := failed
  rw [settle_of_inTime inTime, Task.value_mapValue, thrown]
  rfl

namespace Surfaces

open Operation

/-- Every layer hands the error on as it was thrown. -/
theorem failsWith {cause : Cause} {carrier : Carrier ε} (surfaces : Surfaces cause carrier) :
    carrier.FailsWith (Error.ofCause cause) := by
  -- By induction on the layers. A layer may box the error, so a future is only known to fail with a
  -- cause that unboxes to it.
  induction surfaces with
  | thrown failed => exact ⟨_, failed, rfl⟩
  | failed failed => exact failed
  | raised cause => exact congrArg Traced.value (resolve_terminating _)
  | boxed surfaces ih =>
      refine ⟨.library _, ?_, rfl⟩
      rw [Task.value_mapValue, ih]
      rfl
  | awaited surfaces next ih => exact congrArg Traced.value (Task.onOk_of_error ih next)
  | ofFuture surfaces ih =>
      obtain ⟨cause, thrown, unboxed⟩ := ih
      rw [← unboxed]
      change (AsyncValue.ofFuture _).value = _
      rw [AsyncValue.ofFuture, Task.value_mapValue, thrown]
  | source surfaces builder ih => exact ih
  | map surfaces f ih => exact congrArg Traced.value (Task.onOk_of_error ih _)
  | @toOperation α _ cause chainable surfaces ih =>
      have awaited := chainable.resolve_orAll_toOperation []
      exact congrArg Traced.value (awaited.trans (Task.onOk_of_error ih _))
  | @flatMap α cause chainable surfaces f ih =>
      have awaited := chainable.resolve_orAll_flatMapAsync
        (fun builder value => (f builder value).toTask.mapValue .ok) []
      exact congrArg Traced.value (awaited.trans (Task.onOk_of_error ih _))
  | @flatMapAsync α cause chainable surfaces f ih =>
      have awaited := chainable.resolve_orAll_flatMapAsync f []
      exact congrArg Traced.value (awaited.trans (Task.onOk_of_error ih _))
  | whenFulfilled surfaces inTime f ih =>
      have settled := settle_value_of_error ih inTime
      exact congrArg Traced.value (resolve_orAll_whenFulfilled_of_error settled f [])
  | @whenSettled α cause future timeout surfaces inTime f rethrown ih rethrownIH =>
      have settled := settle_value_of_error ih inTime
      have awaited : (Operation.whenSettled future timeout f).resolve.value =
          (f (settle future timeout).value).value.resolve.value := by
        have settling := congrArg Traced.value (resolve_orAll_whenSettled future timeout f [])
        exact settling
      -- The error the continuation got was taken out of its box, so that it is not boxed twice.
      rw [settled] at awaited
      exact awaited.trans rethrownIH
  | @terminating cause task surfaces ih =>
      exact (congrArg Traced.value (resolve_terminating task)).trans ih
  | @nestedFailing cause future surfaces ih =>
      exact congrArg Traced.value ((resolve_nested future).trans (Task.onOk_of_error ih _))
  | @nested cause future inner yielded surfaces ih =>
      have awaited := (resolve_nested future).trans (Task.onOk_of_ok yielded _)
      exact (congrArg Traced.value awaited).trans ih
  | execute request block surfaces ih => exact ih
  | within surfaces giveWay fallbacks ih => exact resolve_within_value_of_error ih giveWay fallbacks

end Surfaces

namespace Operation

/-- Whatever layers an error of this library passes through, it is the outcome as it was thrown. A
foreign error is the outcome as an error that is passed on, wrapped a single time. -/
theorem resolve_value_of_surfaces (operation : Operation ε) :
    (∀ error, Surfaces (.library error) (.operation operation) →
        operation.resolve.value = .error error) ∧
      ∀ cause, cause.IsForeign → Surfaces cause (.operation operation) →
        operation.resolve.value = .error (.other cause) := by
  constructor
  · intro error surfaces
    exact surfaces.failsWith
  · intro cause foreign surfaces
    have failed : operation.resolve.value = .error (Error.ofCause cause) := surfaces.failsWith
    cases cause with
    | library error => exact foreign.elim
    | foreign message => exact failed
    | json fault => exact failed

/-- A future fails in the middle of a chain, the chain is executed, its outcome is settled and raised
again, and all this is what a later future yields. -/
theorem resolve_value_of_surfaces_settled :
    let request : Request := ⟨"GET", ⟨"/", none⟩, .empty, [], []⟩
    let future (cause : Cause) : Task String (Except Cause Int) :=
      ⟨.error cause, [.event (.effect "begun"), .sleep 5]⟩
    let chain (cause : Cause) : Operation String :=
      .within [.empty (.new Status.noContent)]
        ((Chainable.ofAsync Status.ok (.ofFuture (future cause))).map fun n => pure (n + 1)).toOperation
        [.notFound]
    let executed (cause : Cause) : Task String Outcome :=
      (request.execute fun _ => pure (chain cause)).value
    let settled (cause : Cause) : Operation String :=
      .whenSettled ((executed cause).mapValue (Except.mapError .library)) none
        (orRaise fun response => pure (.answer response))
    let whole (cause : Cause) : Operation String := .nested ⟨.ok (settled cause), [.sleep 1]⟩
    let conflict : Error := .statusBecause 409 "taken" (.foreign "duplicate key")
    (∀ cause, Surfaces cause (.operation (whole cause))) ∧
      (whole (.library conflict)).resolve.value = .error conflict ∧
      (whole (.library (.other (.library conflict)))).resolve.value =
        .error (.other (.library conflict)) ∧
      (whole (.foreign "lost")).resolve.value = .error (.other (.foreign "lost")) := by
  intro request future chain executed settled whole conflict
  have surfaces : ∀ cause, Surfaces cause (.operation (whole cause)) := by
    intro cause
    have thrown : Surfaces cause (.future (future cause)) := .thrown rfl
    have giveWay : ∀ first ∈ [(.empty (.new Status.noContent) : Operation String)],
        first.GivesWay := List.forall_mem_singleton.mpr (givesWay_empty _)
    have chained : Surfaces cause (.operation (chain cause)) :=
      .within (.toOperation (.map (.source (.ofFuture thrown) _) _)) giveWay [.notFound]
    have inTime : ((executed cause).mapValue (Except.mapError Cause.library)).InTime none := by
      intro limit given
      contradiction
    have executing : Surfaces cause (.result (executed cause)) :=
      .execute request (fun _ => pure (chain cause)) chained
    exact .nested rfl (.whenSettled (.boxed executing) inTime (.raised _))
  refine ⟨surfaces, ?_, ?_, ?_⟩
  · exact (resolve_value_of_surfaces _).1 conflict (surfaces _)
  · exact (resolve_value_of_surfaces _).1 (.other (.library conflict)) (surfaces _)
  · exact (resolve_value_of_surfaces _).2 (.foreign "lost") trivial (surfaces _)

end Operation

end HttpHandler
