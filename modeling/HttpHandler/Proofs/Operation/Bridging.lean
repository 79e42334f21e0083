import HttpHandler.Operation.Answers
import HttpHandler.Operation.Bridge
import HttpHandler.Proofs.Operation.Chains

/-!
# Bridged futures within a chain

A bridge that goes on with the value of a future is one that goes on with its outcome and raises a
failure again. The first fails while its future is awaited, so that its fallbacks are dropped; the second
yields an operation that fails, in front of the same fallbacks. Both come to the same. What the
continuation leaves empty, on the other hand, is left to the fallbacks of the bridge.
-/

namespace HttpHandler

variable {ε α : Type}

/-- Whether a future finishes before it is given up. -/
def Task.InTime (timeout : Option Timeout) (future : Task ε α) : Prop :=
  ∀ limit, timeout = some limit → future.duration ≤ limit.millis

theorem settle_of_inTime {future : Task ε (Except Cause α)} {timeout : Option Timeout}
    (inTime : future.InTime timeout) : settle future timeout = future.mapValue unboxed := by
  cases timeout with
  | none => rfl
  | some limit =>
      have short : future.duration ≤ limit.millis := inTime limit rfl
      simp only [settle, if_pos short]

theorem settle_of_late {future : Task ε (Except Cause α)} {limit : Timeout}
    (late : limit.millis < future.duration) :
    settle future (some limit) = ⟨.error (.timeout limit),
      Action.cut limit.millis future.trace ++ [.event (.log (.timedOut limit))]⟩ := by
  simp only [settle, if_neg (Nat.not_le.mpr late)]

namespace Operation

open Operand

/-- Goes on with a value as `f` says and raises an error again. -/
def orRaise (f : α → Build ε (Operation ε)) : Except Error α → Build ε (Operation ε)
  | .ok value => f value
  | .error error => pure (.raise (.library error))

theorem resolve_orAll_whenFulfilled (future : Task ε (Except Cause α)) (timeout : Option Timeout)
    (f : α → Build ε (Operation ε)) (fallbacks : List (Operation ε)) :
    ((whenFulfilled future timeout f).orAll fallbacks).resolve =
      (settle future timeout).onOk fun value =>
        (f value).toTask >>= fun operation => (operation.orAll fallbacks).resolve := by
  rw [whenFulfilled, resolve_orAll_nested, Task.onOk_onOk]
  simp only [Task.onOk_mapValue_ok]

theorem resolve_orAll_whenSettled (future : Task ε (Except Cause α)) (timeout : Option Timeout)
    (f : Except Error α → Build ε (Operation ε)) (fallbacks : List (Operation ε)) :
    ((whenSettled future timeout f).orAll fallbacks).resolve =
      settle future timeout >>= fun outcome =>
        (f outcome).toTask >>= fun operation => (operation.orAll fallbacks).resolve := by
  rw [whenSettled, resolve_orAll_nested, Task.onOk_bind]
  simp only [Task.onOk_mapValue_ok]

theorem resolve_orAll_whenFulfilled_of_error {future : Task ε (Except Cause α)}
    {timeout : Option Timeout} {error : Error} (failed : (settle future timeout).value = .error error)
    (f : α → Build ε (Operation ε)) (fallbacks : List (Operation ε)) :
    ((whenFulfilled future timeout f).orAll fallbacks).resolve =
      ⟨.error error, (settle future timeout).trace⟩ := by
  rw [resolve_orAll_whenFulfilled, Task.onOk_of_error failed]

theorem resolve_orAll_whenFulfilled_of_ok {future : Task ε (Except Cause α)}
    {timeout : Option Timeout} {value : α} (settled : (settle future timeout).value = .ok value)
    (f : α → Build ε (Operation ε)) (fallbacks : List (Operation ε)) :
    ((whenFulfilled future timeout f).orAll fallbacks).resolve =
      ((f value).value.orAll fallbacks).resolve.after
        ((settle future timeout).trace ++ (f value).toTask.trace) := by
  rw [resolve_orAll_whenFulfilled, Task.onOk_of_ok settled]
  apply Traced.ext
  · rfl
  · exact (List.append_assoc _ _ _).symm

theorem resolve_orAll_whenFulfilled_eq_whenSettled (future : Task ε (Except Cause α))
    (timeout : Option Timeout) (f : α → Build ε (Operation ε)) (fallbacks : List (Operation ε)) :
    ((whenFulfilled future timeout f).orAll fallbacks).resolve =
      ((whenSettled future timeout (orRaise f)).orAll fallbacks).resolve := by
  rw [resolve_orAll_whenSettled]
  cases settled : (settle future timeout).value with
  | ok value =>
      rw [resolve_orAll_whenFulfilled, Task.onOk_of_ok settled]
      apply Traced.ext <;> simp [settled, orRaise]
  | error error =>
      -- The error drops the fallbacks of the one bridge and stands in front of those of the other.
      have raised : ((raise (.library error)).orAll fallbacks).resolve = ⟨.error error, []⟩ :=
        resolve_orAll_terminating _ fallbacks
      rw [resolve_orAll_whenFulfilled_of_error settled]
      apply Traced.ext <;> simp [settled, orRaise, raised, Build.toTask]

/-- A bridge that goes on with the value of its future resolves like the one that goes on with its
outcome and raises an error again: the outcomes, the continuations that run, the log and the time are
the same. A failure of the future and a timeout are final. A continuation that leaves the answer open
leaves it to the fallbacks. -/
theorem whenFulfilled_eq_whenSettled_orRaise (future : Task ε (Except Cause α))
    (timeout : Option Timeout) (f : α → Build ε (Operation ε)) (fallbacks : List (Operation ε)) :
    ((whenFulfilled future timeout f).orAll fallbacks).resolve =
        ((whenSettled future timeout (orRaise f)).orAll fallbacks).resolve ∧
      (∀ cause, future.value = .error cause → future.InTime timeout →
        ((whenFulfilled future timeout f).orAll fallbacks).resolve =
          ⟨.error (Error.ofCause cause), future.trace⟩) ∧
      (∀ limit, timeout = some limit → limit.millis < future.duration →
        ((whenFulfilled future timeout f).orAll fallbacks).resolve =
          ⟨.error (.timeout limit),
            Action.cut limit.millis future.trace ++ [.event (.log (.timedOut limit))]⟩) ∧
      (∀ value, future.value = .ok value → future.InTime timeout → (f value).value.GivesWay →
        ∀ next rest, fallbacks = next :: rest →
          ((whenFulfilled future timeout f).orAll fallbacks).resolve =
            (next.orAll rest).resolve.after (future.trace ++ (f value).toTask.trace ++
              (f value).value.operands.flatMap passing)) := by
  refine ⟨resolve_orAll_whenFulfilled_eq_whenSettled future timeout f fallbacks, ?_, ?_, ?_⟩
  · intro cause failed inTime
    have settled : (settle future timeout).value = .error (Error.ofCause cause) := by
      rw [settle_of_inTime inTime, Task.value_mapValue, failed]
      rfl
    rw [resolve_orAll_whenFulfilled_of_error settled, settle_of_inTime inTime, Task.trace_mapValue]
  · rintro limit rfl late
    have settled : (settle future (some limit)).value = .error (.timeout limit) := by
      rw [settle_of_late late]
    rw [resolve_orAll_whenFulfilled_of_error settled, settle_of_late late]
  · rintro value found inTime givesWay next rest rfl
    have settled : (settle future timeout).value = .ok value := by
      rw [settle_of_inTime inTime, Task.value_mapValue, found]
      rfl
    rw [resolve_orAll_whenFulfilled_of_ok settled, resolve_orAll_of_givesWay givesWay,
      settle_of_inTime inTime, Task.trace_mapValue]
    simp only [Task.after, List.append_assoc]

/-- A slow future is given up for good. Given the time, its continuation leaves the answer to the
fallback. -/
theorem whenFulfilled_eq_whenSettled_orRaise_slow :
    let slow : Task String (Except Cause Int) :=
      ⟨.ok 1, [.event (.effect "begun"), .sleep 20, .event (.effect "done")]⟩
    let limit : Timeout := ⟨10, .milliseconds⟩
    let f : Int → Build String (Operation String) := fun _ =>
      ⟨.empty (.new Status.ok), [.effect "continued"]⟩
    ((whenFulfilled slow (some limit) f).orAll [notFound]).resolve =
        ⟨.error (.timeout limit),
          [.event (.effect "begun"), .sleep 10, .event (.log (.timedOut limit))]⟩ ∧
      ((whenFulfilled slow none f).orAll [notFound]).resolve =
        ⟨.ok (.empty Status.notFound), [.event (.effect "begun"), .sleep 20, .event (.effect "done"),
          .event (.effect "continued"), .event (.log .passedOver)]⟩ := by
  intro slow limit f
  have millis : limit.millis = 10 := by decide
  have late : limit.millis < slow.duration := by decide
  have inTime : slow.InTime none := by
    intro limit given
    contradiction
  obtain ⟨_, _, givenUp, _⟩ :=
    whenFulfilled_eq_whenSettled_orRaise slow (some limit) f [notFound]
  obtain ⟨_, _, _, rescued⟩ := whenFulfilled_eq_whenSettled_orRaise slow none f [notFound]
  refine ⟨?_, ?_⟩
  · rw [givenUp limit rfl late, millis]
    rfl
  · have answered : (notFound.orAll []).resolve =
        (⟨.ok (.empty Status.notFound), []⟩ : Task String Outcome) := resolve_terminating _
    rw [rescued 1 rfl inTime (givesWay_empty _) notFound [] rfl, answered]
    rfl

end Operation

end HttpHandler
