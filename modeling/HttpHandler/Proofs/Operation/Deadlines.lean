import Mathlib.Algebra.Order.Floor.Div
import HttpHandler.Proofs.Operation.Bridging
import HttpHandler.Proofs.Timeout.Durations

/-!
# Bridges against the clock

A bridge settles when its future is ready, with the outcome of the future, or at its timeout if the future
is not ready by then. A timeout ends at a whole millisecond, and a future that is ready at that very moment
is in time. A future that is given up does nothing after that moment, and the bridge reports it once. A
continuation with the outcome runs a single time in every case, one with the value only if there is one.
-/

namespace HttpHandler

variable {ε α : Type}

namespace Action

/-- The events of some actions, each with the time at which it happens. -/
def timeline (start : Nat) : List (Action ε) → List (Nat × Event ε)
  | [] => []
  | .event happened :: rest => (start, happened) :: timeline start rest
  | .sleep time :: rest => timeline (start + time) rest

theorem timeline_append (start : Nat) (first second : List (Action ε)) :
    timeline start (first ++ second) =
      timeline start first ++ timeline (start + millis first) second := by
  induction first generalizing start with
  | nil => rfl
  | cons action rest ih =>
      cases action with
      | event happened => simp only [List.cons_append, timeline, millis, ih]
      | sleep time => simp only [List.cons_append, timeline, millis, ih, Nat.add_assoc]

theorem start_le_of_mem_timeline {start : Nat} {actions : List (Action ε)} {entry : Nat × Event ε}
    (member : entry ∈ timeline start actions) : start ≤ entry.1 := by
  induction actions generalizing start with
  | nil => contradiction
  | cons action rest ih =>
      cases action with
      | event happened =>
          obtain rfl | later := List.mem_cons.mp member
          · exact Nat.le_refl start
          · exact ih later
      | sleep time => exact Nat.le_trans (Nat.le_add_right start time) (ih member)

/-- Of some actions that are cut, just the events up to that time happen. -/
theorem timeline_cut (limit start : Nat) (actions : List (Action ε)) :
    timeline start (cut limit actions) =
      (timeline start actions).filter fun entry => entry.1 ≤ start + limit := by
  induction actions generalizing limit start with
  | nil => rfl
  | cons action rest ih =>
      cases action with
      | event happened =>
          have now : decide (start ≤ start + limit) = true := decide_eq_true (Nat.le_add_right _ _)
          simp only [cut, timeline, List.filter_cons, now, if_true, ih]
      | sleep time =>
          by_cases short : time ≤ limit
          · have same : start + time + (limit - time) = start + limit := by omega
            simp only [cut, if_pos short, timeline, ih, same]
          · -- Nothing happens before the sleep is over, and that is too late.
            have late : ∀ entry ∈ timeline (start + time) rest,
                ¬decide (entry.1 ≤ start + limit) = true := by
              intro entry member inTime
              have later : start + time ≤ entry.1 := start_le_of_mem_timeline member
              have sooner : entry.1 ≤ start + limit := of_decide_eq_true inTime
              omega
            simp only [cut, if_neg short, timeline, List.filter_eq_nil_iff.mpr late]

end Action

namespace Timeout

def roundedMillis (timeout : Timeout) : Nat := timeout.exactNanos ⌈/⌉ 1000000

/-- Shorter than thirty years, so that a clock can wait for it. -/
def Waitable (timeout : Timeout) : Prop := timeout.exactNanos < longestWait * 1000000

instance (timeout : Timeout) : Decidable timeout.Waitable := inferInstanceAs (Decidable (_ < _))

theorem millis_of_waitable {timeout : Timeout} (waitable : timeout.Waitable) :
    timeout.millis = timeout.roundedMillis := by
  have unlimited : timeout.exactNanos ≤ Duration.greatestWord * Duration.nanosPerSecond :=
    Nat.le_trans (Nat.le_of_lt waitable) (by decide)
  have rounded : timeout.roundedMillis ≤ longestWait := by
    rw [roundedMillis, ceilDiv_le_iff_le_mul (by decide), Nat.mul_comm]
    exact Nat.le_of_lt waitable
  have ceil : timeout.duration.ceilMillis = timeout.roundedMillis := by
    rw [Duration.ceilMillis, totalNanos_duration, Nat.min_eq_left unlimited, roundedMillis,
      Nat.ceilDiv_eq_add_pred_div, Nat.add_sub_assoc (by decide)]
  rw [millis, ceil, Nat.min_eq_left rounded]

end Timeout

/-- `Settles future timeout time outcome actions` says that a future that is awaited for at most a timeout
settles at a time with an outcome, and what is done until then. -/
inductive Settles (future : Task ε (Except Cause α)) :
    Option Timeout → Nat → Except Error α → List (Action ε) → Prop where
  /-- With no timeout, or if it is ready by then, a future settles by itself. -/
  | ready {timeout : Option Timeout}
    (inTime : ∀ limit, timeout = some limit → future.duration ≤ limit.roundedMillis) :
    Settles future timeout future.duration (future.value.mapError Error.ofCause) future.trace
  /-- Otherwise nothing that it would do after the timeout happens, and this is reported. -/
  | givenUp {limit : Timeout} {actions : List (Action ε)}
    (late : limit.roundedMillis < future.duration)
    (events : Action.timeline 0 actions =
      ((Action.timeline 0 future.trace).filter fun entry => entry.1 ≤ limit.roundedMillis) ++
        [(limit.roundedMillis, .log (.timedOut limit))]) :
    Settles future (some limit) limit.roundedMillis (.error (.timeout limit)) actions

theorem unboxed_eq_mapError (outcome : Except Cause α) :
    unboxed outcome = outcome.mapError Error.ofCause := by
  cases outcome <;> rfl

theorem settles_settle {timeout : Option Timeout}
    (waitable : ∀ limit, timeout = some limit → limit.Waitable) (future : Task ε (Except Cause α)) :
    Settles future timeout (settle future timeout).duration (settle future timeout).value
      (settle future timeout).trace := by
  by_cases inTime : future.InTime timeout
  · rw [settle_of_inTime inTime, Task.duration, Task.trace_mapValue, Task.value_mapValue,
      unboxed_eq_mapError]
    refine .ready fun limit given => ?_
    rw [← Timeout.millis_of_waitable (waitable limit given)]
    exact inTime limit given
  · obtain ⟨limit, rfl, late⟩ : ∃ limit, timeout = some limit ∧ limit.millis < future.duration := by
      simpa [Task.InTime] using inTime
    have cut : Action.millis (Action.cut limit.millis future.trace) = limit.millis :=
      Action.millis_cut (Nat.le_of_lt late)
    rw [settle_of_late late, Task.duration, Action.millis_append, cut, Action.millis, Action.millis,
      Nat.add_zero]
    rw [Timeout.millis_of_waitable (waitable limit rfl)] at late cut ⊢
    refine .givenUp late ?_
    rw [Action.timeline_append, Action.timeline_cut, cut, Nat.zero_add]
    rfl

namespace Operation

/-- A bridge settles as its future does within the timeout. One that goes on with the outcome runs its
continuation once, whatever the outcome is; one that goes on with the value runs it once on a value and
otherwise surfaces the error. -/
theorem bridges_settle_or_give_up (future : Task ε (Except Cause α)) (timeout : Option Timeout)
    (waitable : ∀ limit, timeout = some limit → limit.Waitable)
    (f : Except Error α → Build ε (Operation ε)) (g : α → Build ε (Operation ε))
    (fallbacks : List (Operation ε)) :
    ∃ time outcome actions, Settles future timeout time outcome actions ∧
      Action.millis actions = time ∧
      ((whenSettled future timeout f).orAll fallbacks).resolve =
        ((f outcome).toTask >>= fun operation => (operation.orAll fallbacks).resolve).after actions ∧
      ((whenFulfilled future timeout g).orAll fallbacks).resolve =
        match outcome with
        | .ok value =>
          ((g value).toTask >>= fun operation => (operation.orAll fallbacks).resolve).after actions
        | .error error => ⟨.error error, actions⟩ := by
  refine ⟨_, _, _, settles_settle waitable future, rfl, ?_, ?_⟩
  · rw [resolve_orAll_whenSettled]
    rfl
  · cases settled : (settle future timeout).value with
    | ok value =>
        rw [resolve_orAll_whenFulfilled, Task.onOk_of_ok settled]
        rfl
    | error error => rw [resolve_orAll_whenFulfilled_of_error settled]

/-- A nanosecond more than nine milliseconds is a timeout of ten. A future that is ready at that moment is
in time; one that takes a millisecond more is given up and does nothing after that moment. -/
theorem bridges_settle_or_give_up_tie :
    let future (millis : Nat) : Task String (Except Cause Int) :=
      ⟨.ok 7, [.event (.effect "begun"), .sleep millis, .event (.effect "done")]⟩
    let limit : Timeout := ⟨9000001, .nanoseconds⟩
    let f : Int → Build String (Operation String) := fun _ => ⟨notFound, [.effect "continued"]⟩
    limit.Waitable ∧
      ((whenFulfilled (future 10) (some limit) f).orAll []).resolve =
        ⟨.ok (.empty Status.notFound), [.event (.effect "begun"), .sleep 10, .event (.effect "done"),
          .event (.effect "continued")]⟩ ∧
      ∃ actions, ((whenFulfilled (future 11) (some limit) f).orAll []).resolve =
          ⟨.error (.timeout limit), actions⟩ ∧
        Action.millis actions = 10 ∧
        Action.timeline 0 actions = [(0, .effect "begun"), (10, .log (.timedOut limit))] := by
  intro future limit f
  have waitable : ∀ other, some limit = some other → other.Waitable := by
    rintro other ⟨⟩
    decide
  have rounded : limit.roundedMillis = 10 := by decide
  have answered : (notFound.orAll []).resolve =
      (⟨.ok (.empty Status.notFound), []⟩ : Task String Outcome) := resolve_terminating _
  refine ⟨waitable limit rfl, ?_, ?_⟩
  · obtain ⟨time, outcome, actions, settles, -, -, resolved⟩ :=
      bridges_settle_or_give_up (future 10) (some limit) waitable (fun _ => pure notFound) f []
    cases settles with
    | ready inTime =>
        rw [resolved]
        change Task.after _ (_ >>= fun _ => (notFound.orAll []).resolve) = _
        rw [answered]
        rfl
    | givenUp late events => exact absurd late (by decide)
  · obtain ⟨time, outcome, actions, settles, took, -, resolved⟩ :=
      bridges_settle_or_give_up (future 11) (some limit) waitable (fun _ => pure notFound) f []
    cases settles with
    | ready inTime => exact absurd (inTime limit rfl) (by decide)
    | givenUp late events =>
        rw [rounded] at took events
        exact ⟨actions, resolved, took, events⟩

end Operation

end HttpHandler
