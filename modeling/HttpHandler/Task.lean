import HttpHandler.Log
import HttpHandler.Serialize

/-!
# Building and resolving

Two kinds of computation. Building an operation is synchronous: it may report events, and the code it
runs may leave effects and write values, but no time passes. Resolving one is a task: it may also sleep.
Tasks keep a virtual clock that moves only while everything waits, so the time a task takes is the sum of
its sleeps. The effects `ε` are whatever the code of a handler does to the outside.
-/

namespace HttpHandler

inductive Event (ε : Type) where
  | log (entry : LogEntry)
  | effect (effect : ε)
  /-- A value was written as JSON, or could not be. -/
  | written (writing : Writing)

inductive Action (ε : Type) where
  | event (event : Event ε)
  | sleep (millis : Nat)

abbrev Build (ε α : Type) := Traced (Event ε) α

abbrev Task (ε α : Type) := Traced (Action ε) α

def Event.effects {ε : Type} : List (Event ε) → List ε
  | [] => []
  | .effect done :: rest => done :: effects rest
  | .log _ :: rest => effects rest
  | .written _ :: rest => effects rest

def Event.logs {ε : Type} : List (Event ε) → List LogEntry
  | [] => []
  | .log entry :: rest => entry :: logs rest
  | .effect _ :: rest => logs rest
  | .written _ :: rest => logs rest

namespace Action

variable {ε : Type}

/-- Waits for some milliseconds, as long as a clock can. -/
def wait (millis : Nat) : Action ε := .sleep (min millis longestWait)

def events : List (Action ε) → List (Event ε)
  | [] => []
  | .event happened :: rest => happened :: events rest
  | .sleep _ :: rest => events rest

def millis : List (Action ε) → Nat
  | [] => 0
  | .event _ :: rest => millis rest
  | .sleep time :: rest => time + millis rest

/-- The actions that happen until the time `limit`, that moment included; a sleep that would last
longer is cut short. -/
def cut (limit : Nat) : List (Action ε) → List (Action ε)
  | [] => []
  | .event happened :: rest => .event happened :: cut limit rest
  | .sleep time :: rest =>
    if time ≤ limit then .sleep time :: cut (limit - time) rest else [.sleep limit]

@[simp] theorem millis_append (first second : List (Action ε)) :
    millis (first ++ second) = millis first + millis second := by
  induction first with
  | nil => simp [millis]
  | cons action rest ih => cases action <;> simp [millis, ih, Nat.add_assoc]

theorem millis_cut {limit : Nat} {actions : List (Action ε)} (longer : limit ≤ millis actions) :
    millis (cut limit actions) = limit := by
  induction actions generalizing limit with
  | nil => simpa [millis, cut, eq_comm] using longer
  | cons action rest ih =>
    cases action with
    | event event => simpa [millis, cut] using ih (by simpa [millis] using longer)
    | sleep time =>
      by_cases short : time ≤ limit
      · have left : limit - time ≤ millis rest := by
          simp only [millis] at longer
          omega
        simp only [cut, if_pos short, millis, ih left]
        omega
      · simp [cut, if_neg short, millis]

end Action

namespace Build

variable {ε α : Type}

def report (entry : LogEntry) : Build ε Unit := .emit (.log entry)

def perform (effect : ε) : Build ε Unit := .emit (.effect effect)

def ofReports (computation : Traced LogEntry α) : Build ε α := computation.mapTrace .log

def ofWritings (computation : Traced Writing α) : Build ε α := computation.mapTrace .written

def toTask (build : Build ε α) : Task ε α := build.mapTrace .event

end Build

namespace Task

variable {ε φ α β γ : Type}

def ready (value : α) : Task ε α := pure value

def mapValue (f : α → β) (task : Task ε α) : Task ε β := f <$> task

def report (entry : LogEntry) : Task ε Unit := .emit (.event (.log entry))

def sleep (millis : Nat) : Task ε Unit := .emit (.wait millis)

def duration (task : Task ε α) : Nat := Action.millis task.trace

/-- Continues with the value of a task; a failure ends it. -/
def onOk (task : Task ε (Except φ α)) (next : α → Task ε (Except φ β)) : Task ε (Except φ β) :=
  task >>= fun
    | .ok value => next value
    | .error error => pure (.error error)

@[simp] theorem value_mapValue (f : α → β) (task : Task ε α) :
    (task.mapValue f).value = f task.value := rfl

@[simp] theorem trace_mapValue (f : α → β) (task : Task ε α) :
    (task.mapValue f).trace = task.trace := Traced.trace_map f task

theorem onOk_of_ok {task : Task ε (Except φ α)} {value : α} (found : task.value = .ok value)
    (next : α → Task ε (Except φ β)) :
    task.onOk next = ⟨(next value).value, task.trace ++ (next value).trace⟩ := by
  apply Traced.ext <;> simp [onOk, found]

theorem onOk_of_error {task : Task ε (Except φ α)} {error : φ} (failed : task.value = .error error)
    (next : α → Task ε (Except φ β)) : task.onOk next = ⟨.error error, task.trace⟩ := by
  apply Traced.ext <;> simp [onOk, failed]

theorem onOk_mapValue_ok (task : Task ε α) (next : α → Task ε (Except φ β)) :
    (task.mapValue .ok).onOk next = task >>= next := by
  apply Traced.ext <;> simp [onOk]

theorem onOk_bind (first : Task ε α) (next : α → Task ε (Except φ β))
    (last : β → Task ε (Except φ γ)) :
    (first >>= next).onOk last = first >>= fun value => (next value).onOk last :=
  bind_assoc first next _

theorem onOk_onOk (task : Task ε (Except φ α)) (next : α → Task ε (Except φ β))
    (last : β → Task ε (Except φ γ)) :
    (task.onOk next).onOk last = task.onOk fun value => (next value).onOk last := by
  cases found : task.value with
  | error error => rw [onOk_of_error found, onOk_of_error found, onOk_of_error rfl]
  | ok value => apply Traced.ext <;> simp [onOk, found]

end Task

end HttpHandler
