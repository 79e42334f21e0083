/-!
# Durations and timeouts

A timeout keeps the number and the unit it was given in. Its length is a duration: whole seconds of 64
bits, which saturate, and the nanoseconds of a started second.
-/

namespace HttpHandler

/-- A length of time: whole seconds and the nanoseconds of the second that has begun. -/
structure Duration where
  seconds : Nat
  nanos : Nat
deriving Repr, DecidableEq

namespace Duration

def nanosPerSecond : Nat := 1000000000

def totalNanos (duration : Duration) : Nat := duration.seconds * nanosPerSecond + duration.nanos

def greatestWord : Nat := Nat.pow 2 64 - 1

def ofSeconds (seconds : Nat) : Duration := ⟨seconds, 0⟩

def ofParts (perSecond count : Nat) : Duration :=
  ⟨count / perSecond, count % perSecond * (nanosPerSecond / perSecond)⟩

/-- The length in milliseconds, a started millisecond counting as a whole one. -/
def ceilMillis (duration : Duration) : Nat := (duration.totalNanos + 999999) / 1000000

end Duration

/-- The milliseconds that a clock waits at most at one go: thirty years. A longer wait is cut to
them. -/
def longestWait : Nat := 30 * 365 * 24 * 60 * 60 * 1000

inductive TimeUnit where
  | nanoseconds
  | microseconds
  | milliseconds
  | seconds
  | minutes
  | hours
  | days
deriving Repr, DecidableEq

def TimeUnit.suffix : TimeUnit → String
  | .nanoseconds => "ns"
  | .microseconds => "us"
  | .milliseconds => "ms"
  | .seconds => "s"
  | .minutes => "min"
  | .hours => "h"
  | .days => "d"

/-- How long a bridged future may take. Two timeouts are equal only when both number and unit are. -/
structure Timeout where
  value : UInt64
  unit : TimeUnit
deriving Repr, DecidableEq

namespace Timeout

open Duration

def saturatingSeconds (value : UInt64) (each : Nat) : Duration :=
  .ofSeconds (min (value.toNat * each) greatestWord)

def duration (timeout : Timeout) : Duration :=
  match timeout.unit with
  | .nanoseconds => .ofParts 1000000000 timeout.value.toNat
  | .microseconds => .ofParts 1000000 timeout.value.toNat
  | .milliseconds => .ofParts 1000 timeout.value.toNat
  | .seconds => saturatingSeconds timeout.value 1
  | .minutes => saturatingSeconds timeout.value 60
  | .hours => saturatingSeconds timeout.value (60 * 60)
  | .days => saturatingSeconds timeout.value (24 * 60 * 60)

/-- A duration in nanoseconds, or the longest such timeout if it does not fit. -/
def ofDuration (duration : Duration) : Timeout :=
  ⟨UInt64.ofNat (min duration.totalNanos greatestWord), .nanoseconds⟩

/-- The milliseconds that a clock waits for a timeout, which are rounded up. -/
def millis (timeout : Timeout) : Nat := min timeout.duration.ceilMillis longestWait

def text (timeout : Timeout) : String := toString timeout.value.toNat ++ timeout.unit.suffix

end Timeout

end HttpHandler
