import HttpHandler.Timeout

/-!
# How long a timeout is

A timeout lasts exactly its number times the length of its unit, up to the longest duration of whole
seconds, and nothing overflows on the way: so a timeout that is at least as long as another, whatever
their units, lasts at least as long. A duration that is made a timeout is kept to the nanosecond as far as
its nanoseconds fit into 64 bits.
-/

namespace HttpHandler

namespace Duration

/-- The seconds fit into 64 bits and the nanoseconds do not make up another second. -/
structure WellFormed (duration : Duration) : Prop where
  seconds_le : duration.seconds ≤ greatestWord
  nanos_lt : duration.nanos < nanosPerSecond

/-- Durations are compared by their seconds and, where these are equal, by the nanoseconds of the second
that has begun. -/
instance : LE Duration where
  le first second := first.seconds < second.seconds ∨
    first.seconds = second.seconds ∧ first.nanos ≤ second.nanos

instance (first second : Duration) : Decidable (first ≤ second) :=
  inferInstanceAs (Decidable (_ ∨ _))

instance : Min Duration := minOfLe

def ofNanos (nanos : Nat) : Duration := ⟨nanos / nanosPerSecond, nanos % nanosPerSecond⟩

variable {first second : Duration}

theorem totalNanos_ofNanos (nanos : Nat) : (ofNanos nanos).totalNanos = nanos :=
  Nat.div_add_mod' nanos nanosPerSecond

theorem totalNanos_ofSeconds (seconds : Nat) :
    (ofSeconds seconds).totalNanos = seconds * nanosPerSecond := Nat.add_zero _

theorem totalNanos_inj (wellFormed : first.WellFormed) (wellFormed' : second.WellFormed) :
    first.totalNanos = second.totalNanos ↔ first = second := by
  have nanos := wellFormed.nanos_lt
  have nanos' := wellFormed'.nanos_lt
  obtain ⟨seconds, _⟩ := first
  obtain ⟨seconds', _⟩ := second
  simp only [totalNanos, nanosPerSecond, mk.injEq] at nanos nanos' ⊢
  omega

theorem le_iff_totalNanos_le (wellFormed : first.WellFormed) (wellFormed' : second.WellFormed) :
    first ≤ second ↔ first.totalNanos ≤ second.totalNanos := by
  have nanos := wellFormed.nanos_lt
  have nanos' := wellFormed'.nanos_lt
  change first.seconds < second.seconds ∨ first.seconds = second.seconds ∧ first.nanos ≤ second.nanos ↔ _
  simp only [totalNanos, nanosPerSecond] at nanos nanos' ⊢
  omega

theorem WellFormed.min (wellFormed : first.WellFormed) (wellFormed' : second.WellFormed) :
    (min first second).WellFormed := by
  change (if first ≤ second then first else second).WellFormed
  split
  · exact wellFormed
  · exact wellFormed'

theorem totalNanos_min (wellFormed : first.WellFormed) (wellFormed' : second.WellFormed) :
    (min first second).totalNanos = min first.totalNanos second.totalNanos := by
  change (if first ≤ second then first else second).totalNanos = _
  rw [Nat.min_def]
  simp only [le_iff_totalNanos_le wellFormed wellFormed']
  split <;> rfl

theorem wellFormed_ofSeconds {seconds : Nat} (fits : seconds ≤ greatestWord) :
    (ofSeconds seconds).WellFormed :=
  ⟨fits, Nat.zero_lt_succ _⟩

theorem wellFormed_ofNanos {nanos : Nat} (fits : nanos ≤ greatestWord) : (ofNanos nanos).WellFormed :=
  ⟨Nat.le_trans (Nat.div_le_self _ _) fits, Nat.mod_lt _ (by decide)⟩

section Parts

variable {perSecond count : Nat}

theorem totalNanos_ofParts (divides : perSecond ∣ nanosPerSecond) :
    (ofParts perSecond count).totalNanos = count * (nanosPerSecond / perSecond) := by
  calc (ofParts perSecond count).totalNanos
      = count / perSecond * (perSecond * (nanosPerSecond / perSecond)) +
          count % perSecond * (nanosPerSecond / perSecond) := by
        rw [Nat.mul_div_cancel' divides]
        rfl
    _ = (count / perSecond * perSecond + count % perSecond) * (nanosPerSecond / perSecond) := by
        rw [Nat.add_mul, Nat.mul_assoc]
    _ = count * (nanosPerSecond / perSecond) := by rw [Nat.div_add_mod']

theorem wellFormed_ofParts (divides : perSecond ∣ nanosPerSecond) (fits : count ≤ greatestWord) :
    (ofParts perSecond count).WellFormed := by
  have positive : 0 < perSecond := Nat.pos_of_dvd_of_pos divides (by decide)
  have part : 0 < nanosPerSecond / perSecond :=
    Nat.div_pos (Nat.le_of_dvd (by decide) divides) positive
  refine ⟨Nat.le_trans (Nat.div_le_self _ _) fits, ?_⟩
  calc count % perSecond * (nanosPerSecond / perSecond)
      < perSecond * (nanosPerSecond / perSecond) :=
        Nat.mul_lt_mul_of_pos_right (Nat.mod_lt count positive) part
    _ = nanosPerSecond := Nat.mul_div_cancel' divides

end Parts

end Duration

def TimeUnit.nanos : TimeUnit → Nat
  | .nanoseconds => 1
  | .microseconds => 1000
  | .milliseconds => 1000000
  | .seconds => 1000000000
  | .minutes => 60 * 1000000000
  | .hours => 60 * 60 * 1000000000
  | .days => 24 * 60 * 60 * 1000000000

namespace Timeout

open Duration

/-- The length of a timeout in nanoseconds, without any limit. -/
def exactNanos (timeout : Timeout) : Nat := timeout.value.toNat * timeout.unit.nanos

theorem value_le (timeout : Timeout) : timeout.value.toNat ≤ greatestWord :=
  Nat.le_sub_one_of_lt timeout.value.toNat_lt

theorem totalNanos_ofParts_eq_min {perSecond : Nat} {unit : TimeUnit} (value : UInt64)
    (divides : perSecond ∣ nanosPerSecond) (length : nanosPerSecond / perSecond = unit.nanos) :
    (ofParts perSecond value.toNat).totalNanos =
      min (exactNanos ⟨value, unit⟩) (greatestWord * nanosPerSecond) := by
  have part : unit.nanos ≤ nanosPerSecond := by
    rw [← length]
    exact Nat.div_le_self _ _
  -- A part of a second, taken at most so often, is no longer than as many seconds.
  have short : value.toNat * unit.nanos ≤ greatestWord * nanosPerSecond :=
    Nat.mul_le_mul (value_le ⟨value, unit⟩) part
  rw [totalNanos_ofParts divides, length, exactNanos, Nat.min_eq_left short]

theorem totalNanos_saturatingSeconds {each : Nat} {unit : TimeUnit} (value : UInt64)
    (length : each * nanosPerSecond = unit.nanos) :
    (saturatingSeconds value each).totalNanos =
      min (exactNanos ⟨value, unit⟩) (greatestWord * nanosPerSecond) := by
  rw [saturatingSeconds, totalNanos_ofSeconds, ← Nat.mul_min_mul_right, Nat.mul_assoc, length, exactNanos]

theorem wellFormed_duration (timeout : Timeout) : timeout.duration.WellFormed := by
  have fits : timeout.value.toNat ≤ greatestWord := timeout.value_le
  obtain ⟨value, unit⟩ := timeout
  cases unit with
  | nanoseconds | microseconds | milliseconds => exact wellFormed_ofParts (by decide) fits
  | seconds | minutes | hours | days => exact wellFormed_ofSeconds (Nat.min_le_right _ _)

theorem totalNanos_duration (timeout : Timeout) :
    timeout.duration.totalNanos = min timeout.exactNanos (greatestWord * nanosPerSecond) := by
  obtain ⟨value, unit⟩ := timeout
  cases unit with
  | nanoseconds | microseconds | milliseconds =>
      exact totalNanos_ofParts_eq_min value (by decide) (by decide)
  | seconds | minutes | hours | days => exact totalNanos_saturatingSeconds value (by decide)

theorem duration_le_duration {short long : Timeout} (shorter : short.exactNanos ≤ long.exactNanos) :
    short.duration ≤ long.duration := by
  rw [le_iff_totalNanos_le short.wellFormed_duration long.wellFormed_duration, totalNanos_duration,
    totalNanos_duration]
  omega

theorem toNat_value_ofDuration (duration : Duration) :
    (ofDuration duration).value.toNat = min duration.totalNanos greatestWord :=
  UInt64.toNat_ofNat_of_lt (Nat.lt_of_le_of_lt (Nat.min_le_right _ _) (by decide))

theorem totalNanos_duration_ofDuration (duration : Duration) :
    (ofDuration duration).duration.totalNanos = min duration.totalNanos greatestWord := by
  have fits : min duration.totalNanos greatestWord ≤ greatestWord * nanosPerSecond :=
    Nat.le_trans (Nat.min_le_right _ _) (by decide)
  rw [totalNanos_duration, exactNanos, toNat_value_ofDuration]
  exact (congrArg (min · _) (Nat.mul_one _)).trans (Nat.min_eq_left fits)

theorem duration_ofDuration {duration : Duration} (wellFormed : duration.WellFormed) :
    (ofDuration duration).duration = min duration (.ofNanos greatestWord) := by
  have longest : (Duration.ofNanos greatestWord).WellFormed := wellFormed_ofNanos (Nat.le_refl _)
  rw [← totalNanos_inj (wellFormed_duration _) (wellFormed.min longest),
    totalNanos_duration_ofDuration, totalNanos_min wellFormed longest, totalNanos_ofNanos]

theorem ofDuration_duration_ofDuration (duration : Duration) :
    ofDuration (ofDuration duration).duration = ofDuration duration := by
  rw [ofDuration, totalNanos_duration_ofDuration, Nat.min_assoc, Nat.min_self]
  rfl

/-- A timeout lasts exactly its number times the length of its unit, or the greatest number of whole
seconds if that is less, and this is a duration without any overflow. A timeout of at least the same exact
length lasts at least as long. A duration that is made a timeout lasts as before, or as many nanoseconds
as fit if that is less, so that doing it again changes nothing. -/
theorem duration_eq_min_exactNanos (timeout : Timeout) :
    timeout.duration.WellFormed ∧
      timeout.duration.totalNanos = min timeout.exactNanos (ofSeconds greatestWord).totalNanos ∧
      (∀ longer : Timeout, timeout.exactNanos ≤ longer.exactNanos →
        timeout.duration ≤ longer.duration) ∧
      ∀ duration : Duration, duration.WellFormed →
        (ofDuration duration).duration = min duration (.ofNanos greatestWord) ∧
          ofDuration (ofDuration duration).duration = ofDuration duration := by
  refine ⟨timeout.wellFormed_duration, timeout.totalNanos_duration, ?_, ?_⟩
  · intro longer shorter
    exact duration_le_duration shorter
  · intro duration wellFormed
    exact ⟨duration_ofDuration wellFormed, ofDuration_duration_ofDuration duration⟩

/-- The first numbers of hours and of days that are longer than any duration of whole seconds last
equally long. One nanosecond more than fits is lost when a duration is made a timeout. -/
theorem duration_eq_min_exactNanos_saturated :
    let hours : Timeout := ⟨5124095576030432, .hours⟩
    let days : Timeout := ⟨213503982334602, .days⟩
    let long : Duration := ⟨18446744073, 709551616⟩
    hours.duration = .ofSeconds 18446744073709551615 ∧
      days.duration = .ofSeconds 18446744073709551615 ∧
      hours.exactNanos ≤ days.exactNanos ∧ hours.duration ≤ days.duration ∧
      long.WellFormed ∧ (ofDuration long).duration = ⟨18446744073, 709551615⟩ ∧
      ofDuration (ofDuration long).duration = ofDuration long := by
  intro hours days long
  have shorter : hours.exactNanos ≤ days.exactNanos := by decide +kernel
  have wellFormed : long.WellFormed := ⟨by decide, by decide⟩
  have fits : min long (.ofNanos greatestWord) = ⟨18446744073, 709551615⟩ := by decide +kernel
  obtain ⟨-, -, ordered, converted⟩ := duration_eq_min_exactNanos hours
  obtain ⟨kept, again⟩ := converted long wellFormed
  exact ⟨by decide +kernel, by decide +kernel, shorter, ordered days shorter, wellFormed,
    kept.trans fits, again⟩

end Timeout

end HttpHandler
