/-!
# Binary floating point

The interchange formats of IEEE 754 as bit patterns, and the rounding of exact quotients to them. All
arithmetic is done on natural numbers: a quotient is rounded once, to the nearest value, and a tie goes
to the even significand.
-/

namespace HttpHandler.Number

structure Format where
  fractionBits : Nat
  exponentBits : Nat
deriving Repr, DecidableEq

namespace Format

def single : Format := ⟨23, 8⟩

def double : Format := ⟨52, 11⟩

def bias (f : Format) : Nat := Nat.pow 2 (f.exponentBits - 1) - 1

def leastExponent (f : Format) : Int := 1 - f.bias - f.fractionBits

/-- The bit pattern of positive infinity; larger ones below the sign bit are not numbers. -/
def infinityBits (f : Format) : Nat := (Nat.pow 2 f.exponentBits - 1) * Nat.pow 2 f.fractionBits

def signBit (f : Format) : Nat := Nat.pow 2 (f.fractionBits + f.exponentBits)

def withSign (f : Format) (negative : Bool) (magnitude : Nat) : Nat :=
  if negative then f.signBit + magnitude else magnitude

def nanBits (f : Format) : Nat := f.infinityBits + Nat.pow 2 (f.fractionBits - 1)

end Format

/-- The value that a bit pattern stands for. A finite value is `significand · 2 ^ exponent`. -/
inductive Datum where
  | nan
  | infinite (negative : Bool)
  | finite (negative : Bool) (significand : Nat) (exponent : Int)
deriving Repr, DecidableEq

def Format.datum (f : Format) (bits : Nat) : Datum :=
  let negative := decide (f.signBit ≤ bits)
  let magnitude := bits % f.signBit
  let stored := magnitude / Nat.pow 2 f.fractionBits
  let fraction := magnitude % Nat.pow 2 f.fractionBits
  if magnitude = f.infinityBits then .infinite negative
  else if f.infinityBits < magnitude then .nan
  else if stored = 0 then .finite negative fraction f.leastExponent
  else .finite negative (Nat.pow 2 f.fractionBits + fraction) (f.leastExponent + (stored - 1 : Nat))

/-- The integer nearest to `num / den`, a tie going to the even one. -/
def roundDiv (num den : Nat) : Nat :=
  let quotient := num / den
  let doubled := 2 * (num % den)
  if den < doubled || (doubled == den && quotient % 2 == 1) then quotient + 1 else quotient

/-- The numerator and denominator of `num / den` divided by `2 ^ exponent`. -/
def unscale (num den : Nat) : Int → Nat × Nat
  | .ofNat exponent => (num, den * Nat.pow 2 exponent)
  | .negSucc lesser => (num * Nat.pow 2 (lesser + 1), den)

/-- The greatest `e` with `2 ^ e ≤ num / den`, for positive `num` and `den`. -/
def floorLog2 (num den : Nat) : Int :=
  let estimate : Int := (num.log2 : Int) - den.log2
  let scaled := unscale num den estimate
  if scaled.2 ≤ scaled.1 then estimate else estimate - 1

/-- The bit pattern nearest to `num / den` with the given sign; beyond the greatest value it is
infinity. -/
def Format.ofRatio (f : Format) (negative : Bool) (num den : Nat) : Nat :=
  if num = 0 then f.withSign negative 0
  else
    let exponent := max f.leastExponent (floorLog2 num den - f.fractionBits)
    let scaled := unscale num den exponent
    let magnitude := (exponent - f.leastExponent).toNat * Nat.pow 2 f.fractionBits +
      roundDiv scaled.1 scaled.2
    f.withSign negative (min magnitude f.infinityBits)

def Format.ofInt (f : Format) (n : Int) : Nat := f.ofRatio (decide (n < 0)) n.natAbs 1

def Format.ofDatum (f : Format) : Datum → Nat
  | .nan => f.nanBits
  | .infinite negative => f.withSign negative f.infinityBits
  | .finite negative significand (.ofNat exponent) =>
    f.ofRatio negative (significand * Nat.pow 2 exponent) 1
  | .finite negative significand (.negSucc lesser) =>
    f.ofRatio negative significand (Nat.pow 2 (lesser + 1))

def digitCount (n : Nat) : Nat := (Nat.toDigits 10 n).length

/-- The bit pattern nearest to `significand · 10 ^ exponent`. Magnitudes far outside the format are
settled without computing the power. -/
def Format.ofDecimal (f : Format) (negative : Bool) (significand : Nat) (exponent : Int) : Nat :=
  let magnitude : Int := digitCount significand + exponent
  if significand = 0 ∨ magnitude < f.leastExponent then f.withSign negative 0
  else if (f.bias : Int) < magnitude then f.withSign negative f.infinityBits
  else match exponent with
    | .ofNat power => f.ofRatio negative (significand * Nat.pow 10 power) 1
    | .negSucc lesser => f.ofRatio negative significand (Nat.pow 10 (lesser + 1))

end HttpHandler.Number
