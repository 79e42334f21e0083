import HttpHandler.Number.Binary

/-!
# Shortest decimal text

The decimal text of a finite floating-point value: the fewest digits that read back as the value, of
those the nearest to it, of two equally near ones the even one.
-/

namespace HttpHandler.Number

/-- The number `0.digits · 10 ^ point`. -/
structure Digits where
  digits : Nat
  point : Int
deriving Repr, DecidableEq

/-- The least `k` with `num / den < 10 ^ k`, for positive `num` and `den`. -/
def pointOf (num den : Nat) : Int :=
  if den ≤ num then digitCount (num / den) else 1 - (digitCount ((den - 1) / num) : Int)

def powerRatio (base : Nat) : Int → Nat × Nat
  | .ofNat exponent => (Nat.pow base exponent, 1)
  | .negSucc lesser => (1, Nat.pow base (lesser + 1))

/-- The reals that round to a value, as multiples of `num / den`: from `low` to `high` around
`middle`, the ends belonging to it when `closed`. -/
structure Interval where
  low : Nat
  middle : Nat
  high : Nat
  closed : Bool
  num : Nat
  den : Nat

/-- The interval of a finite positive value. Below a power of two the spacing is half as wide. -/
def Format.interval (f : Format) (significand : Nat) (exponent : Int) : Interval :=
  let narrow := significand = Nat.pow 2 f.fractionBits ∧ f.leastExponent < exponent
  let unit := powerRatio 2 (exponent - 2)
  { low := 4 * significand - (if narrow then 1 else 2)
    middle := 4 * significand
    high := 4 * significand + 2
    closed := significand % 2 = 0
    num := unit.1
    den := unit.2 }

def Interval.holds (interval : Interval) (num den candidate : Nat) : Bool :=
  if interval.closed then
    interval.low * num ≤ candidate * den && candidate * den ≤ interval.high * num
  else
    interval.low * num < candidate * den && candidate * den < interval.high * num

def Interval.onGrid? (interval : Interval) (grid : Int) : Option Nat :=
  let spacing := powerRatio 10 grid
  let num := interval.num * spacing.2
  let den := interval.den * spacing.1
  let below := interval.middle * num / den
  let offset := interval.middle * num - below * den
  match interval.holds num den below, interval.holds num den (below + 1) with
  | true, true =>
    if 2 * offset < den ∨ (2 * offset = den ∧ below % 2 = 0) then some below else some (below + 1)
  | true, false => some below
  | false, true => some (below + 1)
  | false, false => none

def Interval.search (interval : Interval) (point : Int) : Nat → Nat → Option Digits
  | 0, _ => none
  | remaining + 1, count =>
    match interval.onGrid? (point - count) with
    | some digits =>
      some (if digits < Nat.pow 10 count then ⟨digits, point⟩ else ⟨digits / 10, point + 1⟩)
    | none => interval.search point remaining (count + 1)

/-- The shortest digits of a finite positive value. Seventeen always suffice for the formats here. -/
def Format.shortest (f : Format) (significand : Nat) (exponent : Int) : Digits :=
  let interval := f.interval significand exponent
  let point := pointOf (interval.middle * interval.num) interval.den
  (interval.search point 17 1).getD ⟨0, 0⟩

/-- How the text of a value looks: the positions of the point that are written without an
exponent. -/
structure Layout where
  leastPoint : Int
  greatestPoint : Int

/-- Positional from a hundred-thousandth up to sixteen digits before the point. -/
def Layout.double : Layout := ⟨-4, 16⟩

/-- Positional from a millionth up to thirteen digits before the point. -/
def Layout.single : Layout := ⟨-5, 13⟩

def zeros (count : Nat) : List Char := List.replicate count '0'

def Layout.text (layout : Layout) (number : Digits) : List Char :=
  let digits := Nat.toDigits 10 number.digits
  if layout.leastPoint ≤ number.point ∧ number.point ≤ layout.greatestPoint then
    if number.point ≤ 0 then
      '0' :: '.' :: (zeros (-number.point).toNat ++ digits)
    else if digits.length ≤ number.point.toNat then
      digits ++ zeros (number.point.toNat - digits.length) ++ ['.', '0']
    else
      digits.take number.point.toNat ++ '.' :: digits.drop number.point.toNat
  else
    let exponent := number.point - 1
    let mantissa := match digits with
      | first :: second :: rest => first :: '.' :: second :: rest
      | digits => digits
    mantissa ++ 'e' :: (if exponent < 0 then '-' else '+') :: Nat.toDigits 10 exponent.natAbs

/-- The text of a value, or nothing for infinities and for what is no number. -/
def Format.text? (f : Format) (layout : Layout) (bits : Nat) : Option String :=
  match f.datum bits with
  | .nan => none
  | .infinite _ => none
  | .finite negative significand exponent =>
    let unsigned := if significand = 0 then ['0', '.', '0']
      else layout.text (f.shortest significand exponent)
    some (String.ofList (if negative then '-' :: unsigned else unsigned))

end HttpHandler.Number
