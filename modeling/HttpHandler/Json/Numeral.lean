import HttpHandler.Json.Node
import HttpHandler.Number.Integer
import HttpHandler.Number.Binary

/-!
# The value of a numeral

A numeral without point and exponent is an integer if it fits 64 bits and is not a negative zero. Any
other is a floating-point value: its significand takes digits as long as it fits 64 bits, is rounded,
and is then scaled by powers of ten, rounding at every step.
-/

namespace HttpHandler.Json

open Number

inductive Quantity where
  | integer (n : Int)
  | fraction (bits : Nat)
deriving Repr, DecidableEq

/-- Appends digits to a significand until one no longer fits 64 bits. Gives the significand and the
number of digits that were left out. -/
def absorb (significand : Nat) : List Nat → Nat × Nat
  | [] => (significand, 0)
  | digit :: rest =>
    if significand * 10 + digit < Nat.pow 2 64 then absorb (significand * 10 + digit) rest
    else (significand, rest.length + 1)

def digitsValue (digits : List Nat) : Nat := digits.foldl (fun value digit => value * 10 + digit) 0

def ratioOf (bits : Nat) : Nat × Nat :=
  match Format.double.datum bits with
  | .finite _ significand (.ofNat exponent) => (significand * Nat.pow 2 exponent, 1)
  | .finite _ significand (.negSucc lesser) => (significand, Nat.pow 2 (lesser + 1))
  | _ => (0, 1)

def product (first second : Nat) : Nat :=
  let a := ratioOf first
  let b := ratioOf second
  Format.double.ofRatio false (a.1 * b.1) (a.2 * b.2)

def quotient (first second : Nat) : Nat :=
  let a := ratioOf first
  let b := ratioOf second
  Format.double.ofRatio false (a.1 * b.2) (a.2 * b.1)

def powerOfTen (exponent : Nat) : Nat := Format.double.ofDecimal false 1 exponent

def greatestPower : Nat := 308

/-- Scales a positive value by a power of ten. Too large a result is none at all; a value divided
twice by the greatest power is zero. -/
def scaled (value : Nat) : Int → Option Nat
  | .ofNat exponent =>
    if value = 0 then some 0
    else if exponent ≤ greatestPower then
      let result := product value (powerOfTen exponent)
      if result = Format.double.infinityBits then none else some result
    else none
  | .negSucc lesser =>
    let exponent := lesser + 1
    if exponent ≤ greatestPower then some (quotient value (powerOfTen exponent))
    else
      let once := quotient value (powerOfTen greatestPower)
      if exponent ≤ 2 * greatestPower then
        some (quotient once (powerOfTen (exponent - greatestPower)))
      else some 0

def greatestExponent : Nat := Nat.pow 2 31 - 1

/-- The exponent of a numeral, together with `offset`. Nothing if it is too large to be counted. -/
def exponentOf (numeral : Numeral) (offset : Int) : Option Int :=
  match numeral.exponent with
  | none => some offset
  | some (negative, digits) =>
    let magnitude := digitsValue digits
    if magnitude ≤ greatestExponent then
      some (offset + if negative then -(magnitude : Int) else magnitude)
    else none

def Numeral.fraction? (numeral : Numeral) : Option Nat :=
  let whole := absorb 0 numeral.whole
  let fraction := numeral.fraction.getD []
  let significand := absorb whole.1 fraction
  let offset : Int := (whole.2 : Int) - (fraction.length - significand.2 : Nat)
  let magnitude := match exponentOf numeral offset with
    | some exponent => scaled (Format.double.ofInt significand.1) exponent
    | none =>
      if significand.1 ≠ 0 ∧ (numeral.exponent.map Prod.fst) = some false then none else some 0
  magnitude.map (Format.double.withSign numeral.negative)

def Numeral.quantity? (numeral : Numeral) : Option Quantity :=
  let plain := numeral.fraction.isNone && numeral.exponent.isNone
  let magnitude := digitsValue numeral.whole
  if plain && !numeral.negative && magnitude < Nat.pow 2 64 then some (.integer magnitude)
  else if plain && numeral.negative && magnitude ≠ 0 && magnitude ≤ Nat.pow 2 63 then
    some (.integer (-(magnitude : Int)))
  else numeral.fraction?.map .fraction

end HttpHandler.Json
