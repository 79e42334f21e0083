import HttpHandler.Number.Integer
import HttpHandler.Number.Binary

/-!
# Decimal fractions

Reading a binary floating-point value from decimal text, correctly rounded: an optional sign, digits
with an optional point and at least one digit beside it, an optional exponent; or the name of infinity
or of the value that is not a number, in any case.
-/

namespace HttpHandler.Number

inductive FractionError where
  | empty
  | invalid
deriving Repr, DecidableEq

def FractionError.message : FractionError → String
  | .empty => "cannot parse float from empty string"
  | .invalid => "invalid float literal"

def digitsValue (digits : List Char) : Nat :=
  digits.foldl (fun value c => value * 10 + (c.toNat - '0'.toNat)) 0

def readExponent : List Char → Option Int
  | [] => some 0
  | mark :: rest =>
    if mark = 'e' ∨ mark = 'E' then
      let (negative, digits) := match rest with
        | '+' :: digits => (false, digits)
        | '-' :: digits => (true, digits)
        | digits => (false, digits)
      if digits ≠ [] ∧ digits.all Char.isDigit then
        some (if negative then -(digitsValue digits : Int) else digitsValue digits)
      else none
    else none

def readNumeral (characters : List Char) : Option (Nat × Int) :=
  let whole := characters.takeWhile Char.isDigit
  let rest := characters.dropWhile Char.isDigit
  let (fraction, rest) := match rest with
    | '.' :: rest => (rest.takeWhile Char.isDigit, rest.dropWhile Char.isDigit)
    | rest => ([], rest)
  if whole = [] ∧ fraction = [] then none
  else (readExponent rest).map fun exponent =>
    (digitsValue (whole ++ fraction), exponent - fraction.length)

def Format.readUnsigned (f : Format) (negative : Bool) (characters : List Char) : Option Nat :=
  let name := String.ofList (characters.map Char.toLower)
  if name = "inf" ∨ name = "infinity" then some (f.withSign negative f.infinityBits)
  else if name = "nan" then some f.nanBits
  else (readNumeral characters).map fun numeral => f.ofDecimal negative numeral.1 numeral.2

def Format.read (f : Format) (text : String) : Except FractionError Nat :=
  match text.toList with
  | [] => .error .empty
  | '+' :: rest => (f.readUnsigned false rest).elim (.error .invalid) .ok
  | '-' :: rest => (f.readUnsigned true rest).elim (.error .invalid) .ok
  | characters => (f.readUnsigned false characters).elim (.error .invalid) .ok

end HttpHandler.Number
