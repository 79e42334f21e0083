/-!
# Decimal integers

Reading an integer of a bounded range from text: one optional sign, then one or more ASCII digits. Of
several faults the leftmost is reported, so an integer that leaves its range before a character that
is no digit is too large rather than malformed.
-/

namespace HttpHandler.Number

structure Range where
  least : Int
  greatest : Int
deriving Repr, DecidableEq

def Range.signed (bits : Nat) : Range :=
  ⟨-(Nat.pow 2 (bits - 1) : Nat), (Nat.pow 2 (bits - 1) : Nat) - 1⟩

def Range.unsigned (bits : Nat) : Range := ⟨0, (Nat.pow 2 bits : Nat) - 1⟩

def Range.contains (range : Range) (n : Int) : Bool :=
  decide (range.least ≤ n) && decide (n ≤ range.greatest)

inductive IntegerError where
  | empty
  | invalidDigit
  | tooLarge
  | tooSmall
deriving Repr, DecidableEq

def IntegerError.message : IntegerError → String
  | .empty => "cannot parse integer from empty string"
  | .invalidDigit => "invalid digit found in string"
  | .tooLarge => "number too large to fit in target type"
  | .tooSmall => "number too small to fit in target type"

def digit? (c : Char) : Option Nat :=
  if '0' ≤ c ∧ c ≤ '9' then some (c.toNat - '0'.toNat) else none

/-- Continues the number `value` with the digits that follow. Fails with `overflow` as soon as the
number exceeds `bound`. -/
def readDigits (bound : Nat) (overflow : IntegerError) : Nat → List Char → Except IntegerError Nat
  | value, [] => .ok value
  | value, c :: rest =>
    match digit? c with
    | none => .error .invalidDigit
    | some d =>
      if value * 10 + d ≤ bound then readDigits bound overflow (value * 10 + d) rest
      else .error overflow

/-- Reads the characters of an integer of the range. A range without negative integers admits no
minus sign. -/
def Range.readCharacters (range : Range) : List Char → Except IntegerError Int
  | [] => .error .empty
  | ['+'] => .error .invalidDigit
  | ['-'] => .error .invalidDigit
  | '+' :: digits => Int.ofNat <$> readDigits range.greatest.toNat .tooLarge 0 digits
  | '-' :: digits =>
    if range.least < 0 then
      (fun magnitude : Nat => -(magnitude : Int)) <$>
        readDigits (-range.least).toNat .tooSmall 0 digits
    else .error .invalidDigit
  | digits => Int.ofNat <$> readDigits range.greatest.toNat .tooLarge 0 digits

def Range.read (range : Range) (text : String) : Except IntegerError Int :=
  range.readCharacters text.toList

end HttpHandler.Number
