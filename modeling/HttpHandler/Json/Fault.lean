import HttpHandler.Number.Integer

/-!
# Faults of JSON texts

Why a value could not be written or a text not be read: a message, and the place in the text that it
is about. A message that ends in a place gives the place up to the fault; line 0 is no line of a text,
so a fault there is shown by its message alone.
-/

namespace HttpHandler.Json

open Number

structure Fault where
  message : String
  line : Nat
  column : Nat
deriving Repr, DecidableEq

namespace Fault

def unplaced (message : String) : Fault := ⟨message, 0, 0⟩

def lineMark : List Char := " at line ".toList

def columnMark : List Char := " column ".toList

/-- Takes a mark and a number of 64 bits after it off the end of a message, of which the characters
are given last to first. Gives the number and the characters before the mark. -/
def takeNumber? (mark backwards : List Char) : Option (Nat × List Char) :=
  let before := backwards.dropWhile Char.isDigit
  if mark.reverse.isPrefixOf before then
    match (Range.unsigned 64).readCharacters (backwards.takeWhile Char.isDigit).reverse with
    | .ok number => some (number.toNat, before.drop mark.length)
    | .error _ => none
  else none

def placed? (message : String) : Option Fault := do
  let (column, rest) ← takeNumber? columnMark message.toList.reverse
  let (line, rest) ← takeNumber? lineMark rest
  pure ⟨String.ofList rest.reverse, line, column⟩

def ofMessage (message : String) : Fault := (placed? message).getD (unplaced message)

def text (fault : Fault) : String :=
  if fault.line = 0 then fault.message
  else fault.message ++ " at line " ++ toString fault.line ++ " column " ++ toString fault.column

@[simp] theorem text_unplaced (message : String) : (unplaced message).text = message := rfl

end Fault

end HttpHandler.Json
