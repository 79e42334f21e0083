import HttpHandler.Text.Case.Table

/-!
# Upper and lower case

The full case mappings: a character may become several, and a capital sigma that ends a word becomes
the final form.
-/

namespace HttpHandler.Text

inductive LetterCase where
  | upper
  | lower
deriving Repr, DecidableEq

namespace Case

def shifted? (runs : List Run) (code : Nat) : Option Nat :=
  (runs.find? fun run =>
    run.first ≤ code && code ≤ run.last && (code - run.first) % run.stride == 0).map fun run =>
      ((code : Int) + run.shift).toNat

/-- A character mapped by a table of long mappings, else by runs, else to itself. -/
def mapChar (long : List (Nat × List Nat)) (runs : List Run) (c : Char) : List Char :=
  match long.lookup c.toNat with
  | some codes => codes.map Char.ofNat
  | none => [((shifted? runs c.toNat).map Char.ofNat).getD c]

def upperChar (c : Char) : List Char := mapChar upperLong upperRuns c

def lowerChar (c : Char) : List Char := mapChar lowerLong lowerRuns c

def inRanges (ranges : List (Nat × Nat)) (c : Char) : Bool :=
  ranges.any fun range => range.1 ≤ c.toNat && c.toNat ≤ range.2

def nextIsCased (characters : List Char) : Bool :=
  match characters.dropWhile (inRanges ignorableRanges) with
  | c :: _ => inRanges casedRanges c
  | [] => false

def capitalSigma : Char := 'Σ'

/-- The lower case of the characters after `before`, which holds the earlier ones last to first. A
capital sigma takes its final form after a letter and not before one. -/
def lowerFrom (before : List Char) : List Char → List Char
  | [] => []
  | c :: rest =>
    (if c = capitalSigma then
      [if nextIsCased before && !nextIsCased rest then 'ς' else 'σ']
    else lowerChar c) ++ lowerFrom (c :: before) rest

def upper (text : String) : String := String.ofList (text.toList.flatMap upperChar)

def lower (text : String) : String := String.ofList (lowerFrom [] text.toList)

end Case

def LetterCase.apply : LetterCase → String → String
  | .upper => Case.upper
  | .lower => Case.lower

end HttpHandler.Text
