import HttpHandler.Error
import HttpHandler.Text.Case

/-!
# Readings

How the raw values under a name become one typed value. A reading starts from a converter of one raw
value and is extended by modifiers. Splitting at commas and case mapping apply to the raw values before
anything else, wherever those modifiers sit; all other modifiers act in the order they were added.
-/

namespace HttpHandler

inductive Shape where
  | one
  | many
  | optional (shape : Shape)
deriving Repr, DecidableEq

abbrev Shape.Of (β : Type) : Shape → Type
  | .one => β
  | .many => List β
  | .optional shape => Option (shape.Of β)

inductive Failure where
  | missing
  | invalid (cause : Cause)

inductive Reading : Type → Shape → Type 1 where
  | fresh {β : Type} (convert : String → Except Cause β) : Reading β .one
  /-- The value converted further, a default included. -/
  | andThen {β γ : Type} (reading : Reading β .one) (next : β → Except Cause γ) : Reading γ .one
  | repeated {β : Type} (reading : Reading β .one) : Reading β .many
  | csv {β : Type} (reading : Reading β .one) : Reading β .many
  /-- The first element, without looking at the others. -/
  | single {β : Type} (reading : Reading β .many) : Reading β .one
  | optional {β : Type} {shape : Shape} (reading : Reading β shape) : Reading β (.optional shape)
  | orElse {β : Type} {shape : Shape} (reading : Reading β shape) (value : shape.Of β) :
    Reading β shape
  | cased {shape : Shape} (letterCase : Text.LetterCase) (reading : Reading String shape) :
    Reading String shape

namespace Reading

variable {β γ : Type} {shape : Shape}

def converter {β : Type} {shape : Shape} : Reading β shape → String → Except Cause β
  | .fresh convert => convert
  | .andThen reading next => fun raw => reading.converter raw >>= next
  | .repeated reading => reading.converter
  | .csv reading => reading.converter
  | .single reading => reading.converter
  | .optional reading => reading.converter
  | .orElse reading _ => reading.converter
  | .cased _ reading => reading.converter

def splits {β : Type} {shape : Shape} : Reading β shape → Bool
  | .fresh _ => false
  | .andThen reading _ => reading.splits
  | .repeated reading => reading.splits
  | .csv _ => true
  | .single reading => reading.splits
  | .optional reading => reading.splits
  | .orElse reading _ => reading.splits
  | .cased _ reading => reading.splits

/-- The case that raw values are mapped to, which is the last one asked for. -/
def letterCase? {β : Type} {shape : Shape} : Reading β shape → Option Text.LetterCase
  | .fresh _ => none
  | .andThen reading _ => reading.letterCase?
  | .repeated reading => reading.letterCase?
  | .csv reading => reading.letterCase?
  | .single reading => reading.letterCase?
  | .optional reading => reading.letterCase?
  | .orElse reading _ => reading.letterCase?
  | .cased letterCase _ => some letterCase

def converted (result : Except Cause β) : Except Failure β :=
  match result with
  | .ok value => .ok value
  | .error cause => .error (.invalid cause)

def convertAll (convert : String → Except Cause β) : List String → Except Failure (List β)
  | [] => .ok []
  | raw :: rest => do
    let first ← converted (convert raw)
    let others ← convertAll convert rest
    pure (first :: others)

def value {β : Type} {shape : Shape} :
    Reading β shape → Option (List String) → Except Failure (shape.Of β)
  | .fresh convert, raw =>
    match raw with
    | some (first :: _) => converted (convert first)
    | _ => .error .missing
  | .andThen reading next, raw => reading.value raw >>= fun found => converted (next found)
  | .repeated reading, raw =>
    match raw with
    | some raw => convertAll reading.converter raw
    | none => .error .missing
  | .csv reading, raw =>
    match raw with
    | some raw => convertAll reading.converter raw
    | none => .error .missing
  | .single reading, raw => do
    match ← reading.value (raw.map (·.take 1)) with
    | first :: _ => pure first
    | [] => .error .missing
  | .optional reading, raw =>
    match reading.value raw with
    | .ok found => .ok (some found)
    | .error .missing => .ok none
    | .error (.invalid cause) => .error (.invalid cause)
  | .orElse reading default, raw =>
    match reading.value raw with
    | .error .missing => .ok default
    | result => result
  | .cased _ reading, raw => reading.value raw

def commaParts (text : String) : List String := (text.toList.splitOn ',').map String.ofList

def splitFirst : List String → List String
  | first :: _ => commaParts first
  | [] => []

/-- Raw values as the modifiers see them: split first, then mapped to a case. -/
def prepare (reading : Reading β shape) (raw : List String) : List String :=
  let parts := if reading.splits then splitFirst raw else raw
  match reading.letterCase? with
  | some letterCase => parts.map letterCase.apply
  | none => parts

def read (reading : Reading β shape) (raw : Option (List String)) :
    Except Failure (shape.Of β) :=
  reading.value (raw.map reading.prepare)

end Reading

end HttpHandler
