import HttpHandler.Descriptor.Reading

/-!
# What a reading comes to

A reading keeps its conversion twice: folded into the function that makes the value, and as a converter
of one raw value for the modifiers that read several. On values that are there the two agree, so a
reading is known from its converter and its shape alone (`value_some`). On a name without values a
reading without a default is known from its shape alone (`value_none`).
-/

namespace HttpHandler

variable {β γ : Type} {shape : Shape}

inductive ModifierKind where
  | andThen
  | repeated
  | csv
  | single
  | optional
  | orElse
  | cased
deriving Repr, DecidableEq

namespace Shape

/-- What a shape makes of values that are there: the first one or all of them, converted. -/
def gather (convert : String → Except Cause β) (first : String) (rest : List String) :
    (shape : Shape) → Except Failure (shape.Of β)
  | .one => Reading.converted (convert first)
  | .many => Reading.convertAll convert (first :: rest)
  | .optional shape => (shape.gather convert first rest).map some

end Shape

namespace Reading

/-- The modifiers of a reading, in the order in which they were added. -/
def modifiers {β : Type} {shape : Shape} : Reading β shape → List ModifierKind
  | .fresh _ => []
  | .andThen reading _ => reading.modifiers ++ [.andThen]
  | .repeated reading => reading.modifiers ++ [.repeated]
  | .csv reading => reading.modifiers ++ [.csv]
  | .single reading => reading.modifiers ++ [.single]
  | .optional reading => reading.modifiers ++ [.optional]
  | .orElse reading _ => reading.modifiers ++ [.orElse]
  | .cased _ reading => reading.modifiers ++ [.cased]

theorem converted_bind (result : Except Cause β) (next : β → Except Cause γ) :
    converted (result >>= next) = converted result >>= fun found => converted (next found) := by
  cases result <;> rfl

theorem converted_ne_missing (result : Except Cause β) : converted result ≠ .error .missing := by
  cases result <;> simp [converted]

theorem convertAll_ne_missing (convert : String → Except Cause β) (raw : List String) :
    convertAll convert raw ≠ .error .missing := by
  induction raw with
  | nil => simp [convertAll]
  | cons first rest ih =>
      rw [convertAll]
      cases head : converted (convert first) with
      | error failure =>
          have invalid : failure ≠ .missing := by
            rintro rfl
            exact converted_ne_missing (convert first) head
          simpa [bind, Except.bind] using invalid
      | ok value =>
          cases tail : convertAll convert rest with
          | error failure =>
              have invalid : failure ≠ .missing := by
                rintro rfl
                exact ih tail
              simpa [bind, Except.bind] using invalid
          | ok values => simp [bind, Except.bind, pure, Except.pure]

theorem convertAll_singleton (convert : String → Except Cause β) (raw : String) :
    convertAll convert [raw] = (converted (convert raw)).map fun value => [value] := by
  simp only [convertAll]
  cases converted (convert raw) <;> rfl

theorem value_optional_of_ne_missing {reading : Reading β shape} {raw : Option (List String)}
    (present : reading.value raw ≠ .error .missing) :
    (optional reading).value raw = (reading.value raw).map some := by
  rw [value]
  cases found : reading.value raw with
  | ok value => rfl
  | error failure =>
      cases failure with
      | missing => exact absurd found present
      | invalid cause => rfl

theorem value_orElse_of_ne_missing {reading : Reading β shape} {raw : Option (List String)}
    (present : reading.value raw ≠ .error .missing) (default : shape.Of β) :
    (orElse reading default).value raw = reading.value raw := by
  rw [value]
  cases found : reading.value raw with
  | ok value => rfl
  | error failure =>
      cases failure with
      | missing => exact absurd found present
      | invalid cause => rfl

end Reading

/-- Values that are there may not convert, but they are not missing. -/
theorem Shape.gather_ne_missing (convert : String → Except Cause β) (first : String)
    (rest : List String) : shape.gather convert first rest ≠ .error .missing := by
  induction shape with
  | one => exact Reading.converted_ne_missing (convert first)
  | many => exact Reading.convertAll_ne_missing convert (first :: rest)
  | optional shape ih =>
      rw [gather]
      cases gathered : shape.gather convert first rest with
      | ok found => simp [Except.map]
      | error failure =>
          have invalid : failure ≠ .missing := by
            rintro rfl
            exact ih gathered
          simpa [Except.map] using invalid

namespace Reading

/-- On values that are there, a reading is its converter, applied as its shape says. -/
theorem value_some (reading : Reading β shape) (first : String) (rest : List String) :
    reading.value (some (first :: rest)) = shape.gather reading.converter first rest := by
  -- By induction on the modifiers. A default never comes into play, since what is gathered is not
  -- missing, and narrowing looks at the first value alone, for which both shapes agree.
  induction reading generalizing rest with
  | fresh convert => rfl
  | andThen reading next ih =>
      rw [value, ih]
      exact (converted_bind (reading.converter first) next).symm
  | repeated reading ih => rfl
  | csv reading ih => rfl
  | single reading ih =>
      have narrowed : reading.value (some [first]) =
          (converted (reading.converter first)).map fun value => [value] :=
        (ih []).trans (convertAll_singleton reading.converter first)
      have taken : (some (first :: rest)).map (·.take 1) = some [first] := rfl
      rw [value, taken, narrowed]
      change _ = converted (reading.converter first)
      cases converted (reading.converter first) <;> rfl
  | @optional β shape reading ih =>
      have present : reading.value (some (first :: rest)) ≠ .error .missing := by
        rw [ih]
        exact shape.gather_ne_missing reading.converter first rest
      rw [value_optional_of_ne_missing present, ih]
      rfl
  | @orElse β shape reading default ih =>
      have present : reading.value (some (first :: rest)) ≠ .error .missing := by
        rw [ih]
        exact shape.gather_ne_missing reading.converter first rest
      rw [value_orElse_of_ne_missing present, ih]
      rfl
  | cased letterCase reading ih => exact ih rest

/-- The case mapping that a reading applies to each raw value. -/
def normalize (reading : Reading β shape) : String → String :=
  match reading.letterCase? with
  | some letterCase => letterCase.apply
  | none => id

theorem prepare_eq_map (reading : Reading β shape) (raw : List String) :
    reading.prepare raw =
      (if reading.splits then splitFirst raw else raw).map reading.normalize := by
  rw [prepare, normalize]
  cases reading.letterCase? with
  | some letterCase => rfl
  | none => exact (List.map_id _).symm

theorem commaParts_ne_nil (text : String) : commaParts text ≠ [] := by
  rw [commaParts, ne_eq, List.map_eq_nil_iff]
  exact List.splitOn_ne_nil ',' text.toList

theorem commaParts_of_notMem {text : String} (plain : ',' ∉ text.toList) :
    commaParts text = [text] := by
  rw [commaParts, List.splitOn_eq_singleton plain, List.map_singleton, String.ofList_toList]

/-- Values that are there are there for every reading, also when they are split at commas. -/
theorem exists_prepare_cons (reading : Reading β shape) (first : String) (rest : List String) :
    ∃ head tail, reading.prepare (first :: rest) = head :: tail := by
  rw [prepare_eq_map]
  cases reading.splits with
  | false => exact ⟨_, _, rfl⟩
  | true =>
      obtain ⟨part, parts, split⟩ := List.exists_cons_of_ne_nil (commaParts_ne_nil first)
      exact ⟨reading.normalize part, parts.map reading.normalize, by simp [splitFirst, split]⟩

/-- Two readings of one shape and converter agree on values whose first ones they prepare alike, if
the shape looks at no others. -/
theorem read_some_eq_of_head {first second : Reading β .one} {raw otherRaw : List String}
    {head : String} {tail otherTail : List String} (converter : first.converter = second.converter)
    (prepared : first.prepare raw = head :: tail)
    (otherPrepared : second.prepare otherRaw = head :: otherTail) :
    first.read (some raw) = second.read (some otherRaw) := by
  rw [read, read, Option.map_some, Option.map_some, prepared, otherPrepared, value_some, value_some,
    converter]
  rfl

end Reading

end HttpHandler
