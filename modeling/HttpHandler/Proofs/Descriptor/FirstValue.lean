import HttpHandler.Proofs.Descriptor.Elements

/-!
# The first value decides

A descriptor of one value looks at the first value under its name alone, and at no more of it than stands
before the first comma if it splits values. Whatever comes behind can neither change what is extracted
nor make the extraction fail.
-/

namespace HttpHandler

variable {β : Type} {shape : Shape}

namespace Shape

/-- Whether a shape is that of one value, which may be optional, and not of a list. -/
def IsSingle : Shape → Prop
  | .one => True
  | .many => False
  | .optional shape => shape.IsSingle

theorem gather_of_isSingle (single : shape.IsSingle) (convert : String → Except Cause β)
    (first : String) (rest : List String) :
    shape.gather convert first rest = shape.gather convert first [] := by
  induction shape with
  | one => rfl
  | many => exact single.elim
  | optional shape ih => rw [gather, gather, ih single]

end Shape

/-- The first value under a name. A header field that is not readable has none. -/
def Source.firstValue? (source : Source) (name : String) (request : Request) : Option String :=
  match source with
  | .pathVariable => request.pathVariable? name
  | .queryParameter => request.queryPairs.lookup name
  | .header => (request.headers.values name).findSome? Headers.text?
  | .cookie => (Cookies.pairs request.headers).lookup name

theorem Source.exists_rawValues_of_firstValue? {source : Source} {name first : String}
    {request : Request} (found : source.firstValue? name request = some first) :
    ∃ rest, source.rawValues name request = some (first :: rest) := by
  cases source with
  | pathVariable => exact ⟨[], congrArg (Option.map ([·])) found⟩
  | queryParameter => exact exists_valuesNamed?_cons found
  | header =>
      have head : (request.headerValues name).head? = some first := by
        rw [Request.headerValues, List.head?_filterMap]
        exact found
      obtain ⟨rest, values⟩ := List.head?_eq_some_iff.mp head
      exact ⟨rest, by rw [rawValues, values]⟩
  | cookie => exact exists_valuesNamed?_cons found

def beforeComma (text : String) : String := String.ofList (text.toList.takeWhile (· != ','))

theorem exists_splitOn_cons (characters : List Char) :
    ∃ others, characters.splitOn ',' = characters.takeWhile (· != ',') :: others := by
  induction characters with
  | nil => exact ⟨[], List.splitOn_nil ','⟩
  | cons first rest ih =>
      obtain ⟨others, split⟩ := ih
      rw [List.splitOn_cons_eq_if_modifyHead, split]
      by_cases comma : first = ','
      · subst comma
        exact ⟨_, rfl⟩
      · have other : (first == ',') = false := beq_eq_false_iff_ne.mpr comma
        exact ⟨others, by simp [other, comma]⟩

namespace Reading

theorem exists_commaParts_cons (text : String) :
    ∃ others, commaParts text = beforeComma text :: others := by
  obtain ⟨others, split⟩ := exists_splitOn_cons text.toList
  exact ⟨others.map String.ofList, by rw [commaParts, split, List.map_cons, beforeComma]⟩

/-- What a reading of one value looks at in the first raw value: what stands before the first comma if
it splits, and else all of it. -/
def decisive (reading : Reading β shape) (first : String) : String :=
  if .csv ∈ reading.modifiers then beforeComma first else first

theorem exists_pieces_decisive (reading : Reading β shape) (first : String) (rest : List String) :
    ∃ others, reading.pieces first rest = reading.decisive first :: others := by
  rw [pieces, decisive]
  split
  · exact exists_commaParts_cons first
  · exact ⟨rest, rfl⟩

/-- A reading of one value makes of several raw values what its shape makes of the decisive text. -/
theorem read_of_isSingle (single : shape.IsSingle) (reading : Reading β shape) (first : String)
    (rest : List String) :
    reading.read (some (first :: rest)) =
      shape.gather reading.element (reading.decisive first) [] := by
  obtain ⟨others, pieces⟩ := reading.exists_pieces_decisive first rest
  -- By now the pieces are texts of one reading, and only the first of them is gathered.
  rw [read_of_pieces pieces]
  exact Shape.gather_of_isSingle single reading.element (reading.decisive first) others

end Reading

namespace Descriptor

theorem read_of_firstValue? (descriptor : Descriptor β shape) (single : shape.IsSingle)
    {request : Request} {first : String}
    (found : descriptor.source.firstValue? descriptor.name request = some first) :
    descriptor.read request =
      shape.gather descriptor.reading.element (descriptor.reading.decisive first) [] := by
  obtain ⟨rest, raw⟩ := Source.exists_rawValues_of_firstValue? found
  rw [read, raw, Reading.read_of_isSingle single]

/-- A descriptor of one value extracts the same from any two requests that have its name and agree on
the decisive text of the first value under it: the same value, or the same failure with the same
report. -/
theorem extract_eq_of_decisive_eq (descriptor : Descriptor β shape) (single : shape.IsSingle)
    {request other : Request} {first otherFirst : String}
    (found : descriptor.source.firstValue? descriptor.name request = some first)
    (otherFound : descriptor.source.firstValue? descriptor.name other = some otherFirst)
    (agree : descriptor.reading.decisive first = descriptor.reading.decisive otherFirst) :
    descriptor.extract request = descriptor.extract other := by
  have reads : descriptor.read request = descriptor.read other := by
    rw [descriptor.read_of_firstValue? single found, descriptor.read_of_firstValue? single otherFound,
      agree]
  exact extract_eq_of_read_eq rfl rfl reads

/-- Malformed tokens and occurrences behind the first token change nothing. -/
theorem extract_eq_of_decisive_eq_malformed :
    let doubled : Int → Except Cause Int := fun n => .ok (n + n)
    let id : Descriptor Int (.optional .one) :=
      (((Descriptor.queryParameter (.integer .int) "id").csv.single.orElse 1).convert doubled).optional
    let request : String → Request := fun query => ⟨"GET", ⟨"/", some query⟩, .empty, [], []⟩
    Shape.IsSingle (.optional .one) ∧
      id.source.firstValue? id.name (request "id=4,x&id=y") = some "4,x" ∧
      id.source.firstValue? id.name (request "id=4") = some "4" ∧
      id.reading.decisive "4,x" = "4" ∧ id.reading.decisive "4" = "4" ∧
      id.extract (request "id=4,x&id=y") = id.extract (request "id=4") ∧
      id.extract (request "id=4") = ⟨.ok (some 8), []⟩ := by
  intro doubled id request
  have single : Shape.IsSingle (.optional .one) := trivial
  have found : id.source.firstValue? id.name (request "id=4,x&id=y") = some "4,x" := by decide
  have otherFound : id.source.firstValue? id.name (request "id=4") = some "4" := by decide
  have decisive : id.reading.decisive "4,x" = "4" := by decide
  have otherDecisive : id.reading.decisive "4" = "4" := by decide
  have same := id.extract_eq_of_decisive_eq single found otherFound (decisive.trans otherDecisive.symm)
  have extracted : id.extract (request "id=4") = ⟨.ok (some 8), []⟩ := rfl
  exact ⟨single, found, otherFound, decisive, otherDecisive, same, extracted⟩

end Descriptor

end HttpHandler
