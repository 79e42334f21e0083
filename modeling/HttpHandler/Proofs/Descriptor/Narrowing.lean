import HttpHandler.Proofs.Descriptor.Presence

/-!
# Widening and narrowing

A descriptor of one value that is made to read several and then narrowed again reads through its
converter instead of the function it had before. Both come to the same wherever a value is there.
-/

namespace HttpHandler

variable {β : Type}

namespace Reading

theorem prepare_single_repeated (reading : Reading β .one) (raw : List String) :
    (single (repeated reading)).prepare raw = reading.prepare raw := rfl

/-- Splitting a value without commas leaves it as it is, so that the first prepared value stays. -/
theorem exists_prepare_single_csv (reading : Reading β .one) {first : String}
    (plain : ',' ∉ first.toList) (rest : List String) :
    ∃ head tail otherTail, reading.prepare (first :: rest) = head :: tail ∧
      (single (csv reading)).prepare (first :: rest) = head :: otherTail := by
  have parts : splitFirst (first :: rest) = [first] := commaParts_of_notMem plain
  have narrowed : (single (csv reading)).prepare (first :: rest) = [reading.normalize first] := by
    rw [prepare_eq_map]
    change (splitFirst (first :: rest)).map reading.normalize = _
    rw [parts, List.map_singleton]
  cases splitting : reading.splits with
  | false =>
      refine ⟨reading.normalize first, rest.map reading.normalize, [], ?_, narrowed⟩
      rw [prepare_eq_map, splitting]
      rfl
  | true =>
      refine ⟨reading.normalize first, [], [], ?_, narrowed⟩
      rw [prepare_eq_map, splitting, if_pos rfl, parts, List.map_singleton]

theorem read_single_repeated (reading : Reading β .one) (first : String) (rest : List String) :
    (single (repeated reading)).read (some (first :: rest)) =
      reading.read (some (first :: rest)) := by
  obtain ⟨head, tail, prepared⟩ := reading.exists_prepare_cons first rest
  have samePrepared : (single (repeated reading)).prepare (first :: rest) = head :: tail :=
    (reading.prepare_single_repeated (first :: rest)).trans prepared
  exact read_some_eq_of_head rfl samePrepared prepared

theorem read_single_csv (reading : Reading β .one) {first : String} (plain : ',' ∉ first.toList)
    (rest : List String) :
    (single (csv reading)).read (some (first :: rest)) = reading.read (some (first :: rest)) := by
  obtain ⟨head, tail, otherTail, prepared, split⟩ := reading.exists_prepare_single_csv plain rest
  exact read_some_eq_of_head rfl split prepared

end Reading

namespace Descriptor

/-- Where a query parameter occurs, a descriptor of one value extracts the same after it was made to
repeat and narrowed again: the same value, or a failure with the same message and cause. So it does
after it was made to split its first value at commas, if there are none in that value. -/
theorem extract_single_repeated_eq (descriptor : Descriptor β .one)
    (query : descriptor.source = .queryParameter) {request : Request} {first : String}
    (occurs : request.queryPairs.lookup descriptor.name = some first) :
    descriptor.repeated.single.extract request = descriptor.extract request ∧
      (',' ∉ first.toList →
        descriptor.csv.single.extract request = descriptor.extract request) := by
  obtain ⟨rest, named⟩ := exists_valuesNamed?_cons occurs
  have raw : descriptor.source.rawValues descriptor.name request = some (first :: rest) := by
    rw [query]
    exact named
  constructor
  · have read : descriptor.repeated.single.read request = descriptor.read request := by
      have same := descriptor.reading.read_single_repeated first rest
      rw [← raw] at same
      exact same
    exact extract_eq_of_read_eq rfl rfl read
  · intro plain
    have read : descriptor.csv.single.read request = descriptor.read request := by
      have same := descriptor.reading.read_single_csv plain rest
      rw [← raw] at same
      exact same
    exact extract_eq_of_read_eq rfl rfl read

/-- A default and a conversion stand between two narrowings, and the second occurrence is malformed. -/
theorem extract_single_repeated_eq_doubled :
    let page := (Descriptor.queryParameter (.integer .int) "page").repeated.single.orElse 1
    let doubled := page.convert fun n : Int => Except.ok (n + n)
    let request : Request := ⟨"GET", ⟨"/", some "page=4&page=x"⟩, .empty, [], []⟩
    doubled.source = .queryParameter ∧ request.queryPairs.lookup doubled.name = some "4" ∧
      doubled.repeated.single.extract request = ⟨.ok (8 : Int), []⟩ ∧
      doubled.csv.single.extract request = ⟨.ok (8 : Int), []⟩ := by
  intro page doubled request
  have occurs : request.queryPairs.lookup doubled.name = some "4" := by decide
  have extracted : doubled.extract request = ⟨.ok (8 : Int), []⟩ := rfl
  obtain ⟨repeated, csv⟩ := extract_single_repeated_eq doubled rfl occurs
  exact ⟨rfl, occurs, repeated.trans extracted, (csv (by decide)).trans extracted⟩

end Descriptor

end HttpHandler
