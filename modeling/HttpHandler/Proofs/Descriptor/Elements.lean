import Mathlib.Data.List.Forall2
import HttpHandler.Proofs.Descriptor.Extensions

/-!
# Single elements

What a reading makes of the values of a name is told by what it makes of each of its pieces on its own
(`read_of_pieces`): the pieces are the values themselves, or the tokens of the first if it splits. A
list of pieces converts if each does, and fails with the first that does not.
-/

namespace HttpHandler

variable {β : Type} {shape : Shape}

theorem map_eq_error_iff {ε α : Type} (result : Except ε α) (f : α → β) (failure : ε) :
    result.map f = .error failure ↔ result = .error failure := by
  cases result <;> simp [Except.map]

namespace Reading

theorem convertAll_map (convert : String → Except Cause β) (f : String → String) (raw : List String) :
    convertAll convert (raw.map f) = convertAll (fun text => convert (f text)) raw := by
  induction raw with
  | nil => rfl
  | cons first rest ih => rw [List.map_cons, convertAll, convertAll, ih]

theorem converted_eq_ok_iff (result : Except Cause β) (value : β) :
    converted result = .ok value ↔ result = .ok value := by
  cases result <;> simp [converted]

theorem converted_eq_invalid_iff (result : Except Cause β) (cause : Cause) :
    converted result = .error (.invalid cause) ↔ result = .error cause := by
  cases result <;> simp [converted]

theorem convertAll_of_ok {convert : String → Except Cause β} {first : String} {value : β}
    (converts : convert first = .ok value) (rest : List String) :
    convertAll convert (first :: rest) = (convertAll convert rest).map (value :: ·) := by
  rw [convertAll, converts]
  cases convertAll convert rest <;> rfl

theorem convertAll_of_error {convert : String → Except Cause β} {first : String} {cause : Cause}
    (fails : convert first = .error cause) (rest : List String) :
    convertAll convert (first :: rest) = .error (.invalid cause) := by
  rw [convertAll, fails]
  rfl

theorem convertAll_eq_ok_iff (convert : String → Except Cause β) (raw : List String)
    (values : List β) :
    convertAll convert raw = .ok values ↔
      List.Forall₂ (fun text value => convert text = .ok value) raw values := by
  induction raw generalizing values with
  | nil => cases values <;> simp [convertAll]
  | cons first rest ih =>
      cases head : convert first with
      | error cause =>
          rw [convertAll_of_error head]
          cases values <;> simp [head]
      | ok value =>
          rw [convertAll_of_ok head]
          cases tail : convertAll convert rest <;> cases values <;> simp [head, ← ih, tail, Except.map]

/-- `FailsFirst convert raw cause` says that some raw value does not convert, for that cause, and all
before it do. -/
def FailsFirst (convert : String → Except Cause β) (raw : List String) (cause : Cause) : Prop :=
  ∃ before failing after, raw = before ++ failing :: after ∧
    (∀ earlier ∈ before, ∃ value, convert earlier = .ok value) ∧ convert failing = .error cause

theorem failsFirst_of_error {convert : String → Except Cause β} {first : String} {cause : Cause}
    (fails : convert first = .error cause) (rest : List String) :
    FailsFirst convert (first :: rest) cause :=
  ⟨[], first, rest, rfl, by simp, fails⟩

theorem FailsFirst.cons {convert : String → Except Cause β} {first : String} {rest : List String}
    {cause : Cause} {value : β} (later : FailsFirst convert rest cause)
    (converts : convert first = .ok value) : FailsFirst convert (first :: rest) cause := by
  obtain ⟨before, failing, after, rfl, successful, fails⟩ := later
  refine ⟨first :: before, failing, after, List.cons_append.symm, ?_, fails⟩
  intro earlier member
  rcases List.mem_cons.mp member with rfl | inside
  · exact ⟨value, converts⟩
  · exact successful earlier inside

theorem failsFirst_of_convertAll {convert : String → Except Cause β} {raw : List String} {cause : Cause}
    (failed : convertAll convert raw = .error (.invalid cause)) : FailsFirst convert raw cause := by
  induction raw with
  | nil => cases failed
  | cons first rest ih =>
      cases head : convert first with
      | error other =>
          rw [convertAll_of_error head] at failed
          cases failed
          exact failsFirst_of_error head rest
      | ok value =>
          rw [convertAll_of_ok head, map_eq_error_iff] at failed
          exact (ih failed).cons head

end Reading

namespace Shape

theorem gather_map (convert : String → Except Cause β) (f : String → String) (first : String)
    (rest : List String) :
    shape.gather convert (f first) (rest.map f) =
      shape.gather (fun text => convert (f text)) first rest := by
  induction shape with
  | one => rfl
  | many => exact Reading.convertAll_map convert f (first :: rest)
  | optional shape ih => rw [gather, gather, ih]

theorem failsFirst_of_gather {convert : String → Except Cause β} {first : String}
    {rest : List String} {cause : Cause}
    (failed : shape.gather convert first rest = .error (.invalid cause)) :
    Reading.FailsFirst convert (first :: rest) cause := by
  induction shape with
  | one => exact Reading.failsFirst_of_error ((Reading.converted_eq_invalid_iff _ cause).mp failed) rest
  | many => exact Reading.failsFirst_of_convertAll failed
  | optional shape ih => exact ih ((map_eq_error_iff _ some _).mp failed)

end Shape

namespace Reading

theorem notMem_of_mem_splitOn {α : Type} [BEq α] [LawfulBEq α] {separator : α} {list part : List α}
    (member : part ∈ list.splitOn separator) : separator ∉ part := by
  induction list generalizing part with
  | nil =>
      rw [List.splitOn_nil, List.mem_singleton] at member
      rw [member]
      exact List.not_mem_nil
  | cons first rest ih =>
      rw [List.splitOn, List.splitOnP_cons_eq_if_modifyHead] at member
      by_cases same : (first == separator) = true
      · rw [if_pos same] at member
        rcases List.mem_cons.mp member with rfl | later
        · exact List.not_mem_nil
        · exact ih later
      · obtain ⟨head, tail, split⟩ := List.exists_cons_of_ne_nil (List.splitOn_ne_nil separator rest)
        have parts : rest.splitOnP (· == separator) = head :: tail := split
        rw [if_neg same, parts, List.modifyHead_cons] at member
        rcases List.mem_cons.mp member with rfl | later
        · have others : separator ∉ head := ih (split ▸ List.mem_cons_self)
          have differs : separator ≠ first := fun equal => same (beq_iff_eq.mpr equal.symm)
          exact List.not_mem_cons_of_ne_of_not_mem differs others
        · exact ih (split ▸ List.mem_cons_of_mem _ later)

theorem commaParts_of_mem_commaParts {text part : String} (member : part ∈ commaParts text) :
    commaParts part = [part] := by
  obtain ⟨characters, split, rfl⟩ := List.mem_map.mp member
  apply commaParts_of_notMem
  rw [String.toList_ofList]
  exact notMem_of_mem_splitOn split

theorem commaParts_intercalate {tokens : List String} (nonempty : tokens ≠ [])
    (plain : ∀ token ∈ tokens, ',' ∉ token.toList) :
    commaParts (String.intercalate "," tokens) = tokens := by
  have separated : (String.intercalate "," tokens).toList.splitOn ',' = tokens.map String.toList := by
    rw [String.toList_intercalate]
    apply List.splitOn_intercalate
    · intro characters member
      obtain ⟨token, found, rfl⟩ := List.mem_map.mp member
      exact plain token found
    · simpa using nonempty
  rw [commaParts, separated, List.map_map]
  simp

/-- What a reading makes of one raw value on its own. -/
def element (reading : Reading β shape) (raw : String) : Except Cause β :=
  reading.converter (reading.normalize raw)

theorem element_eq_of_eq {first second : Reading β shape} (converter : first.converter = second.converter)
    (letterCase? : first.letterCase? = second.letterCase?) : first.element = second.element := by
  funext raw
  rw [element, element, normalize, normalize, converter, letterCase?]

/-- The raw values that a reading converts: those of a name, or the tokens of the first if it splits. -/
def pieces (reading : Reading β shape) (first : String) (rest : List String) : List String :=
  if .csv ∈ reading.modifiers then commaParts first else first :: rest

theorem pieces_of_unsplit {reading : Reading β shape} (unsplit : .csv ∉ reading.modifiers)
    (first : String) (rest : List String) : reading.pieces first rest = first :: rest :=
  if_neg unsplit

theorem prepare_cons (reading : Reading β shape) (first : String) (rest : List String) :
    reading.prepare (first :: rest) = (reading.pieces first rest).map reading.normalize := by
  rw [prepare_eq_map]
  exact congrArg (List.map reading.normalize) (if_congr reading.splits_eq_true_iff rfl rfl)

theorem exists_pieces_cons (reading : Reading β shape) (first : String) (rest : List String) :
    ∃ head tail, reading.pieces first rest = head :: tail := by
  rw [pieces]
  split
  · exact List.exists_cons_of_ne_nil (commaParts_ne_nil first)
  · exact ⟨first, rest, rfl⟩

/-- A piece is not split any further. -/
theorem pieces_of_mem_pieces {reading : Reading β shape} {first piece : String} {rest : List String}
    (member : piece ∈ reading.pieces first rest) : reading.pieces piece [] = [piece] := by
  rw [pieces] at member ⊢
  split
  · next splits =>
      rw [if_pos splits] at member
      exact commaParts_of_mem_commaParts member
  · rfl

theorem read_of_pieces {reading : Reading β shape} {first head : String} {rest tail : List String}
    (pieces : reading.pieces first rest = head :: tail) :
    reading.read (some (first :: rest)) = shape.gather reading.element head tail := by
  rw [read, Option.map_some, prepare_cons, pieces, List.map_cons, value_some]
  exact Shape.gather_map reading.converter reading.normalize head tail

end Reading

end HttpHandler
