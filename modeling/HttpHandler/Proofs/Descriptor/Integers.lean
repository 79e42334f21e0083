import HttpHandler.Proofs.Descriptor.Elements
import HttpHandler.Proofs.Number.Numerals

/-!
# Integers

A path variable or query parameter of a signed integer type yields an integer exactly if the text is a
numeral of it and the integer is of the type. Any other text fails to convert, one of an integer outside
the type too. So it is for each element of a parameter that is repeated or split at commas.
-/

namespace HttpHandler

open Number

variable {β : Type} {shape : Shape} {kind : IntegerKind}

namespace IntegerKind

/-- Whether an integer is of the type. -/
def Holds : IntegerKind → Int → Prop
  | .byte, n => 0 ≤ n ∧ n ≤ 255
  | .int, n => -2147483648 ≤ n ∧ n ≤ 2147483647
  | .long, n => -9223372036854775808 ≤ n ∧ n ≤ 9223372036854775807
  | .big, n =>
    -170141183460469231731687303715884105728 ≤ n ∧ n ≤ 170141183460469231731687303715884105727

instance (kind : IntegerKind) (n : Int) : Decidable (kind.Holds n) :=
  match kind with
  | .byte | .int | .long | .big => inferInstanceAs (Decidable (_ ∧ _))

theorem holds_iff (kind : IntegerKind) (n : Int) :
    kind.Holds n ↔ kind.range.least ≤ n ∧ n ≤ kind.range.greatest := by
  cases kind <;> exact Iff.rfl

theorem isSigned_range (signed : kind ≠ .byte) : kind.range.IsSigned := by
  cases kind with
  | byte => contradiction
  | int => exact ⟨by decide, by decide⟩
  | long => exact ⟨by decide, by decide⟩
  | big => exact ⟨by decide, by decide⟩

/-- `kind.Denotes text n` says that a text is a numeral of an integer of the type. -/
def Denotes (kind : IntegerKind) (text : String) (n : Int) : Prop :=
  IsNumeral text.toList n ∧ kind.Holds n

theorem denotes_toString_iff (kind : IntegerKind) (n m : Int) :
    kind.Denotes (toString n) m ↔ m = n ∧ kind.Holds n := by
  constructor
  · rintro ⟨numeral, holds⟩
    obtain rfl := numeral.eq (isNumeral_toString n)
    exact ⟨rfl, holds⟩
  · rintro ⟨rfl, holds⟩
    exact ⟨isNumeral_toString m, holds⟩

theorem forall₂_denotes_toString_iff (kind : IntegerKind) (numbers values : List Int) :
    List.Forall₂ kind.Denotes (numbers.map toString) values ↔
      values = numbers ∧ ∀ n ∈ numbers, kind.Holds n := by
  induction numbers generalizing values with
  | nil => cases values <;> simp
  | cons number rest ih =>
      cases values with
      | nil => simp
      | cons value values =>
          rw [List.map_cons, List.forall₂_cons, denotes_toString_iff, ih, List.cons.injEq,
            List.forall_mem_cons]
          exact and_and_and_comm

end IntegerKind

theorem Number.notMem_toString (n : Int) : ',' ∉ (toString n).toList := by
  intro member
  obtain digit | plus | minus := (isNumeral_toString n).characters ',' member <;> contradiction

/-- What is said of an integer that is not of the type. -/
def IntegerKind.refusal (n : Int) : Cause :=
  if n < 0 then .foreign "number too small to fit in target type"
  else .foreign "number too large to fit in target type"

namespace Scalar

theorem read_integer_eq_ok_iff (signed : kind ≠ .byte) (text : String) (n : Int) :
    (integer kind).read text = .ok n ↔ kind.Denotes text n := by
  rw [IntegerKind.Denotes, kind.holds_iff, ← Range.read_eq_ok_iff (IntegerKind.isSigned_range signed),
    read]
  cases kind.range.read text <;> simp [explained]

theorem read_integer_toString (signed : kind ≠ .byte) (n : Int) :
    (integer kind).read (toString n) =
      if kind.Holds n then .ok n else .error (IntegerKind.refusal n) := by
  have range := IntegerKind.isSigned_range signed
  have known : kind.range.read (toString n) = _ :=
    Range.readCharacters_of_isNumeral range (isNumeral_toString n)
  obtain ⟨least, greatest⟩ := range
  rw [read, known]
  by_cases small : n < kind.range.least
  · have outside : ¬kind.Holds n := by
      rw [kind.holds_iff]
      omega
    have negative : n < 0 := by omega
    rw [if_pos small, if_neg outside, IntegerKind.refusal, if_pos negative]
    rfl
  · rw [if_neg small]
    by_cases large : kind.range.greatest < n
    · have outside : ¬kind.Holds n := by
        rw [kind.holds_iff]
        omega
      have positive : ¬n < 0 := by omega
      rw [if_pos large, if_neg outside, IntegerKind.refusal, if_neg positive]
      rfl
    · have inside : kind.Holds n := by
        rw [kind.holds_iff]
        omega
      rw [if_neg large, if_pos inside]
      rfl

end Scalar

namespace Descriptor

/-- What a descriptor extracts from a request: the values that are allowed, and if there are none a failure
to convert, with its cause. -/
structure YieldsExactly (descriptor : Descriptor β shape) (request : Request)
    (Allowed : shape.Of β → Prop) : Prop where
  yields : ∀ value, descriptor.extract request = ⟨.ok value, []⟩ ↔ Allowed value
  fails : (∀ value, ¬Allowed value) → ∃ cause, descriptor.extract request = descriptor.invalid cause

theorem yieldsExactly_of_read {descriptor : Descriptor β shape} {request : Request}
    {Allowed : shape.Of β → Prop} (present : descriptor.read request ≠ .error .missing)
    (read : ∀ value, descriptor.read request = .ok value ↔ Allowed value) :
    descriptor.YieldsExactly request Allowed where
  yields value := (descriptor.extract_eq_ok_iff request value).trans (read value)
  fails := by
    intro none
    match found : descriptor.read request with
    | .ok value => exact absurd ((read value).mp found) (none value)
    | .error .missing => exact absurd found present
    | .error (.invalid cause) =>
        exact ⟨cause, (descriptor.extract_eq_invalid_iff request cause).mpr found⟩

theorem YieldsExactly.congr {descriptor : Descriptor β shape} {request : Request}
    {Allowed Other : shape.Of β → Prop} (exact : descriptor.YieldsExactly request Allowed)
    (same : ∀ value, Allowed value ↔ Other value) : descriptor.YieldsExactly request Other := by
  have equal : Allowed = Other := funext fun value => propext (same value)
  exact equal ▸ exact

/-- `descriptor.ReadsInteger kind` says that a descriptor reads one integer of a type from the path or the
query of a request, at once or from the text. A default and widening that is narrowed again leave it so. -/
inductive ReadsInteger (kind : IntegerKind) : Descriptor Int .one → Prop where
  | pathVariable (name : String) : ReadsInteger kind (.pathVariable (.integer kind) name)
  | queryParameter (name : String) : ReadsInteger kind (.queryParameter (.integer kind) name)
  | parsedPathVariable (name : String) :
    ReadsInteger kind ((Descriptor.pathVariable .text name).convert (Scalar.integer kind).read)
  | parsedQueryParameter (name : String) :
    ReadsInteger kind ((Descriptor.queryParameter .text name).convert (Scalar.integer kind).read)
  | orElse {descriptor : Descriptor Int .one} (reads : ReadsInteger kind descriptor) (default : Int) :
    ReadsInteger kind (descriptor.orElse default)
  | narrowed {descriptor : Descriptor Int .one} (reads : ReadsInteger kind descriptor) :
    ReadsInteger kind descriptor.repeated.single

theorem ReadsInteger.element {descriptor : Descriptor Int .one}
    (reads : descriptor.ReadsInteger kind) :
    descriptor.reading.element = (Scalar.integer kind).read := by
  induction reads with
  | pathVariable name | queryParameter name => rfl
  | parsedPathVariable name | parsedQueryParameter name => rfl
  | orElse reads default ih => exact ih
  | narrowed reads ih => exact ih

theorem ReadsInteger.unsplit {descriptor : Descriptor Int .one}
    (reads : descriptor.ReadsInteger kind) : .csv ∉ descriptor.reading.modifiers := by
  induction reads with
  | pathVariable name | queryParameter name => exact List.not_mem_nil
  | parsedPathVariable name | parsedQueryParameter name =>
      exact List.not_mem_cons_of_ne_of_not_mem (by decide) List.not_mem_nil
  | orElse reads default ih => simpa [Descriptor.orElse, Reading.modifiers] using ih
  | narrowed reads ih => simpa [repeated, single, Reading.modifiers] using ih

variable {descriptor : Descriptor Int .one} {request : Request} {text : String} {others : List String}

theorem ReadsInteger.read_eq (reads : descriptor.ReadsInteger kind)
    (occurs : descriptor.source.rawValues descriptor.name request = some (text :: others)) :
    descriptor.read request = Reading.converted ((Scalar.integer kind).read text) := by
  have pieces := Reading.pieces_of_unsplit reads.unsplit text others
  rw [read, occurs, Reading.read_of_pieces pieces, reads.element]
  rfl

/-- Widened to several values, a descriptor reads each piece as it reads one. -/
theorem ReadsInteger.yieldsExactly_many (reads : descriptor.ReadsInteger kind) (signed : kind ≠ .byte)
    {widened : Descriptor Int .many} (element : widened.reading.element = descriptor.reading.element)
    {pieces : List String}
    (occurs : widened.source.rawValues widened.name request = some (text :: others))
    (split : widened.reading.pieces text others = pieces) :
    widened.YieldsExactly request (List.Forall₂ kind.Denotes pieces) := by
  obtain ⟨head, tail, cut⟩ := widened.reading.exists_pieces_cons text others
  have read : widened.read request = Reading.convertAll (Scalar.integer kind).read pieces := by
    rw [Descriptor.read, occurs, Reading.read_of_pieces cut, element, reads.element, ← split, cut]
    rfl
  have denotes : (fun text n => (Scalar.integer kind).read text = .ok n) = kind.Denotes :=
    funext₂ fun text n => propext (Scalar.read_integer_eq_ok_iff signed text n)
  refine yieldsExactly_of_read (read ▸ Reading.convertAll_ne_missing _ pieces) fun values => ?_
  rw [read, Reading.convertAll_eq_ok_iff, denotes]

/-- A text under the name of a descriptor of a signed integer type is extracted as an integer exactly if it
denotes it: if it is digits with at most one sign before them, for an integer of the type. Otherwise it
fails to convert. Repeated values and tokens between commas are extracted if each denotes an integer. So
the decimal texts of integers are extracted as these integers if they are of the type, and refused, not
wrapped, if not. -/
theorem yieldsExactly_integers (reads : descriptor.ReadsInteger kind) (signed : kind ≠ .byte)
    (occurs : descriptor.source.rawValues descriptor.name request = some (text :: others)) :
    descriptor.YieldsExactly request (kind.Denotes text) ∧
      descriptor.repeated.YieldsExactly request (List.Forall₂ kind.Denotes (text :: others)) ∧
      descriptor.csv.YieldsExactly request
        (List.Forall₂ kind.Denotes (Reading.commaParts text)) ∧
      (∀ n : Int, text = toString n → descriptor.extract request =
        if kind.Holds n then ⟨.ok n, []⟩ else descriptor.invalid (IntegerKind.refusal n)) ∧
      (∀ numbers : List Int, text :: others = numbers.map toString →
        descriptor.repeated.YieldsExactly request fun values =>
          values = numbers ∧ ∀ n ∈ numbers, kind.Holds n) ∧
      ∀ numbers : List Int, numbers ≠ [] → text = String.intercalate "," (numbers.map toString) →
        descriptor.csv.YieldsExactly request fun values =>
          values = numbers ∧ ∀ n ∈ numbers, kind.Holds n := by
  have read := reads.read_eq occurs
  have unsplit : .csv ∉ descriptor.repeated.reading.modifiers := by
    simpa [repeated, Reading.modifiers] using reads.unsplit
  have splits : .csv ∈ descriptor.csv.reading.modifiers := by
    simp [csv, Reading.modifiers]
  have repeats : descriptor.repeated.YieldsExactly request
      (List.Forall₂ kind.Denotes (text :: others)) :=
    reads.yieldsExactly_many signed rfl occurs (Reading.pieces_of_unsplit unsplit text others)
  have tokens : descriptor.csv.YieldsExactly request
      (List.Forall₂ kind.Denotes (Reading.commaParts text)) :=
    reads.yieldsExactly_many signed rfl occurs (if_pos splits)
  refine ⟨?_, repeats, tokens, ?_, ?_, ?_⟩
  · refine yieldsExactly_of_read (read ▸ Reading.converted_ne_missing _) fun n => ?_
    rw [read, Reading.converted_eq_ok_iff, Scalar.read_integer_eq_ok_iff signed]
  · rintro n rfl
    rw [Scalar.read_integer_toString signed] at read
    by_cases holds : kind.Holds n
    · rw [if_pos holds] at read ⊢
      exact (descriptor.extract_eq_ok_iff request n).mpr read
    · rw [if_neg holds] at read ⊢
      exact (descriptor.extract_eq_invalid_iff request _).mpr read
  · intro numbers written
    rw [written] at repeats
    exact repeats.congr (kind.forall₂_denotes_toString_iff numbers)
  · intro numbers some written
    have plain : ∀ token ∈ numbers.map toString, ',' ∉ token.toList := by
      intro token member
      obtain ⟨n, -, rfl⟩ := List.mem_map.mp member
      exact notMem_toString n
    have parts : Reading.commaParts text = numbers.map toString := by
      rw [written]
      exact Reading.commaParts_intercalate (by simpa using some) plain
    rw [parts] at tokens
    exact tokens.congr (kind.forall₂_denotes_toString_iff numbers)

/-- The greatest integer of 128 bits and the one behind it. Leading zeros and a sign are read over, and of
two tokens the second is one too small. -/
theorem yieldsExactly_integers_extremes :
    let id : Descriptor Int .one := pathVariable (.integer .big) "id"
    let page : Descriptor Int .one := (queryParameter (.integer .int) "page").orElse 1
    let found (value : String) : Request := ⟨"GET", ⟨"/", none⟩, .empty, [], [("id", value)]⟩
    let listed (query : String) : Request := ⟨"GET", ⟨"/", some query⟩, .empty, [], []⟩
    (id.ReadsInteger .big ∧ page.ReadsInteger .int) ∧
      IntegerKind.big ≠ .byte ∧ IntegerKind.int ≠ .byte ∧
      id.extract (found "170141183460469231731687303715884105727") =
        ⟨.ok (170141183460469231731687303715884105727 : Int), []⟩ ∧
      id.extract (found "170141183460469231731687303715884105728") =
        id.invalid (.foreign "number too large to fit in target type") ∧
      page.repeated.extract (listed "page=007&page=%2B2147483647") =
        ⟨.ok [(7 : Int), 2147483647], []⟩ ∧
      ∃ cause, page.csv.extract (listed "page=1,-2147483649") = page.csv.invalid cause := by
  intro id page found listed
  have idReads : id.ReadsInteger .big := .pathVariable "id"
  have pageReads : page.ReadsInteger .int := .orElse (.queryParameter "page") 1
  have bigSigned : IntegerKind.big ≠ .byte := by decide
  have intSigned : IntegerKind.int ≠ .byte := by decide
  have repeats : (listed "page=007&page=%2B2147483647").queryValues? "page" =
      some ["007", "+2147483647"] := by decide
  have joined : (listed "page=1,-2147483649").queryValues? "page" = some ["1,-2147483649"] := by
    decide
  have seven : IntegerKind.int.Denotes "007" 7 := by
    have numeral : IsNumeral ['0', '0', '7'] 7 := .unsigned (by decide)
    exact ⟨numeral, by decide⟩
  have greatest : IntegerKind.int.Denotes "+2147483647" 2147483647 := by
    have numeral : IsNumeral ('+' :: ['2', '1', '4', '7', '4', '8', '3', '6', '4', '7']) 2147483647 :=
      .plus (by decide)
    exact ⟨numeral, by decide⟩
  have occurs (value : String) : id.source.rawValues id.name (found value) = some [value] := rfl
  obtain ⟨-, -, -, last, -⟩ := yieldsExactly_integers idReads bigSigned
    (occurs "170141183460469231731687303715884105727")
  obtain ⟨-, -, -, beyond, -⟩ := yieldsExactly_integers idReads bigSigned
    (occurs "170141183460469231731687303715884105728")
  obtain ⟨-, each, -⟩ := yieldsExactly_integers pageReads intSigned repeats
  obtain ⟨-, -, -, -, -, tokens⟩ := yieldsExactly_integers pageReads intSigned joined
  have written : "1,-2147483649" = String.intercalate "," ([1, -2147483649].map toString) := by
    decide
  refine ⟨⟨idReads, pageReads⟩, bigSigned, intSigned, ?_, ?_, ?_, ?_⟩
  · exact last 170141183460469231731687303715884105727 (by decide)
  · exact beyond 170141183460469231731687303715884105728 (by decide)
  · exact (each.yields [7, 2147483647]).mpr (.cons seven (.cons greatest .nil))
  · refine (tokens [1, -2147483649] (by decide) written).fails ?_
    rintro values ⟨-, holds⟩
    exact absurd (holds (-2147483649) (by decide)) (by decide)

end Descriptor

end HttpHandler
