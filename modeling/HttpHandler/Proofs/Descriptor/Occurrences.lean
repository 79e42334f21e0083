import HttpHandler.Proofs.Descriptor.Elements

/-!
# Occurrences and tokens

A repeated descriptor reads each piece as the descriptor that it was made of reads that piece where it
occurs alone. Without `csv` the pieces are the occurrences of the name. With it they are the tokens of
the first occurrence, and one occurrence of several tokens is read as several occurrences would be.
-/

namespace HttpHandler

variable {β γ : Type} {shape : Shape}

theorem forall₂_iff_of_mem {α β : Type} {R S : α → β → Prop} {xs : List α} {ys : List β}
    (same : ∀ x ∈ xs, ∀ y, R x y ↔ S x y) : List.Forall₂ R xs ys ↔ List.Forall₂ S xs ys := by
  induction xs generalizing ys with
  | nil => cases ys <;> simp
  | cons x xs ih =>
      cases ys with
      | nil => simp
      | cons y ys =>
          have rest : List.Forall₂ R xs ys ↔ List.Forall₂ S xs ys :=
            ih fun other member => same other (List.mem_cons_of_mem _ member)
          rw [List.forall₂_cons, List.forall₂_cons, same x List.mem_cons_self y, rest]

namespace Descriptor

theorem read_eq_gather (descriptor : Descriptor β shape)
    (query : descriptor.source = .queryParameter) {request : Request} {first head : String}
    {rest tail : List String}
    (occurs : request.queryValues? descriptor.name = some (first :: rest))
    (pieces : descriptor.reading.pieces first rest = head :: tail) :
    descriptor.read request = shape.gather descriptor.reading.element head tail := by
  rw [read, query, Source.rawValues, occurs, Reading.read_of_pieces pieces]

theorem read_repeated (descriptor : Descriptor β .one)
    (query : descriptor.source = .queryParameter) {request : Request} {first : String}
    {rest : List String} (occurs : request.queryValues? descriptor.name = some (first :: rest)) :
    descriptor.repeated.read request =
      Reading.convertAll descriptor.reading.element (descriptor.reading.pieces first rest) := by
  obtain ⟨head, tail, pieces⟩ := descriptor.reading.exists_pieces_cons first rest
  have repeatedPieces : descriptor.repeated.reading.pieces first rest = head :: tail := by
    rw [← pieces]
    simp [Reading.pieces, repeated, Reading.modifiers]
  rw [descriptor.repeated.read_eq_gather query occurs repeatedPieces, pieces]
  rfl

/-- A piece that occurs alone is read on its own. -/
theorem read_piece (descriptor : Descriptor β .one) (query : descriptor.source = .queryParameter)
    {first piece : String} {rest : List String}
    (member : piece ∈ descriptor.reading.pieces first rest) {request : Request}
    (only : request.queryValues? descriptor.name = some [piece]) :
    descriptor.read request = Reading.converted (descriptor.reading.element piece) :=
  descriptor.read_eq_gather query only (Reading.pieces_of_mem_pieces member)

/-- A repeated query parameter yields what the descriptor it was made of yields on requests in which the
pieces occur alone, piece by piece and in order. Otherwise it fails as that descriptor does on the first
piece that does not convert. -/
theorem extract_repeated_each (descriptor : Descriptor β .one)
    (query : descriptor.source = .queryParameter) {request : Request} {first : String}
    {rest : List String}
    (occurs : request.queryValues? descriptor.name = some (first :: rest)) (alone : String → Request)
    (only : ∀ piece ∈ descriptor.reading.pieces first rest,
      (alone piece).queryValues? descriptor.name = some [piece]) :
    (∀ values, descriptor.repeated.extract request = ⟨.ok values, []⟩ ↔
        List.Forall₂ (fun piece value => descriptor.extract (alone piece) = ⟨.ok value, []⟩)
          (descriptor.reading.pieces first rest) values) ∧
      ((∀ values, descriptor.repeated.extract request ≠ ⟨.ok values, []⟩) →
        ∃ before failing after cause,
          descriptor.reading.pieces first rest = before ++ failing :: after ∧
            (∀ earlier ∈ before, ∃ value, descriptor.extract (alone earlier) = ⟨.ok value, []⟩) ∧
            descriptor.extract (alone failing) = descriptor.invalid cause ∧
            descriptor.repeated.extract request = descriptor.repeated.invalid cause) := by
  have whole := descriptor.read_repeated query occurs
  have yields : ∀ piece ∈ descriptor.reading.pieces first rest, ∀ value,
      descriptor.reading.element piece = .ok value ↔
        descriptor.extract (alone piece) = ⟨.ok value, []⟩ := by
    intro piece member value
    rw [extract_eq_ok_iff, descriptor.read_piece query member (only piece member),
      Reading.converted_eq_ok_iff]
  have fails : ∀ piece ∈ descriptor.reading.pieces first rest, ∀ cause,
      descriptor.reading.element piece = .error cause ↔
        descriptor.extract (alone piece) = descriptor.invalid cause := by
    intro piece member cause
    rw [extract_eq_invalid_iff, descriptor.read_piece query member (only piece member),
      Reading.converted_eq_invalid_iff]
  constructor
  · intro values
    rw [extract_eq_ok_iff, whole, Reading.convertAll_eq_ok_iff]
    exact forall₂_iff_of_mem yields
  · intro unsuccessful
    cases result : descriptor.repeated.read request with
    | ok values => exact absurd ((extract_eq_ok_iff _ request values).mpr result) (unsuccessful values)
    | error failure =>
        cases failure with
        | missing => exact absurd (whole.symm.trans result) (Reading.convertAll_ne_missing _ _)
        | invalid cause =>
            obtain ⟨before, failing, after, split, convert, failed⟩ :=
              Reading.failsFirst_of_convertAll (whole.symm.trans result)
            have failingMember : failing ∈ descriptor.reading.pieces first rest := by simp [split]
            refine ⟨before, failing, after, cause, split, ?_, ?_, ?_⟩
            · intro earlier member
              have inside : earlier ∈ descriptor.reading.pieces first rest := by simp [split, member]
              obtain ⟨value, converts⟩ := convert earlier member
              exact ⟨value, (yields earlier inside value).mp converts⟩
            · exact (fails failing failingMember cause).mp failed
            · exact (extract_eq_invalid_iff _ request cause).mpr result

/-- Occurrences that all convert, and others of which the second is the first that does not. -/
theorem extract_repeated_each_flags :
    let flag : Descriptor Bool .one := .queryParameter .bool "f"
    let request : String → Request := fun query => ⟨"GET", ⟨"/", some query⟩, .empty, [], []⟩
    let alone : String → Request := fun piece => request ("f=" ++ piece)
    (request "f=true&f=false").queryValues? "f" = some ["true", "false"] ∧
      (request "f=true&f=no&f=").queryValues? "f" = some ["true", "no", ""] ∧
      (∀ piece ∈ ["true", "false", "no", ""], (alone piece).queryValues? "f" = some [piece]) ∧
      flag.repeated.extract (request "f=true&f=false") = ⟨.ok [true, false], []⟩ ∧
      ∃ before failing after cause, ["true", "no", ""] = before ++ failing :: after ∧
        (∀ earlier ∈ before, ∃ value, flag.extract (alone earlier) = ⟨.ok value, []⟩) ∧
        flag.extract (alone failing) = flag.invalid cause ∧
        flag.repeated.extract (request "f=true&f=no&f=") = flag.repeated.invalid cause := by
  intro flag request alone
  have occurs : (request "f=true&f=false").queryValues? "f" = some ["true", "false"] := by decide
  have malformed : (request "f=true&f=no&f=").queryValues? "f" = some ["true", "no", ""] := by decide
  have only : ∀ piece ∈ ["true", "false", "no", ""],
      (alone piece).queryValues? "f" = some [piece] := by
    decide
  have pieces : flag.reading.pieces "true" ["false"] = ["true", "false"] := rfl
  have otherPieces : flag.reading.pieces "true" ["no", ""] = ["true", "no", ""] := rfl
  have unsuccessful : ∀ values,
      flag.repeated.extract (request "f=true&f=no&f=") ≠ ⟨.ok values, []⟩ := by
    intro values
    rw [ne_eq, extract_eq_ok_iff, flag.read_repeated rfl malformed]
    exact fun successful => nomatch successful
  obtain ⟨yields, _⟩ := flag.extract_repeated_each rfl occurs alone
    (by rw [pieces]; exact fun piece member => only piece (List.mem_append_left ["no", ""] member))
  obtain ⟨_, fails⟩ := flag.extract_repeated_each rfl malformed alone
    (by rw [otherPieces]; decide)
  rw [pieces] at yields
  rw [otherPieces] at fails
  have each : List.Forall₂ (fun piece value => flag.extract (alone piece) = ⟨.ok value, []⟩)
      ["true", "false"] [true, false] := .cons rfl (.cons rfl .nil)
  exact ⟨occurs, malformed, only, (yields [true, false]).mpr each, fails unsuccessful⟩

/-- Behind a split that was narrowed the occurrences after the first are dropped, and the first becomes
several elements. -/
theorem extract_repeated_single_csv_drops :
    let tag : Descriptor String .one := (queryParameter .text "t").csv.single
    let request : String → Request := fun query => ⟨"GET", ⟨"/", some query⟩, .empty, [], []⟩
    (request "t=a,b&t=c").queryValues? "t" = some ["a,b", "c"] ∧
      (request "t=a,b").queryValues? "t" = some ["a,b"] ∧
      (request "t=c").queryValues? "t" = some ["c"] ∧
      tag.extract (request "t=a,b") = ⟨.ok "a", []⟩ ∧ tag.extract (request "t=c") = ⟨.ok "c", []⟩ ∧
      tag.repeated.extract (request "t=a,b&t=c") = ⟨.ok ["a", "b"], []⟩ ∧
      tag.repeated.extract (request "t=a,b&t=c") ≠ ⟨.ok ["a", "c"], []⟩ := by
  intro tag request
  have occurs : (request "t=a,b&t=c").queryValues? "t" = some ["a,b", "c"] := by decide
  have first : (request "t=a,b").queryValues? "t" = some ["a,b"] := by decide
  have second : (request "t=c").queryValues? "t" = some ["c"] := by decide
  have pieces : tag.reading.pieces "a,b" ["c"] = ["a", "b"] := by decide
  have firstPieces : tag.reading.pieces "a,b" [] = ["a", "b"] := by decide
  have secondPieces : tag.reading.pieces "c" [] = ["c"] := by decide
  have tokens : tag.repeated.extract (request "t=a,b&t=c") = ⟨.ok ["a", "b"], []⟩ := by
    rw [extract_eq_ok_iff, tag.read_repeated rfl occurs, pieces]
    rfl
  have firstToken : tag.extract (request "t=a,b") = ⟨.ok "a", []⟩ := by
    rw [extract_eq_ok_iff, tag.read_eq_gather rfl first firstPieces]
    rfl
  have other : tag.extract (request "t=c") = ⟨.ok "c", []⟩ := by
    rw [extract_eq_ok_iff, tag.read_eq_gather rfl second secondPieces]
    rfl
  have differs : tag.repeated.extract (request "t=a,b&t=c") ≠ ⟨.ok ["a", "c"], []⟩ := by
    rw [tokens]
    intro same
    have values : ["a", "b"] = ["a", "c"] := Except.ok.inj (congrArg Traced.value same)
    exact absurd values (by decide)
  exact ⟨occurs, first, second, firstToken, other, tokens, differs⟩

/-- Splitting one occurrence comes to the same as several occurrences, also under further modifiers: the
same values, or the failure of the first token that does not convert. Occurrences behind the one that is
split do not matter. -/
theorem extract_extend_csv_eq_extend_repeated (descriptor : Descriptor β .one)
    (query : descriptor.source = .queryParameter) (unsplit : .csv ∉ descriptor.reading.modifiers)
    {later : Extension β .many γ shape} (laterUnsplit : .csv ∉ later.modifiers)
    {tokens : List String} (nonempty : tokens ≠ []) (plain : ∀ token ∈ tokens, ',' ∉ token.toList)
    {joined apart : Request} {others : List String}
    (atOnce : joined.queryValues? descriptor.name = some (String.intercalate "," tokens :: others))
    (each : apart.queryValues? descriptor.name = some tokens) :
    (descriptor.csv.extend later).extract joined = (descriptor.repeated.extend later).extract apart ∧
      ∀ cause, (descriptor.csv.extend later).extract joined =
          (descriptor.csv.extend later).invalid cause →
        Reading.FailsFirst (descriptor.csv.extend later).reading.element tokens cause := by
  have splits : .csv ∈ (descriptor.csv.extend later).reading.modifiers := by
    simp [extend, csv, Reading.modifiers_extend, Reading.modifiers]
  have whole : .csv ∉ (descriptor.repeated.extend later).reading.modifiers := by
    simp [extend, repeated, Reading.modifiers_extend, Reading.modifiers, unsplit, laterUnsplit]
  have element : (descriptor.csv.extend later).reading.element =
      (descriptor.repeated.extend later).reading.element := by
    apply Reading.element_eq_of_eq
    · exact ((Reading.alike_csv_repeated descriptor.reading).extend later).converter
    · exact (Reading.letterCase?_extend later descriptor.csv.reading).trans
        (Reading.letterCase?_extend later descriptor.repeated.reading).symm
  obtain ⟨token, rest, rfl⟩ := List.exists_cons_of_ne_nil nonempty
  have joinedPieces : (descriptor.csv.extend later).reading.pieces
      (String.intercalate "," (token :: rest)) others = token :: rest := by
    rw [Reading.pieces, if_pos splits, Reading.commaParts_intercalate nonempty plain]
  have joinedRead : (descriptor.csv.extend later).read joined =
      shape.gather (descriptor.csv.extend later).reading.element token rest :=
    (descriptor.csv.extend later).read_eq_gather query atOnce joinedPieces
  have apartRead : (descriptor.repeated.extend later).read apart =
      shape.gather (descriptor.repeated.extend later).reading.element token rest :=
    (descriptor.repeated.extend later).read_eq_gather query each
      (Reading.pieces_of_unsplit whole token rest)
  constructor
  · exact extract_eq_of_read_eq rfl rfl (by rw [joinedRead, apartRead, element])
  · intro cause failed
    rw [extract_eq_invalid_iff, joinedRead] at failed
    exact Shape.failsFirst_of_gather failed

/-- The second token is the first that does not convert, and an occurrence behind the one that is split
does not count. -/
theorem extract_extend_csv_eq_extend_repeated_flags :
    let flag : Descriptor Bool .one := .queryParameter .bool "f"
    let later : Extension Bool .many Bool (.optional .many) := .more (.more .none (.orElse [])) .optional
    let request : String → Request := fun query => ⟨"GET", ⟨"/", some query⟩, .empty, [], []⟩
    let joined := request "f=true,no,&f=maybe"
    let apart := request "f=true&f=no&f="
    let cause : Cause := .foreign "provided string was not `true` or `false`"
    .csv ∉ flag.reading.modifiers ∧ .csv ∉ later.modifiers ∧
      (∀ token ∈ ["true", "no", ""], ',' ∉ token.toList) ∧
      joined.queryValues? "f" = some [String.intercalate "," ["true", "no", ""], "maybe"] ∧
      apart.queryValues? "f" = some ["true", "no", ""] ∧
      (flag.csv.extend later).extract joined = (flag.csv.extend later).invalid cause ∧
      (flag.repeated.extend later).extract apart = (flag.repeated.extend later).invalid cause ∧
      Reading.FailsFirst (flag.csv.extend later).reading.element ["true", "no", ""] cause := by
  intro flag later request joined apart cause
  have unsplit : .csv ∉ flag.reading.modifiers := by decide
  have laterUnsplit : .csv ∉ later.modifiers := by decide
  have plain : ∀ token ∈ ["true", "no", ""], ',' ∉ token.toList := by decide
  have atOnce : joined.queryValues? "f" =
      some [String.intercalate "," ["true", "no", ""], "maybe"] := by decide
  have each : apart.queryValues? "f" = some ["true", "no", ""] := by decide
  have pieces : (flag.repeated.extend later).reading.pieces "true" ["no", ""] = ["true", "no", ""] :=
    Reading.pieces_of_unsplit (by decide) "true" ["no", ""]
  have failed : (flag.repeated.extend later).extract apart =
      (flag.repeated.extend later).invalid cause := by
    rw [extract_eq_invalid_iff, (flag.repeated.extend later).read_eq_gather rfl each pieces]
    rfl
  obtain ⟨same, first⟩ := flag.extract_extend_csv_eq_extend_repeated rfl unsplit laterUnsplit
    (List.cons_ne_nil "true" ["no", ""]) plain atOnce each
  have joinedFailed : (flag.csv.extend later).extract joined =
      (flag.csv.extend later).invalid cause := same.trans failed
  exact ⟨unsplit, laterUnsplit, plain, atOnce, each, joinedFailed, failed, first cause joinedFailed⟩

end Descriptor

end HttpHandler
