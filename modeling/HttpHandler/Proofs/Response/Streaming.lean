import Mathlib.Data.List.Forall2
import HttpHandler.Operation.Answers
import HttpHandler.Proofs.Operation.Chains

/-!
# Streamed arrays

A JSON array that is sent element by element is, put together again, the array that is written at once.
If an element fails, so does collecting, and what was sent before is the beginning of the array up to
that element, without its comma.
-/

namespace HttpHandler

namespace Body

theorem joined_map_ok_append (chunks : List Bytes) (rest : ValueStream Bytes) :
    joined (chunks.map .ok ++ rest) = (joined rest).map (chunks.flatten ++ ·) := by
  induction chunks with
  | nil => cases later : joined rest <;> simp [later, Except.map]
  | cons chunk chunks ih =>
      rw [List.map_cons, List.cons_append, joined, ih]
      cases joined rest <;> simp [Except.map]

/-- The bytes that arrive before the first failure. -/
def delivered : ValueStream Bytes → Bytes
  | [] => []
  | .ok chunk :: rest => chunk ++ delivered rest
  | .error _ :: _ => []

theorem delivered_map_ok_append (chunks : List Bytes) (rest : ValueStream Bytes) :
    delivered (chunks.map .ok ++ rest) = chunks.flatten ++ delivered rest := by
  induction chunks with
  | nil => rfl
  | cons chunk chunks ih =>
      rw [List.map_cons, List.cons_append, delivered, ih, List.flatten_cons, List.append_assoc]

end Body

namespace JsonStream

variable {α : Type} [Serialize α]

/-- `Writes element text` says that an element of a stream is a value that is written as the text. -/
def Writes (element : Except Error α) (text : String) : Prop :=
  ∃ value, element = .ok value ∧ json value = .ok text

/-- `Fails element error` says that an element fails: it is an error, or a value that cannot be
written. -/
inductive Fails : Except Error α → Error → Prop where
  | given (error : Error) : Fails (.error error) error
  | unserializable {value : α} {message : String} (unwritten : json value = .error message) :
    Fails (.ok value) (.unserializable message)

theorem writes_or_fails (element : Except Error α) :
    (∃ text, Writes element text) ∨ ∃ error, Fails element error := by
  cases element with
  | error error => exact .inr ⟨error, .given error⟩
  | ok value =>
      cases written : json value with
      | ok text => exact .inl ⟨text, value, rfl, written⟩
      | error message => exact .inr ⟨_, .unserializable written⟩

/-- The texts of elements from an index on, each led by its comma. -/
def led : Nat → List String → List String
  | _, [] => []
  | index, text :: rest => ((if index = 0 then "" else ",") ++ text) :: led (index + 1) rest

theorem frame_of_writes {element : Except Error α} {text : String} (written : Writes element text)
    (index : Nat) :
    frame index element =
      ⟨.ok (Utf8.encode ((if index = 0 then "" else ",") ++ text)), [.ok text]⟩ := by
  obtain ⟨value, rfl, written⟩ := written
  rw [frame, Serialize.write, written]
  rfl

theorem frame_of_fails {element : Except Error α} {error : Error} (fails : Fails element error)
    (index : Nat) : (frame index element).value = .error error := by
  cases fails with
  | given error => rfl
  | unserializable unwritten =>
      rw [frame, Serialize.write, unwritten]
      rfl

/-- What is sent for some elements, the first of which has the index. -/
def sentFrom (index : Nat) (elements : ValueStream α) : ValueStream Bytes :=
  (framesFrom index elements).map Traced.value

theorem sentFrom_cons (index : Nat) (element : Except Error α) (rest : ValueStream α) :
    sentFrom index (element :: rest) = (frame index element).value :: sentFrom (index + 1) rest := rfl

theorem map_value_frames (elements : ValueStream α) :
    (frames elements).map Traced.value =
      .ok (Utf8.encode "[") :: (sentFrom 0 elements ++ [.ok (Utf8.encode "]")]) := by
  rw [frames, List.map_cons, List.map_append]
  rfl

theorem sentFrom_append {before : ValueStream α} {texts : List String}
    (written : List.Forall₂ Writes before texts) (index : Nat) (rest : ValueStream α) :
    sentFrom index (before ++ rest) =
      ((led index texts).map Utf8.encode).map .ok ++ sentFrom (index + texts.length) rest := by
  induction written generalizing index with
  | nil => rfl
  | cons first others ih =>
      rw [List.cons_append, sentFrom_cons, frame_of_writes first, ih, List.length_cons, led,
        List.map_cons, List.map_cons, List.cons_append, Nat.add_right_comm, Nat.add_assoc index]

/-- Behind the first text every comma leads the text that it stands before. -/
theorem encode_commaSeparated_cons (first : String) (rest : List String) (index : Nat) :
    Utf8.encode (Json.commaSeparated (first :: rest)) =
      Utf8.encode first ++ (led (index + 1) rest).flatMap Utf8.encode := by
  -- For every index: the comma of a text depends on its index only in that this is not the first.
  induction rest generalizing first index with
  | nil => simp [Json.commaSeparated, led]
  | cons second rest ih =>
      have separated : Json.commaSeparated (first :: second :: rest) =
          first ++ "," ++ Json.commaSeparated (second :: rest) := String.intercalate_cons_cons
      rw [separated, Utf8.encode_append, Utf8.encode_append, ih second (index + 1), led,
        if_neg (Nat.succ_ne_zero index), List.flatMap_cons, Utf8.encode_append]
      simp only [List.append_assoc]

theorem flatten_led (texts : List String) :
    ((led 0 texts).map Utf8.encode).flatten = Utf8.encode (Json.commaSeparated texts) := by
  rw [← List.flatMap_def]
  cases texts with
  | nil => rfl
  | cons first rest =>
      rw [encode_commaSeparated_cons first rest 0, led, if_pos rfl, List.flatMap_cons,
        String.empty_append]

/-- What is sent before a place: a bracket and the texts of the elements there. -/
theorem frames_append {before : ValueStream α} {texts : List String}
    (written : List.Forall₂ Writes before texts) (rest : ValueStream α) :
    ∃ chunks : List Bytes, chunks.flatten = Utf8.encode ("[" ++ Json.commaSeparated texts) ∧
      (frames (before ++ rest)).map Traced.value =
        chunks.map .ok ++ (sentFrom texts.length rest ++ [.ok (Utf8.encode "]")]) := by
  refine ⟨Utf8.encode "[" :: (led 0 texts).map Utf8.encode, ?_, ?_⟩
  · rw [List.flatten_cons, flatten_led, Utf8.encode_append]
  · rw [map_value_frames, sentFrom_append written, Nat.zero_add, List.append_assoc]
    rfl

theorem joined_frames_of_writes {elements : ValueStream α} {texts : List String}
    (written : List.Forall₂ Writes elements texts) :
    Body.joined ((frames elements).map Traced.value) =
      .ok (Utf8.encode ("[" ++ Json.commaSeparated texts ++ "]")) := by
  obtain ⟨chunks, sent, split⟩ := frames_append written []
  rw [List.append_nil] at split
  have closed : Body.joined (sentFrom texts.length ([] : ValueStream α) ++ [.ok (Utf8.encode "]")]) =
      .ok (Utf8.encode "]") := congrArg Except.ok (List.append_nil _)
  rw [split, Body.joined_map_ok_append, sent, closed, Utf8.encode_append _ "]"]
  rfl

theorem joined_frames_of_fails {before : ValueStream α} {failing : Except Error α}
    {texts : List String} {error : Error} (written : List.Forall₂ Writes before texts)
    (fails : Fails failing error) (after : ValueStream α) :
    Body.joined ((frames (before ++ failing :: after)).map Traced.value) = .error error ∧
      Body.delivered ((frames (before ++ failing :: after)).map Traced.value) =
        Utf8.encode ("[" ++ Json.commaSeparated texts) := by
  obtain ⟨chunks, sent, split⟩ := frames_append written (failing :: after)
  -- Behind the chunks the frames go on with the error, which ends both what is joined and delivered.
  rw [sentFrom_cons, frame_of_fails fails, List.cons_append] at split
  constructor
  · rw [split, Body.joined_map_ok_append]
    rfl
  · rw [split, Body.delivered_map_ok_append, sent]
    exact List.append_nil _

theorem exists_values_of_writes {elements : ValueStream α}
    (writes : ∀ element ∈ elements, ∃ text, Writes element text) :
    ∃ values texts, elements = values.map .ok ∧ List.Forall₂ Writes elements texts ∧
      jsonElements values = .ok texts := by
  induction elements with
  | nil => exact ⟨[], [], rfl, .nil, rfl⟩
  | cons element rest ih =>
      obtain ⟨text, value, rfl, written⟩ := writes element List.mem_cons_self
      obtain ⟨values, texts, rfl, others, listed⟩ :=
        ih fun other member => writes other (List.mem_cons_of_mem _ member)
      refine ⟨value :: values, text :: texts, rfl, .cons ⟨value, rfl, written⟩ others, ?_⟩
      rw [jsonElements, written, listed]
      rfl

theorem exists_first_failing {elements : ValueStream α}
    (fails : ¬∀ element ∈ elements, ∃ text, Writes element text) :
    ∃ before failing after texts error, elements = before ++ failing :: after ∧
      List.Forall₂ Writes before texts ∧ Fails failing error := by
  induction elements with
  | nil => exact absurd (by simp) fails
  | cons element rest ih =>
      rcases writes_or_fails element with ⟨text, written⟩ | ⟨error, failed⟩
      · have later : ¬∀ other ∈ rest, ∃ text, Writes other text := fun others =>
          fails (List.forall_mem_cons.mpr ⟨⟨text, written⟩, others⟩)
        obtain ⟨before, failing, after, texts, error, rfl, others, failed⟩ := ih later
        exact ⟨element :: before, failing, after, text :: texts, error, rfl, .cons written others,
          failed⟩
      · exact ⟨[], element, rest, [], error, rfl, .nil, failed⟩

theorem json_list (values : List α) :
    json values = (jsonElements values).map fun texts => "[" ++ Json.commaSeparated texts ++ "]" :=
  rfl

/-- A list of values that are written one by one is written as an array of their texts. -/
theorem json_eq_of_jsonElements (builder : ResponseBuilder) {values : List α} {texts : List String}
    (listed : jsonElements values = .ok texts) :
    (builder.json values).value =
      .ok (builder.bytes .json (Utf8.encode ("[" ++ Json.commaSeparated texts ++ "]"))) := by
  change builder.ofWriting (json values) = _
  rw [json_list, listed]
  rfl

theorem json_eq_error_of_jsonElements (builder : ResponseBuilder) {values : List α}
    {message : String} (stopped : jsonElements values = .error message) :
    (builder.json values).value = .error (.unserializable message) := by
  change builder.ofWriting (json values) = _
  rw [json_list, stopped]
  rfl

/-- Writing a list of values comes to an end at the first that cannot be written. -/
theorem jsonElements_cases (values : List α) :
    (∃ texts, List.Forall₂ Writes (values.map .ok) texts ∧ jsonElements values = .ok texts) ∨
      ∃ before failing after texts message, values.map .ok = before ++ failing :: after ∧
        List.Forall₂ Writes before texts ∧ Fails failing (.unserializable message) ∧
        jsonElements values = .error message := by
  induction values with
  | nil => exact .inl ⟨[], .nil, rfl⟩
  | cons value rest ih =>
      cases first : json value with
      | error message =>
          have stopped : jsonElements (value :: rest) = .error message := by
            rw [jsonElements, first]
            rfl
          exact .inr ⟨[], .ok value, rest.map .ok, [], message, rfl, .nil, .unserializable first,
            stopped⟩
      | ok text =>
          have written : Writes (.ok value) text := ⟨value, rfl, first⟩
          rcases ih with ⟨texts, others, listed⟩ |
            ⟨before, failing, after, texts, message, place, others, failed, stopped⟩
          · refine .inl ⟨text :: texts, .cons written others, ?_⟩
            rw [jsonElements, first, listed]
            rfl
          · refine .inr ⟨.ok value :: before, failing, after, text :: texts, message, ?_,
              .cons written others, failed, ?_⟩
            · rw [List.map_cons, place, List.cons_append]
            · rw [jsonElements, first, stopped]
              rfl

end JsonStream

namespace ResponseBuilder

variable {ε α : Type} [Serialize α]

open JsonStream

/-- Values that are streamed and values that are written at once come to the same bytes, or to the same
failure. -/
theorem collect_jsonStream_map_ok (builder : ResponseBuilder) (values : List α) :
    (builder.jsonStream (values.map .ok)).body.collect =
      (builder.json values).value >>= fun response => response.body.collect := by
  rcases jsonElements_cases values with ⟨texts, written, listed⟩ |
    ⟨before, failing, after, texts, message, place, written, failed, stopped⟩
  · rw [json_eq_of_jsonElements builder listed]
    exact (joined_frames_of_writes written).trans (Body.collect_buffered _).symm
  · rw [json_eq_error_of_jsonElements builder stopped, place]
    exact (joined_frames_of_fails written failed after).1

/-- If all elements of a stream are values that can be written, the streamed body is byte for byte that
of the list of the values: an array of their texts. Otherwise collecting it fails as the first element
that fails does, and what is delivered before is a bracket and the texts of the elements before that one,
with commas between them. So it is for the operations that answer with a stream or a value, which
resolve to just these responses. -/
theorem collect_jsonStream_eq_json (builder : ResponseBuilder) (elements : ValueStream α) :
    ((∀ element ∈ elements, ∃ text, Writes element text) →
        ∃ (values : List α) (texts : List String) (response : Response),
          elements = values.map .ok ∧ List.Forall₂ Writes elements texts ∧
          (builder.json values).value = .ok response ∧
          response.body.collect = .ok (Utf8.encode ("[" ++ Json.commaSeparated texts ++ "]")) ∧
          (builder.jsonStream elements).body.collect = response.body.collect) ∧
      ((¬∀ element ∈ elements, ∃ text, Writes element text) →
        ∃ before failing after texts error, elements = before ++ failing :: after ∧
          List.Forall₂ Writes before texts ∧ Fails failing error ∧
          (builder.jsonStream elements).body.collect = .error error ∧
          Body.delivered (builder.jsonStream elements).body.frames =
            Utf8.encode ("[" ++ Json.commaSeparated texts)) ∧
      ∀ status (values : List α),
        (Operation.jsonStream status elements : Operation ε).resolve =
            pure (.ok ((ResponseBuilder.new status).jsonStream elements)) ∧
          (Operation.json status values : Operation ε).resolve =
            ⟨((ResponseBuilder.new status).json values).value,
              [.event (.written (HttpHandler.json values))]⟩ := by
  refine ⟨?_, ?_, ?_⟩
  · intro writes
    obtain ⟨values, texts, split, written, listed⟩ := exists_values_of_writes writes
    have buffered := json_eq_of_jsonElements builder listed
    have whole := Body.collect_buffered (Utf8.encode ("[" ++ Json.commaSeparated texts ++ "]"))
    exact ⟨values, texts, _, split, written, buffered, whole,
      (joined_frames_of_writes written).trans whole.symm⟩
  · intro fails
    obtain ⟨before, failing, after, texts, error, rfl, written, failed⟩ := exists_first_failing fails
    obtain ⟨collected, sent⟩ := joined_frames_of_fails written failed after
    exact ⟨before, failing, after, texts, error, rfl, written, failed, collected, sent⟩
  · intro status values
    exact ⟨Operation.resolve_terminating _, Operation.resolve_terminating _⟩

/-- Two integers are streamed as they are written. Where an error takes the place of the second, the first
is delivered and the third is not. -/
theorem collect_jsonStream_eq_json_interrupted :
    let builder : ResponseBuilder := .new Status.ok
    let whole : ValueStream Int := [.ok 1, .ok 2]
    let lost : Error := .timeout ⟨1, .seconds⟩
    let broken : ValueStream Int := [.ok 1, .error lost, .ok 3]
    (∀ element ∈ whole, ∃ text, Writes element text) ∧
      (∃ response, (builder.json [(1 : Int), 2]).value = .ok response ∧
        (builder.jsonStream whole).body.collect = response.body.collect) ∧
      (¬∀ element ∈ broken, ∃ text, Writes element text) ∧
      (builder.jsonStream broken).body.collect = .error lost ∧
      ∃ before failing after texts, broken = before ++ failing :: after ∧
        List.Forall₂ Writes before texts ∧ Fails failing lost ∧
        Body.delivered (builder.jsonStream broken).body.frames =
          Utf8.encode ("[" ++ Json.commaSeparated texts) := by
  intro builder whole lost broken
  have writes : ∀ element ∈ whole, ∃ text, Writes element text :=
    List.forall_mem_cons.mpr
      ⟨⟨"1", 1, rfl, rfl⟩, List.forall_mem_singleton.mpr ⟨"2", 2, rfl, rfl⟩⟩
  have fails : ¬∀ element ∈ broken, ∃ text, Writes element text := by
    intro writes
    obtain ⟨text, value, failed, -⟩ := writes (.error lost) (by simp [broken])
    contradiction
  have collected : (builder.jsonStream broken).body.collect = .error lost := rfl
  obtain ⟨agree, _⟩ := collect_jsonStream_eq_json (ε := Unit) builder whole
  obtain ⟨_, interrupted, _⟩ := collect_jsonStream_eq_json (ε := Unit) builder broken
  obtain ⟨values, texts, response, split, -, buffered, -, same⟩ := agree writes
  have injective : Function.Injective (Except.ok : Int → Except Error Int) := fun _ _ => Except.ok.inj
  have listed : [(1 : Int), 2] = values := List.map_injective_iff.mpr injective split
  subst listed
  obtain ⟨before, failing, after, texts, error, place, written, failed, first, sent⟩ :=
    interrupted fails
  have only : lost = error := Except.error.inj (collected.symm.trans first)
  subst only
  exact ⟨writes, ⟨response, buffered, same⟩, fails, collected, before, failing, after, texts, place,
    written, failed, sent⟩

end ResponseBuilder

end HttpHandler
