import HttpHandler.Json.Node
import HttpHandler.Proofs.Response.Streaming

/-!
# Streams that go on after a failure

A reader that goes on after the frames that fail finds one frame for every element. What it reads is the
array of the elements that did not fail, unless the first one did: the comma before an element depends on
its index, so that the next one to be written is led by a comma that nothing stands before.
-/

namespace HttpHandler

/-- The bytes of all frames that arrive, whatever fails between them. -/
def Body.data : ValueStream Bytes → Bytes
  | [] => []
  | .ok chunk :: rest => chunk ++ data rest
  | .error _ :: rest => data rest

theorem Body.data_append (first next : ValueStream Bytes) :
    data (first ++ next) = data first ++ data next := by
  induction first with
  | nil => rfl
  | cons frame rest ih =>
      cases frame with
      | ok chunk => rw [List.cons_append, data, data, ih, List.append_assoc]
      | error error => exact ih

namespace JsonStream

variable {α : Type} [Serialize α]

/-- The values among the elements of a stream that can be written. -/
def written : ValueStream α → List α
  | [] => []
  | .ok value :: rest =>
    match json value with
    | .ok _ => value :: written rest
    | .error _ => written rest
  | .error _ :: rest => written rest

theorem written_of_writes {element : Except Error α} {text : String} (writes : Writes element text)
    (rest : ValueStream α) :
    ∃ value, json value = .ok text ∧ written (element :: rest) = value :: written rest := by
  obtain ⟨value, rfl, known⟩ := writes
  exact ⟨value, known, by simp only [written, known]⟩

theorem written_of_fails {element : Except Error α} {error : Error} (fails : Fails element error)
    (rest : ValueStream α) : written (element :: rest) = written rest := by
  cases fails with
  | given error => rfl
  | unserializable unwritten => simp only [written, unwritten]

/-- `frame` is what is sent for an element: its failure, or some bytes if it is written. -/
inductive StandsFor (element : Except Error α) : Except Error Bytes → Prop where
  | failure {error : Error} (fails : Fails element error) : StandsFor element (.error error)
  | bytes {text : String} (writes : Writes element text) (chunk : Bytes) :
    StandsFor element (.ok chunk)

theorem forall₂_sentFrom (index : Nat) (elements : ValueStream α) :
    List.Forall₂ StandsFor elements (sentFrom index elements) := by
  induction elements generalizing index with
  | nil => exact .nil
  | cons element rest ih =>
      refine .cons ?_ (ih (index + 1))
      rcases writes_or_fails element with ⟨text, writes⟩ | ⟨error, fails⟩
      · rw [frame_of_writes writes]
        exact .bytes writes _
      · rw [frame_of_fails fails]
        exact .failure fails

theorem led_succ (index : Nat) (texts : List String) :
    led (index + 1) texts = texts.map fun text => "," ++ text := by
  induction texts generalizing index with
  | nil => rfl
  | cons text rest ih => rw [led, if_neg (Nat.succ_ne_zero index), ih, List.map_cons]

theorem encode_commaSeparated (first : String) (rest : List String) :
    Utf8.encode (Json.commaSeparated (first :: rest)) =
      Utf8.encode first ++ rest.flatMap fun text => Utf8.encode ("," ++ text) := by
  rw [encode_commaSeparated_cons first rest 0, led_succ, List.flatMap_map]

theorem jsonElements_cons {value : α} {text : String} {values : List α} {texts : List String}
    (first : json value = .ok text) (others : jsonElements values = .ok texts) :
    jsonElements (value :: values) = .ok (text :: texts) := by
  rw [jsonElements, first, others]
  rfl

/-- Behind the first index every text is led by a comma, whatever fails between them. -/
theorem exists_data_sentFrom (index : Nat) (elements : ValueStream α) :
    ∃ texts, jsonElements (written elements) = .ok texts ∧
      texts.length = (written elements).length ∧
      Body.data (sentFrom (index + 1) elements) =
        texts.flatMap fun text => Utf8.encode ("," ++ text) := by
  induction elements generalizing index with
  | nil => exact ⟨[], rfl, rfl, rfl⟩
  | cons element rest ih =>
      obtain ⟨texts, listed, length, sent⟩ := ih (index + 1)
      rcases writes_or_fails element with ⟨text, writes⟩ | ⟨error, fails⟩
      · obtain ⟨value, first, split⟩ := written_of_writes writes rest
        rw [split]
        refine ⟨text :: texts, jsonElements_cons first listed, congrArg (· + 1) length, ?_⟩
        rw [sentFrom_cons, frame_of_writes writes, if_neg (Nat.succ_ne_zero index), Body.data, sent,
          List.flatMap_cons]
      · rw [written_of_fails fails rest]
        refine ⟨texts, listed, length, ?_⟩
        rw [sentFrom_cons, frame_of_fails fails, Body.data, sent]

/-- Whether the first element fails and a later one is written. -/
def LosesFirst (elements : ValueStream α) : Prop :=
  ∃ first rest error, elements = first :: rest ∧ Fails first error ∧ written rest ≠ []

theorem not_losesFirst_of_writes {element : Except Error α} {text : String}
    (writes : Writes element text) (rest : ValueStream α) : ¬LosesFirst (element :: rest) := by
  rintro ⟨first, others, error, same, fails, -⟩
  obtain ⟨rfl, rfl⟩ := List.cons.inj same
  obtain ⟨value, rfl, known⟩ := writes
  cases fails with
  | unserializable unwritten => exact nomatch known.symm.trans unwritten

/-- What the frames of the elements carry: their texts with commas between them, and a comma in front of
these if the first element was lost. -/
theorem exists_data_elements (elements : ValueStream α) :
    ∃ texts, jsonElements (written elements) = .ok texts ∧
      (¬LosesFirst elements →
        Body.data (sentFrom 0 elements) = Utf8.encode (Json.commaSeparated texts)) ∧
      (LosesFirst elements →
        Body.data (sentFrom 0 elements) = Utf8.encode ("," ++ Json.commaSeparated texts)) := by
  cases elements with
  | nil => exact ⟨[], rfl, fun _ => rfl, fun ⟨_, _, _, same, _⟩ => nomatch same⟩
  | cons element rest =>
      obtain ⟨texts, listed, length, sent⟩ := exists_data_sentFrom 0 rest
      rcases writes_or_fails element with ⟨text, writes⟩ | ⟨error, fails⟩
      · obtain ⟨value, first, split⟩ := written_of_writes writes rest
        rw [split]
        refine ⟨text :: texts, jsonElements_cons first listed, fun _ => ?_, fun loses => ?_⟩
        · rw [sentFrom_cons, frame_of_writes writes, if_pos rfl, Body.data, sent,
            encode_commaSeparated, String.empty_append]
        · exact absurd loses (not_losesFirst_of_writes writes rest)
      · have silent : Body.data (sentFrom 0 (element :: rest)) =
            texts.flatMap fun text => Utf8.encode ("," ++ text) := by
          rw [sentFrom_cons, frame_of_fails fails, Body.data, sent]
        rw [written_of_fails fails rest]
        refine ⟨texts, listed, fun keeps => ?_, fun loses => ?_⟩
        · have none : written rest = [] := by
            by_contra some
            exact keeps ⟨element, rest, error, rfl, fails, some⟩
          rw [none] at length
          obtain rfl := List.length_eq_zero_iff.mp length
          exact silent
        · obtain ⟨_, _, _, same, _, some⟩ := loses
          obtain ⟨rfl, rfl⟩ := List.cons.inj same
          obtain ⟨text, others, rfl⟩ : ∃ text others, texts = text :: others :=
            List.exists_cons_of_length_pos (length ▸ List.length_pos_iff.mpr some)
          rw [silent, Utf8.encode_append, encode_commaSeparated, List.flatMap_cons,
            Utf8.encode_append, List.append_assoc]

end JsonStream

/-- A bracket that a comma follows begins no document. -/
theorem Json.Node.read_bracket_comma (rest : Bytes) : Node.read (0x5B :: 0x2C :: rest) = none := by
  have unread (fuel : Nat) : readElements fuel (0x2C :: rest) = none := by
    cases fuel with
    | zero => rfl
    | succ fuel => cases fuel <;> rfl
  have array (fuel : Nat) : readValue (fuel + 1) (0x5B :: 0x2C :: rest) = none := by
    change Option.map _ (readElements fuel (0x2C :: rest)) = none
    rw [unread, Option.map_none]
  rw [Node.read, array]

namespace JsonStream

variable {α : Type} [Serialize α]

/-- Read to its end, a streamed array has a frame for each bracket and one for each element between them,
which is the failure of an element that fails. What arrives is the array of the values that can be written,
exactly if the first element is one of them or none is. Otherwise a comma stands behind the bracket, and
what arrives is no document. -/
theorem data_frames_eq_json_iff (builder : ResponseBuilder) (elements : ValueStream α) :
    let sent := (builder.jsonStream elements).body.frames
    (∃ between, sent = .ok (Utf8.encode "[") :: (between ++ [.ok (Utf8.encode "]")]) ∧
        List.Forall₂ StandsFor elements between) ∧
      ∃ members, json (written elements) = .ok ("[" ++ members ++ "]") ∧
        (Body.data sent = Utf8.encode ("[" ++ members ++ "]") ↔ ¬LosesFirst elements) ∧
        (LosesFirst elements →
          Body.data sent = Utf8.encode ("[," ++ members ++ "]") ∧
            Json.Node.read (Body.data sent) = none) := by
  intro sent
  obtain ⟨texts, listed, whole, lost⟩ := exists_data_elements elements
  have framed : sent = .ok (Utf8.encode "[") :: (sentFrom 0 elements ++ [.ok (Utf8.encode "]")]) :=
    map_value_frames elements
  have carried : Body.data sent =
      Utf8.encode "[" ++ (Body.data (sentFrom 0 elements) ++ Utf8.encode "]") := by
    rw [framed, Body.data, Body.data_append]
    rfl
  have array : json (written elements) = .ok ("[" ++ Json.commaSeparated texts ++ "]") := by
    rw [json_list, listed]
    rfl
  have behind : "[," = "[" ++ "," := rfl
  have comma (loses : LosesFirst elements) :
      Body.data sent = Utf8.encode ("[," ++ Json.commaSeparated texts ++ "]") := by
    rw [carried, lost loses, behind]
    simp only [Utf8.encode_append, List.append_assoc]
  refine ⟨⟨_, framed, forall₂_sentFrom 0 elements⟩, _, array, ⟨?_, ?_⟩,
    fun loses => ⟨comma loses, ?_⟩⟩
  · intro same loses
    -- With the comma the data is one byte longer than the array.
    have lengths := congrArg List.length (same.symm.trans (comma loses))
    have one : (Utf8.encode ",").length = 1 := by decide
    simp only [behind, Utf8.encode_append, List.length_append] at lengths
    omega
  · intro keeps
    rw [carried, whole keeps]
    simp only [Utf8.encode_append, List.append_assoc]
  · have begins : Utf8.encode "[," = [0x5B, 0x2C] := by decide
    rw [comma loses, Utf8.encode_append, Utf8.encode_append, begins]
    exact Json.Node.read_bracket_comma _

/-- Of two elements the first fails. What arrives of the second is led by a comma. -/
theorem data_frames_leading_comma :
    let lost : Error := .badRequest "gone"
    let elements : ValueStream Int := [.error lost, .ok 1]
    let sent := ((ResponseBuilder.new Status.ok).jsonStream elements).body.frames
    sent = [.ok (Utf8.encode "["), .error lost, .ok (Utf8.encode ",1"), .ok (Utf8.encode "]")] ∧
      json (written elements) = .ok "[1]" ∧ Body.data sent = Utf8.encode "[,1]" ∧
      Body.data sent ≠ Utf8.encode "[1]" := by
  intro lost elements sent
  have frames : sent =
      [.ok (Utf8.encode "["), .error lost, .ok (Utf8.encode ",1"), .ok (Utf8.encode "]")] := rfl
  have array : json (written elements) = .ok "[1]" := rfl
  refine ⟨frames, array, ?_, ?_⟩
  · rw [frames]
    decide
  · rw [frames]
    decide

end JsonStream

end HttpHandler
