import Mathlib.Data.List.Basic
import HttpHandler.Plan.Build

/-!
# The header fields of a response

A table of header fields keeps every name once, in its canonical spelling, with at least one value, so
that its fields can be told from the values of its names. What a builder was given under a name is what
the response has under it, and it replaces what the body brings along.
-/

namespace HttpHandler

namespace Headers

theorem toLower_toLower (character : Char) : character.toLower.toLower = character.toLower := by
  by_cases capital : 'A'.val ≤ character.val ∧ character.val ≤ 'Z'.val
  · have lowered : character.toLower.val = character.val + ('a'.val - 'A'.val) :=
      congrArg Char.val (dif_pos capital)
    have small : ¬('A'.val ≤ character.toLower.val ∧ character.toLower.val ≤ 'Z'.val) := by
      simp [lowered, UInt32.le_iff_toNat_le] at capital ⊢
      omega
    exact dif_neg small
  · have same : character.toLower = character := dif_neg capital
    rw [same, same]

theorem canonical_canonical (name : String) : canonical (canonical name) = canonical name := by
  simp only [canonical, String.toList_ofList, List.map_map, Function.comp_def, toLower_toLower]

/-- The values of a name among fields, in order, whatever the spelling of the name. -/
def valuesAmong (name : String) (fields : List (String × Bytes)) : List Bytes :=
  fields.filterMap fun field =>
    if canonical field.1 = canonical name then some field.2 else none

/-- Whether the entries of a table are of different names, in canonical spelling, with values. -/
structure WellFormed (entries : List (String × List Bytes)) : Prop where
  distinct : (entries.map Prod.fst).Nodup
  spelled : ∀ entry ∈ entries, canonical entry.1 = entry.1
  nonempty : ∀ entry ∈ entries, entry.2 ≠ []

theorem wellFormed_nil : WellFormed [] := ⟨List.nodup_nil, by simp, by simp⟩

theorem wellFormed_cons_iff (name : String) (values : List Bytes)
    (rest : List (String × List Bytes)) :
    WellFormed ((name, values) :: rest) ↔
      name ∉ rest.map Prod.fst ∧ canonical name = name ∧ values ≠ [] ∧ WellFormed rest := by
  constructor
  · rintro ⟨distinct, spelled, nonempty⟩
    obtain ⟨fresh, distinctRest⟩ := List.nodup_cons.mp distinct
    obtain ⟨first, spelledRest⟩ := List.forall_mem_cons.mp spelled
    obtain ⟨valued, nonemptyRest⟩ := List.forall_mem_cons.mp nonempty
    exact ⟨fresh, first, valued, distinctRest, spelledRest, nonemptyRest⟩
  · rintro ⟨fresh, first, valued, distinct, spelled, nonempty⟩
    exact ⟨List.nodup_cons.mpr ⟨fresh, distinct⟩, List.forall_mem_cons.mpr ⟨first, spelled⟩,
      List.forall_mem_cons.mpr ⟨valued, nonempty⟩⟩

theorem mem_keys_update {name other : String} {f : List Bytes → List Bytes}
    {entries : List (String × List Bytes)} (member : other ∈ (update name f entries).map Prod.fst) :
    other = name ∨ other ∈ entries.map Prod.fst := by
  induction entries with
  | nil => exact .inl (List.mem_singleton.mp member)
  | cons entry rest ih =>
      obtain ⟨kept, values⟩ := entry
      by_cases found : kept = name
      · rw [update, if_pos found] at member
        exact .inr member
      · rw [update, if_neg found] at member
        rcases List.mem_cons.mp member with rfl | later
        · exact .inr List.mem_cons_self
        · exact (ih later).imp_right (List.mem_cons_of_mem kept)

theorem WellFormed.update {entries : List (String × List Bytes)} (wellFormed : WellFormed entries)
    {f : List Bytes → List Bytes} (nonempty : ∀ values, f values ≠ []) (name : String) :
    WellFormed (update (canonical name) f entries) := by
  induction entries with
  | nil =>
      exact (wellFormed_cons_iff _ _ _).mpr
        ⟨List.not_mem_nil, canonical_canonical name, nonempty [], wellFormed_nil⟩
  | cons entry rest ih =>
      obtain ⟨kept, values⟩ := entry
      obtain ⟨fresh, spelled, valued, restWellFormed⟩ := (wellFormed_cons_iff _ _ _).mp wellFormed
      by_cases found : kept = canonical name
      · rw [Headers.update, if_pos found]
        exact (wellFormed_cons_iff _ _ _).mpr ⟨fresh, spelled, nonempty values, restWellFormed⟩
      · rw [Headers.update, if_neg found]
        refine (wellFormed_cons_iff _ _ _).mpr ⟨?_, spelled, valued, ih restWellFormed⟩
        exact fun member => (mem_keys_update member).elim found fresh

theorem lookup_of_notMem {name : String} {entries : List (String × List Bytes)}
    (absent : name ∉ entries.map Prod.fst) : lookup name entries = [] := by
  have unfound : entries.lookup name = none := by
    rw [List.lookup_eq_none_iff]
    intro entry member
    have other : name ≠ entry.1 := by
      rintro rfl
      exact absent (List.mem_map_of_mem member)
    exact bne_iff_ne.mpr other
  rw [lookup, unfound, Option.getD_none]

theorem valuesAmong_append (name : String) (first second : List (String × Bytes)) :
    valuesAmong name (first ++ second) = valuesAmong name first ++ valuesAmong name second :=
  List.filterMap_append

/-- A field that is appended stands behind the values that its name had. -/
theorem values_append_eq_valuesAmong (headers : Headers) (other name : String) (value : Bytes) :
    (headers.append other value).values name =
      headers.values name ++ valuesAmong name [(other, value)] := by
  rw [values_append]
  by_cases same : canonical name = canonical other
  · simp [valuesAmong, Headers.values, same]
  · simp [valuesAmong, same, Ne.symm same]

/-- The fields of a table have under each name the values that are looked up. -/
theorem valuesAmong_fields {headers : Headers} (wellFormed : WellFormed headers.entries)
    (name : String) : valuesAmong name headers.fields = headers.values name := by
  obtain ⟨entries⟩ := headers
  rw [fields]
  change valuesAmong name (entries.flatMap _) = lookup (canonical name) entries
  induction entries with
  | nil => rfl
  | cons entry rest ih =>
      obtain ⟨key, values⟩ := entry
      obtain ⟨fresh, spelled, -, restWellFormed⟩ := (wellFormed_cons_iff _ _ _).mp wellFormed
      rw [List.flatMap_cons, valuesAmong_append, ih restWellFormed, lookup_cons, valuesAmong,
        List.filterMap_map]
      by_cases same : canonical name = key
      · rw [if_pos same, same, lookup_of_notMem fresh]
        simp [spelled]
      · rw [if_neg same]
        simp [spelled, Ne.symm same]

theorem values_cons (key name : String) (values : List Bytes) (rest : List (String × List Bytes)) :
    (Headers.mk ((key, values) :: rest)).values name =
      if canonical name = key then values else (Headers.mk rest).values name :=
  lookup_cons (canonical name) key values rest

theorem extend_cons (headers : Headers) (key : String) (values : List Bytes)
    (rest : List (String × List Bytes)) :
    headers.extend ⟨(key, values) :: rest⟩ = (headers.replace key values).extend ⟨rest⟩ := rfl

theorem WellFormed.extend {headers other : Headers} (wellFormed : WellFormed headers.entries)
    (otherWellFormed : WellFormed other.entries) : WellFormed (headers.extend other).entries := by
  obtain ⟨entries⟩ := other
  induction entries generalizing headers with
  | nil => exact wellFormed
  | cons entry rest ih =>
      obtain ⟨key, values⟩ := entry
      obtain ⟨-, -, valued, restWellFormed⟩ := (wellFormed_cons_iff _ _ _).mp otherWellFormed
      have replaced : WellFormed (headers.replace key values).entries :=
        wellFormed.update (fun _ => valued) key
      exact ih replaced restWellFormed

/-- A table takes over the values of each name that the other table has, and keeps its own under the
others. -/
theorem values_extend (headers : Headers) {other : Headers} (wellFormed : WellFormed other.entries)
    (name : String) :
    (headers.extend other).values name =
      if other.values name = [] then headers.values name else other.values name := by
  obtain ⟨entries⟩ := other
  induction entries generalizing headers with
  | nil => rfl
  | cons entry rest ih =>
      obtain ⟨key, values⟩ := entry
      obtain ⟨fresh, spelled, valued, restWellFormed⟩ := (wellFormed_cons_iff _ _ _).mp wellFormed
      rw [extend_cons, ih (headers.replace key values) restWellFormed, values_replace, spelled,
        values_cons]
      by_cases same : canonical name = key
      · -- The entry has replaced the values of this name, and no later entry is of the same name.
        have absent : (Headers.mk rest).values name = [] := by
          rw [Headers.values, same, lookup_of_notMem fresh]
        rw [if_pos absent, if_pos same, if_pos same, if_neg valued]
      · rw [if_neg same, if_neg same]

end Headers

namespace BuilderStep

/-- The statuses that steps set, in order. -/
def statuses (steps : List BuilderStep) : List StatusCode :=
  steps.filterMap fun
    | .status code => some code
    | .header _ _ => none

/-- The fields that steps add, in order. -/
def fields (steps : List BuilderStep) : List (String × Bytes) :=
  steps.filterMap fun
    | .status _ => none
    | .header name value => some (name, value)

theorem status_applyAll (steps : List BuilderStep) (builder : ResponseBuilder) :
    (applyAll steps builder).status = (statuses steps).getLastD builder.status := by
  induction steps generalizing builder with
  | nil => rfl
  | cons step rest ih =>
      have later := ih (apply builder step)
      cases step with
      | status code => exact later.trans List.getLastD_cons.symm
      | header name value => exact later

theorem values_applyAll (steps : List BuilderStep) (builder : ResponseBuilder) (name : String) :
    (applyAll steps builder).headers.values name =
      builder.headers.values name ++ Headers.valuesAmong name (fields steps) := by
  induction steps generalizing builder with
  | nil => exact (List.append_nil _).symm
  | cons step rest ih =>
      have later := ih (apply builder step)
      cases step with
      | status code => exact later
      | header other value =>
          have added : (apply builder (.header other value)).headers.values name =
              builder.headers.values name ++ Headers.valuesAmong name [(other, value)] :=
            builder.headers.values_append_eq_valuesAmong other name value
          rw [added, List.append_assoc, ← Headers.valuesAmong_append] at later
          exact later

theorem wellFormed_applyAll (steps : List BuilderStep) {builder : ResponseBuilder}
    (wellFormed : Headers.WellFormed builder.headers.entries) :
    Headers.WellFormed (applyAll steps builder).headers.entries := by
  induction steps generalizing builder with
  | nil => exact wellFormed
  | cons step rest ih =>
      cases step with
      | status code => exact ih wellFormed
      | header name value =>
          have appended : Headers.WellFormed (builder.withHeader name value).headers.entries :=
            wellFormed.update (fun values => List.append_ne_nil_of_right_ne_nil values
              (List.cons_ne_nil value [])) name
          exact ih appended

end BuilderStep

namespace ResponseBuilder

/-- `builder.Ends contentType? response` says that a builder, ended with a body, makes the response. All
bodies have a content type, and no body has none. A value that cannot be written as JSON makes no
response. -/
inductive Ends (builder : ResponseBuilder) : Option ContentType → Response → Prop where
  | json {α : Type} [Serialize α] {value : α} {response : Response}
    (written : (builder.json value).value = .ok response) : Ends builder (some .json) response
  | text (line : String) : Ends builder (some .text) (builder.text line)
  | bytes (contentType : ContentType) (content : Bytes) :
    Ends builder (some contentType) (builder.bytes contentType content)
  | stream (contentType : ContentType) (frames : ValueStream Bytes) :
    Ends builder (some contentType) (builder.stream contentType frames)
  | jsonStream {α : Type} [Serialize α] (elements : ValueStream α) :
    Ends builder (some .json) (builder.jsonStream elements)
  | noBody : Ends builder none builder.noBody

theorem Ends.exists_finish {builder : ResponseBuilder} {contentType? : Option ContentType}
    {response : Response} (ends : builder.Ends contentType? response) :
    ∃ body, response = builder.finish contentType? body := by
  cases ends with
  | @json α _ value response written =>
      change builder.ofWriting (HttpHandler.json value) = .ok response at written
      cases unwritten : HttpHandler.json value with
      | ok text =>
          rw [unwritten] at written
          exact ⟨_, (Except.ok.inj written).symm⟩
      | error message =>
          rw [unwritten] at written
          contradiction
  | text line => exact ⟨_, rfl⟩
  | bytes contentType content => exact ⟨_, rfl⟩
  | stream contentType frames => exact ⟨_, rfl⟩
  | jsonStream elements => exact ⟨_, rfl⟩
  | noBody => exact ⟨_, rfl⟩

theorem wellFormed_ownFields (contentType? : Option ContentType) :
    Headers.WellFormed (ownFields contentType?).entries := by
  cases contentType? with
  | none => exact Headers.wellFormed_nil
  | some contentType =>
      exact Headers.wellFormed_nil.update (fun _ => List.cons_ne_nil _ _) Headers.contentType

theorem wellFormed_built (steps : List BuilderStep) (status : StatusCode) :
    Headers.WellFormed (BuilderStep.applyAll steps (.new status)).headers.entries :=
  BuilderStep.wellFormed_applyAll steps Headers.wellFormed_nil

theorem values_ownFields (contentType? : Option ContentType) (name : String) :
    (ownFields contentType?).values name =
      if Headers.canonical name = "content-type" then (contentType?.map ContentType.bytes).toList
      else [] := by
  cases contentType? with
  | none => exact (ite_self _).symm
  | some contentType =>
      have spelled : Headers.canonical Headers.contentType = "content-type" := by decide
      rw [ownFields, Headers.values_replace, spelled]
      rfl

/-- The values that a response has under a name: those that steps gave for it, and without any the
content type, if it is the name of that and there is one. -/
def valuesAfter (steps : List BuilderStep) (contentType? : Option ContentType) (name : String) :
    List Bytes :=
  match Headers.valuesAmong name (BuilderStep.fields steps) with
  | [] =>
    if Headers.canonical name = "content-type" then (contentType?.map ContentType.bytes).toList else []
  | given => given

theorem values_finish (steps : List BuilderStep) (status : StatusCode)
    (contentType? : Option ContentType) (body : Body) (name : String) :
    ((BuilderStep.applyAll steps (.new status)).finish contentType? body).headers.values name =
      valuesAfter steps contentType? name := by
  have built : (BuilderStep.applyAll steps (.new status)).headers.values name =
      Headers.valuesAmong name (BuilderStep.fields steps) :=
    BuilderStep.values_applyAll steps (.new status) name
  -- The fields of the body are the table that is extended, so that those of the builder replace them.
  rw [finish, Headers.values_extend _ (wellFormed_built steps status), built, values_ownFields,
    valuesAfter]
  cases Headers.valuesAmong name (BuilderStep.fields steps) with
  | nil => rw [if_pos rfl]
  | cons first rest => rw [if_neg (List.cons_ne_nil first rest)]

/-- A response that is built by steps on a new builder has the status that was set last and under each
name just the values that the steps gave for it, in order. Only without any does it have the content
type of its body. There are no other fields, and each name has its values once. -/
theorem Ends.headers_eq_valuesAfter {steps : List BuilderStep} {status : StatusCode}
    {contentType? : Option ContentType} {response : Response}
    (ends : (BuilderStep.applyAll steps (.new status)).Ends contentType? response) :
    response.status = (BuilderStep.statuses steps).getLastD status ∧
      ∀ name, response.headers.values name = valuesAfter steps contentType? name ∧
        Headers.valuesAmong name response.headers.fields = valuesAfter steps contentType? name := by
  obtain ⟨body, rfl⟩ := ends.exists_finish
  refine ⟨BuilderStep.status_applyAll steps (.new status), fun name => ?_⟩
  have values := values_finish steps status contentType? body name
  have wellFormed := (wellFormed_ownFields contentType?).extend (wellFormed_built steps status)
  exact ⟨values, (Headers.valuesAmong_fields wellFormed name).trans values⟩

/-- A content type that is given twice, in two spellings, stands in place of that of the text. -/
theorem Ends.headers_eq_valuesAfter_repeated :
    let steps : List BuilderStep :=
      [.header "Content-Type" [0x61], .status 202, .header "x-tag" [0x62],
        .header "content-type" [0x63], .status 201]
    let builder := BuilderStep.applyAll steps (.new 200)
    let response := builder.text "done"
    builder.Ends (some .text) response ∧ response.status = 201 ∧
      response.headers.values "content-type" = [[0x61], [0x63]] ∧
      Headers.valuesAmong "X-Tag" response.headers.fields = [[0x62]] ∧
      Headers.valuesAmong "location" response.headers.fields = [] := by
  intro steps builder response
  have ends : builder.Ends (some .text) response := .text "done"
  obtain ⟨status, fields⟩ := Ends.headers_eq_valuesAfter ends
  have contentType : valuesAfter steps (some .text) "content-type" = [[0x61], [0x63]] := by decide
  have tag : valuesAfter steps (some .text) "X-Tag" = [[0x62]] := by decide
  have location : valuesAfter steps (some .text) "location" = [] := by decide
  exact ⟨ends, status, (fields _).1.trans contentType, (fields _).2.trans tag,
    (fields _).2.trans location⟩

end ResponseBuilder

end HttpHandler
