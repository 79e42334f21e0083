import HttpHandler.Descriptor.Basic
import HttpHandler.Proofs.Descriptor.Readings
import HttpHandler.Proofs.Request.NamedValues

/-!
# Absence and bad values

A descriptor without a default fails as missing exactly if the request has no value under its name and
it was not made optional. A value that is there can only fail to convert, and making a descriptor
optional does not hide such a failure.
-/

namespace HttpHandler

variable {β : Type} {shape : Shape}

namespace Source

/-- Whether a request has a value under a name. A header field has one only if all bytes of the value
are visible ASCII, spaces or tabs. -/
def HasValue (source : Source) (name : String) (request : Request) : Prop :=
  match source with
  | .pathVariable => ∃ value, (name, value) ∈ request.pathVariables
  | .queryParameter => ∃ value, (name, value) ∈ request.queryPairs
  | .header => ∃ value ∈ request.headers.values name,
      ∀ byte ∈ value, (0x20 ≤ byte ∧ byte < 0x7F) ∨ byte = 0x09
  | .cookie => ∃ value, (name, value) ∈ Cookies.pairs request.headers

end Source

theorem Headers.text?_isSome_iff (value : Bytes) :
    (text? value).isSome = true ↔ ∀ byte ∈ value, (0x20 ≤ byte ∧ byte < 0x7F) ∨ byte = 0x09 := by
  rw [text?]
  split <;> simp_all [isReadable]

theorem Request.headerValues_eq_nil_iff (request : Request) (name : String) :
    request.headerValues name = [] ↔ ¬Source.header.HasValue name request := by
  simp [headerValues, Source.HasValue, ← Headers.text?_isSome_iff, List.filterMap_eq_nil_iff]

namespace Source

theorem rawValues_of_absent {source : Source} {name : String} {request : Request}
    (absent : ¬source.HasValue name request) : source.rawValues name request = none := by
  cases source with
  | pathVariable =>
      have unfound : request.pathVariables.reverse.lookup name = none := by
        rw [List.lookup_eq_none_iff]
        intro pair member
        have other : name ≠ pair.1 := by
          rintro rfl
          exact absent ⟨pair.2, List.mem_reverse.mp member⟩
        simpa using other
      rw [rawValues, Request.pathVariable?, unfound, Option.map_none]
  | queryParameter => exact valuesNamed?_of_notMem fun value member => absent ⟨value, member⟩
  | header => rw [rawValues, (request.headerValues_eq_nil_iff name).mpr absent]
  | cookie => exact valuesNamed?_of_notMem fun value member => absent ⟨value, member⟩

end Source

namespace Descriptor

/-- What an extraction is that fails because nothing is there. -/
def missing {α : Type} (descriptor : Descriptor β shape) : Traced LogEntry (Except Error α) :=
  ⟨.error (.badRequest
      ("Missing required " ++ descriptor.source.name ++ " " ++ descriptor.name ++ ".")),
    [.missing descriptor.source descriptor.name]⟩

/-- What an extraction is that fails because a value does not convert. -/
def invalid {α : Type} (descriptor : Descriptor β shape) (cause : Cause) :
    Traced LogEntry (Except Error α) :=
  ⟨.error (.badRequestBecause (descriptor.source.invalidMessage descriptor.name) cause),
    [.unconvertible descriptor.source descriptor.name cause]⟩

/-- What an extraction is, from what was read. -/
def extracted (descriptor : Descriptor β shape) :
    Except Failure (shape.Of β) → Traced LogEntry (Except Error (shape.Of β))
  | .ok value => ⟨.ok value, []⟩
  | .error .missing => descriptor.missing
  | .error (.invalid cause) => descriptor.invalid cause

theorem extract_eq_extracted (descriptor : Descriptor β shape) (request : Request) :
    descriptor.extract request = descriptor.extracted (descriptor.read request) := by
  match found : descriptor.read request with
  | .ok value => simp only [extract, found]; rfl
  | .error .missing => simp only [extract, found]; rfl
  | .error (.invalid cause) => simp only [extract, found]; rfl

/-- An extraction tells what was read: the two failures differ in what they report, and a failed
conversion carries its cause. -/
theorem extracted_injective (descriptor : Descriptor β shape)
    {first second : Except Failure (shape.Of β)}
    (same : descriptor.extracted first = descriptor.extracted second) : first = second := by
  match first, second with
  | .ok value, .ok other =>
      rw [Except.ok.inj (congrArg Traced.value same)]
  | .ok value, .error .missing => exact nomatch congrArg Traced.value same
  | .ok value, .error (.invalid cause) => exact nomatch congrArg Traced.value same
  | .error .missing, .ok value => exact nomatch congrArg Traced.value same
  | .error .missing, .error .missing => rfl
  | .error .missing, .error (.invalid cause) => exact nomatch congrArg Traced.trace same
  | .error (.invalid cause), .ok value => exact nomatch congrArg Traced.value same
  | .error (.invalid cause), .error .missing => exact nomatch congrArg Traced.trace same
  | .error (.invalid cause), .error (.invalid other) =>
      have reports := List.head_eq_of_cons_eq (congrArg Traced.trace same)
      rw [(LogEntry.unconvertible.inj reports).2.2]

theorem extract_eq_extracted_iff (descriptor : Descriptor β shape) (request : Request)
    (result : Except Failure (shape.Of β)) :
    descriptor.extract request = descriptor.extracted result ↔
      descriptor.read request = result := by
  rw [extract_eq_extracted]
  exact ⟨descriptor.extracted_injective, congrArg descriptor.extracted⟩

theorem extract_eq_ok_iff (descriptor : Descriptor β shape) (request : Request)
    (value : shape.Of β) :
    descriptor.extract request = ⟨.ok value, []⟩ ↔ descriptor.read request = .ok value :=
  descriptor.extract_eq_extracted_iff request (.ok value)

theorem extract_eq_missing_iff (descriptor : Descriptor β shape) (request : Request) :
    descriptor.extract request = descriptor.missing ↔ descriptor.read request = .error .missing :=
  descriptor.extract_eq_extracted_iff request (.error .missing)

theorem extract_eq_invalid_iff (descriptor : Descriptor β shape) (request : Request)
    (cause : Cause) :
    descriptor.extract request = descriptor.invalid cause ↔
      descriptor.read request = .error (.invalid cause) :=
  descriptor.extract_eq_extracted_iff request (.error (.invalid cause))

theorem extract_eq_of_read_eq {first second : Descriptor β shape} {request other : Request}
    (source : first.source = second.source) (name : first.name = second.name)
    (read : first.read request = second.read other) :
    first.extract request = second.extract other := by
  rw [extract, extract, read, source, name]

end Descriptor

end HttpHandler
