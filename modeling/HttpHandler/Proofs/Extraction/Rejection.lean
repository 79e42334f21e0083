import HttpHandler.Descriptor.Basic

/-!
# Rejected requests

An extractor that is made of descriptors either yields a value and reports nothing, or it fails with
what the first descriptor that fails has to say, and reports that alone.
-/

namespace HttpHandler

variable {α β : Type}

/-- A descriptor of any type and shape. -/
structure AnyDescriptor where
  {β : Type}
  {shape : Shape}
  descriptor : Descriptor β shape

/-- What was looked for in a request and what was wrong with it. -/
structure Rejection where
  source : Source
  name : String
  failure : Failure

namespace Rejection

/-- The message for the client. It names the value that is missing or did not convert. -/
def message (rejection : Rejection) : String :=
  match rejection.failure with
  | .missing => "Missing required " ++ rejection.source.name ++ " " ++ rejection.name ++ "."
  | .invalid _ => rejection.source.invalidMessage rejection.name

def error (rejection : Rejection) : Error := rejection.failure.toError rejection.source rejection.name

def entry (rejection : Rejection) : LogEntry := rejection.failure.toLog rejection.source rejection.name

end Rejection

def AnyDescriptor.rejection? (any : AnyDescriptor) (request : Request) : Option Rejection :=
  match any.descriptor.read request with
  | .ok _ => none
  | .error failure => some ⟨any.descriptor.source, any.descriptor.name, failure⟩

def firstRejection? (descriptors : List AnyDescriptor) (request : Request) : Option Rejection :=
  descriptors.findSome? fun any => any.rejection? request

namespace Extractor

/-- `extractor.Reads descriptors` says that an extractor is made of some descriptors, in that order:
of a single one, or of those of several extractors whose values it puts together. -/
inductive Reads : {α : Type} → Extractor α → List AnyDescriptor → Prop where
  | single {β : Type} {shape : Shape} (descriptor : Descriptor β shape) :
    Reads descriptor.extract [⟨descriptor⟩]
  | map {α β : Type} {extractor : Extractor α} {descriptors : List AnyDescriptor} (f : α → β)
    (reads : Reads extractor descriptors) : Reads (extractor.map f) descriptors
  | both {α β : Type} {first : Extractor α} {second : Extractor β}
    {firsts seconds : List AnyDescriptor} (firstReads : Reads first firsts)
    (secondReads : Reads second seconds) : Reads (first.both second) (firsts ++ seconds)
  | none {α : Type} : Reads (.all ([] : List (Extractor α))) []
  | more {α : Type} {first : Extractor α} {rest : List (Extractor α)}
    {firsts others : List AnyDescriptor} (firstReads : Reads first firsts)
    (restReads : Reads (.all rest) others) : Reads (.all (first :: rest)) (firsts ++ others)

/-- What is extracted: a value without a report, or a rejection that is reported. -/
def ComesTo (extracted : Traced LogEntry (Except Error α)) : Option Rejection → Prop
  | .none => ∃ value, extracted = ⟨.ok value, []⟩
  | some rejection => extracted = ⟨.error rejection.error, [rejection.entry]⟩

theorem comesTo_extract {shape : Shape} (descriptor : Descriptor β shape) (request : Request) :
    ComesTo (descriptor.extract request) (AnyDescriptor.rejection? ⟨descriptor⟩ request) := by
  cases found : descriptor.read request with
  | ok value =>
      simp only [AnyDescriptor.rejection?, Descriptor.extract, found]
      exact ⟨value, rfl⟩
  | error failure =>
      simp only [AnyDescriptor.rejection?, Descriptor.extract, found]
      rfl

theorem ComesTo.map {extractor : Extractor α} {request : Request} {rejection? : Option Rejection}
    (comes : ComesTo (extractor request) rejection?) (f : α → β) :
    ComesTo (extractor.map f request) rejection? := by
  rw [Extractor.map]
  cases rejection? with
  | none =>
      obtain ⟨value, found⟩ := comes
      rw [found]
      exact ⟨f value, rfl⟩
  | some rejection =>
      have rejected : extractor request = ⟨.error rejection.error, [rejection.entry]⟩ := comes
      rw [rejected]
      rfl

theorem both_of_error {first : Extractor α} {request : Request} {error : Error}
    {reports : List LogEntry} (failed : first request = ⟨.error error, reports⟩)
    (second : Extractor β) : first.both second request = ⟨.error error, reports⟩ := by
  rw [Extractor.both, failed]
  exact Traced.ext rfl (List.append_nil reports)

theorem both_of_ok {first : Extractor α} {request : Request} {value : α}
    (found : first request = ⟨.ok value, []⟩) (second : Extractor β) :
    first.both second request = second.map (fun other => (value, other)) request := by
  rw [Extractor.both, found]
  rfl

/-- The second extractor has its say only if the first yields a value. -/
theorem ComesTo.both {first : Extractor α} {second : Extractor β} {request : Request}
    {firstRejection? secondRejection? : Option Rejection}
    (firstComes : ComesTo (first request) firstRejection?)
    (secondComes : ComesTo (second request) secondRejection?) :
    ComesTo (first.both second request) (firstRejection?.or secondRejection?) := by
  cases firstRejection? with
  | some rejection => exact both_of_error firstComes second
  | none =>
      obtain ⟨value, found⟩ := firstComes
      rw [both_of_ok found second, Option.none_or]
      exact secondComes.map _

theorem all_cons_eq_map_both (first : Extractor α) (rest : List (Extractor α)) :
    all (first :: rest) = (first.both (all rest)).map fun values => values.1 :: values.2 := by
  funext request
  rw [all, Extractor.map, Extractor.both]
  cases found : (first request).value with
  | error error => apply Traced.ext <;> simp [found, Except.map]
  | ok value =>
      cases others : (all rest request).value <;>
        apply Traced.ext <;> simp [found, others, Except.map]

/-- An extractor comes to what the first of its descriptors that fails has to say. -/
theorem Reads.comesTo {extractor : Extractor α} {descriptors : List AnyDescriptor}
    (reads : extractor.Reads descriptors) (request : Request) :
    ComesTo (extractor request) (firstRejection? descriptors request) := by
  induction reads with
  | single descriptor =>
      have only : firstRejection? [⟨descriptor⟩] request =
          AnyDescriptor.rejection? ⟨descriptor⟩ request := by
        rw [firstRejection?, List.findSome?_singleton]
      rw [only]
      exact comesTo_extract descriptor request
  | map f reads ih => exact ih.map f
  | both firstReads secondReads firstIH secondIH =>
      rw [firstRejection?, List.findSome?_append]
      exact firstIH.both secondIH
  | none => exact ⟨[], rfl⟩
  | more firstReads restReads firstIH restIH =>
      -- A list of extractors is its first with the list of the others.
      rw [firstRejection?, List.findSome?_append, all_cons_eq_map_both]
      exact (firstIH.both restIH).map _

theorem Reads.eq_of_ok {extractor : Extractor α} {descriptors : List AnyDescriptor}
    (reads : extractor.Reads descriptors) {request : Request} {value : α}
    (found : (extractor request).value = .ok value) :
    extractor request = ⟨.ok value, []⟩ := by
  have comes := reads.comesTo request
  cases first : firstRejection? descriptors request with
  | none =>
      rw [first] at comes
      obtain ⟨other, extracted⟩ := comes
      rw [extracted] at found ⊢
      rw [show Except.ok other = Except.ok value from found]
  | some rejection =>
      rw [first] at comes
      have rejected : extractor request = ⟨.error rejection.error, [rejection.entry]⟩ := comes
      rw [rejected] at found
      contradiction

/-- What an extractor that fails comes to. -/
theorem Reads.exists_rejection {extractor : Extractor α} {descriptors : List AnyDescriptor}
    (reads : extractor.Reads descriptors) {request : Request} {error : Error}
    (failed : (extractor request).value = .error error) :
    ∃ rejection, firstRejection? descriptors request = some rejection ∧ error = rejection.error ∧
      extractor request = ⟨.error rejection.error, [rejection.entry]⟩ := by
  have comes := reads.comesTo request
  cases first : firstRejection? descriptors request with
  | none =>
      rw [first] at comes
      obtain ⟨value, found⟩ := comes
      rw [found] at failed
      contradiction
  | some rejection =>
      rw [first] at comes
      have rejected : extractor request = ⟨.error rejection.error, [rejection.entry]⟩ := comes
      refine ⟨rejection, rfl, ?_, rejected⟩
      rw [rejected] at failed
      exact (Except.error.inj failed).symm

end Extractor

end HttpHandler
