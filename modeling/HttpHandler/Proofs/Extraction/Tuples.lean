import HttpHandler.Operation.Extraction
import HttpHandler.Proofs.Extraction.Rejection

/-!
# Tuples of extractors

Several extractors of any types make one that yields the tuple of their values. It yields if each of them
does, and otherwise fails as the first that fails does alone, so that the ones behind it report nothing.
Extracting a tuple comes to the same as extracting one value after another, each in the continuation of
the one before it.
-/

namespace HttpHandler

variable {ε α β γ : Type}

/-- An extractor of values of any type. -/
structure AnyExtractor where
  {α : Type}
  extractor : Extractor α

namespace Extractor

/-- One value for each extractor, as nested pairs. -/
abbrev Values : List AnyExtractor → Type
  | [] => Unit
  | any :: rest => any.α × Values rest

def tuple : (extractors : List AnyExtractor) → Extractor (Values extractors)
  | [] => fun _ => pure (.ok ())
  | any :: rest => any.extractor.both (tuple rest)

theorem map_both_map (first : Extractor α) (second : Extractor β) (g : β → γ) (f : α × γ → ε) :
    (first.both (second.map g)).map f = (first.both second).map fun both => f (both.1, g both.2) := by
  funext request
  simp only [Extractor.map, Extractor.both]
  cases found : (first request).value with
  | error error => apply Traced.ext <;> simp [found, Except.map]
  | ok value =>
      cases other : (second request).value <;>
        apply Traced.ext <;> simp [found, other, Except.map]

/-- The values of a tuple whose extractors are all of one type. -/
def Values.toList : (extractors : List (Extractor α)) → Values (extractors.map (⟨·⟩)) → List α
  | [], _ => []
  | _ :: rest, values => values.1 :: toList rest values.2

/-- A list of extractors of one type is their tuple. -/
theorem all_eq_map_tuple (extractors : List (Extractor α)) :
    all extractors = (tuple (extractors.map (⟨·⟩))).map (Values.toList extractors) := by
  induction extractors with
  | nil => rfl
  | cons first rest ih =>
      rw [all_cons_eq_map_both, ih, map_both_map]
      rfl

/-- A tuple of extractors that are made of descriptors is made of all these. -/
theorem Reads.tuple {extractors : List AnyExtractor}
    (reads : ∀ any ∈ extractors, ∃ descriptors, any.extractor.Reads descriptors) :
    ∃ descriptors, (tuple extractors).Reads descriptors := by
  induction extractors with
  | nil => exact ⟨[], (Reads.none (α := Unit)).map fun _ => ()⟩
  | cons any rest ih =>
      obtain ⟨firsts, firstReads⟩ := reads any List.mem_cons_self
      obtain ⟨others, restReads⟩ := ih fun other member => reads other (List.mem_cons_of_mem any member)
      exact ⟨firsts ++ others, firstReads.both restReads⟩

/-- `Yield request extractors values` says that each extractor alone yields its value and reports
nothing. -/
def Yield (request : Request) : (extractors : List AnyExtractor) → Values extractors → Prop
  | [], _ => True
  | any :: rest, values =>
    any.extractor request = ⟨.ok values.1, []⟩ ∧ Yield request rest values.2

theorem extracted_eq_ok_iff (extracted : Traced LogEntry (Except Error α)) (value : α) :
    extracted = ⟨.ok value, []⟩ ↔ extracted.value = .ok value ∧ extracted.trace = [] := by
  constructor
  · rintro rfl
    exact ⟨rfl, rfl⟩
  · rintro ⟨yields, quiet⟩
    exact Traced.ext yields quiet

theorem both_eq_ok_iff (first : Extractor α) (second : Extractor β) (request : Request)
    (values : α × β) :
    first.both second request = ⟨.ok values, []⟩ ↔
      first request = ⟨.ok values.1, []⟩ ∧ second request = ⟨.ok values.2, []⟩ := by
  obtain ⟨value, otherValue⟩ := values
  rw [extracted_eq_ok_iff, extracted_eq_ok_iff, extracted_eq_ok_iff]
  cases found : (first request).value with
  | error error => simp [Extractor.both, found]
  | ok foundValue =>
      cases other : (second request).value with
      | error error => simp [Extractor.both, found, other, Except.map]
      | ok otherFound => simp [Extractor.both, found, other, Except.map, and_and_and_comm]

theorem tuple_eq_ok_iff (request : Request) (extractors : List AnyExtractor)
    (values : Values extractors) :
    tuple extractors request = ⟨.ok values, []⟩ ↔ Yield request extractors values := by
  induction extractors with
  | nil => exact ⟨fun _ => trivial, fun _ => rfl⟩
  | cons any rest ih => rw [tuple, both_eq_ok_iff, ih, Yield]

theorem map_of_error {extractor : Extractor α} {request : Request} {error : Error}
    {reports : List LogEntry} (failed : extractor request = ⟨.error error, reports⟩) (f : α → β) :
    extractor.map f request = ⟨.error error, reports⟩ := by
  rw [Extractor.map, failed]
  exact Traced.ext rfl (List.append_nil reports)

/-- What stands behind an extractor that fails has no part in the tuple. -/
theorem tuple_of_error {before : List AnyExtractor} {failing : AnyExtractor} {request : Request}
    {error : Error} {reports : List LogEntry}
    (found : ∀ earlier ∈ before, ∃ value, earlier.extractor request = ⟨.ok value, []⟩)
    (failed : failing.extractor request = ⟨.error error, reports⟩) (after : List AnyExtractor) :
    tuple (before ++ failing :: after) request = ⟨.error error, reports⟩ := by
  induction before with
  | nil => exact both_of_error failed (tuple after)
  | cons any before ih =>
      -- An earlier value joins the pair that its rest never makes.
      obtain ⟨value, first⟩ := found any List.mem_cons_self
      have others := ih fun earlier member => found earlier (List.mem_cons_of_mem any member)
      exact (both_of_ok first (tuple (before ++ failing :: after))).trans (map_of_error others _)

/-- Either each extractor yields, or there is a first that does not. -/
theorem exists_yield_or_rejected {extractors : List AnyExtractor}
    (reads : ∀ any ∈ extractors, ∃ descriptors, any.extractor.Reads descriptors)
    (request : Request) :
    (∃ values, Yield request extractors values) ∨
      ∃ before failing after, ∃ rejection : Rejection, extractors = before ++ failing :: after ∧
        (∀ earlier ∈ before, ∃ value, earlier.extractor request = ⟨.ok value, []⟩) ∧
        failing.extractor request = ⟨.error rejection.error, [rejection.entry]⟩ := by
  induction extractors with
  | nil => exact .inl ⟨(), trivial⟩
  | cons any rest ih =>
      obtain ⟨descriptors, firstReads⟩ := reads any List.mem_cons_self
      cases result : (any.extractor request).value with
      | error error =>
          obtain ⟨rejection, -, -, rejected⟩ := firstReads.exists_rejection result
          exact .inr ⟨[], any, rest, rejection, rfl, by simp, rejected⟩
      | ok value =>
          have first := firstReads.eq_of_ok result
          obtain ⟨values, yields⟩ | ⟨before, failing, after, rejection, rfl, found, rejected⟩ :=
            ih fun other member => reads other (List.mem_cons_of_mem any member)
          · exact .inl ⟨(value, values), first, yields⟩
          · refine .inr ⟨any :: before, failing, after, rejection, rfl, ?_, rejected⟩
            exact List.forall_mem_cons.mpr ⟨⟨value, first⟩, found⟩

end Extractor

namespace Request

open Extractor

/-- Extracts one value after another, each in the continuation of the one before it. -/
def extractEach (request : Request) : (extractors : List AnyExtractor) →
    (Values extractors → Build ε (Operation ε)) → Build ε (Operation ε)
  | [], f => f ()
  | any :: rest, f =>
    request.extract any.extractor fun value =>
      request.extractEach rest fun values => f (value, values)

theorem extract_both (request : Request) (first : Extractor α) (second : Extractor β)
    (f : α × β → Build ε (Operation ε)) :
    request.extract (first.both second) f =
      request.extract first fun value => request.extract second fun other => f (value, other) := by
  simp only [extract, Extractor.both]
  cases found : (first request).value with
  | error error => apply Traced.ext <;> simp [Build.ofReports, found]
  | ok value =>
      cases other : (second request).value <;>
        apply Traced.ext <;> simp [Build.ofReports, found, other, Except.map]

theorem extract_tuple (request : Request) (extractors : List AnyExtractor)
    (f : Values extractors → Build ε (Operation ε)) :
    request.extract (tuple extractors) f = request.extractEach extractors f := by
  induction extractors with
  | nil => rfl
  | cons any rest ih =>
      rw [tuple, extract_both, extractEach]
      exact congrArg (request.extract any.extractor) (funext fun value => ih _)

/-- A tuple yields exactly if each of its extractors yields alone, and then the values of these.
Otherwise it fails as the first that fails does alone, and reports what that one reports and nothing
else. Extracting it comes to the same operation, by the same code run and with the same reports, as
extracting one value inside the continuation of another. -/
theorem extract_tuple_eq_extractEach {extractors : List AnyExtractor}
    (reads : ∀ any ∈ extractors, ∃ descriptors, any.extractor.Reads descriptors)
    (request : Request) :
    (∀ values, tuple extractors request = ⟨.ok values, []⟩ ↔ Yield request extractors values) ∧
      ((∀ values, ¬Yield request extractors values) →
        ∃ before failing after, ∃ rejection : Rejection, extractors = before ++ failing :: after ∧
          (∀ earlier ∈ before, ∃ value, earlier.extractor request = ⟨.ok value, []⟩) ∧
          failing.extractor request = ⟨.error rejection.error, [rejection.entry]⟩ ∧
          tuple extractors request = ⟨.error rejection.error, [rejection.entry]⟩) ∧
      ∀ f : Values extractors → Build ε (Operation ε),
        request.extract (tuple extractors) f = request.extractEach extractors f := by
  refine ⟨tuple_eq_ok_iff request extractors, ?_, request.extract_tuple extractors⟩
  intro unsuccessful
  obtain ⟨values, yields⟩ | ⟨before, failing, after, rejection, rfl, found, rejected⟩ :=
    exists_yield_or_rejected reads request
  · exact absurd yields (unsuccessful values)
  · exact ⟨before, failing, after, rejection, rfl, found, rejected, tuple_of_error found rejected after⟩

/-- A tuple inside a tuple yields. Of three extractors the second does not convert, and the third, which
would be missing too, is not looked at. -/
theorem extract_tuple_eq_extractEach_inner :
    let page : AnyExtractor := ⟨(Descriptor.queryParameter (.integer .int) "page").optional.extract⟩
    let tenant : AnyExtractor := ⟨(Descriptor.header "x-tenant").single.extract⟩
    let inner : AnyExtractor := ⟨tuple [page, tenant]⟩
    let id : AnyExtractor := ⟨(Descriptor.pathVariable (.integer .int) "id").extract⟩
    let session : AnyExtractor := ⟨(Descriptor.cookie "session").extract⟩
    let request : String → Request := fun value =>
      ⟨"GET", ⟨"/", none⟩, ⟨[("x-tenant", [[0x61]])]⟩, [], [("id", value)]⟩
    let rejection : Rejection :=
      ⟨.pathVariable, "id", .invalid (.foreign "invalid digit found in string")⟩
    (∀ any ∈ [inner, id], ∃ descriptors, any.extractor.Reads descriptors) ∧
      (∀ any ∈ [inner, id, session], ∃ descriptors, any.extractor.Reads descriptors) ∧
      tuple [inner, id] (request "7") = ⟨.ok ((none, "a", ()), (7 : Int), ()), []⟩ ∧
      tuple [inner, id, session] (request "x") = ⟨.error rejection.error, [rejection.entry]⟩ ∧
      ∃ before failing after, ∃ first : Rejection,
        [inner, id, session] = before ++ failing :: after ∧
          (∀ earlier ∈ before, ∃ value, earlier.extractor (request "x") = ⟨.ok value, []⟩) ∧
          failing.extractor (request "x") = ⟨.error first.error, [first.entry]⟩ ∧
          tuple [inner, id, session] (request "x") = ⟨.error first.error, [first.entry]⟩ := by
  intro page tenant inner id session request rejection
  have innerReads : ∃ descriptors, inner.extractor.Reads descriptors :=
    Reads.tuple (List.forall_mem_cons.mpr
      ⟨⟨_, .single _⟩, List.forall_mem_singleton.mpr ⟨_, .single _⟩⟩)
  have idReads : ∃ descriptors, id.extractor.Reads descriptors := ⟨_, .single _⟩
  have sessionReads : ∃ descriptors, session.extractor.Reads descriptors := ⟨_, .single _⟩
  have reads : ∀ any ∈ [inner, id], ∃ descriptors, any.extractor.Reads descriptors :=
    List.forall_mem_cons.mpr ⟨innerReads, List.forall_mem_singleton.mpr idReads⟩
  have allRead : ∀ any ∈ [inner, id, session], ∃ descriptors, any.extractor.Reads descriptors :=
    List.forall_mem_cons.mpr ⟨innerReads,
      List.forall_mem_cons.mpr ⟨idReads, List.forall_mem_singleton.mpr sessionReads⟩⟩
  have yields : Yield (request "7") [inner, id] ((none, "a", ()), (7 : Int), ()) :=
    ⟨rfl, rfl, trivial⟩
  have unsuccessful : ∀ values, ¬Yield (request "x") [inner, id, session] values := by
    rintro values ⟨-, second, -⟩
    exact nomatch congrArg Traced.value second
  obtain ⟨whole, _⟩ := extract_tuple_eq_extractEach (ε := Unit) reads (request "7")
  obtain ⟨_, fails, _⟩ := extract_tuple_eq_extractEach (ε := Unit) allRead (request "x")
  exact ⟨reads, allRead, (whole _).mpr yields, rfl, fails unsuccessful⟩

end Request

end HttpHandler
