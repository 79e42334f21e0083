import HttpHandler.Plan.Build
import HttpHandler.Proofs.Extraction.Rejection

/-!
# What building a plan does

While the operation of a plan is built, some of its code runs at once: the code around the
constructors, the continuations of extractions that succeed and of looks at the request, the blocks that
are executed and the code that customises builders. It leaves its marks in the order in which the plan
is put together, and extractions that fail are reported. All other code is kept for when the operation
is resolved.
-/

namespace HttpHandler

mutual

/-- What the code of a plan leaves behind while its operation is built, first to last. Continuations,
futures, map functions and values to be written are not looked at. -/
def Plan.atOnce : Plan → Scope → List (Event Mark)
  | .chain chain, scope => chain.atOnce scope
  | .flatMap chain _ _, scope => chain.atOnce scope
  | .flatMapAsync chain _ _ _, scope => chain.atOnce scope
  | .or first next, scope => first.atOnce scope ++ next.atOnce scope
  | .mark label inner, scope => .effect label :: inner.atOnce scope
  | .extract names extractor next, scope =>
    match (extractor scope.request).value with
    | .ok values => next.atOnce (scope.bindAll names values)
    | .error _ => (extractor scope.request).trace.map .log
  | .inspect parts next, scope =>
    next.atOnce (scope.bindAll (parts.map Prod.fst)
      (parts.map fun part => part.2.get scope.request))
  | .execute block _ _, scope => block.atOnce scope
  | .branch left right same different, scope =>
    if Value.same (left.eval scope) (right.eval scope) then same.atOnce scope
    else different.atOnce scope
  | _, _ => []

def ChainPlan.atOnce : ChainPlan → Scope → List (Event Mark)
  | .ofOption _ _, _ => []
  | .ofAsync _ source, scope => source.atOnce scope
  | .withBuilder chain code, scope => chain.atOnce scope ++ code.label.toList.map .effect
  | .map chain _, scope => chain.atOnce scope

def AsyncPlan.atOnce : AsyncPlan → Scope → List (Event Mark)
  | .execute block, scope => block.atOnce scope
  | _, _ => []

end

mutual

/-- The extractors that may run while a plan is built are made of the descriptors. -/
def Plan.ReadsFrom (descriptors : List AnyDescriptor) : Plan → Prop
  | .chain chain => chain.ReadsFrom descriptors
  | .flatMap chain _ _ => chain.ReadsFrom descriptors
  | .flatMapAsync chain _ _ _ => chain.ReadsFrom descriptors
  | .or first next => first.ReadsFrom descriptors ∧ next.ReadsFrom descriptors
  | .mark _ inner => inner.ReadsFrom descriptors
  | .extract _ extractor next =>
    (∃ own, extractor.Reads own ∧ own ⊆ descriptors) ∧ next.ReadsFrom descriptors
  | .inspect _ next => next.ReadsFrom descriptors
  | .execute block _ _ => block.ReadsFrom descriptors
  | .branch _ _ same different =>
    same.ReadsFrom descriptors ∧ different.ReadsFrom descriptors
  | _ => True

def ChainPlan.ReadsFrom (descriptors : List AnyDescriptor) : ChainPlan → Prop
  | .ofOption _ _ => True
  | .ofAsync _ source => source.ReadsFrom descriptors
  | .withBuilder chain _ => chain.ReadsFrom descriptors
  | .map chain _ => chain.ReadsFrom descriptors

def AsyncPlan.ReadsFrom (descriptors : List AnyDescriptor) : AsyncPlan → Prop
  | .execute block => block.ReadsFrom descriptors
  | _ => True

end

/-- An entry says what one of the descriptors finds wrong with the request. -/
def LogEntry.IsRejection (entry : LogEntry) (descriptors : List AnyDescriptor) (request : Request) :
    Prop :=
  ∃ any ∈ descriptors, ∃ rejection, any.rejection? request = some rejection ∧
    entry = rejection.entry

variable {descriptors : List AnyDescriptor}

theorem Scope.request_bindAll (scope : Scope) (names : List String) (values : List Value) :
    (scope.bindAll names values).request = scope.request := by
  rw [bindAll]
  generalize names.zip values = bindings
  induction bindings generalizing scope with
  | nil => rfl
  | cons binding rest ih => exact ih (scope.bind binding.1 binding.2)

mutual

theorem Plan.trace_build {plan : Plan} (reads : plan.ReadsFrom descriptors) (scope : Scope) :
    (plan.build scope).trace = plan.atOnce scope := by
  cases plan with
  | chain chain =>
      have built := chain.trace_build reads scope
      simp [Plan.build, Plan.atOnce, built]
  | flatMap chain name next =>
      have built := chain.trace_build reads scope
      simp [Plan.build, Plan.atOnce, built]
  | flatMapAsync chain name future next =>
      have built := chain.trace_build reads scope
      simp [Plan.build, Plan.atOnce, built]
  | or first next =>
      have builtFirst := first.trace_build reads.1 scope
      have builtNext := next.trace_build reads.2 scope
      simp [Plan.build, Plan.atOnce, builtFirst, builtNext]
  | mark label inner =>
      have built := inner.trace_build reads scope
      simp [Plan.build, Plan.atOnce, built, Build.perform]
  | extract names extractor next =>
      obtain ⟨⟨own, reads, among⟩, nextReads⟩ := reads
      rw [Plan.build, Plan.atOnce, Request.extract]
      cases extracted : (extractor scope.request).value with
      | ok values =>
          -- The continuation runs at once, where the extracted values are bound.
          have built := next.trace_build nextReads (scope.bindAll names values)
          rw [reads.eq_of_ok extracted]
          exact built
      | error error =>
          simp [Build.ofReports, extracted]
  | inspect parts next =>
      exact next.trace_build reads _
  | execute block name next =>
      have built := block.trace_build reads scope
      simp [Plan.build, Plan.atOnce, Request.execute, built]
  | branch left right same different =>
      rw [Plan.build, Plan.atOnce]
      split
      · exact same.trace_build reads.1 scope
      · exact different.trace_build reads.2 scope
  | _ => rfl -- All code of the other plans is kept.

theorem ChainPlan.trace_build {chain : ChainPlan} (reads : chain.ReadsFrom descriptors)
    (scope : Scope) : (chain.build scope).trace = chain.atOnce scope := by
  cases chain with
  | ofOption status term => rfl
  | ofAsync status source =>
      have built := source.trace_build reads scope
      simp [ChainPlan.build, ChainPlan.atOnce, built]
  | withBuilder chain code =>
      have built := chain.trace_build reads scope
      simp [ChainPlan.build, ChainPlan.atOnce, built, Chainable.withBuilder, BuilderCode.run, leave]
  | map chain function =>
      have built := chain.trace_build reads scope
      simp [ChainPlan.build, ChainPlan.atOnce, built]

theorem AsyncPlan.trace_build {source : AsyncPlan} (reads : source.ReadsFrom descriptors)
    (scope : Scope) : (source.build scope).trace = source.atOnce scope := by
  cases source with
  | execute block =>
      have built := block.trace_build reads scope
      simp [AsyncPlan.build, AsyncPlan.atOnce, Request.execute, built]
  | _ => rfl

end

/-- What may be left behind while a plan is built: the marks of its code, and what the descriptors find
wrong with the request. Nothing is written. -/
inductive Event.IsAtOnce (descriptors : List AnyDescriptor) (request : Request) :
    Event Mark → Prop where
  | effect (label : Mark) : IsAtOnce descriptors request (.effect label)
  | log {entry : LogEntry} (rejects : entry.IsRejection descriptors request) :
    IsAtOnce descriptors request (.log entry)

theorem LogEntry.isRejection_of_mem {α : Type} {extractor : Extractor α} {own : List AnyDescriptor}
    (reads : extractor.Reads own) (among : own ⊆ descriptors) {request : Request} {error : Error}
    (failed : (extractor request).value = .error error) {entry : LogEntry}
    (member : entry ∈ (extractor request).trace) : entry.IsRejection descriptors request := by
  obtain ⟨rejection, first, _, rejected⟩ := reads.exists_rejection failed
  obtain ⟨any, found, rejects⟩ := List.exists_of_findSome?_eq_some first
  rw [rejected] at member
  exact ⟨any, among found, rejection, rejects, List.mem_singleton.mp member⟩

mutual

theorem Plan.isAtOnce_of_mem {plan : Plan} (reads : plan.ReadsFrom descriptors) {scope : Scope}
    {event : Event Mark} (member : event ∈ plan.atOnce scope) :
    event.IsAtOnce descriptors scope.request := by
  cases plan with
  | chain chain => exact chain.isAtOnce_of_mem reads member
  | flatMap chain name next => exact chain.isAtOnce_of_mem reads member
  | flatMapAsync chain name future next => exact chain.isAtOnce_of_mem reads member
  | or first next =>
      obtain member | member := List.mem_append.mp member
      · exact first.isAtOnce_of_mem reads.1 member
      · exact next.isAtOnce_of_mem reads.2 member
  | mark label inner =>
      obtain rfl | later := List.mem_cons.mp member
      · exact .effect label
      · exact inner.isAtOnce_of_mem reads later
  | extract names extractor next =>
      obtain ⟨⟨own, reads, among⟩, nextReads⟩ := reads
      rw [Plan.atOnce] at member
      cases extracted : (extractor scope.request).value with
      | ok values =>
          rw [extracted] at member
          rw [← scope.request_bindAll names values]
          exact next.isAtOnce_of_mem nextReads member
      | error error =>
          rw [extracted] at member
          obtain ⟨reported, found, rfl⟩ := List.mem_map.mp member
          exact .log (LogEntry.isRejection_of_mem reads among extracted found)
  | inspect parts next =>
      rw [Plan.atOnce] at member
      rw [← scope.request_bindAll]
      exact next.isAtOnce_of_mem reads member
  | execute block name next => exact block.isAtOnce_of_mem reads member
  | branch left right same different =>
      rw [Plan.atOnce] at member
      split at member
      · exact same.isAtOnce_of_mem reads.1 member
      · exact different.isAtOnce_of_mem reads.2 member
  | _ => contradiction

theorem ChainPlan.isAtOnce_of_mem {chain : ChainPlan} (reads : chain.ReadsFrom descriptors)
    {scope : Scope} {event : Event Mark} (member : event ∈ chain.atOnce scope) :
    event.IsAtOnce descriptors scope.request := by
  cases chain with
  | ofOption status term => contradiction
  | ofAsync status source => exact source.isAtOnce_of_mem reads member
  | withBuilder chain code =>
      obtain earlier | own := List.mem_append.mp member
      · exact chain.isAtOnce_of_mem reads earlier
      · obtain ⟨label, _, rfl⟩ := List.mem_map.mp own
        exact .effect label
  | map chain function => exact chain.isAtOnce_of_mem reads member

theorem AsyncPlan.isAtOnce_of_mem {source : AsyncPlan} (reads : source.ReadsFrom descriptors)
    {scope : Scope} {event : Event Mark} (member : event ∈ source.atOnce scope) :
    event.IsAtOnce descriptors scope.request := by
  cases source with
  | execute block => exact block.isAtOnce_of_mem reads member
  | _ => contradiction

end

end HttpHandler
