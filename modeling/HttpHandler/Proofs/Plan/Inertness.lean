import HttpHandler.Proofs.Operation.Chains
import HttpHandler.Proofs.Operation.Resolution
import HttpHandler.Proofs.Plan.AtOnce

/-!
# Building is inert

A handler first builds its operation and then resolves it. What is kept for resolving has no part in
building, and resolving comes to it only in the operands that it reaches.
-/

namespace HttpHandler

mutual

/-- What is left of a plan when all is erased that is not built at once. -/
def Plan.outline : Plan → Plan
  | .chain chain => .chain chain.outline
  | .flatMap chain _ _ => .chain chain.outline
  | .flatMapAsync chain _ _ _ => .chain chain.outline
  | .or first next => .or first.outline next.outline
  | .mark label inner => .mark label inner.outline
  | .extract names extractor next => .extract names extractor next.outline
  | .inspect parts next => .inspect parts next.outline
  | .execute block name _ => .execute block.outline name .noContent
  | .branch left right same different => .branch left right same.outline different.outline
  | _ => .noContent

def ChainPlan.outline : ChainPlan → ChainPlan
  | .ofOption status _ => .ofOption status .absent
  | .ofAsync status source => .ofAsync status source.outline
  | .withBuilder chain code => .withBuilder chain.outline code
  | .map chain _ => chain.outline

def AsyncPlan.outline : AsyncPlan → AsyncPlan
  | .execute block => .execute block.outline
  | _ => .nothing

end

mutual

theorem Plan.trace_build_outline (plan : Plan) (scope : Scope) :
    (plan.outline.build scope).trace = (plan.build scope).trace := by
  cases plan with
  | chain chain =>
      have built := chain.trace_build_outline scope
      simp [Plan.outline, Plan.build, built]
  | flatMap chain name next =>
      have built := chain.trace_build_outline scope
      simp [Plan.outline, Plan.build, built]
  | flatMapAsync chain name future next =>
      have built := chain.trace_build_outline scope
      simp [Plan.outline, Plan.build, built]
  | or first next =>
      have builtFirst := first.trace_build_outline scope
      have builtNext := next.trace_build_outline scope
      simp [Plan.outline, Plan.build, builtFirst, builtNext]
  | mark label inner =>
      have built := inner.trace_build_outline scope
      simp [Plan.outline, Plan.build, built]
  | extract names extractor next =>
      simp only [Plan.outline, Plan.build, Request.extract, Traced.trace_bind]
      cases (Build.ofReports (extractor scope.request) : Build Mark _).value with
      | ok values => rw [next.trace_build_outline]
      | error error => rfl
  | inspect parts next => exact next.trace_build_outline _
  | execute block name next =>
      have built := block.trace_build_outline scope
      simp [Plan.outline, Plan.build, Request.execute, built]
  | branch left right same different =>
      rw [Plan.outline, Plan.build, Plan.build]
      split
      · exact same.trace_build_outline scope
      · exact different.trace_build_outline scope
  | _ => rfl

theorem ChainPlan.trace_build_outline (chain : ChainPlan) (scope : Scope) :
    (chain.outline.build scope).trace = (chain.build scope).trace := by
  cases chain with
  | ofOption status term => rfl
  | ofAsync status source =>
      have built := source.trace_build_outline scope
      simp [ChainPlan.outline, ChainPlan.build, built]
  | withBuilder chain code =>
      have built := chain.trace_build_outline scope
      simp [ChainPlan.outline, ChainPlan.build, built, Chainable.withBuilder, BuilderCode.run, leave]
  | map chain function =>
      have built := chain.trace_build_outline scope
      simp [ChainPlan.outline, ChainPlan.build, built]

theorem AsyncPlan.trace_build_outline (source : AsyncPlan) (scope : Scope) :
    (source.outline.build scope).trace = (source.build scope).trace := by
  cases source with
  | execute block =>
      have built := block.trace_build_outline scope
      simp [AsyncPlan.outline, AsyncPlan.build, Request.execute, built]
  | _ => rfl

end

theorem Action.millis_map_event {ε : Type} (events : List (Event ε)) :
    millis (events.map .event) = 0 := by
  induction events with
  | nil => rfl
  | cons event rest ih => exact ih

theorem Operand.written_mem_passing_iff {ε : Type} (operand : Operand ε) (writing : Writing) :
    .event (.written writing) ∈ operand.passing ↔ .event (.written writing) ∈ operand.actions := by
  simp [passing]

namespace Plan

open Operand

theorem block_trace_of_outline {plan other : Plan} (same : other.outline = plan.outline)
    (request : Request) : (other.block request).trace = (plan.block request).trace := by
  have outlined := other.trace_build_outline ⟨request, []⟩
  rw [same, plan.trace_build_outline] at outlined
  exact outlined.symm

/-- All operands are built before the first of them is resolved. -/
theorem handler_or_of_decisive {plan : Plan} {request : Request}
    (decisive : ∃ operand ∈ (plan.block request).value.operands, operand.isEmpty = false)
    (next : Plan) :
    (plan.or next).handler request =
      ⟨(plan.block request).value.resolve.value,
        ((plan.block request).trace ++ (next.block request).trace).map .event ++
          (plan.block request).value.resolve.trace⟩ := by
  have first := Operation.resolve_or_of_decisive decisive (next.block request).value
  have built : (plan.or next).block request =
      ⟨(plan.block request).value.or (next.block request).value,
        (plan.block request).trace ++ (next.block request).trace⟩ := by
    apply Traced.ext <;> simp [block, build]
  rw [handler, HttpHandler.handler, built]
  apply Traced.ext <;> simp [Build.toTask, first]

/-- The handler does what building does, and then what the operands do up to the one that decides. -/
theorem handler_trace_of_decided {plan : Plan} {request : Request}
    {passed later : List (Operand Mark)} {decider : Operand Mark}
    (decided : Decided (plan.block request).value.operands passed decider later) :
    (plan.handler request).trace = (plan.block request).trace.map .event ++
      (passed.flatMap passing ++ decider.actions) := by
  have resolved := congrArg Traced.trace (Operation.resolve_of_decided decided)
  exact congrArg ((plan.block request).trace.map Action.event ++ ·) resolved

/-- Building an operation does what the plan's code does at once and nothing else. It reports nothing but
rejections and writes no value. What the plan keeps for resolving cannot change it: plans of the same
outline leave the same trace. The handler does the rest when it resolves the operation, and only in the
operands up to the one that decides: all the time that it takes is theirs, and a value is written just if
one of them does so, as an operation that answers with a value does. What stands behind the one that
decides might be any plan of the same outline. -/
theorem build_is_inert {descriptors : List AnyDescriptor} {plan : Plan}
    (reads : plan.ReadsFrom descriptors) (request : Request) :
    (plan.block request).trace = plan.atOnce ⟨request, []⟩ ∧
    (∀ entry, .log entry ∈ (plan.block request).trace → entry.IsRejection descriptors request) ∧
    (∀ writing, .written writing ∉ (plan.block request).trace) ∧
    (∀ other : Plan, other.outline = plan.outline →
      (other.block request).trace = (plan.block request).trace) ∧
    (∃ passed decider later,
      Decided (plan.block request).value.operands passed decider later ∧
      (plan.handler request).trace = (plan.block request).trace.map .event ++
        ((passed.flatMap fun operand => operand.actions ++ [.event (.log .passedOver)]) ++
          decider.actions) ∧
      (plan.handler request).duration =
        ((passed ++ [decider]).map fun operand => Action.millis operand.actions).sum ∧
      ∀ writing, .event (.written writing) ∈ (plan.handler request).trace ↔
        ∃ operand ∈ passed ++ [decider], .event (.written writing) ∈ operand.actions) ∧
    (∀ status term, ((Plan.json status term).block request).value.operands.map Operand.actions =
      [[.event (.written (HttpHandler.json (term.eval ⟨request, []⟩)))]]) ∧
    ∀ next other : Plan, other.outline = next.outline →
      (∃ operand ∈ (plan.block request).value.operands, operand.isEmpty = false) →
      (plan.or other).handler request = (plan.or next).handler request := by
  have built : (plan.block request).trace = plan.atOnce ⟨request, []⟩ :=
    plan.trace_build reads ⟨request, []⟩
  have atOnce : ∀ event ∈ (plan.block request).trace, event.IsAtOnce descriptors request := by
    intro event member
    rw [built] at member
    exact plan.isAtOnce_of_mem reads member
  have unwritten (writing : Writing) : .written writing ∉ (plan.block request).trace :=
    fun member => nomatch atOnce _ member
  refine ⟨built, ?_, unwritten, ?_, ?_, fun _ _ => rfl, ?_⟩
  · intro entry member
    cases atOnce _ member with
    | log rejects => exact rejects
  · intro other same
    exact block_trace_of_outline same request
  · obtain ⟨passed, decider, later, decided⟩ :=
      exists_decided (plan.block request).value.operands_ne_nil
    have handled := handler_trace_of_decided decided
    refine ⟨passed, decider, later, decided, handled, ?_, ?_⟩
    · rw [Task.duration, handled]
      simp [Action.millis_map_event, millis_flatMap_passing]
    · intro writing
      simp [handled, unwritten, written_mem_passing_iff, or_and_right, exists_or]
  · intro next other same decisive
    rw [handler_or_of_decisive decisive, handler_or_of_decisive decisive,
      block_trace_of_outline same]

/-- Building customises a builder and executes a block, which reports a value that is missing. The
future, the map function and the continuation are kept, and so is the value that is written in the end.
What stands behind is not reached, and its value is not written. -/
theorem build_is_inert_executed :
    let parameter := Descriptor.queryParameter .text "q"
    let extractor : Extractor (List Value) := parameter.extract.map fun text => [.text text]
    let future : FuturePlan := ⟨some "future", some 5, .value (.value (.int 1))⟩
    let chain : ChainPlan :=
      .map (.withBuilder (.ofAsync 200 (.future future)) ⟨some "builder", []⟩) .wrap
    let plan : Plan := .flatMap chain "x" (.plan (.mark "continued" (.ok (.var "x"))))
    let block : Plan := .mark "block" (.extract ["q"] extractor (.mark "extracted" .notFound))
    let next (kept : Plan) : Plan := .or (.execute block "answer" kept) (.created (.value (.int 2)))
    let request : Request := ⟨"GET", ⟨"/", none⟩, .empty, [], []⟩
    let building : List (Event Mark) :=
      [.effect "builder", .effect "block", .log (.missing .queryParameter "q")]
    (plan.or (next .notFound)).ReadsFrom [⟨parameter⟩] ∧
      ((plan.or (next .notFound)).block request).trace = building ∧
      (∃ operand ∈ (plan.block request).value.operands, operand.isEmpty = false) ∧
      (plan.or (next .noContent)).handler request = (plan.or (next .notFound)).handler request ∧
      ((plan.or (next .notFound)).handler request).trace = building.map .event ++
        [.event (.effect "future"), .sleep 5, .event (.effect "future."),
          .event (.effect "map:wrap"), .event (.effect "continued"),
          .event (.written (.ok "[1]"))] := by
  intro parameter extractor future chain plan block next request building
  have planReads : plan.ReadsFrom [⟨parameter⟩] := trivial
  have reads : (plan.or (next .notFound)).ReadsFrom [⟨parameter⟩] :=
    ⟨planReads, ⟨⟨_, .map _ (.single parameter), List.Subset.refl _⟩, trivial⟩, trivial⟩
  have decisive : ∃ operand ∈ (plan.block request).value.operands, operand.isEmpty = false :=
    ⟨_, List.head_mem (plan.block request).value.operands_ne_nil, rfl⟩
  obtain ⟨_, _, _, _, _, _, unreached⟩ := build_is_inert planReads request
  refine ⟨reads, (build_is_inert reads request).1, decisive, unreached _ _ rfl decisive, ?_⟩
  rw [handler_or_of_decisive decisive, Operation.resolve_eq_tried]
  rfl

end Plan

end HttpHandler
