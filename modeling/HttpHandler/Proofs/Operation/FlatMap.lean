import HttpHandler.Proofs.Operation.Chains

/-!
# Turning a value into an operation

An operation that is made from a value stands in a chain like any other: what it leaves empty is left
to the fallbacks behind it. Without a value the chain goes on as if the chainable operation itself
stood there, and an error of the source is the outcome.
-/

namespace HttpHandler

variable {ε α : Type}

namespace Chainable

open Operation Operand

/-- What `operation` comes to in the place of a chainable operation, behind some operations of a chain
and in front of its fallbacks. The source is awaited a single time. Then a value goes on as `next` says,
which is awaited too, and what it yields is tried with the fallbacks behind it. Without a value the
fallbacks are tried as behind the chainable operation itself, and an error is the outcome. -/
def Continues [Serialize α] (chainable : Chainable ε α) (operation : Operation ε)
    (next : α → Task ε (Except Error (Operation ε))) (before fallbacks : List (Operation ε)) : Prop :=
  match chainable.source.value with
  | .ok (some value) =>
    (within before operation fallbacks).resolve =
      leadingTo before (((next value).onOk fun inner => (inner.orAll fallbacks).tried).after
        chainable.source.trace)
  | .ok none =>
    let passed := ((empty chainable.builder).orAll fallbacks).tried.after chainable.source.trace
    (within before operation fallbacks).resolve = leadingTo before passed ∧
      (within before chainable.toOperation fallbacks).resolve = leadingTo before passed ∧
      (within before operation []).resolve =
        leadingTo before ⟨.ok chainable.builder.noBody, chainable.source.trace⟩
  | .error error =>
    let failed := leadingTo before ⟨.error error, chainable.source.trace⟩
    (within before operation fallbacks).resolve = failed ∧
      (within before chainable.toOperation fallbacks).resolve = failed

theorem resolve_orAll_flatMapAsync (chainable : Chainable ε α)
    (f : ResponseBuilder → α → Task ε (Except Error (Operation ε)))
    (fallbacks : List (Operation ε)) :
    ((chainable.flatMapAsync f).orAll fallbacks).resolve = chainable.source.onOk fun
      | some value => (f chainable.builder value).onOk fun operation =>
        (operation.orAll fallbacks).resolve
      | none => ((empty chainable.builder).orAll fallbacks).resolve := by
  rw [flatMapAsync, resolve_orAll_nested, Task.onOk_onOk]
  congr 1
  funext found
  cases found <;> rfl

theorem resolve_orAll_toOperation [Serialize α] (chainable : Chainable ε α)
    (fallbacks : List (Operation ε)) :
    (chainable.toOperation.orAll fallbacks).resolve = chainable.source.onOk fun
      | some value => (Build.ofWritings (chainable.builder.json value)).toTask
      | none => ((empty chainable.builder).orAll fallbacks).resolve := by
  obtain ⟨builder, found, actions⟩ := chainable
  apply Option.some.inj
  rw [some_resolve, operands_orAll, operands_toOperation, List.singleton_append, tryEach_cons]
  match found with
  | .error error =>
      rw [Task.onOk_of_error rfl, orTry_of_decisive rfl]
      simp [finding, Finding.outcome, onValue]
  | .ok (some value) =>
      rw [Task.onOk_of_ok rfl, orTry_of_decisive rfl]
      rfl
  | .ok none =>
      -- The attempt's builder is that of the empty operation; only its source is awaited before.
      have following : ((empty builder).orAll fallbacks).resolve =
          orTry ⟨[], .empty builder⟩ (tryEach (fallbacks.flatMap operands) none) := by
        apply Option.some.inj
        rw [some_resolve, operands_orAll, operands_empty, List.singleton_append, tryEach_cons]
      have awaited : (⟨actions, .empty builder⟩ : Operand ε) = after actions ⟨[], .empty builder⟩ := by
        rw [after, List.append_nil]
      rw [Task.onOk_of_ok rfl, following]
      change some (orTry ⟨actions ++ [], .empty builder⟩ _) = some (Task.after actions _)
      rw [List.append_nil, awaited, orTry_after]

theorem flatMapAsync_continues [Serialize α] (chainable : Chainable ε α)
    (f : ResponseBuilder → α → Task ε (Except Error (Operation ε)))
    (before fallbacks : List (Operation ε)) :
    chainable.Continues (chainable.flatMapAsync f) (f chainable.builder) before fallbacks := by
  cases found : chainable.source.value with
  | error error =>
      simp only [Continues, found, within, resolve_behind, resolve_orAll_flatMapAsync,
        resolve_orAll_toOperation, Task.onOk_of_error found, and_self]
  | ok value? =>
      cases value? with
      | some value =>
          simp only [Continues, found, within, resolve_behind, resolve_orAll_flatMapAsync,
            Task.onOk_of_ok found, Task.after, ← resolve_eq_tried]
      | none =>
          simp only [Continues, found, within, resolve_behind, resolve_orAll_flatMapAsync,
            resolve_orAll_toOperation, Task.onOk_of_ok found, Task.after, ← resolve_eq_tried, true_and]
          rw [orAll, List.foldl_nil, resolve_empty, Traced.value_pure, Traced.trace_pure, List.append_nil]

theorem flatMap_continues [Serialize α] (chainable : Chainable ε α)
    (f : ResponseBuilder → α → Build ε (Operation ε)) (before fallbacks : List (Operation ε)) :
    chainable.Continues (chainable.flatMap f)
      (fun value => (f chainable.builder value).toTask.mapValue .ok) before fallbacks :=
  chainable.flatMapAsync_continues (fun builder value => (f builder value).toTask.mapValue .ok)
    before fallbacks

/-- Putting a value back into a chainable operation of the same builder changes nothing. -/
theorem resolve_orAll_flatMap_just [Serialize α] (chainable : Chainable ε α)
    (fallbacks : List (Operation ε)) :
    ((chainable.flatMap fun builder value =>
        pure (Chainable.mk builder (.just value)).toOperation).orAll fallbacks).resolve =
      (chainable.toOperation.orAll fallbacks).resolve := by
  rw [flatMap, resolve_orAll_flatMapAsync, resolve_orAll_toOperation]
  congr 1
  funext found
  cases found with
  | none => rfl
  | some value =>
      simp only [Task.onOk_mapValue_ok]
      change ((Chainable.mk chainable.builder (.just value)).toOperation.orAll fallbacks).resolve = _
      rw [resolve_orAll_toOperation, Task.onOk_of_ok rfl]
      rfl

theorem kinds_within (before : List (Operation ε)) (step : Step ε) (fallbacks : List (Operation ε)) :
    (within before (.last step) fallbacks).steps.map Step.kind =
      (before.flatMap steps).map Step.kind ++
        step.kind :: (fallbacks.flatMap steps).map Step.kind := by
  simp [within, steps_behind, steps_orAll, steps]

theorem flatMapAsync_eq_last (chainable : Chainable ε α)
    (f : ResponseBuilder → α → Task ε (Except Error (Operation ε))) :
    ∃ step, chainable.flatMapAsync f = .last step ∧ step.kind = .nested := by
  unfold flatMapAsync nested
  split <;> exact ⟨_, rfl, rfl⟩

/-- Resolving a chain is trying its operands in order. Both ways of turning a value into an operation go
on as `Continues` says, in every chain. Putting the value back resolves like the chainable operation
itself: only the kind of its step differs. -/
theorem flatMap_continues_within_chain [Serialize α] (chainable : Chainable ε α)
    (f : ResponseBuilder → α → Build ε (Operation ε))
    (g : ResponseBuilder → α → Task ε (Except Error (Operation ε)))
    (before fallbacks : List (Operation ε)) :
    (∀ operation : Operation ε, operation.resolve = operation.tried) ∧
      chainable.Continues (chainable.flatMap f)
        (fun value => (f chainable.builder value).toTask.mapValue .ok) before fallbacks ∧
      chainable.Continues (chainable.flatMapAsync g) (g chainable.builder) before fallbacks ∧
      (within before (chainable.flatMap fun builder value =>
          pure (Chainable.mk builder (.just value)).toOperation) fallbacks).resolve =
        (within before chainable.toOperation fallbacks).resolve ∧
      ∃ kindsBefore kindsAfter,
        (within before (chainable.flatMap fun builder value =>
            pure (Chainable.mk builder (.just value)).toOperation) fallbacks).steps.map Step.kind =
          kindsBefore ++ .nested :: kindsAfter ∧
        (within before chainable.toOperation fallbacks).steps.map Step.kind =
          kindsBefore ++ .chainable :: kindsAfter := by
  refine ⟨resolve_eq_tried, chainable.flatMap_continues f before fallbacks,
    chainable.flatMapAsync_continues g before fallbacks, ?_, ?_⟩
  · rw [within, within, resolve_behind, resolve_behind, resolve_orAll_flatMap_just]
  · refine ⟨(before.flatMap steps).map Step.kind, (fallbacks.flatMap steps).map Step.kind, ?_,
      kinds_within before _ fallbacks⟩
    obtain ⟨step, last, nested⟩ := chainable.flatMapAsync_eq_last fun builder value =>
      Task.mapValue .ok (Build.toTask (pure (Chainable.mk builder (.just value)).toOperation))
    rw [flatMap, last, kinds_within, nested]

/-- Behind an operation that is passed over, a value is answered in JSON or, if the continuation drops it,
left to the fallback. Without a value the builder answers, and an error of the source is the outcome. -/
theorem flatMap_continues_within_chain_dropped :
    let before : List (Operation String) := [.empty (.new 204)]
    let missing : Operation String := .answer (.empty 404)
    let lost : Error := .badRequest "gone"
    let builder : ResponseBuilder := .new 200
    let holding (found : Except Error (Option Int)) : Chainable String Int :=
      ⟨builder, ⟨found, [.event (.effect "awaited")]⟩⟩
    let positive (builder : ResponseBuilder) (n : Int) : Build String (Operation String) :=
      ⟨(Chainable.mk builder (.ofOption (if 0 < n then some n else none))).toOperation,
        [.effect "continued"]⟩
    let resolved (found : Except Error (Option Int)) (fallbacks : List (Operation String)) :=
      (within before ((holding found).flatMap positive) fallbacks).resolve
    resolved (.ok (some 7)) [missing] =
        ⟨.ok (builder.bytes .json (Utf8.encode "7")),
          [.event (.log .passedOver), .event (.effect "awaited"), .event (.effect "continued"),
            .event (.written (.ok "7"))]⟩ ∧
      resolved (.ok (some 0)) [missing] =
        ⟨.ok (.empty 404),
          [.event (.log .passedOver), .event (.effect "awaited"), .event (.effect "continued"),
            .event (.log .passedOver)]⟩ ∧
      resolved (.ok none) [] =
        ⟨.ok builder.noBody, [.event (.log .passedOver), .event (.effect "awaited")]⟩ ∧
      resolved (.error lost) [missing] =
        ⟨.error lost, [.event (.log .passedOver), .event (.effect "awaited")]⟩ := by
  intro before missing lost builder holding positive resolved
  have continues (found : Except Error (Option Int)) (fallbacks : List (Operation String)) :=
    (flatMap_continues_within_chain (holding found) positive
      (fun builder value => (positive builder value).toTask.mapValue .ok) before fallbacks).2.1
  refine ⟨?_, ?_, ?_, ?_⟩
  · exact continues (.ok (some 7)) [missing]
  · exact continues (.ok (some 0)) [missing]
  · exact (continues (.ok none) []).2.2
  · exact (continues (.error lost) [missing]).1

end Chainable

end HttpHandler
