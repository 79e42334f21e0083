import HttpHandler.Value
import HttpHandler.Operation.Answers
import HttpHandler.Proofs.Operation.FlatMap

/-!
# Changes to chainable operations

The builder and the value of a chainable operation are changed apart from each other. Whatever changes are
made, and in whatever order, the operation is the one whose builder went through the changes of the builder
and whose source is mapped once, by the changes of the value one after another. Those of the builder are
made at once, those of the value only when there is one. A value stays a value, whatever becomes of it; an
empty source stays empty.
-/

namespace HttpHandler

variable {ε α β γ : Type}

theorem Build.kleisli_apply (f : α → Build ε β) (g : β → Build ε γ) (value : α) :
    (f >=> g) value = f value >>= g := rfl

namespace AsyncValue

theorem map_pure (value : AsyncValue ε α) : value.map pure = value := by
  obtain ⟨found, actions⟩ := value
  match found with
  | .error error => rw [map, Task.onOk_of_error rfl]
  | .ok none => rw [map, Task.onOk_of_ok rfl]; exact Traced.ext rfl (List.append_nil actions)
  | .ok (some value) => rw [map, Task.onOk_of_ok rfl]; exact Traced.ext rfl (List.append_nil actions)

theorem map_map (value : AsyncValue ε α) (f : α → Build ε β) (g : β → Build ε γ) :
    (value.map f).map g = value.map (f >=> g) := by
  rw [map, map, Task.onOk_onOk, map]
  congr 1
  funext found
  cases found with
  | none => rfl
  | some value => apply Traced.ext <;> simp [Task.onOk, Build.toTask, Build.kleisli_apply]

end AsyncValue

/-- Changes of the builder and of the value of a chainable operation, in the order in which they are
made. -/
inductive Changes (ε : Type) : Type → Type → Type 1 where
  | done {α : Type} : Changes ε α α
  | withBuilder {α β : Type} (f : ResponseBuilder → Build ε ResponseBuilder) (rest : Changes ε α β) :
    Changes ε α β
  | map {α β γ : Type} (f : α → Build ε β) (rest : Changes ε β γ) : Changes ε α γ

namespace Changes

def apply : {α β : Type} → Changes ε α β → Chainable ε α → Build ε (Chainable ε β)
  | _, _, .done, chainable => pure chainable
  | _, _, .withBuilder f rest, chainable => chainable.withBuilder f >>= rest.apply
  | _, _, .map f rest, chainable => rest.apply (chainable.map f)

/-- The changes of the builder alone. -/
def onBuilder : {α β : Type} → Changes ε α β → ResponseBuilder → Build ε ResponseBuilder
  | _, _, .done => pure
  | _, _, .withBuilder f rest => f >=> rest.onBuilder
  | _, _, .map _ rest => rest.onBuilder

/-- The changes of the value alone. -/
def onValue : {α β : Type} → Changes ε α β → α → Build ε β
  | _, _, .done => pure
  | _, _, .withBuilder _ rest => rest.onValue
  | _, _, .map f rest => f >=> rest.onValue

theorem apply_eq (changes : Changes ε α β) (chainable : Chainable ε α) :
    changes.apply chainable =
      chainable.withBuilder changes.onBuilder >>= fun customised =>
        pure (customised.map changes.onValue) := by
  induction changes with
  | done =>
      simp only [apply, onBuilder, onValue, Chainable.withBuilder, Chainable.map, AsyncValue.map_pure,
        pure_bind]
  | withBuilder f rest ih =>
      simp only [apply, onBuilder, onValue, Chainable.withBuilder, Build.kleisli_apply, bind_assoc,
        pure_bind, ih]
  | map f rest ih =>
      simp only [apply, onBuilder, onValue, Chainable.withBuilder, Chainable.map, AsyncValue.map_map,
        pure_bind, bind_assoc, ih]

open Operation

theorem resolve_empty_orAll_cons (builder : ResponseBuilder) (next : Operation ε)
    (rest : List (Operation ε)) :
    ((empty builder).orAll (next :: rest)).resolve =
      (next.orAll rest).resolve.after [.event (.log .passedOver)] := by
  rw [resolve_orAll_of_givesWay (givesWay_empty builder)]
  rfl

theorem resolve_orAll_map [Serialize β] (chainable : Chainable ε α) (f : α → Build ε β)
    (fallbacks : List (Operation ε)) :
    ((chainable.map f).toOperation.orAll fallbacks).resolve = chainable.source.onOk fun
      | some value => (f value >>= fun mapped => Build.ofWritings (chainable.builder.json mapped)).toTask
      | none => ((empty chainable.builder).orAll fallbacks).resolve := by
  rw [Chainable.resolve_orAll_toOperation, Chainable.map, AsyncValue.map, Task.onOk_onOk]
  congr 1
  funext found
  cases found with
  | none => rfl
  | some value => apply Traced.ext <;> simp [Task.onOk, Build.toTask]

/-- Changing a chainable operation is customising its builder once and mapping its source once, each by its
own changes in their order. Only the code for the builder runs while the operation is built. If the source
holds a value, the code for the value runs once when the operation is resolved, and whatever it makes of
the value is the answer: no fallback is tried. An empty source leaves the answer to the fallbacks, or to
the builder as it became; an error of the source is the outcome. -/
theorem apply_eq_and_resolve_eq [Serialize β] (changes : Changes ε α β) (chainable : Chainable ε α)
    (before : List (Operation ε)) :
    let changed := changes.apply chainable
    let builder := (changes.onBuilder chainable.builder).value
    changed = (chainable.withBuilder changes.onBuilder >>= fun customised =>
        pure (customised.map changes.onValue)) ∧
      changed.trace = (changes.onBuilder chainable.builder).trace ∧
      (∀ value, chainable.source.value = .ok (some value) → ∀ fallbacks,
        (within before changed.value.toOperation fallbacks).resolve =
          leadingTo before ⟨(builder.json (changes.onValue value).value).value,
            chainable.source.trace ++ (changes.onValue value).toTask.trace ++
              [.event (.written (json (changes.onValue value).value))]⟩) ∧
      (chainable.source.value = .ok none →
        (within before changed.value.toOperation []).resolve =
            leadingTo before ⟨.ok builder.noBody, chainable.source.trace⟩ ∧
          ∀ next rest, (within before changed.value.toOperation (next :: rest)).resolve =
            leadingTo before ((next.orAll rest).tried.after
              (chainable.source.trace ++ [.event (.log .passedOver)]))) ∧
      ∀ error, chainable.source.value = .error error → ∀ fallbacks,
        (within before changed.value.toOperation fallbacks).resolve =
          leadingTo before ⟨.error error, chainable.source.trace⟩ := by
  intro changed builder
  have once : changed = ⟨Chainable.map ⟨builder, chainable.source⟩ changes.onValue,
      (changes.onBuilder chainable.builder).trace⟩ := by
    rw [show changed = _ from changes.apply_eq chainable]
    exact Traced.ext rfl (by simp [Chainable.withBuilder])
  have resolved (fallbacks : List (Operation ε)) :
      (within before changed.value.toOperation fallbacks).resolve =
        leadingTo before (chainable.source.onOk fun
          | some value =>
            (changes.onValue value >>= fun changed => Build.ofWritings (builder.json changed)).toTask
          | none => ((empty builder).orAll fallbacks).resolve) := by
    rw [within, resolve_behind, once, resolve_orAll_map]
  refine ⟨changes.apply_eq chainable, congrArg Traced.trace once, ?_, ?_, ?_⟩
  · intro value found fallbacks
    rw [resolved, Task.onOk_of_ok found]
    refine congrArg (leadingTo before) (Traced.ext rfl ?_)
    simp [Build.toTask, Build.ofWritings, ResponseBuilder.json, Serialize.write]
  · intro found
    refine ⟨?_, fun next rest => ?_⟩
    · rw [resolved, Task.onOk_of_ok found, orAll, List.foldl_nil, resolve_empty, Traced.value_pure,
        Traced.trace_pure, List.append_nil]
    · rw [resolved, Task.onOk_of_ok found, resolve_empty_orAll_cons, resolve_eq_tried]
      simp only [Task.after, List.append_assoc]
  · intro error failed fallbacks
    rw [resolved, Task.onOk_of_error failed]

/-- A builder is customised between two changes of the value. The value becomes nothing in the end and is
answered all the same, with the new status; without a value that status is answered with no body. -/
theorem apply_eq_and_resolve_eq_erased :
    let changes : Changes String Int Value :=
      .map (fun n => ⟨n + 1, [.effect "counted"]⟩) <|
        .withBuilder (fun builder => ⟨builder.withStatus 202, [.effect "customised"]⟩) <|
          .map (fun _ => ⟨.none, [.effect "erased"]⟩) .done
    let present : Chainable String Int := .ofOption Status.ok (some 20)
    let absent : Chainable String Int := .ofOption Status.ok none
    let builder : ResponseBuilder := .new 202
    (changes.apply present).trace = [.effect "customised"] ∧
      ((changes.apply present).value.toOperation.orAll [notFound]).resolve =
        ⟨.ok (builder.bytes .json (Utf8.encode "null")),
          [.event (.effect "counted"), .event (.effect "erased"), .event (.written (.ok "null"))]⟩ ∧
      (changes.apply absent).value.toOperation.resolve = ⟨.ok builder.noBody, []⟩ := by
  intro changes present absent builder
  obtain ⟨-, built, answers, -, -⟩ := changes.apply_eq_and_resolve_eq present []
  obtain ⟨-, -, -, empty, -⟩ := changes.apply_eq_and_resolve_eq absent []
  refine ⟨built, ?_, ?_⟩
  · exact answers 20 rfl [notFound]
  · exact (empty rfl).1

end Changes

end HttpHandler
