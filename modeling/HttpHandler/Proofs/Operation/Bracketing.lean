import Mathlib.Logic.Relation
import HttpHandler.Proofs.Operation.Operands

/-!
# Bracketing and wrapping

How the operands of a chain are bracketed with `or` makes no difference to the chain itself, because
`or` always lands behind the last step. Putting a part of a chain into a future that is ready makes a
difference to its steps, but not to its operands, and so not to what resolving it does and answers.
-/

namespace HttpHandler

variable {ε : Type}

namespace Operation

theorem steps_ne_nil (operation : Operation ε) : operation.steps ≠ [] := by
  cases operation <;> simp [steps]

theorem eq_of_steps {first second : Operation ε} (same : first.steps = second.steps) :
    first = second := by
  induction first using chain_induction generalizing second with
  | last step =>
      cases second with
      | last other =>
          simp only [steps, List.cons.injEq, and_true] at same
          rw [same]
      | link other fallback =>
          simp only [steps, List.cons.injEq] at same
          exact absurd same.2.symm fallback.steps_ne_nil
  | link step fallback ih =>
      cases second with
      | last other =>
          simp only [steps, List.cons.injEq] at same
          exact absurd same.2 fallback.steps_ne_nil
      | link other fallback' =>
          simp only [steps, List.cons.injEq] at same
          rw [same.1, ih same.2]

end Operation

inductive Bracketing (ε : Type) where
  | leaf (operation : Operation ε)
  | or (first next : Bracketing ε)

namespace Bracketing

/-- The operations between the brackets, from left to right. -/
def operations : Bracketing ε → List (Operation ε)
  | .leaf operation => [operation]
  | .or first next => first.operations ++ next.operations

def build : Bracketing ε → Operation ε
  | .leaf operation => operation
  | .or first next => first.build.or next.build

theorem steps_build (bracketing : Bracketing ε) :
    bracketing.build.steps = bracketing.operations.flatMap Operation.steps := by
  induction bracketing with
  | leaf operation => simp [build, operations]
  | or first next firstIH nextIH =>
      rw [build, Operation.steps_or, firstIH, nextIH, operations, List.flatMap_append]

end Bracketing

/-- `Wraps chain wrapped` says that one contiguous part of `chain` is put into a future that is ready
with it. The part may stand in the chain itself or in an operation that a future of the chain yields. -/
inductive Wraps : Operation ε → Operation ε → Prop where
  | part {chain wrapped : Operation ε} (before : List (Step ε)) (part : Operation ε)
      (after : List (Step ε)) (stands : chain.steps = before ++ part.steps ++ after)
      (replaced : wrapped.steps = before ++ (Operation.nested (.ready (.ok part))).steps ++ after) :
      Wraps chain wrapped
  | inner {chain wrapped inner innerWrapped : Operation ε} (before : List (Step ε))
      (actions : List (Action ε)) (after : List (Step ε)) (wraps : Wraps inner innerWrapped)
      (stands : chain.steps = before ++ .deferred actions inner :: after)
      (replaced : wrapped.steps = before ++ .deferred actions innerWrapped :: after) :
      Wraps chain wrapped

namespace Wraps

/-- A future that is ready adds nothing to the first operand of its operation. -/
theorem operands_nested_ready (part : Operation ε) :
    (Operation.nested (.ready (.ok part))).operands = part.operands := by
  change part.operands.modifyHead (Operand.after []) = part.operands
  cases part.operands <;> rfl

theorem operands_eq {chain wrapped : Operation ε} (wraps : Wraps chain wrapped) :
    wrapped.operands = chain.operands := by
  induction wraps with
  | part before part after stands replaced =>
      rw [Operation.operands_eq_flatMap, replaced, Operation.operands_eq_flatMap, stands]
      simp only [List.flatMap_append, ← Operation.operands_eq_flatMap, operands_nested_ready]
  | inner before actions after wraps stands replaced ih =>
      rw [Operation.operands_eq_flatMap, replaced, Operation.operands_eq_flatMap, stands]
      simp only [List.flatMap_append, List.flatMap_cons, Step.operands, ih]

theorem resolve_eq {chain wrapped : Operation ε}
    (wraps : Relation.ReflTransGen Wraps chain wrapped) : wrapped.resolve = chain.resolve := by
  induction wraps with
  | refl => rfl
  | tail _ wraps ih => exact (Operation.resolve_eq_of_operands wraps.operands_eq).trans ih

end Wraps

/-- Every bracketing of the same operations builds the same chain, step by step. Wrapping parts of it,
anywhere and any number of times, changes neither the outcome nor anything that resolving does. -/
theorem Bracketing.build_eq_and_resolve_eq {first second : Bracketing ε}
    (same : first.operations = second.operations) {wrapped : Operation ε}
    (wraps : Relation.ReflTransGen Wraps first.build wrapped) :
    first.build = second.build ∧
      first.build.steps = second.operations.flatMap Operation.steps ∧
      first.build.shown = second.build.shown ∧
      first.build.isChainable = second.build.isChainable ∧
      wrapped.resolve = second.build.resolve := by
  have steps : first.build.steps = second.operations.flatMap Operation.steps := by
    rw [first.steps_build, same]
  have built : first.build = second.build :=
    Operation.eq_of_steps (steps.trans second.steps_build.symm)
  refine ⟨built, steps, congrArg Operation.shown built, congrArg Operation.isChainable built, ?_⟩
  rw [Wraps.resolve_eq wraps, built]

/-- Two empty operands and a slow one, bracketed to the left and to the right, and with the last and
then the last two of them wrapped. -/
theorem Bracketing.build_eq_and_resolve_eq_three :
    ∃ (x y z : Operation String) (wrapped : Operation String),
      x = .empty (.new Status.noContent) ∧
      y = .chainable ⟨.ok (.empty (.new Status.ok)), [.event (.effect "y")]⟩ ∧
      z = .terminating ⟨.ok (.empty Status.notFound), [.sleep 5, .event (.effect "z")]⟩ ∧
      wrapped = x.or (.nested (.ready (.ok (y.or (.nested (.ready (.ok z))))))) ∧
      (Bracketing.or (.or (.leaf x) (.leaf y)) (.leaf z)).operations =
        (Bracketing.or (.leaf x) (.or (.leaf y) (.leaf z))).operations ∧
      Relation.ReflTransGen Wraps ((x.or y).or z) wrapped ∧
      (x.or y).or z = x.or (y.or z) ∧
      wrapped.resolve = (x.or (y.or z)).resolve := by
  let x : Operation String := .empty (.new Status.noContent)
  let y : Operation String := .chainable ⟨.ok (.empty (.new Status.ok)), [.event (.effect "y")]⟩
  let z : Operation String :=
    .terminating ⟨.ok (.empty Status.notFound), [.sleep 5, .event (.effect "z")]⟩
  let left : Bracketing String := .or (.or (.leaf x) (.leaf y)) (.leaf z)
  let right : Bracketing String := .or (.leaf x) (.or (.leaf y) (.leaf z))
  let once : Operation String := x.or (y.or (.nested (.ready (.ok z))))
  let twice : Operation String := x.or (.nested (.ready (.ok (y.or (.nested (.ready (.ok z)))))))
  have same : left.operations = right.operations := rfl
  have first : Wraps left.build once := .part (x.steps ++ y.steps) z [] rfl rfl
  have second : Wraps once twice := .part x.steps (y.or (.nested (.ready (.ok z)))) [] rfl rfl
  have wraps : Relation.ReflTransGen Wraps left.build twice := .tail (.single first) second
  obtain ⟨built, _, _, _, resolved⟩ := Bracketing.build_eq_and_resolve_eq same wraps
  exact ⟨x, y, z, twice, rfl, rfl, rfl, rfl, same, wraps, built, resolved⟩

end HttpHandler
