import Mathlib.Algebra.GroupWithZero.Nat
import HttpHandler.Proofs.Operation.Operands

/-!
# What decides a chain, and what is done until then

The operand that decides a chain is the first that is not empty, or the last one if all are empty.
Resolving a chain answers what that operand comes to, and it does what the operands before it and that
operand do: each a single time, in order and one after another. Nothing of a later operand is done.
-/

namespace HttpHandler

variable {ε : Type}

namespace Action

end Action

namespace Operand

/-- `decider` is the first operand that is not empty, or the last one if all are empty. -/
structure Decided (operands passed : List (Operand ε)) (decider : Operand ε)
    (later : List (Operand ε)) : Prop where
  split : operands = passed ++ decider :: later
  passedOver : ∀ operand ∈ passed, operand.isEmpty = true
  decides : decider.isEmpty = false ∨ later = []

theorem exists_decided {operands : List (Operand ε)} (some : operands ≠ []) :
    ∃ passed decider later, Decided operands passed decider later := by
  induction operands with
  | nil => contradiction
  | cons operand rest ih =>
      cases empty : operand.isEmpty with
      | false => exact ⟨[], operand, rest, rfl, by simp, .inl empty⟩
      | true =>
          -- An empty operand decides only where none is left to try.
          cases rest with
          | nil => exact ⟨[], operand, [], rfl, by simp, .inr rfl⟩
          | cons second rest =>
              obtain ⟨passed, decider, later, decided⟩ := ih (by simp)
              refine ⟨operand :: passed, decider, later, ?_, ?_, decided.decides⟩
              · rw [decided.split, List.cons_append]
              · simpa [empty] using decided.passedOver

/-- Trying operands passes over those before the decider and comes to what the decider comes to. -/
theorem Decided.tryEach {operands passed later : List (Operand ε)} {decider : Operand ε}
    (decided : Decided operands passed decider later) :
    tryEach operands none =
      some ⟨decider.finding.outcome, passed.flatMap passing ++ decider.actions⟩ := by
  obtain ⟨rfl, passedOver, decides⟩ := decided
  induction passed with
  | nil =>
      rw [List.nil_append, tryEach_cons]
      obtain decisive | rfl := decides
      · rw [orTry_of_decisive decisive]
        rfl
      · rw [tryEach_nil, orTry_none]
        rfl
  | cons operand passed ih =>
      have empty : operand.isEmpty = true := passedOver operand List.mem_cons_self
      rw [List.cons_append, tryEach_cons,
        ih fun other member => passedOver other (List.mem_cons_of_mem operand member),
        orTry_some_of_empty empty]
      simp [Task.after]

theorem millis_flatMap_passing (passed : List (Operand ε)) :
    Action.millis (passed.flatMap passing) =
      (passed.map fun operand => Action.millis operand.actions).sum := by
  induction passed with
  | nil => rfl
  | cons operand rest ih => simp [passing, Action.millis, ih]

theorem exists_builder_of_isEmpty {operand : Operand ε} (empty : operand.isEmpty = true) :
    ∃ builder, operand.finding = .empty builder := by
  cases found : operand.finding with
  | decided outcome => simp [isEmpty, found] at empty
  | empty builder => exact ⟨builder, rfl⟩

end Operand

namespace Operation

open Operand

theorem resolve_of_decided {operation : Operation ε} {passed later : List (Operand ε)}
    {decider : Operand ε} (decided : Decided operation.operands passed decider later) :
    operation.resolve = ⟨decider.finding.outcome, passed.flatMap passing ++ decider.actions⟩ :=
  Option.some.inj (operation.some_resolve.trans decided.tryEach)

end Operation

end HttpHandler
