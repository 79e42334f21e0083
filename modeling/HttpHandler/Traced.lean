/-!
# Computations that leave a trace

`Traced τ α` pairs a value with what was left behind, first to last, while computing it. Sequencing
two computations concatenates their traces, so a trace is a complete account: nothing a computation
does is dropped, repeated or reordered by the code around it.
-/

namespace HttpHandler

structure Traced (τ α : Type) where
  value : α
  trace : List τ
deriving Repr, DecidableEq

namespace Traced

variable {τ σ α β : Type}

def pure (value : α) : Traced τ α := ⟨value, []⟩

/-- The second computation sees the value of the first and writes after it. -/
def bind (first : Traced τ α) (next : α → Traced τ β) : Traced τ β :=
  ⟨(next first.value).value, first.trace ++ (next first.value).trace⟩

instance : Monad (Traced τ) where
  pure := pure
  bind := bind

def emit (entry : τ) : Traced τ Unit := ⟨(), [entry]⟩

def mapTrace (f : τ → σ) (computation : Traced τ α) : Traced σ α :=
  ⟨computation.value, computation.trace.map f⟩

@[simp] theorem value_pure (a : α) : (Pure.pure a : Traced τ α).value = a := rfl

@[simp] theorem trace_pure (a : α) : (Pure.pure a : Traced τ α).trace = [] := rfl

@[simp] theorem value_bind (first : Traced τ α) (next : α → Traced τ β) :
    (first >>= next).value = (next first.value).value := rfl

@[simp] theorem trace_bind (first : Traced τ α) (next : α → Traced τ β) :
    (first >>= next).trace = first.trace ++ (next first.value).trace := rfl

@[simp] theorem value_map (f : α → β) (first : Traced τ α) :
    (f <$> first).value = f first.value := rfl

@[simp] theorem trace_map (f : α → β) (first : Traced τ α) :
    (f <$> first).trace = first.trace := List.append_nil _

@[simp] theorem value_emit (entry : τ) : (emit entry).value = () := rfl

@[simp] theorem trace_emit (entry : τ) : (emit entry).trace = [entry] := rfl

@[simp] theorem value_mapTrace (f : τ → σ) (first : Traced τ α) :
    (first.mapTrace f).value = first.value := rfl

@[simp] theorem trace_mapTrace (f : τ → σ) (first : Traced τ α) :
    (first.mapTrace f).trace = first.trace.map f := rfl

theorem ext {first second : Traced τ α} (value : first.value = second.value)
    (trace : first.trace = second.trace) : first = second := by
  cases first
  cases second
  cases value
  cases trace
  rfl

instance : LawfulMonad (Traced τ) := LawfulMonad.mk' (Traced τ)
  (fun first => ext rfl (trace_map id first))
  (fun _ _ => rfl)
  (fun _ _ _ => ext rfl (by simp [List.append_assoc]))

end Traced

end HttpHandler
