import HttpHandler.Proofs.Descriptor.Presence

/-!
# Sequences of modifiers

A modifier with its arguments is a step between readings, and a sequence of such steps is an extension
of any reading that it fits. What a modifier makes of a reading depends only on the converter and on the
function that makes the value, so that readings which are alike in both stay alike under every extension
(`Alike.extend`). The split at commas and the case mapping are told from the sequence alone.
-/

namespace HttpHandler

variable {α β γ : Type} {initial shape other : Shape}

/-- A modifier, from the type and shape of the readings that it applies to to those that it yields. -/
inductive Modification : Type → Shape → Type → Shape → Type 1 where
  | andThen {β γ : Type} (next : β → Except Cause γ) : Modification β .one γ .one
  | repeated {β : Type} : Modification β .one β .many
  | csv {β : Type} : Modification β .one β .many
  | single {β : Type} : Modification β .many β .one
  | optional {β : Type} {shape : Shape} : Modification β shape β (.optional shape)
  | orElse {β : Type} {shape : Shape} (value : shape.Of β) : Modification β shape β shape
  | cased {shape : Shape} (letterCase : Text.LetterCase) : Modification String shape String shape

namespace Modification

def apply : Modification β shape γ other → Reading β shape → Reading γ other
  | .andThen next, reading => .andThen reading next
  | .repeated, reading => .repeated reading
  | .csv, reading => .csv reading
  | .single, reading => .single reading
  | .optional, reading => .optional reading
  | .orElse value, reading => .orElse reading value
  | .cased letterCase, reading => .cased letterCase reading

def kind : Modification β shape γ other → ModifierKind
  | .andThen _ => .andThen
  | .repeated => .repeated
  | .csv => .csv
  | .single => .single
  | .optional => .optional
  | .orElse _ => .orElse
  | .cased _ => .cased

def letterCase? : Modification β shape γ other → Option Text.LetterCase
  | .cased letterCase => some letterCase
  | _ => none

end Modification

/-- A sequence of modifiers, each fitting what the earlier ones yield. -/
inductive Extension (α : Type) (initial : Shape) : Type → Shape → Type 1 where
  | none : Extension α initial α initial
  | more {β γ : Type} {shape other : Shape} (earlier : Extension α initial β shape)
    (last : Modification β shape γ other) : Extension α initial γ other

namespace Extension

def apply {β : Type} {shape : Shape} : Extension α initial β shape → Reading α initial →
    Reading β shape
  | .none, reading => reading
  | .more earlier last, reading => last.apply (earlier.apply reading)

/-- The modifiers of a sequence, in the order in which they are applied. -/
def modifiers {β : Type} {shape : Shape} : Extension α initial β shape → List ModifierKind
  | .none => []
  | .more earlier last => earlier.modifiers ++ [last.kind]

/-- The cases that a sequence asks for, in order. -/
def letterCases {β : Type} {shape : Shape} : Extension α initial β shape → List Text.LetterCase
  | .none => []
  | .more earlier last => earlier.letterCases ++ last.letterCase?.toList

end Extension

namespace Reading

/-- `first.Alike second` says that two readings have the same converter and make the same of raw values
that were prepared alike. They may differ in how they prepare them. -/
structure Alike (first second : Reading β shape) : Prop where
  converter : first.converter = second.converter
  value : first.value = second.value

theorem Alike.refl (reading : Reading β shape) : reading.Alike reading := ⟨rfl, rfl⟩

theorem Alike.symm {first second : Reading β shape} (alike : first.Alike second) :
    second.Alike first :=
  ⟨alike.converter.symm, alike.value.symm⟩

theorem Alike.trans {first second third : Reading β shape} (alike : first.Alike second)
    (other : second.Alike third) : first.Alike third :=
  ⟨alike.converter.trans other.converter, alike.value.trans other.value⟩

theorem Alike.apply {first second : Reading β shape} (alike : first.Alike second)
    (modification : Modification β shape γ other) :
    (modification.apply first).Alike (modification.apply second) := by
  obtain ⟨converter, value⟩ := alike
  cases modification with
  | andThen next =>
      refine ⟨?_, funext fun raw => ?_⟩
      · simp only [Modification.apply, Reading.converter, converter]
      · simp only [Modification.apply, Reading.value, value]
  | repeated =>
      refine ⟨converter, funext fun raw => ?_⟩
      simp only [Modification.apply, Reading.value, converter]
  | csv =>
      refine ⟨converter, funext fun raw => ?_⟩
      simp only [Modification.apply, Reading.value, converter]
  | single =>
      refine ⟨converter, funext fun raw => ?_⟩
      simp only [Modification.apply, Reading.value, value]
  | optional =>
      refine ⟨converter, funext fun raw => ?_⟩
      simp only [Modification.apply, Reading.value, value]
  | orElse default =>
      refine ⟨converter, funext fun raw => ?_⟩
      simp only [Modification.apply, Reading.value, value]
  | cased letterCase => exact ⟨converter, value⟩

/-- No modifier looks at more of a reading than its converter and its value. -/
theorem Alike.extend {first second : Reading α initial} (alike : first.Alike second)
    (extension : Extension α initial β shape) :
    (extension.apply first).Alike (extension.apply second) := by
  induction extension with
  | none => exact alike
  | more earlier last ih => exact ih.apply last

theorem alike_csv_repeated (reading : Reading β .one) : (csv reading).Alike (repeated reading) :=
  ⟨rfl, funext fun _ => rfl⟩

theorem alike_cased (letterCase : Text.LetterCase) (reading : Reading String shape) :
    (cased letterCase reading).Alike reading :=
  ⟨rfl, rfl⟩

/-- Readings that are alike read the same from raw values that they prepare alike. -/
theorem Alike.read_eq {first second : Reading β shape} (alike : first.Alike second)
    {raw otherRaw : Option (List String)}
    (prepared : raw.map first.prepare = otherRaw.map second.prepare) :
    first.read raw = second.read otherRaw := by
  rw [read, read, prepared, alike.value]

/-- Raw values are prepared alike if they are split alike and mapped to the same case. -/
theorem prepare_eq_of_eq {first second : Reading β shape} (splits : first.splits = second.splits)
    (letterCase? : first.letterCase? = second.letterCase?) : first.prepare = second.prepare := by
  funext raw
  rw [prepare, prepare, splits, letterCase?]

theorem splits_eq_true_iff (reading : Reading β shape) :
    reading.splits = true ↔ .csv ∈ reading.modifiers := by
  induction reading <;> simp_all [splits, modifiers]

theorem modifiers_apply (modification : Modification β shape γ other) (reading : Reading β shape) :
    (modification.apply reading).modifiers = reading.modifiers ++ [modification.kind] := by
  cases modification <;> rfl

theorem modifiers_extend (extension : Extension α initial β shape) (reading : Reading α initial) :
    (extension.apply reading).modifiers = reading.modifiers ++ extension.modifiers := by
  induction extension with
  | none => exact (List.append_nil _).symm
  | more earlier last ih =>
      rw [Extension.apply, modifiers_apply, ih, Extension.modifiers, List.append_assoc]

theorem letterCase?_apply (modification : Modification β shape γ other) (reading : Reading β shape) :
    (modification.apply reading).letterCase? = modification.letterCase?.or reading.letterCase? := by
  cases modification <;> rfl

/-- Raw values are mapped to the last case that was asked for. -/
theorem letterCase?_extend (extension : Extension α initial β shape) (reading : Reading α initial) :
    (extension.apply reading).letterCase? =
      extension.letterCases.getLast?.or reading.letterCase? := by
  induction extension with
  | none => rfl
  | more earlier last ih =>
      rw [Extension.apply, letterCase?_apply, ih, Extension.letterCases, List.getLast?_append]
      cases last.letterCase? <;> rfl

end Reading

namespace Descriptor

def extend (descriptor : Descriptor α initial) (extension : Extension α initial β shape) :
    Descriptor β shape :=
  ⟨descriptor.source, descriptor.name, extension.apply descriptor.reading⟩

end Descriptor

end HttpHandler
