import HttpHandler.Proofs.Descriptor.Extensions

/-!
# Where a case is asked for

Raw values are mapped to a case before they are converted, wherever in a sequence of modifiers the case
was asked for. What a descriptor extracts depends on the other modifiers, in their order, and on the
last case that was asked for.
-/

namespace HttpHandler

variable {α β : Type} {initial shape : Shape}

/-- A sequence of modifiers with all that ask for a case taken out. -/
def Extension.withoutCases {β : Type} {shape : Shape} :
    Extension α initial β shape → Extension α initial β shape
  | .none => .none
  | .more earlier (.cased _) => earlier.withoutCases
  | .more earlier last => .more earlier.withoutCases last

namespace Reading

theorem alike_withoutCases (extension : Extension α initial β shape) (reading : Reading α initial) :
    (extension.apply reading).Alike (extension.withoutCases.apply reading) := by
  induction extension with
  | none => exact .refl reading
  | more earlier last ih =>
      cases last with
      | cased letterCase => exact (alike_cased letterCase _).trans ih
      | _ => exact ih.apply _

theorem splits_withoutCases (extension : Extension α initial β shape) (reading : Reading α initial) :
    (extension.withoutCases.apply reading).splits = (extension.apply reading).splits := by
  induction extension with
  | none => rfl
  | more earlier last ih =>
      cases last with
      | csv => rfl
      | _ => exact ih

end Reading

namespace Descriptor

/-- Two sequences of modifiers that differ in where they ask for a case make descriptors that extract
the same from every request, if they ask for the same case last or for none at all. -/
theorem extract_extend_eq_of_withoutCases_eq (descriptor : Descriptor α initial)
    {first second : Extension α initial β shape}
    (others : first.withoutCases = second.withoutCases)
    (last : first.letterCases.getLast? = second.letterCases.getLast?) (request : Request) :
    (descriptor.extend first).extract request = (descriptor.extend second).extract request := by
  have alike : (first.apply descriptor.reading).Alike (second.apply descriptor.reading) := by
    have plain := Reading.alike_withoutCases second descriptor.reading
    rw [← others] at plain
    exact (Reading.alike_withoutCases first descriptor.reading).trans plain.symm
  have splits : (first.apply descriptor.reading).splits = (second.apply descriptor.reading).splits := by
    rw [← Reading.splits_withoutCases first, ← Reading.splits_withoutCases second, others]
  have letterCase? : (first.apply descriptor.reading).letterCase? =
      (second.apply descriptor.reading).letterCase? := by
    rw [Reading.letterCase?_extend, Reading.letterCase?_extend, last]
  have prepare := Reading.prepare_eq_of_eq splits letterCase?
  have read : (descriptor.extend first).read request = (descriptor.extend second).read request :=
    alike.read_eq (congrArg (Option.map · _) prepare)
  exact extract_eq_of_read_eq rfl rfl read

/-- A case that is asked for before a conversion, and again after it, against one that is asked for at
the end. -/
theorem extract_extend_eq_of_withoutCases_eq_trimmed :
    let mode : Descriptor String .one := .queryParameter .text "mode"
    let trim : Modification String .one String .one :=
      .andThen fun text => .ok (String.ofList (Text.trim text.toList))
    let first : Extension String .one String (.optional .one) :=
      .more (.more (.more (.more .none (.cased .lower)) trim) (.cased .upper)) .optional
    let second : Extension String .one String (.optional .one) :=
      .more (.more (.more .none trim) .optional) (.cased .upper)
    let request : Request := ⟨"GET", ⟨"/", some "mode=+Fast"⟩, .empty, [], []⟩
    first.withoutCases = second.withoutCases ∧
      first.letterCases.getLast? = second.letterCases.getLast? ∧
      (mode.extend first).extract request = (mode.extend second).extract request ∧
      (mode.extend first).extract request = ⟨.ok (some "FAST"), []⟩ := by
  intro mode trim first second request
  have others : first.withoutCases = second.withoutCases := rfl
  have last : first.letterCases.getLast? = second.letterCases.getLast? := rfl
  have same := mode.extract_extend_eq_of_withoutCases_eq others last request
  have extracted : (mode.extend second).extract request = ⟨.ok (some "FAST"), []⟩ := rfl
  exact ⟨others, last, same, same.trans extracted⟩

end Descriptor

end HttpHandler
