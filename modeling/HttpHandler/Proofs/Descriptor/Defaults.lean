import HttpHandler.Proofs.Descriptor.Extensions

/-!
# How long a default stays in force

A default stands in the function that makes the value. Most modifiers wrap that function and keep the
default in force; `repeated` and `csv` replace it, so that behind them a name without values is missing
until the descriptor is made optional or given a default again.
-/

namespace HttpHandler

variable {α β γ : Type} {initial shape other : Shape}

/-- Whether a modifier narrows a reading to the first element of a default that has none. -/
def Modification.NarrowsEmpty : Modification β shape γ other → Reading β shape → Prop
  | .single, reading => reading.value none = .ok []
  | _, _ => False

/-- Whether any modifier of a sequence does so, when the sequence extends a reading. -/
def Extension.NarrowsEmpty {β : Type} {shape : Shape} :
    Extension α initial β shape → Reading α initial → Prop
  | .none, _ => False
  | .more earlier last, reading =>
    earlier.NarrowsEmpty reading ∨ last.NarrowsEmpty (earlier.apply reading)

/-- What was just widened has no default, and so no empty one. -/
theorem Extension.not_narrowsEmpty_repeated_single (reading : Reading α .one) :
    ¬(Extension.more (.more .none .repeated) .single).NarrowsEmpty reading := by
  rintro ((ends | widens) | narrows)
  · exact ends
  · exact widens
  · cases narrows

/-- Whether a modifier makes a list of one value without a look at the default there was. -/
def ModifierKind.Widens (kind : ModifierKind) : Prop := kind = .repeated ∨ kind = .csv

/-- Whether a modifier puts something in the place of a missing value. -/
def ModifierKind.Covers (kind : ModifierKind) : Prop := kind = .optional ∨ kind = .orElse

/-- Whether a sequence of modifiers widens and does not cover after that. -/
def EndsUncovered (modifiers : List ModifierKind) : Prop :=
  ∃ before kind after, modifiers = before ++ kind :: after ∧ kind.Widens ∧
    ∀ later ∈ after, ¬later.Covers

theorem endsUncovered_concat_iff (modifiers : List ModifierKind) (last : ModifierKind) :
    EndsUncovered (modifiers ++ [last]) ↔ last.Widens ∨ ¬last.Covers ∧ EndsUncovered modifiers := by
  constructor
  · rintro ⟨before, kind, after, split, widens, uncovered⟩
    rcases List.eq_nil_or_concat after with rfl | ⟨between, final, rfl⟩
    · obtain ⟨-, same⟩ := List.append_inj' split rfl
      rw [List.singleton_inj] at same
      exact .inl (same ▸ widens)
    · rw [List.concat_eq_append, ← List.cons_append, ← List.append_assoc] at split
      obtain ⟨earlier, same⟩ := List.append_inj' split rfl
      rw [List.singleton_inj] at same
      subst same
      rw [List.concat_eq_append] at uncovered
      refine .inr ⟨uncovered last (by simp), before, kind, between, earlier, widens, ?_⟩
      exact fun later member => uncovered later (List.mem_append_left _ member)
  · rintro (widens | ⟨uncovered, before, kind, after, rfl, widens, others⟩)
    · exact ⟨modifiers, last, [], rfl, widens, by simp⟩
    · refine ⟨before, kind, after ++ [last], by simp, widens, ?_⟩
      intro later member
      rcases List.mem_append.mp member with earlier | final
      · exact others later earlier
      · exact List.mem_singleton.mp final ▸ uncovered

namespace Reading

theorem value_orElse_ne_missing (reading : Reading β shape) (default : shape.Of β)
    (raw : Option (List String)) : (orElse reading default).value raw ≠ .error .missing := by
  rw [value]
  split <;> simp_all

theorem value_optional_ne_missing (reading : Reading β shape) (raw : Option (List String)) :
    (optional reading).value raw ≠ .error .missing := by
  rw [value]
  split <;> simp

/-- What one modifier does to a name without values. -/
theorem value_none_apply_eq_missing_iff (modification : Modification β shape γ other)
    (reading : Reading β shape) (elements : ¬modification.NarrowsEmpty reading) :
    (modification.apply reading).value none = .error .missing ↔
      modification.kind.Widens ∨
        ¬modification.kind.Covers ∧ reading.value none = .error .missing := by
  cases modification with
  | andThen next =>
      have kept : (andThen reading next).value none = .error .missing ↔
          reading.value none = .error .missing := by
        rw [value]
        cases reading.value none with
        | ok found => simp [bind, Except.bind, converted_ne_missing]
        | error failure => simp [bind, Except.bind]
      simpa [Modification.apply, Modification.kind, ModifierKind.Widens, ModifierKind.Covers] using kept
  | repeated => simp [Modification.apply, Modification.kind, ModifierKind.Widens, value]
  | csv => simp [Modification.apply, Modification.kind, ModifierKind.Widens, value]
  | single =>
      have kept : (single reading).value none = .error .missing ↔
          reading.value none = .error .missing := by
        rw [value, Option.map_none]
        cases found : reading.value none with
        | error failure => simp [bind, Except.bind]
        | ok list =>
            cases list with
            | nil => exact absurd found elements
            | cons first rest => simp [bind, Except.bind, pure, Except.pure]
      simpa [Modification.apply, Modification.kind, ModifierKind.Widens, ModifierKind.Covers] using kept
  | optional =>
      have found := value_optional_ne_missing reading none
      simpa [Modification.apply, Modification.kind, ModifierKind.Widens, ModifierKind.Covers] using found
  | orElse default =>
      simp [Modification.apply, Modification.kind, ModifierKind.Widens, ModifierKind.Covers,
        value_orElse_ne_missing]
  | cased letterCase =>
      simp [Modification.apply, Modification.kind, ModifierKind.Widens, ModifierKind.Covers, value]

theorem value_none_extend_eq_missing_iff (extension : Extension α initial β shape)
    {reading : Reading α initial} (inForce : reading.value none ≠ .error .missing)
    (elements : ¬extension.NarrowsEmpty reading) :
    (extension.apply reading).value none = .error .missing ↔ EndsUncovered extension.modifiers := by
  induction extension with
  | none => simpa [Extension.apply, Extension.modifiers, EndsUncovered] using inForce
  | more earlier last ih =>
      rw [Extension.NarrowsEmpty, not_or] at elements
      rw [Extension.apply, value_none_apply_eq_missing_iff last _ elements.2, ih elements.1,
        Extension.modifiers, endsUncovered_concat_iff]

end Reading

namespace Descriptor

/-- A descriptor with a default, extended by further modifiers of which none narrows an empty default,
fails as missing on a request without a value exactly if a `repeated` or `csv` among them is followed by
no `optional` and no other default. -/
theorem extract_extend_orElse_eq_missing_iff (descriptor : Descriptor α initial)
    (default : initial.Of α) {later : Extension α initial β shape}
    (elements : ¬later.NarrowsEmpty (descriptor.orElse default).reading) {request : Request}
    (absent : ¬descriptor.source.HasValue descriptor.name request) :
    ((descriptor.orElse default).extend later).extract request =
        ((descriptor.orElse default).extend later).missing ↔
      EndsUncovered later.modifiers := by
  have raw : ((descriptor.orElse default).extend later).read request =
      (later.apply (descriptor.orElse default).reading).value none := by
    change Reading.read _ (descriptor.source.rawValues descriptor.name request) = _
    rw [Source.rawValues_of_absent absent]
    rfl
  rw [extract_eq_missing_iff, raw]
  exact Reading.value_none_extend_eq_missing_iff later
    (descriptor.reading.value_orElse_ne_missing default none) elements

/-- Widening takes a default out of force, also if the descriptor is narrowed again. -/
theorem extract_repeated_single_orElse_eq_missing :
    let page : Descriptor Int .one := .orElse (.queryParameter (.integer .int) "page") 1
    let widened : Extension Int .one Int .one := .more (.more .none .repeated) .single
    let request : Request := ⟨"GET", ⟨"/", none⟩, .empty, [], []⟩
    ¬page.source.HasValue page.name request ∧ ¬widened.NarrowsEmpty page.reading ∧
      page.extract request = ⟨.ok 1, []⟩ ∧
      (page.extend widened).extract request = (page.extend widened).missing := by
  intro page widened request
  have absent : ¬page.source.HasValue page.name request := by
    rintro ⟨value, member⟩
    exact nomatch member
  have elements : ¬widened.NarrowsEmpty page.reading :=
    Extension.not_narrowsEmpty_repeated_single page.reading
  exact ⟨absent, elements, rfl, rfl⟩

/-- A default that is given again behind the widening stays in force. -/
theorem extract_extend_orElse_eq_missing_iff_renewed :
    let page : Descriptor Int .one := .queryParameter (.integer .int) "page"
    let widened : Extension Int .one Int .one := .more (.more .none .repeated) .single
    let renewed : Extension Int .one Int .one :=
      .more (.more (.more .none .repeated) (.orElse [2])) .single
    let request : Request := ⟨"GET", ⟨"/", none⟩, .empty, [], []⟩
    ¬page.source.HasValue page.name request ∧
      ¬widened.NarrowsEmpty (page.orElse 1).reading ∧ ¬renewed.NarrowsEmpty (page.orElse 1).reading ∧
      EndsUncovered widened.modifiers ∧ ¬EndsUncovered renewed.modifiers ∧
      ((page.orElse 1).extend renewed).extract request = ⟨.ok 2, []⟩ := by
  intro page widened renewed request
  have absent : ¬page.source.HasValue page.name request := by
    rintro ⟨value, member⟩
    exact nomatch member
  have elements : ¬widened.NarrowsEmpty (page.orElse 1).reading :=
    Extension.not_narrowsEmpty_repeated_single (page.orElse 1).reading
  have renewedElements : ¬renewed.NarrowsEmpty (page.orElse 1).reading := by
    rintro (((ends | widens) | covers) | narrows)
    · exact ends
    · exact widens
    · exact covers
    · exact nomatch narrows
  have missing : ((page.orElse 1).extend widened).extract request =
      ((page.orElse 1).extend widened).missing := rfl
  have found : ((page.orElse 1).extend renewed).extract request = ⟨.ok 2, []⟩ := rfl
  have uncovered := (page.extract_extend_orElse_eq_missing_iff 1 elements absent).mp missing
  have covered : ¬EndsUncovered renewed.modifiers := by
    rw [← page.extract_extend_orElse_eq_missing_iff 1 renewedElements absent, found]
    exact fun same => nomatch congrArg Traced.value same
  exact ⟨absent, elements, renewedElements, uncovered, covered, found⟩

end Descriptor

end HttpHandler
