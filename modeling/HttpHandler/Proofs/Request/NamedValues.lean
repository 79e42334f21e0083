import HttpHandler.Request.Query

/-!
# Values under a name

Looking a name up among pairs gives the values that are paired with it, all of them and in order, or
nothing if there are none.
-/

namespace HttpHandler

theorem exists_valuesNamed?_cons {name first : String} {pairs : List (String × String)}
    (found : pairs.lookup name = some first) :
    ∃ rest, valuesNamed? name pairs = some (first :: rest) := by
  have selected : ∃ rest,
      (pairs.filterMap fun pair => if pair.1 = name then some pair.2 else none) = first :: rest := by
    induction pairs with
    | nil => simp at found
    | cons pair pairs ih =>
        obtain ⟨other, value⟩ := pair
        by_cases same : other = name
        · subst same
          have firstValue : value = first := by simpa [List.lookup_cons] using found
          exact ⟨_, by rw [List.filterMap_cons, if_pos rfl, firstValue]⟩
        · have later : pairs.lookup name = some first := by
            simpa [List.lookup_cons, beq_eq_false_iff_ne.mpr (Ne.symm same)] using found
          obtain ⟨rest, others⟩ := ih later
          exact ⟨rest, by rw [List.filterMap_cons, if_neg same, others]⟩
  obtain ⟨rest, selected⟩ := selected
  exact ⟨rest, by rw [valuesNamed?, selected]⟩

theorem exists_lookup_of_mem {name value : String} {pairs : List (String × String)}
    (member : (name, value) ∈ pairs) : ∃ first, pairs.lookup name = some first := by
  apply Option.isSome_iff_exists.mp
  rw [List.lookup_isSome_iff]
  exact ⟨(name, value), member, beq_self_eq_true name⟩

theorem valuesNamed?_of_notMem {name : String} {pairs : List (String × String)}
    (absent : ∀ value, (name, value) ∉ pairs) : valuesNamed? name pairs = none := by
  have selected : (pairs.filterMap fun pair => if pair.1 = name then some pair.2 else none) = [] := by
    rw [List.filterMap_eq_nil_iff]
    intro pair member
    have other : pair.1 ≠ name := by
      rintro rfl
      exact absent pair.2 member
    exact if_neg other
  rw [valuesNamed?, selected]

theorem valuesNamed?_eq_none_iff (name : String) (pairs : List (String × String)) :
    valuesNamed? name pairs = none ↔ ∀ value, (name, value) ∉ pairs := by
  constructor
  · intro nothing value member
    obtain ⟨first, found⟩ := exists_lookup_of_mem member
    obtain ⟨rest, named⟩ := exists_valuesNamed?_cons found
    exact nomatch nothing.symm.trans named
  · exact valuesNamed?_of_notMem

theorem filterMap_named (name : String) (pairs : List (String × String)) :
    (pairs.filterMap fun pair => if pair.1 = name then some pair.2 else none) =
      (pairs.filter (·.1 == name)).map Prod.snd := by
  induction pairs with
  | nil => rfl
  | cons pair rest ih => by_cases same : pair.1 = name <;> simp [same, ih]

theorem getD_valuesNamed? (name : String) (pairs : List (String × String)) :
    (valuesNamed? name pairs).getD [] = (pairs.filter (·.1 == name)).map Prod.snd := by
  rw [valuesNamed?, filterMap_named]
  cases (pairs.filter (·.1 == name)).map Prod.snd <;> rfl

/-- Two lists of pairs answer a name alike exactly if they have the same values under it. -/
theorem valuesNamed?_eq_iff (name : String) (pairs others : List (String × String)) :
    valuesNamed? name pairs = valuesNamed? name others ↔
      (pairs.filter (·.1 == name)).map Prod.snd = (others.filter (·.1 == name)).map Prod.snd := by
  constructor
  · intro same
    rw [← getD_valuesNamed?, ← getD_valuesNamed?, same]
  · intro same
    rw [valuesNamed?, valuesNamed?, filterMap_named, filterMap_named, same]

end HttpHandler
