import HttpHandler.UserDirectory.Store

/-!
# Numbering users

A new user gets the number after the greatest one in use. So it goes to the end of the store, and users
who are added one after another are numbered without gaps.
-/

namespace HttpHandler.UserDirectory

variable {users : Users}

namespace Users

/-- Every user is kept under the number that it carries. -/
def KeyedById (users : Users) : Prop := ∀ entry ∈ users.entries, entry.1 = entry.2.id

/-- The number after the greatest one in use, or one if none is in use. -/
def IsNextId (users : Users) (id : Int) : Prop :=
  (users.entries = [] ∧ id = 1) ∨
    ∃ entry ∈ users.entries, (∀ other ∈ users.entries, other.1 ≤ entry.1) ∧ id = entry.1 + 1

def register (users : Users) (name : String) : Users :=
  users.insert users.nextId ⟨users.nextId, name⟩

theorem le_last {entries : List (Int × User)} {last : Int × User}
    (ascending : (entries ++ [last]).Pairwise fun first second => first.1 < second.1) :
    ∀ entry ∈ entries ++ [last], entry.1 ≤ last.1 := by
  intro entry member
  obtain earlier | same := List.mem_append.mp member
  · have below : ∀ other ∈ [last], entry.1 < other.1 :=
      (List.pairwise_append.mp ascending).2.2 entry earlier
    exact Int.le_of_lt (below last List.mem_cons_self)
  · obtain rfl := List.mem_singleton.mp same
    exact Int.le_refl _

theorem isNextId_nextId (users : Users) : users.IsNextId users.nextId := by
  cases found : users.entries.getLast? with
  | none =>
      refine .inl ⟨List.getLast?_eq_none_iff.mp found, ?_⟩
      simp only [nextId, found]
  | some last =>
      obtain ⟨earlier, split⟩ := List.getLast?_eq_some_iff.mp found
      have ascending := users.ascending
      rw [split] at ascending
      refine .inr ⟨last, by simp [split], ?_, by simp only [nextId, found]⟩
      intro other member
      rw [split] at member
      exact le_last ascending other member

theorem lt_nextId {entry : Int × User} (member : entry ∈ users.entries) :
    entry.1 < users.nextId := by
  obtain ⟨none, _⟩ | ⟨last, _, greatest, next⟩ := users.isNextId_nextId
  · rw [none] at member
    contradiction
  · have bound : entry.1 ≤ last.1 := greatest entry member
    omega

theorem insertEntry_of_forall_lt {key : Int} {entries : List (Int × User)} (user : User)
    (below : ∀ entry ∈ entries, entry.1 < key) :
    insertEntry key user entries = entries ++ [(key, user)] := by
  induction entries with
  | nil => rfl
  | cons first rest ih =>
      have less : first.1 < key := below first List.mem_cons_self
      have later : insertEntry key user rest = rest ++ [(key, user)] :=
        ih fun entry member => below entry (List.mem_cons_of_mem first member)
      have notBefore : ¬key < first.1 := by omega
      have other : ¬key = first.1 := by omega
      rw [insertEntry, if_neg notBefore, if_neg other, later]
      rfl

/-- A new user is added behind all others, which stay as they are. -/
theorem entries_register (users : Users) (name : String) :
    (users.register name).entries = users.entries ++ [(users.nextId, ⟨users.nextId, name⟩)] :=
  insertEntry_of_forall_lt _ fun _ member => lt_nextId member

theorem KeyedById.register (keyed : users.KeyedById) (name : String) :
    (users.register name).KeyedById := by
  intro entry member
  rw [entries_register] at member
  obtain old | new := List.mem_append.mp member
  · exact keyed entry old
  · rw [List.mem_singleton.mp new]

end Users

end HttpHandler.UserDirectory
