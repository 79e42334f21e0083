import HttpHandler.Serialize
import HttpHandler.Json.Decoder

/-!
# A store of users

Users under their numbers, in ascending order. The store changes only by changes that are data, so what
a request does to it can be told from what the request leaves behind.
-/

namespace HttpHandler.UserDirectory

structure User where
  id : Int
  name : String
deriving Repr, DecidableEq

def User.toJson (user : User) : String :=
  "\x7b\"id\":" ++ toString user.id ++ ",\"name\":" ++ Json.quote user.name ++ "\x7d"

instance : Serialize User := ⟨fun user => .ok user.toJson⟩

structure Users where
  entries : List (Int × User)
  ascending : entries.Pairwise fun first second => first.1 < second.1
deriving Repr, DecidableEq

inductive Change where
  | stored (key : Int) (user : User)
deriving Repr, DecidableEq

namespace Users

def empty : Users := ⟨[], .nil⟩

/-- Puts a user where its number belongs, in place of one that was there. -/
def insertEntry (key : Int) (user : User) : List (Int × User) → List (Int × User)
  | [] => [(key, user)]
  | (other, kept) :: rest =>
    if key < other then (key, user) :: (other, kept) :: rest
    else if key = other then (key, user) :: rest
    else (other, kept) :: insertEntry key user rest

theorem mem_insertEntry {key : Int} {user : User} {entries : List (Int × User)}
    {entry : Int × User} (member : entry ∈ insertEntry key user entries) :
    entry = (key, user) ∨ entry ∈ entries := by
  induction entries with
  | nil => exact .inl (List.mem_singleton.mp member)
  | cons first rest ih =>
      rw [insertEntry] at member
      split at member
      · exact List.mem_cons.mp member
      · split at member
        · obtain same | later := List.mem_cons.mp member
          · exact .inl same
          · exact .inr (List.mem_cons_of_mem first later)
        · obtain same | later := List.mem_cons.mp member
          · exact .inr (same ▸ List.mem_cons_self)
          · exact (ih later).imp_right (List.mem_cons_of_mem first)

theorem insertEntry_ascending (key : Int) (user : User) {entries : List (Int × User)}
    (ascending : entries.Pairwise fun first second => first.1 < second.1) :
    (insertEntry key user entries).Pairwise fun first second => first.1 < second.1 := by
  induction ascending with
  | nil => exact List.pairwise_singleton _ _
  | @cons first rest below ascending ih =>
      rw [insertEntry]
      split
      · rename_i less
        refine .cons ?_ (.cons below ascending)
        intro entry member
        obtain rfl | later := List.mem_cons.mp member
        · exact less
        · exact Int.lt_trans less (below entry later)
      · split
        · rename_i same
          subst same
          exact .cons below ascending
        · rename_i notLess other
          refine .cons ?_ ih
          intro entry member
          obtain rfl | old := mem_insertEntry member
          · change first.1 < key
            omega
          · exact below entry old

def insert (users : Users) (key : Int) (user : User) : Users :=
  ⟨insertEntry key user users.entries, insertEntry_ascending key user users.ascending⟩

def find? (users : Users) (key : Int) : Option User := users.entries.lookup key

def all (users : Users) : List User := users.entries.map Prod.snd

/-- The number of the next user: one more than the greatest, or one. -/
def nextId (users : Users) : Int :=
  match users.entries.getLast? with
  | some last => last.1 + 1
  | none => 1

def apply (users : Users) : Change → Users
  | .stored key user => users.insert key user

def ofList (seed : List User) : Users :=
  seed.foldl (fun users user => users.insert user.id user) empty

end Users

end HttpHandler.UserDirectory
