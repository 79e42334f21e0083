import Mathlib.Data.List.Perm.Subperm
import HttpHandler.Proofs.Descriptor.FirstValue
import HttpHandler.Proofs.Descriptor.Integers
import HttpHandler.Proofs.Extraction.Concealment
import HttpHandler.Proofs.Extraction.Tuples
import HttpHandler.Proofs.Response.Streaming
import HttpHandler.Proofs.UserDirectory.Requests

/-!
# Listing the users

The users are listed from the least number up or from the greatest down, and no more of them than asked
for. The body that is sent user by user is that of the list sent at once. A query that asks for anything
else is refused, first for its direction and then for its limit, and of each the first value counts.
-/

namespace HttpHandler.UserDirectory

/-- `Leads before count entries listed` says that what is listed are the first `count` of some entries, put
in an order of their numbers. -/
structure Leads (before : Int → Int → Prop) (count : Nat) (entries listed : List (Int × User)) :
    Prop where
  length : listed.length = count
  ordered : listed.Pairwise fun first second => before first.1 second.1
  stored : ∀ entry ∈ listed, entry ∈ entries
  behind : ∀ entry ∈ entries, entry ∉ listed → ∀ other ∈ listed, before other.1 entry.1

namespace Leads

variable {before : Int → Int → Prop} {count : Nat} {entries listed other : List (Int × User)}

theorem nodup (leads : Leads before count entries listed)
    (asymmetric : ∀ m n, before m n → ¬before n m) : listed.Nodup := by
  refine leads.ordered.imp ?_
  rintro first _ earlier rfl
  exact asymmetric _ _ earlier earlier

theorem perm_of_subset (leads : Leads before count entries listed)
    (leadsToo : Leads before count entries other) (asymmetric : ∀ m n, before m n → ¬before n m)
    (among : listed ⊆ other) : listed.Perm other :=
  (List.subperm_of_subset (leads.nodup asymmetric) among).perm_of_length_le
    (Nat.le_of_eq (leadsToo.length.trans leads.length.symm))

theorem subset (leads : Leads before count entries listed)
    (leadsToo : Leads before count entries other) (asymmetric : ∀ m n, before m n → ¬before n m) :
    listed ⊆ other := by
  intro entry member
  by_contra left
  -- What the other list has comes before this entry, so that the first list has all of it.
  have among : other ⊆ listed := by
    intro kept memberToo
    by_contra leftToo
    have earlier := leadsToo.behind entry (leads.stored entry member) left kept memberToo
    have later := leads.behind kept (leadsToo.stored kept memberToo) leftToo entry member
    exact asymmetric _ _ earlier later
  exact left ((leadsToo.perm_of_subset leads asymmetric among).mem_iff.mpr member)

/-- The order and the number of entries determine what is listed. -/
theorem eq (leads : Leads before count entries listed)
    (leadsToo : Leads before count entries other) (asymmetric : ∀ m n, before m n → ¬before n m) :
    listed = other := by
  have same := leads.perm_of_subset leadsToo asymmetric (leads.subset leadsToo asymmetric)
  exact same.eq_of_pairwise (fun _ _ _ _ earlier later => absurd later (asymmetric _ _ earlier))
    leads.ordered leadsToo.ordered

end Leads

theorem leads_take {before : Int → Int → Prop} {entries ordered : List (Int × User)}
    (sorted : ordered.Pairwise fun first second => before first.1 second.1)
    (same : ∀ entry, entry ∈ ordered ↔ entry ∈ entries) (limit : Nat) :
    Leads before (min limit ordered.length) entries (ordered.take limit) where
  length := List.length_take
  ordered := sorted.sublist (List.take_sublist limit ordered)
  stored entry member := (same entry).mp (List.mem_of_mem_take member)
  behind := by
    intro entry stored unlisted other listed
    have split := List.take_append_drop limit ordered
    have dropped : entry ∈ ordered.drop limit := by
      have member := (same entry).mpr stored
      rw [← split] at member
      exact (List.mem_append.mp member).resolve_left unlisted
    rw [← split] at sorted
    exact (List.pairwise_append.mp sorted).2.2 other listed entry dropped

/-- The order of numbers that a first `sort` asks for, if it is one of the two that are known. -/
inductive Sorts : Option String → (Int → Int → Prop) → Prop where
  | absent : Sorts none (· < ·)
  | ascending : Sorts (some "asc") (· < ·)
  | descending : Sorts (some "desc") (· > ·)

/-- How many of `size` users a first `limit` leaves, if it denotes an integer of 32 bits. -/
inductive Limits (size : Nat) : Option String → Nat → Prop where
  | absent : Limits size none size
  | number {text : String} {n : Int} (denotes : IntegerKind.int.Denotes text n) :
    Limits size (some text) (min size (max n 0).toNat)

theorem Sorts.known {text : String} {before : Int → Int → Prop} (sorts : Sorts (some text) before) :
    text = "asc" ∨ text = "desc" := by
  cases sorts with
  | ascending => exact .inl rfl
  | descending => exact .inr rfl

variable {users : Users} {request : Request}

/-- How many users a limit leaves at most. -/
def quota (users : Users) (limit : Option Int) : Nat :=
  (limit.map Int.toNat).getD users.entries.length

def listedEntries (users : Users) (direction : String) (limit : Option Int) : List (Int × User) :=
  (if direction = "desc" then users.entries.reverse else users.entries).take (quota users limit)

theorem listing_eq (users : Users) (direction : String) (limit : Option Int) :
    listing users direction limit = (listedEntries users direction limit).map Prod.snd := by
  have ordered : (if direction = "desc" then users.all.reverse else users.all) =
      (if direction = "desc" then users.entries.reverse else users.entries).map Prod.snd := by
    split
    · exact List.map_reverse.symm
    · rfl
  rw [listing.eq_def, listedEntries, ordered]
  cases limit with
  | some limit => exact List.map_take.symm
  | none =>
      have whole : (if direction = "desc" then users.entries.reverse else users.entries).length ≤
          quota users none := by
        split <;> simp [quota]
      rw [List.take_of_length_le whole]

theorem leads_descending (users : Users) (limit : Option Int) :
    Leads (· > ·) (min (quota users limit) users.entries.length) users.entries
      (listedEntries users "desc" limit) := by
  have sorted : users.entries.reverse.Pairwise fun first second => first.1 > second.1 :=
    List.pairwise_reverse.mpr users.ascending
  have leads := leads_take sorted (fun _ => List.mem_reverse) (quota users limit)
  rw [List.length_reverse] at leads
  exact leads

theorem leads_ascending (users : Users) {direction : String} (ascending : direction ≠ "desc")
    (limit : Option Int) :
    Leads (· < ·) (min (quota users limit) users.entries.length) users.entries
      (listedEntries users direction limit) := by
  rw [listedEntries, if_neg ascending]
  exact leads_take users.ascending (fun _ => Iff.rfl) (quota users limit)

theorem read_directions_of_known {text : String} (known : text = "asc" ∨ text = "desc") :
    directions.read text = .ok text := by
  obtain rfl | rfl := known <;> rfl

theorem read_directions_of_unknown {text : String} (ascending : text ≠ "asc")
    (descending : text ≠ "desc") : ∃ cause, directions.read text = .error cause := by
  have unfound : directions.variants.find? (fun variant => variant.name == text) = none := by
    simp [directions, Enumeration.plain, Ne.symm ascending, Ne.symm descending]
  rw [Enumeration.read, unfound]
  exact ⟨_, rfl⟩

theorem rawValues_of_firstValue?_none {name : String}
    (absent : Source.queryParameter.firstValue? name request = none) :
    Source.queryParameter.rawValues name request = none := by
  apply Source.rawValues_of_absent
  rintro ⟨value, member⟩
  obtain ⟨first, found⟩ := exists_lookup_of_mem member
  exact nomatch absent.symm.trans found

theorem extract_sort_absent (absent : Source.queryParameter.firstValue? "sort" request = none) :
    sortParameter.extract request = ⟨.ok "asc", []⟩ := by
  rw [Descriptor.extract_eq_ok_iff]
  exact congrArg (sortParameter.reading.read ·) (rawValues_of_firstValue?_none absent)

theorem read_sort {text : String}
    (found : Source.queryParameter.firstValue? "sort" request = some text) :
    sortParameter.read request = Reading.converted (directions.read text) :=
  sortParameter.read_of_firstValue? trivial found

theorem extract_limit_absent (absent : Source.queryParameter.firstValue? "limit" request = none) :
    limitParameter.extract request = ⟨.ok none, []⟩ := by
  rw [Descriptor.extract_eq_ok_iff]
  exact congrArg (limitParameter.reading.read ·) (rawValues_of_firstValue?_none absent)

theorem read_limit {text : String}
    (found : Source.queryParameter.firstValue? "limit" request = some text) :
    limitParameter.read request =
      (Reading.converted ((Scalar.integer .int).read text)).map some :=
  limitParameter.read_of_firstValue? trivial found

theorem exists_direction_of_sorts (users : Users) {before : Int → Int → Prop}
    (sorts : Sorts (Source.queryParameter.firstValue? "sort" request) before) :
    ∃ direction, sortParameter.extract request = ⟨.ok direction, []⟩ ∧
      ∀ limit, Leads before (min (quota users limit) users.entries.length) users.entries
        (listedEntries users direction limit) := by
  cases found : Source.queryParameter.firstValue? "sort" request with
  | none =>
      rw [found] at sorts
      cases sorts with
      | absent => exact ⟨"asc", extract_sort_absent found, leads_ascending users (by decide)⟩
  | some text =>
      have read := read_sort found
      rw [found] at sorts
      cases sorts with
      | ascending =>
          rw [read_directions_of_known (.inl rfl)] at read
          exact ⟨"asc", (sortParameter.extract_eq_ok_iff request _).mpr read,
            leads_ascending users (by decide)⟩
      | descending =>
          rw [read_directions_of_known (.inr rfl)] at read
          exact ⟨"desc", (sortParameter.extract_eq_ok_iff request _).mpr read,
            leads_descending users⟩

theorem exists_cause_of_not_sorts
    (unknown : ∀ before, ¬Sorts (Source.queryParameter.firstValue? "sort" request) before) :
    ∃ cause, sortParameter.extract request = sortParameter.invalid cause := by
  cases found : Source.queryParameter.firstValue? "sort" request with
  | none => exact absurd (found ▸ .absent) (unknown (· < ·))
  | some text =>
      rw [found] at unknown
      have ascending : text ≠ "asc" := by
        rintro rfl
        exact unknown _ .ascending
      have descending : text ≠ "desc" := by
        rintro rfl
        exact unknown _ .descending
      obtain ⟨cause, unread⟩ := read_directions_of_unknown ascending descending
      have read := read_sort found
      rw [unread] at read
      exact ⟨cause, (sortParameter.extract_eq_invalid_iff request cause).mpr read⟩

theorem exists_limit_of_limits {count : Nat}
    (limits : Limits users.entries.length (Source.queryParameter.firstValue? "limit" request) count) :
    ∃ limit, limitParameter.extract request = ⟨.ok limit, []⟩ ∧
      count = min (quota users limit) users.entries.length := by
  cases found : Source.queryParameter.firstValue? "limit" request with
  | none =>
      rw [found] at limits
      cases limits with
      | absent => exact ⟨none, extract_limit_absent found, (Nat.min_self _).symm⟩
  | some text =>
      have read := read_limit found
      rw [found] at limits
      cases limits with
      | @number _ n denotes =>
          rw [(Scalar.read_integer_eq_ok_iff (by decide) text n).mpr denotes] at read
          refine ⟨some n, (limitParameter.extract_eq_ok_iff request _).mpr read, ?_⟩
          change _ = min n.toNat users.entries.length
          omega

theorem exists_cause_of_not_limits {size : Nat}
    (unread : ∀ count,
      ¬Limits size (Source.queryParameter.firstValue? "limit" request) count) :
    ∃ cause, limitParameter.extract request = limitParameter.invalid cause := by
  cases found : Source.queryParameter.firstValue? "limit" request with
  | none => exact absurd (found ▸ .absent) (unread size)
  | some text =>
      have read := read_limit found
      rw [found] at unread
      cases number : (Scalar.integer .int).read text with
      | ok n =>
          have denotes := (Scalar.read_integer_eq_ok_iff (by decide) text n).mp number
          exact absurd (.number denotes) (unread _)
      | error cause =>
          rw [number] at read
          exact ⟨cause, (limitParameter.extract_eq_invalid_iff request cause).mpr read⟩

theorem list_value (users : Users) {direction : String} {limit : Option Int}
    (sort : sortParameter.extract request = ⟨.ok direction, []⟩)
    (limited : limitParameter.extract request = ⟨.ok limit, []⟩) :
    (list users request).value = .ok ((ResponseBuilder.new 200).jsonStream
      ((listing users direction limit).map .ok)) := by
  have both : Extractor.both sortParameter.extract limitParameter.extract request =
      ⟨.ok (direction, limit), []⟩ :=
    (Extractor.both_eq_ok_iff _ _ request (direction, limit)).mpr ⟨sort, limited⟩
  rw [list, handler_extract, both]
  exact congrArg Traced.value (Operation.resolve_terminating _)

theorem jsonElements_users (users : List User) :
    jsonElements users = .ok (users.map User.toJson) := by
  induction users with
  | nil => rfl
  | cons user rest ih =>
      rw [jsonElements, ih]
      rfl

/-- What a request is answered that asks for a list in an order that is known, up to a limit that is an
integer. -/
structure Lists (users : Users) (before : Int → Int → Prop) (count : Nat)
    (listed : List (Int × User)) (response : Response) : Prop where
  leads : Leads before count users.entries listed
  ids : users.KeyedById → listed.map Prod.fst = (listed.map Prod.snd).map User.id
  status : response.status = 200
  body : ∃ text, json (listed.map Prod.snd) = .ok text ∧
    text = "[" ++ Json.commaSeparated (listed.map fun entry => entry.2.toJson) ++ "]" ∧
    response.body.collect = .ok (Utf8.encode text)

theorem exists_lists {before : Int → Int → Prop} {count : Nat}
    (sorts : Sorts (Source.queryParameter.firstValue? "sort" request) before)
    (limits : Limits users.entries.length (Source.queryParameter.firstValue? "limit" request) count) :
    ∃ listed, Lists users before count listed
      (Service.dispatch ⟨list users, false⟩ request).value := by
  obtain ⟨direction, sorted, leads⟩ := exists_direction_of_sorts users sorts
  obtain ⟨limit, limited, rfl⟩ := exists_limit_of_limits limits
  let values := (listedEntries users direction limit).map Prod.snd
  have sent : (Service.dispatch ⟨list users, false⟩ request).value =
      (ResponseBuilder.new 200).jsonStream (values.map .ok) := by
    have handled := list_value users sorted limited
    rw [listing_eq] at handled
    exact congrArg Traced.value (Service.dispatch_of_ok handled)
  have listed : jsonElements values =
      .ok ((listedEntries users direction limit).map fun entry => entry.2.toJson) := by
    rw [jsonElements_users, List.map_map]
    rfl
  have array := JsonStream.json_list values
  rw [listed] at array
  refine ⟨listedEntries users direction limit, leads limit, ?_, ?_, _, array, rfl, ?_⟩
  · intro keyed
    rw [List.map_map]
    exact List.map_congr_left fun entry member => keyed entry ((leads limit).stored entry member)
  · rw [sent]
    rfl
  · rw [sent, ResponseBuilder.collect_jsonStream_map_ok, JsonStream.json_eq_of_jsonElements _ listed]
    exact Body.collect_buffered _

theorem dispatch_list_of_not_sorts
    (unknown : ∀ before, ¬Sorts (Source.queryParameter.firstValue? "sort" request) before) :
    (Service.dispatch ⟨list users, false⟩ request).value =
      .plainText 400 "Invalid value for query parameter sort. Conversion failed." := by
  obtain ⟨cause, failed⟩ := exists_cause_of_not_sorts unknown
  let rejection : Rejection := ⟨.queryParameter, "sort", .invalid cause⟩
  have rejected : sortParameter.extract request = ⟨.error rejection.error, [rejection.entry]⟩ := failed
  exact Request.dispatch_extract_of_rejected
    (Extractor.both_of_error rejected limitParameter.extract) _ false

theorem dispatch_list_of_not_limits {before : Int → Int → Prop} {size : Nat}
    (sorts : Sorts (Source.queryParameter.firstValue? "sort" request) before)
    (unread : ∀ count,
      ¬Limits size (Source.queryParameter.firstValue? "limit" request) count) :
    (Service.dispatch ⟨list users, false⟩ request).value =
      .plainText 400 "Invalid value for query parameter limit. Conversion failed." := by
  obtain ⟨direction, sorted, -⟩ := exists_direction_of_sorts users sorts
  obtain ⟨cause, failed⟩ := exists_cause_of_not_limits unread
  let rejection : Rejection := ⟨.queryParameter, "limit", .invalid cause⟩
  have rejected : limitParameter.extract request = ⟨.error rejection.error, [rejection.entry]⟩ := failed
  have both : Extractor.both sortParameter.extract limitParameter.extract request =
      ⟨.error rejection.error, [rejection.entry]⟩ :=
    (Extractor.both_of_ok sorted _).trans (Extractor.map_of_error rejected _)
  exact Request.dispatch_extract_of_rejected both _ false

theorem answer_of_route_list (get : request.method = "GET") (path : request.path = "/users") :
    answer users request =
      Service.dispatch ⟨list users, false⟩ { request with pathVariables := [] } := by
  have routed : route? request.method request.path = some .list := by
    rw [get, path]
    rfl
  exact answer_of_route routed

/-- A request for the list is answered with as many users as its limit leaves, those with the least numbers
in ascending order or those with the greatest in descending order, and what is sent is the JSON array of
this list as it would be sent at once. If its first direction is not known it is told so, else if its first
limit denotes no integer of 32 bits it is told that. What else is in the query does not matter. -/
theorem answer_lists_users (users : Users) (get : request.method = "GET")
    (path : request.path = "/users") :
    let sort := Source.queryParameter.firstValue? "sort" request
    let limit := Source.queryParameter.firstValue? "limit" request
    let answered := (answer users request).value
    (∀ before count, Sorts sort before → Limits users.entries.length limit count →
        ∃ listed, Lists users before count listed answered) ∧
      ((∀ before, ¬Sorts sort before) →
        answered = .plainText 400 "Invalid value for query parameter sort. Conversion failed.") ∧
      ∀ before, Sorts sort before → (∀ count, ¬Limits users.entries.length limit count) →
        answered = .plainText 400 "Invalid value for query parameter limit. Conversion failed." := by
  intro sort limit answered
  have dispatched : answered = _ := congrArg Traced.value (answer_of_route_list get path)
  rw [dispatched]
  -- What routing puts in place of the path variables is not looked at.
  refine ⟨?_, ?_, ?_⟩
  · intro before count sorts limits
    exact exists_lists sorts limits
  · intro unknown
    exact dispatch_list_of_not_sorts unknown
  · intro before sorts unread
    exact dispatch_list_of_not_limits sorts unread

/-- The two greatest of three numbers, though the second `sort` is unknown, and none where the limit is
negative. An unknown `sort` counts before a limit that is no number. -/
theorem answer_lists_users_greatest :
    let users := Users.ofList [⟨2, "bob"⟩, ⟨7, "carol"⟩, ⟨1, "alice"⟩]
    let request (query : String) : Request := ⟨"GET", ⟨"/users", some query⟩, .empty, [], []⟩
    let descending := (answer users (request "sort=desc&limit=%2B2&sort=up")).value
    let negative := (answer users (request "limit=-5")).value
    (∀ query, (request query).method = "GET" ∧ (request query).path = "/users") ∧
      Lists users (· > ·) 2 [(7, ⟨7, "carol"⟩), (2, ⟨2, "bob"⟩)] descending ∧
      descending.body.collect = .ok (Utf8.encode
        "[\x7b\"id\":7,\"name\":\"carol\"\x7d,\x7b\"id\":2,\"name\":\"bob\"\x7d]") ∧
      Lists users (· < ·) 0 [] negative ∧ negative.body.collect = .ok (Utf8.encode "[]") ∧
      (answer users (request "limit=2x&sort=up")).value =
        .plainText 400 "Invalid value for query parameter sort. Conversion failed." ∧
      (answer users (request "limit=2x&limit=2")).value =
        .plainText 400 "Invalid value for query parameter limit. Conversion failed." := by
  intro users request descending negative
  have get (query : String) : (request query).method = "GET" := rfl
  have path (query : String) : (request query).path = "/users" := rfl
  have greatest : Sorts (Source.queryParameter.firstValue? "sort" (request "sort=desc&limit=%2B2&sort=up"))
      (· > ·) := by
    have first : Source.queryParameter.firstValue? "sort" (request "sort=desc&limit=%2B2&sort=up") =
        some "desc" := by decide
    exact first ▸ .descending
  have two : Limits users.entries.length
      (Source.queryParameter.firstValue? "limit" (request "sort=desc&limit=%2B2&sort=up")) 2 := by
    have first : Source.queryParameter.firstValue? "limit" (request "sort=desc&limit=%2B2&sort=up") =
        some "+2" := by decide
    have numeral : Number.IsNumeral ('+' :: ['2']) 2 := .plus (by decide)
    have denotes : IntegerKind.int.Denotes "+2" 2 := ⟨numeral, by decide⟩
    rw [first]
    exact .number denotes
  have unsorted : Sorts (Source.queryParameter.firstValue? "sort" (request "limit=-5")) (· < ·) := by
    have first : Source.queryParameter.firstValue? "sort" (request "limit=-5") = none := by decide
    exact first ▸ .absent
  have no : Limits users.entries.length
      (Source.queryParameter.firstValue? "limit" (request "limit=-5")) 0 := by
    have first : Source.queryParameter.firstValue? "limit" (request "limit=-5") = some "-5" := by decide
    have numeral : Number.IsNumeral ('-' :: ['5']) (-5) := .minus (by decide)
    have denotes : IntegerKind.int.Denotes "-5" (-5) := ⟨numeral, by decide⟩
    rw [first]
    exact .number denotes
  have unknown (before : Int → Int → Prop) :
      ¬Sorts (Source.queryParameter.firstValue? "sort" (request "limit=2x&sort=up")) before := by
    have first : Source.queryParameter.firstValue? "sort" (request "limit=2x&sort=up") = some "up" := by
      decide
    intro sorts
    exact absurd (first ▸ sorts).known (by decide)
  have unlimited : Sorts (Source.queryParameter.firstValue? "sort" (request "limit=2x&limit=2"))
      (· < ·) := by
    have first : Source.queryParameter.firstValue? "sort" (request "limit=2x&limit=2") = none := by decide
    exact first ▸ .absent
  have unread (count : Nat) : ¬Limits users.entries.length
      (Source.queryParameter.firstValue? "limit" (request "limit=2x&limit=2")) count := by
    have first : Source.queryParameter.firstValue? "limit" (request "limit=2x&limit=2") = some "2x" := by
      decide
    rw [first]
    intro limits
    cases limits with
    | number denotes =>
        have characters := denotes.1.characters 'x' (by decide)
        exact absurd characters (by decide)
  obtain ⟨first, lists⟩ := (answer_lists_users users (get _) (path _)).1 _ _ greatest two
  obtain ⟨none, nothing⟩ := (answer_lists_users users (get _) (path _)).1 _ _ unsorted no
  -- There is no choice in what is listed.
  obtain rfl : first = [(7, ⟨7, "carol"⟩), (2, ⟨2, "bob"⟩)] :=
    lists.leads.eq (leads_descending users (some 2)) (by omega)
  obtain rfl : none = [] := List.eq_nil_of_length_eq_zero nothing.leads.length
  refine ⟨fun query => ⟨get query, path query⟩, lists, ?_, nothing, ?_, ?_, ?_⟩
  · obtain ⟨text, -, rfl, collected⟩ := lists.body
    exact collected
  · obtain ⟨text, -, rfl, collected⟩ := nothing.body
    exact collected
  · exact (answer_lists_users users (get _) (path _)).2.1 unknown
  · exact (answer_lists_users users (get _) (path _)).2.2 _ unlimited unread

end HttpHandler.UserDirectory
