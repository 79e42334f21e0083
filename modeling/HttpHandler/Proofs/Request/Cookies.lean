import Mathlib.Data.List.Forall2
import Mathlib.Data.List.ReduceOption
import HttpHandler.Request
import HttpHandler.Proofs.Request.NamedValues
import HttpHandler.Proofs.Text.Trimming
import HttpHandler.Proofs.Text.Utf8

/-!
# Written cookies

The cookies that header fields were made of come back when these are read: each under its name, and the
values of a name in the order they were written, over all fields. Blanks around names and values are no
part of them, and an equals sign in a value is.
-/

namespace HttpHandler

theorem Headers.isReadable_iff (byte : UInt8) :
    isReadable byte = true ↔ (0x20 ≤ byte.toNat ∧ byte.toNat < 0x7F) ∨ byte.toNat = 0x09 := by
  simp [isReadable, UInt8.le_iff_toNat_le, UInt8.lt_iff_toNat_lt, ← UInt8.toNat_inj]

namespace Cookies

open Text

def IsVisible (c : Char) : Prop := '!' ≤ c ∧ c ≤ '~'

def IsPadding (text : String) : Prop := ∀ c ∈ text.toList, c = ' ' ∨ c = '\t'

/-- Whether a character can be read in a header field: visible ASCII, a space or a tab. -/
def IsReadable (c : Char) : Prop := IsVisible c ∨ c = ' ' ∨ c = '\t'

/-- Whether a text can stand between two semicolons. -/
def IsPlain (text : String) : Prop := ∀ c ∈ text.toList, IsReadable c ∧ c ≠ ';'

structure IsName (name : String) : Prop where
  nonempty : name ≠ ""
  visible : ∀ c ∈ name.toList, IsVisible c
  noSemicolon : ';' ∉ name.toList
  noEquals : '=' ∉ name.toList

structure IsValue (value : String) : Prop where
  plain : IsPlain value
  starts : ∀ c ∈ value.toList.head?, c ≠ ' ' ∧ c ≠ '\t'
  ends : ∀ c ∈ value.toList.getLast?, c ≠ ' ' ∧ c ≠ '\t'

/-- What may stand between two semicolons: a cookie, blanks, or a value without a name. -/
inductive WritesSegment : String → Option (String × String) → Prop where
  | cookie {name value before afterName beforeValue after : String} (isName : IsName name)
    (isValue : IsValue value)
    (padding : ∀ text ∈ [before, afterName, beforeValue, after], IsPadding text) :
    WritesSegment (before ++ name ++ afterName ++ "=" ++ (beforeValue ++ value ++ after))
      (some (name, value))
  | blank {padding : String} (isPadding : IsPadding padding) : WritesSegment padding none
  | nameless {padding rest : String} (isPadding : IsPadding padding) (plain : IsPlain rest) :
    WritesSegment (padding ++ "=" ++ rest) none

/-- `WritesField field cookies` says that a header field consists of segments with semicolons between
them, which write the cookies in order and otherwise nothing. -/
def WritesField (field : Bytes) (cookies : List (String × String)) : Prop :=
  ∃ segments written, List.Forall₂ WritesSegment segments written ∧
    written.reduceOption = cookies ∧ field = Utf8.encode (String.intercalate ";" segments)

/-- The cookies of one field. -/
def fieldPairs (field : Bytes) : List (String × String) :=
  ((Headers.text? field).map pairsOf).getD []

theorem pairs_eq_flatMap (headers : Headers) :
    pairs headers = (headers.values Headers.cookie).flatMap fieldPairs := by
  rw [pairs]
  induction headers.values Headers.cookie with
  | nil => rfl
  | cons field rest ih =>
      cases read : Headers.text? field with
      | none => simp [fieldPairs, read, ih]
      | some text => simp [fieldPairs, read, ih]

theorem notMem_trim {c : Char} {text : List Char} (absent : c ∉ text) : c ∉ trim text := by
  intro member
  have kept : c ∈ text.dropWhile isBlank := List.IsPrefix.mem member (List.rdropWhile_prefix _ _)
  exact absent ((List.dropWhile_sublist isBlank).mem kept)

theorem bne_of_notMem {text : List Char} (noEquals : '=' ∉ text) : ∀ c ∈ text, (c != '=') = true :=
  fun _ member => bne_iff_ne.mpr (ne_of_mem_of_not_mem member noEquals)

/-- A segment with an equals sign has the name before the first and the value behind it. -/
theorem pairOf?_append_equals {before : List Char} (noEquals : '=' ∉ before) (after : List Char) :
    pairOf? (before ++ '=' :: after) =
      if trim before = [] then none
      else some (String.ofList (trim before), String.ofList (trim after)) := by
  have plain := bne_of_notMem fun member => noEquals ((List.dropWhile_sublist isBlank).mem member)
  rw [pairOf?, trim_append_cons (by decide)]
  simp only [List.takeWhile_append_of_pos plain, List.dropWhile_append_of_pos plain]
  simp [trim_dropWhile, trim_trimEnd]

theorem pairOf?_of_noEquals {segment : List Char} (noEquals : '=' ∉ segment) :
    pairOf? segment =
      if trim segment = [] then none else some (String.ofList (trim segment), "") := by
  have plain := bne_of_notMem (notMem_trim noEquals)
  rw [pairOf?]
  simp only [List.takeWhile_eq_self_iff.mpr plain, List.dropWhile_eq_nil_iff.mpr plain, trim_trim]
  rfl

theorem isBlank_of_isVisible {c : Char} (visible : IsVisible c) : isBlank c = false := by
  obtain ⟨least, most⟩ := visible
  have code : 0x21 ≤ c.toNat ∧ c.toNat ≤ 0x7E := ⟨least, most⟩
  simp [isBlank, blankCodePoints]
  omega

theorem IsPadding.isBlank {text : String} (padding : IsPadding text) :
    ∀ c ∈ text.toList, isBlank c = true := by
  intro c member
  rcases padding c member with rfl | rfl <;> rfl

theorem IsPadding.trim_eq_nil {text : String} (padding : IsPadding text) : trim text.toList = [] := by
  rw [← List.append_nil text.toList, trim_blank_append padding.isBlank]
  rfl

theorem IsPadding.notMem {text : String} (padding : IsPadding text) : '=' ∉ text.toList := by
  intro member
  rcases padding '=' member with same | same <;> exact absurd same (by decide)

theorem IsPadding.isPlain {text : String} (padding : IsPadding text) : IsPlain text := by
  intro c member
  rcases padding c member with rfl | rfl
  · exact ⟨.inr (.inl rfl), by decide⟩
  · exact ⟨.inr (.inr rfl), by decide⟩

theorem IsName.isPlain {name : String} (isName : IsName name) : IsPlain name :=
  fun c member => ⟨.inl (isName.visible c member), ne_of_mem_of_not_mem member isName.noSemicolon⟩

/-- A name could also be a value. -/
theorem IsName.isValue {name : String} (isName : IsName name) : IsValue name where
  plain := isName.isPlain
  starts := by
    intro c first
    have visible := isName.visible c (List.mem_of_head? first)
    constructor <;> rintro rfl <;> exact absurd visible.1 (by decide)
  ends := by
    intro c last
    have visible := isName.visible c (List.mem_of_getLast? last)
    constructor <;> rintro rfl <;> exact absurd visible.1 (by decide)

theorem isPlain_append_iff (first second : String) :
    IsPlain (first ++ second) ↔ IsPlain first ∧ IsPlain second := by
  simp only [IsPlain, String.toList_append, List.forall_mem_append]

/-- Padding around a value is taken away, and nothing of the value. -/
theorem trim_padded {value before after : String} (isValue : IsValue value)
    (padded : IsPadding before) (paddedAfter : IsPadding after) :
    trim (before ++ value ++ after).toList = value.toList := by
  have visible : ∀ c ∈ value.toList, c ≠ ' ' ∧ c ≠ '\t' → isBlank c = false := by
    intro c member other
    obtain ⟨readable | same, -⟩ := isValue.plain c member
    · exact isBlank_of_isVisible readable
    · exact absurd same (not_or.mpr other)
  rw [String.toList_append, String.toList_append, trim_append_of_blank paddedAfter.isBlank,
    trim_blank_append padded.isBlank]
  apply trim_eq_self
  · exact fun c first => visible c (List.mem_of_head? first) (isValue.starts c first)
  · exact fun c last => visible c (List.mem_of_getLast? last) (isValue.ends c last)

variable {segment : String} {written : Option (String × String)}

theorem WritesSegment.isPlain (writes : WritesSegment segment written) : IsPlain segment := by
  have sign : IsPlain "=" :=
    List.forall_mem_singleton.mpr ⟨.inl ⟨by decide, by decide⟩, by decide⟩
  cases writes with
  | cookie isName isValue padding =>
      simp only [isPlain_append_iff]
      simp only [List.forall_mem_cons] at padding
      obtain ⟨before, afterName, beforeValue, after, -⟩ := padding
      exact ⟨⟨⟨⟨before.isPlain, isName.isPlain⟩, afterName.isPlain⟩, sign⟩,
        ⟨beforeValue.isPlain, isValue.plain⟩, after.isPlain⟩
  | blank isPadding => exact isPadding.isPlain
  | nameless isPadding plain =>
      simp only [isPlain_append_iff]
      exact ⟨⟨isPadding.isPlain, sign⟩, plain⟩

theorem toList_append_equals (before after : String) :
    (before ++ "=" ++ after).toList = before.toList ++ '=' :: after.toList := by
  simp

theorem pairOf?_of_writes (writes : WritesSegment segment written) :
    pairOf? segment.toList = written := by
  cases writes with
  | @cookie name value before afterName beforeValue after isName isValue padding =>
      simp only [List.forall_mem_cons] at padding
      obtain ⟨padBefore, padAfterName, padBeforeValue, padAfter, -⟩ := padding
      have noEquals : '=' ∉ (before ++ name ++ afterName).toList := by
        simp [padBefore.notMem, isName.noEquals, padAfterName.notMem]
      have named : name.toList ≠ [] := fun empty => isName.nonempty (String.toList_eq_nil_iff.mp empty)
      rw [toList_append_equals, pairOf?_append_equals noEquals,
        trim_padded isName.isValue padBefore padAfterName, if_neg named,
        trim_padded isValue padBeforeValue padAfter, String.ofList_toList, String.ofList_toList]
  | blank isPadding => rw [pairOf?_of_noEquals isPadding.notMem, if_pos isPadding.trim_eq_nil]
  | nameless isPadding plain =>
      rw [toList_append_equals, pairOf?_append_equals isPadding.notMem, if_pos isPadding.trim_eq_nil]

theorem IsReadable.toNat_lt {c : Char} (readable : IsReadable c) : c.toNat < 0x80 := by
  obtain ⟨-, most⟩ | rfl | rfl := readable
  · have code : c.toNat ≤ 0x7E := most
    omega
  · decide
  · decide

theorem IsReadable.isReadable_byte {c : Char} (readable : IsReadable c) :
    Headers.isReadable (UInt8.ofNat c.toNat) = true := by
  rw [Headers.isReadable_iff,
    Utf8.toNat_ofNat_of_lt (Nat.lt_trans readable.toNat_lt (by decide))]
  obtain ⟨least, most⟩ | rfl | rfl := readable
  · have code : 0x21 ≤ c.toNat ∧ c.toNat ≤ 0x7E := ⟨least, most⟩
    omega
  · decide
  · decide

theorem text?_encode {text : String} (readable : ∀ c ∈ text.toList, IsReadable c) :
    Headers.text? (Utf8.encode text) = some text := by
  have bytes := Utf8.encode_of_ascii fun c member => (readable c member).toNat_lt
  have all : (Utf8.encode text).all Headers.isReadable = true := by
    rw [bytes, List.all_map, List.all_eq_true]
    exact fun c member => (readable c member).isReadable_byte
  have same : ∀ c ∈ text.toList, Char.ofNat (UInt8.ofNat c.toNat).toNat = c := by
    intro c member
    rw [Utf8.toNat_ofNat_of_lt (Nat.lt_trans (readable c member).toNat_lt (by decide)),
      Char.ofNat_toNat]
  have characters : (Utf8.encode text).map (fun byte => Char.ofNat byte.toNat) = text.toList := by
    rw [bytes, List.map_map]
    exact (List.map_congr_left same).trans (List.map_id' text.toList)
  rw [Headers.text?, if_pos all, characters, String.ofList_toList]

theorem filterMap_pairOf?_of_writes {segments : List String}
    {written : List (Option (String × String))} (writes : List.Forall₂ WritesSegment segments written) :
    (segments.map String.toList).filterMap pairOf? = written.reduceOption := by
  induction writes with
  | nil => rfl
  | @cons segment pair? segments written first rest ih =>
      rw [List.map_cons, List.filterMap_cons, pairOf?_of_writes first, ih]
      cases pair? with
      | none => rw [List.reduceOption_cons_of_none]
      | some pair => rw [List.reduceOption_cons_of_some]

theorem isReadable_intercalate {segments : List String} (plain : ∀ segment ∈ segments, IsPlain segment) :
    ∀ c ∈ (String.intercalate ";" segments).toList, IsReadable c := by
  induction segments with
  | nil => simp
  | cons segment rest ih =>
      obtain ⟨first, others⟩ := List.forall_mem_cons.mp plain
      cases rest with
      | nil => simpa using fun c member => (first c member).1
      | cons next later =>
          rw [String.intercalate_cons_cons, String.toList_append, String.toList_append]
          simp only [List.forall_mem_append]
          exact ⟨⟨fun c member => (first c member).1,
            List.forall_mem_singleton.mpr (.inl ⟨by decide, by decide⟩)⟩, ih others⟩

theorem fieldPairs_of_writes {field : Bytes} {cookies : List (String × String)}
    (writes : WritesField field cookies) : fieldPairs field = cookies := by
  obtain ⟨segments, written, each, rfl, rfl⟩ := writes
  have plain : ∀ segment ∈ segments, IsPlain segment :=
    ((List.forall₂_and_left segments written).mp
      (each.imp fun _ _ segment => ⟨segment.isPlain, segment⟩)).1
  rw [fieldPairs, text?_encode (isReadable_intercalate plain), Option.map_some, Option.getD_some,
    pairsOf, String.toList_intercalate, ← filterMap_pairOf?_of_writes each]
  cases segments with
  | nil => rfl
  | cons first rest =>
      have separated : ∀ text ∈ (first :: rest).map String.toList, ';' ∉ text := by
        simp only [List.forall_mem_map]
        exact fun segment member semicolon => (plain segment member _ semicolon).2 rfl
      exact congrArg (List.filterMap pairOf?)
        (List.splitOn_intercalate ';' separated (List.cons_ne_nil _ _))

theorem pairs_of_writes {headers : Headers} {cookies : List (List (String × String))}
    (fields : List.Forall₂ WritesField (headers.values Headers.cookie) cookies) :
    pairs headers = cookies.flatten := by
  rw [pairs_eq_flatMap]
  generalize headers.values Headers.cookie = values at fields
  induction fields with
  | nil => rfl
  | cons first rest ih => rw [List.flatMap_cons, List.flatten_cons, fieldPairs_of_writes first, ih]

end Cookies

/-- The values of a name are those that were written under it, in order and over all fields, and there
are none exactly if the name was not written. -/
theorem Request.cookieValues?_of_writes {request : Request}
    {cookies : List (List (String × String))}
    (fields : List.Forall₂ Cookies.WritesField (request.headers.values Headers.cookie) cookies)
    (name : String) :
    (request.cookieValues? name).getD [] =
        (cookies.flatten.filter (·.1 == name)).map Prod.snd ∧
      (request.cookieValues? name = none ↔ ∀ value, (name, value) ∉ cookies.flatten) := by
  rw [cookieValues?, Cookies.pairs_of_writes fields]
  exact ⟨getD_valuesNamed? name cookies.flatten, valuesNamed?_eq_none_iff name cookies.flatten⟩

/-- Two fields with a name in both, a value with an equals sign and one that is empty. Between the
cookies stand blanks and a value without a name. -/
theorem Request.cookieValues?_of_writes_padded :
    let headers : Headers :=
      ⟨[("cookie", [Utf8.encode " a\t= x=y ;;b=", Utf8.encode "=z; \t;a=1"])]⟩
    let request : Request := ⟨"GET", ⟨"/", none⟩, headers, [], []⟩
    let cookies := [[("a", "x=y"), ("b", "")], [("a", "1")]]
    List.Forall₂ Cookies.WritesField (request.headers.values Headers.cookie) cookies ∧
      (request.cookieValues? "a").getD [] = ["x=y", "1"] ∧
      (request.cookieValues? "b").getD [] = [""] ∧ request.cookieValues? "z" = none := by
  intro headers request cookies
  have fields :
      List.Forall₂ Cookies.WritesField (request.headers.values Headers.cookie) cookies := by
    have nameA : Cookies.IsName "a" := by constructor <;> simp [Cookies.IsVisible]
    have nameB : Cookies.IsName "b" := by constructor <;> simp [Cookies.IsVisible]
    have equation : Cookies.IsValue "x=y" := by
      constructor <;> simp [Cookies.IsPlain, Cookies.IsReadable, Cookies.IsVisible]
    have one : Cookies.IsValue "1" := by
      constructor <;> simp [Cookies.IsPlain, Cookies.IsReadable, Cookies.IsVisible]
    have empty : Cookies.IsValue "" := by constructor <;> simp [Cookies.IsPlain]
    have plain : Cookies.IsPlain "z" := by
      simp [Cookies.IsPlain, Cookies.IsReadable, Cookies.IsVisible]
    have padNone : Cookies.IsPadding "" := by simp [Cookies.IsPadding]
    have padBlank : Cookies.IsPadding " " := by simp [Cookies.IsPadding]
    have padTab : Cookies.IsPadding "\t" := by simp [Cookies.IsPadding]
    have padBoth : Cookies.IsPadding " \t" := by simp [Cookies.IsPadding]
    have first := @Cookies.WritesSegment.cookie "a" "x=y" " " "\t" " " " " nameA equation
      (by simp [padBlank, padTab])
    have second := @Cookies.WritesSegment.cookie "b" "" "" "" "" "" nameB empty
      (by simp [padNone])
    have third := @Cookies.WritesSegment.cookie "a" "1" "" "" "" "" nameA one
      (by simp [padNone])
    have nothing := Cookies.WritesSegment.blank padNone
    have blanks := Cookies.WritesSegment.blank padBoth
    have nameless := Cookies.WritesSegment.nameless padNone plain
    exact .cons ⟨_, _, .cons first (.cons nothing (.cons second .nil)), rfl, by decide⟩
      (.cons ⟨_, _, .cons nameless (.cons blanks (.cons third .nil)), rfl, by decide⟩ .nil)
  exact ⟨fields, (cookieValues?_of_writes fields "a").1, (cookieValues?_of_writes fields "b").1,
    (cookieValues?_of_writes fields "z").2.mpr (by simp [cookies])⟩

end HttpHandler
