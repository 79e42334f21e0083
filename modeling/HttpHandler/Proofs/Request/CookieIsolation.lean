import HttpHandler.Proofs.Request.Cookies

/-!
# Cookies beside each other

A cookie that is appended to a field changes nothing about the other names, as long as it can be read. A
byte that cannot be read takes all the cookies of its field along, whatever their names.
-/

namespace HttpHandler

namespace Cookies

open Text

def semicolon : UInt8 := 0x3B

def isPad (byte : UInt8) : Bool := byte == 0x20 || byte == 0x09

def strip (bytes : Bytes) : Bytes := (bytes.dropWhile isPad).rdropWhile isPad

/-- The name in a segment of a field: what stands before the first equals sign, without the spaces and
tabs around it. -/
def ownName (segment : Bytes) : Bytes := strip (segment.takeWhile (· != 0x3D))

def character (byte : UInt8) : Char := Char.ofNat byte.toNat

variable {byte other : UInt8} {value segment : Bytes}

theorem toNat_character (byte : UInt8) : (character byte).toNat = byte.toNat := by
  have small : byte.toNat < 256 := byte.toNat_lt
  have valid : byte.toNat.isValidChar := .inl (by omega)
  rw [character, Char.ofNat, dif_pos valid]
  exact UInt32.toNat_ofNatLT

theorem character_inj : character byte = character other ↔ byte = other := by
  rw [← Char.toNat_inj, toNat_character, toNat_character, UInt8.toNat_inj]

theorem isBlank_character (readable : Headers.isReadable byte = true) :
    isBlank (character byte) = isPad byte := by
  have code := (Headers.isReadable_iff byte).mp readable
  rw [isBlank, toNat_character, isPad, Bool.eq_iff_iff]
  simp [blankCodePoints, ← UInt8.toNat_inj]
  omega

theorem dropWhile_map_character (readable : ∀ byte ∈ value, Headers.isReadable byte = true) :
    (value.map character).dropWhile isBlank = (value.dropWhile isPad).map character := by
  induction value with
  | nil => rfl
  | cons byte rest ih =>
      obtain ⟨first, others⟩ := List.forall_mem_cons.mp readable
      rw [List.map_cons, List.dropWhile_cons, List.dropWhile_cons, isBlank_character first]
      split
      case isTrue => exact ih others
      case isFalse => rfl

theorem trim_map_character (readable : ∀ byte ∈ value, Headers.isReadable byte = true) :
    trim (value.map character) = (strip value).map character := by
  have rest : ∀ byte ∈ (value.dropWhile isPad).reverse, Headers.isReadable byte = true := by
    intro byte member
    exact readable byte ((List.dropWhile_sublist isPad).mem (List.mem_reverse.mp member))
  rw [trim, trimEnd, dropWhile_map_character readable, ← List.map_reverse,
    dropWhile_map_character rest, ← List.map_reverse]
  rfl

theorem encode_map_character (readable : ∀ byte ∈ value, Headers.isReadable byte = true) :
    Utf8.encode (String.ofList (value.map character)) = value := by
  have ascii : ∀ c ∈ (String.ofList (value.map character)).toList, c.toNat < 0x80 := by
    rw [String.toList_ofList, List.forall_mem_map]
    intro byte member
    rw [toNat_character]
    have code := (Headers.isReadable_iff byte).mp (readable byte member)
    omega
  rw [Utf8.encode_of_ascii ascii, String.toList_ofList, List.map_map]
  refine (List.map_congr_left fun byte member => ?_).trans (List.map_id' value)
  rw [Function.comp_apply, toNat_character, UInt8.ofNat_toNat]

theorem name_of_pairOf? {characters : List Char} {pair : String × String}
    (found : pairOf? characters = some pair) :
    pair.1 = String.ofList (trim (characters.takeWhile (· != '='))) := by
  by_cases named : '=' ∈ characters
  · obtain ⟨before, after, rfl, noEquals⟩ := List.eq_append_cons_of_mem named
    rw [pairOf?_append_equals noEquals] at found
    rw [List.takeWhile_append_of_pos (bne_of_notMem noEquals)]
    split at found
    · cases found
    · cases found
      simp
  · rw [pairOf?_of_noEquals named] at found
    rw [List.takeWhile_eq_self_iff.mpr (bne_of_notMem named)]
    split at found
    · cases found
    · cases found
      rfl

theorem encode_name_of_pairOf? (readable : ∀ byte ∈ segment, Headers.isReadable byte = true)
    {pair : String × String} (found : pairOf? (segment.map character) = some pair) :
    Utf8.encode pair.1 = ownName segment := by
  have same : ((· != '=') ∘ character) = (· != (0x3D : UInt8)) := by
    funext byte
    have equals : character 0x3D = '=' := rfl
    rw [Function.comp_apply, ← equals, Bool.eq_iff_iff, bne_iff_ne, bne_iff_ne, Ne, character_inj]
  have before : ∀ byte ∈ segment.takeWhile (· != 0x3D), Headers.isReadable byte = true :=
    fun byte member => readable byte ((List.takeWhile_sublist _).mem member)
  have inside : ∀ byte ∈ ownName segment, Headers.isReadable byte = true := by
    intro byte member
    have kept : byte ∈ (segment.takeWhile (· != 0x3D)).dropWhile isPad :=
      (List.rdropWhile_prefix isPad _).mem member
    exact before byte ((List.dropWhile_sublist isPad).mem kept)
  rw [name_of_pairOf? found, List.takeWhile_map, same, trim_map_character before]
  exact encode_map_character inside

theorem fieldPairs_of_readable (readable : value.all Headers.isReadable = true) :
    fieldPairs value = ((value.map character).splitOn ';').filterMap pairOf? := by
  rw [fieldPairs, Headers.text?, if_pos readable, Option.map_some, Option.getD_some, pairsOf,
    String.toList_ofList]
  rfl

theorem fieldPairs_of_unreadable (unreadable : ¬value.all Headers.isReadable = true) :
    fieldPairs value = [] := by
  rw [fieldPairs, Headers.text?, if_neg unreadable]
  rfl

theorem fieldPairs_append (readable : value.all Headers.isReadable = true)
    (readableSegment : segment.all Headers.isReadable = true) (single : semicolon ∉ segment) :
    fieldPairs (value ++ semicolon :: segment) =
      fieldPairs value ++ (pairOf? (segment.map character)).toList := by
  have whole : (value ++ semicolon :: segment).all Headers.isReadable = true := by
    rw [List.all_append, List.all_cons, readable, readableSegment]
    rfl
  have separator : character semicolon = ';' := rfl
  have one : ';' ∉ segment.map character := by
    intro member
    obtain ⟨byte, inside, same⟩ := List.mem_map.mp member
    rw [← separator, character_inj] at same
    exact single (same ▸ inside)
  rw [fieldPairs_of_readable whole, fieldPairs_of_readable readable, List.map_append, List.map_cons,
    separator, List.splitOn_append_cons_self, List.filterMap_append, List.splitOn_eq_singleton one]
  cases found : pairOf? (segment.map character) with
  | none => simp [found]
  | some pair => simp [found]

/-- What a readable segment adds is under its own name. -/
theorem filter_fieldPairs_append {name : String} (other : Utf8.encode name ≠ ownName segment)
    (readable : segment.all Headers.isReadable = true) (single : semicolon ∉ segment) (value : Bytes) :
    (fieldPairs (value ++ semicolon :: segment)).filter (·.1 == name) =
      (fieldPairs value).filter (·.1 == name) := by
  by_cases readableValue : value.all Headers.isReadable = true
  · have apart : ∀ pair ∈ pairOf? (segment.map character), pair.1 ≠ name := by
      rintro pair found rfl
      exact other (encode_name_of_pairOf? (List.all_eq_true.mp readable) found)
    have added : (pairOf? (segment.map character)).toList.filter (·.1 == name) = [] := by
      simpa using apart
    rw [fieldPairs_append readableValue readable single, List.filter_append, added, List.append_nil]
  · have unreadable : ¬(value ++ semicolon :: segment).all Headers.isReadable = true := by
      simp [readableValue]
    rw [fieldPairs_of_unreadable unreadable, fieldPairs_of_unreadable readableValue]

end Cookies

namespace Request

/-- The request with these fields `Cookie` in the place of its own. -/
def withCookies (request : Request) (values : List Bytes) : Request :=
  { request with headers := request.headers.replace Headers.cookie values }

theorem cookieValues?_withCookies (request : Request) (values : List Bytes) (name : String) :
    (request.withCookies values).cookieValues? name =
      valuesNamed? name (values.flatMap Cookies.fieldPairs) := by
  rw [cookieValues?, Cookies.pairs_eq_flatMap, withCookies, Headers.values_replace, if_pos rfl]

variable {request : Request} {before after : List Bytes} {value segment : Bytes}

/-- Appending a segment to a field changes nothing under another name exactly if the segment can be read
or the field had nothing under that name. If it cannot be read, the field is as good as absent. -/
theorem cookieValues?_append
    (fields : request.headers.values Headers.cookie = before ++ value :: after)
    (single : Cookies.semicolon ∉ segment) :
    let changed := request.withCookies (before ++ (value ++ Cookies.semicolon :: segment) :: after)
    (∀ name, Utf8.encode name ≠ Cookies.ownName segment →
      (changed.cookieValues? name = request.cookieValues? name ↔
        segment.all Headers.isReadable = true ∨
          (request.withCookies [value]).cookieValues? name = none)) ∧
      (¬segment.all Headers.isReadable = true → ∀ name,
        changed.cookieValues? name = (request.withCookies (before ++ after)).cookieValues? name) := by
  intro changed
  have unreadable (lost : ¬segment.all Headers.isReadable = true) :
      Cookies.fieldPairs (value ++ Cookies.semicolon :: segment) = [] :=
    Cookies.fieldPairs_of_unreadable (by simp [lost])
  constructor
  · intro name other
    have field : changed.cookieValues? name = request.cookieValues? name ↔
        ((Cookies.fieldPairs (value ++ Cookies.semicolon :: segment)).filter
          (·.1 == name)).map Prod.snd =
        ((Cookies.fieldPairs value).filter (·.1 == name)).map Prod.snd := by
      rw [cookieValues?_withCookies, cookieValues?, Cookies.pairs_eq_flatMap, fields,
        valuesNamed?_eq_iff]
      simp
    rw [field]
    by_cases readable : segment.all Headers.isReadable = true
    · rw [Cookies.filter_fieldPairs_append other readable single]
      simp [readable]
    · have absent := valuesNamed?_eq_iff name (Cookies.fieldPairs value) []
      rw [unreadable readable, cookieValues?_withCookies, List.flatMap_singleton, or_iff_right readable]
      exact eq_comm.trans absent.symm
  · intro lost name
    rw [cookieValues?_withCookies, cookieValues?_withCookies, List.flatMap_append, List.flatMap_append,
      List.flatMap_cons, unreadable lost, List.nil_append]

/-- A value with an equals sign beside a name that occurs in two fields. -/
theorem cookieValues?_append_beside :
    let fields := [Utf8.encode "a=0", Utf8.encode "c=2; a=1"]
    let segment := Utf8.encode " b\t= x=y "
    let request : Request := ⟨"GET", ⟨"/", none⟩, ⟨[("cookie", fields)]⟩, [], []⟩
    let changed := request.withCookies
      [Utf8.encode "a=0" ++ Cookies.semicolon :: segment, Utf8.encode "c=2; a=1"]
    Cookies.semicolon ∉ segment ∧ Utf8.encode "a" ≠ Cookies.ownName segment ∧
      request.cookieValues? "a" = some ["0", "1"] ∧
      changed.cookieValues? "a" = request.cookieValues? "a" := by
  intro fields segment request changed
  have single : Cookies.semicolon ∉ segment := by decide
  have other : Utf8.encode "a" ≠ Cookies.ownName segment := by decide
  have values : request.headers.values Headers.cookie =
      [] ++ Utf8.encode "a=0" :: [Utf8.encode "c=2; a=1"] := rfl
  exact ⟨single, other, by decide,
    ((cookieValues?_append values single).1 "a" other).mpr (.inl (by decide))⟩

/-- A byte outside ASCII in one cookie makes its neighbour disappear. -/
theorem cookieValues?_append_lost :
    let segment := Utf8.encode "b=" ++ [0xFF]
    let request : Request := ⟨"GET", ⟨"/", none⟩, ⟨[("cookie", [Utf8.encode "a=1"])]⟩, [], []⟩
    let changed := request.withCookies [Utf8.encode "a=1" ++ Cookies.semicolon :: segment]
    (∀ byte ∈ segment, byte = 0x09 ∨ 0x20 ≤ byte ∧ byte ≠ 0x7F) ∧ Cookies.semicolon ∉ segment ∧
      Utf8.encode "a" ≠ Cookies.ownName segment ∧
      request.cookieValues? "a" = some ["1"] ∧ changed.cookieValues? "a" = none := by
  intro segment request changed
  have bytes : segment = [0x62, 0x3D, 0xFF] := rfl
  exact ⟨by simp [bytes], by decide, by decide, by decide, by decide⟩

end Request

end HttpHandler
