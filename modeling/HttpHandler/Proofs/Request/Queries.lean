import Mathlib.Data.List.Forall2
import Mathlib.Data.List.ReduceOption
import HttpHandler.Request
import HttpHandler.Proofs.Request.NamedValues
import HttpHandler.Proofs.Text.Utf8

/-!
# Written queries

The pairs that a query string was made of come back when it is read: each under its name, and the values
of a name in the order they were written. A name or a value may be any text, since each of its bytes can
be written as a percent sign and two digits.
-/

namespace HttpHandler

namespace Query

def percent : UInt8 := 0x25

/-- Whether a byte is the hexadecimal digit of a number, in either case. -/
def IsDigit (n : Nat) (digit : UInt8) : Prop :=
  (Utf8.encode "0123456789ABCDEF")[n]? = some digit ∨
    (Utf8.encode "0123456789abcdef")[n]? = some digit

/-- `Spells written bytes` says that bytes were written so that they can stand on either side of an
equals sign: any as a percent sign and two digits, one that is not reserved also as itself, and a space
also as a plus sign. -/
inductive Spells : Bytes → Bytes → Prop where
  | nil : Spells [] []
  | escaped {byte high low : UInt8} {written bytes : Bytes}
    (highDigit : IsDigit (byte.toNat / 16) high) (lowDigit : IsDigit (byte.toNat % 16) low)
    (rest : Spells written bytes) : Spells (percent :: high :: low :: written) (byte :: bytes)
  | plain {byte : UInt8} {written bytes : Bytes}
    (unreserved : byte ∉ [ampersand, equals, plus, percent]) (rest : Spells written bytes) :
    Spells (byte :: written) (byte :: bytes)
  | blank {written bytes : Bytes} (rest : Spells written bytes) :
    Spells (plus :: written) (space :: bytes)

/-- What may stand between two ampersands: a pair, or nothing. -/
inductive WritesPiece : Bytes → Option (String × String) → Prop where
  | pair {name value : String} {writtenName writtenValue : Bytes}
    (spellsName : Spells writtenName (Utf8.encode name))
    (spellsValue : Spells writtenValue (Utf8.encode value)) :
    WritesPiece (writtenName ++ equals :: writtenValue) (some (name, value))
  | nothing : WritesPiece [] none

/-- `Writes query pairs` says that a query string consists of pieces with ampersands between them,
which write the pairs in order and otherwise nothing. -/
def Writes (query : String) (pairs : List (String × String)) : Prop :=
  ∃ pieces written, List.Forall₂ WritesPiece pieces written ∧ written.reduceOption = pairs ∧
    Utf8.encode query = [ampersand].intercalate pieces

theorem value?_of_isDigit {n : Nat} {digit : UInt8} (isDigit : IsDigit n digit) :
    Hex.value? digit = some n := by
  have upper : ∀ n < 16, (Utf8.encode "0123456789ABCDEF")[n]?.bind Hex.value? = some n := by decide
  have lower : ∀ n < 16, (Utf8.encode "0123456789abcdef")[n]?.bind Hex.value? = some n := by decide
  rcases isDigit with found | found
  · obtain ⟨small, -⟩ := List.getElem?_eq_some_iff.mp found
    simpa [found] using upper n small
  · obtain ⟨small, -⟩ := List.getElem?_eq_some_iff.mp found
    simpa [found] using lower n small

/-- Bytes written as percent signs and digits alone. -/
def percentEncode (bytes : Bytes) : Bytes :=
  let digit (n : Nat) : UInt8 := (Utf8.encode "0123456789ABCDEF")[n]?.getD percent
  bytes.flatMap fun byte => [percent, digit (byte.toNat / 16), digit (byte.toNat % 16)]

/-- Any bytes can be written. -/
theorem spells_percentEncode (bytes : Bytes) : Spells (percentEncode bytes) bytes := by
  have isDigit : ∀ n < 16, IsDigit n ((Utf8.encode "0123456789ABCDEF")[n]?.getD percent) := by
    unfold IsDigit
    decide
  induction bytes with
  | nil => exact .nil
  | cons byte rest ih =>
      have small := byte.toNat_lt
      exact .escaped (isDigit _ (by omega)) (isDigit _ (by omega)) ih

theorem ne_of_isDigit {n : Nat} {digit separator : UInt8} (isDigit : IsDigit n digit)
    (other : Hex.value? separator = none) : digit ≠ separator := by
  rintro rfl
  exact nomatch other.symm.trans (value?_of_isDigit isDigit)

theorem percentDecode_cons_of_ne {byte : UInt8} (other : byte ≠ percent) (rest : Bytes) :
    percentDecode (byte :: rest) = byte :: percentDecode rest := by
  rw [percentDecode]
  rintro high low tail rfl
  exact absurd rfl other

theorem percentDecode_escaped {byte high low : UInt8} (highDigit : IsDigit (byte.toNat / 16) high)
    (lowDigit : IsDigit (byte.toNat % 16) low) (rest : Bytes) :
    percentDecode (percent :: high :: low :: rest) = byte :: percentDecode rest := by
  have whole : byte.toNat / 16 * 16 + byte.toNat % 16 = byte.toNat := Nat.div_add_mod' _ _
  rw [percent, percentDecode, value?_of_isDigit highDigit, value?_of_isDigit lowDigit]
  simp only [whole, UInt8.ofNat_toNat]

theorem percentDecode_of_spells {written bytes : Bytes} (spells : Spells written bytes) :
    percentDecode (written.map fun byte => if byte = plus then space else byte) = bytes := by
  induction spells with
  | nil => rfl
  | @escaped byte high low written bytes highDigit lowDigit rest ih =>
      have sign : percent ≠ plus := by decide
      have highDiffers : high ≠ plus := ne_of_isDigit highDigit rfl
      have lowDiffers : low ≠ plus := ne_of_isDigit lowDigit rfl
      simp only [List.map_cons, if_neg sign, if_neg highDiffers, if_neg lowDiffers]
      rw [percentDecode_escaped highDigit lowDigit, ih]
  | plain unreserved rest ih =>
      simp only [List.mem_cons, not_or] at unreserved
      obtain ⟨-, -, notPlus, notPercent, -⟩ := unreserved
      rw [List.map_cons, if_neg notPlus, percentDecode_cons_of_ne notPercent, ih]
  | blank rest ih =>
      have plain : space ≠ percent := by decide
      rw [List.map_cons, if_pos rfl, percentDecode_cons_of_ne plain, ih]

theorem decode_of_spells {written : Bytes} {text : String}
    (spells : Spells written (Utf8.encode text)) : decode written = text := by
  rw [decode, percentDecode_of_spells spells, Utf8.decodeLossy_encode]

/-- What separates names, values and pairs is never part of what is written of them. -/
theorem Spells.notMem {written bytes : Bytes} (spells : Spells written bytes) :
    ampersand ∉ written ∧ equals ∉ written := by
  induction spells with
  | nil => simp
  | @escaped byte high low written bytes highDigit lowDigit rest ih =>
      have sign : ampersand ≠ percent ∧ equals ≠ percent := by decide
      have highDiffers : ampersand ≠ high ∧ equals ≠ high :=
        ⟨(ne_of_isDigit highDigit rfl).symm, (ne_of_isDigit highDigit rfl).symm⟩
      have lowDiffers : ampersand ≠ low ∧ equals ≠ low :=
        ⟨(ne_of_isDigit lowDigit rfl).symm, (ne_of_isDigit lowDigit rfl).symm⟩
      simp [ih, sign, highDiffers, lowDiffers]
  | plain unreserved rest ih =>
      simp only [List.mem_cons, not_or] at unreserved
      obtain ⟨notAmpersand, notEquals, -⟩ := unreserved
      simp [ih, Ne.symm notAmpersand, Ne.symm notEquals]
  | blank rest ih =>
      have sign : ampersand ≠ plus ∧ equals ≠ plus := by decide
      simp [ih, sign]

theorem pairOf_of_spells {writtenName writtenValue : Bytes} {name value : String}
    (spellsName : Spells writtenName (Utf8.encode name))
    (spellsValue : Spells writtenValue (Utf8.encode value)) :
    pairOf (writtenName ++ equals :: writtenValue) = (name, value) := by
  have before : ∀ byte ∈ writtenName, (byte != equals) = true := by
    intro byte member
    exact bne_iff_ne.mpr (ne_of_mem_of_not_mem member spellsName.notMem.2)
  rw [pairOf, List.takeWhile_append_of_pos before, List.dropWhile_append_of_pos before]
  simp [decode_of_spells spellsName, decode_of_spells spellsValue]

theorem WritesPiece.notMem {piece : Bytes} {pair? : Option (String × String)}
    (writes : WritesPiece piece pair?) : ampersand ∉ piece := by
  cases writes with
  | nothing => simp
  | pair spellsName spellsValue =>
      have sign : ampersand ≠ equals := by decide
      simp [sign, spellsName.notMem.1, spellsValue.notMem.1]

/-- Pieces in which nothing is written are passed over, and the others are read back. -/
theorem map_pairOf_of_writes {pieces : List Bytes} {written : List (Option (String × String))}
    (writes : List.Forall₂ WritesPiece pieces written) :
    (pieces.filter (· != [])).map pairOf = written.reduceOption := by
  induction writes with
  | nil => rfl
  | cons first rest ih =>
      cases first with
      | nothing => simpa using ih
      | pair spellsName spellsValue => simpa [pairOf_of_spells spellsName spellsValue] using ih

theorem pairs_of_writes {query : String} {pairs : List (String × String)}
    (writes : Writes query pairs) : Query.pairs (Utf8.encode query) = pairs := by
  obtain ⟨pieces, written, each, rfl, bytes⟩ := writes
  have plain : ∀ piece ∈ pieces, ampersand ∉ piece :=
    ((List.forall₂_and_left pieces written).mp (each.imp fun _ _ piece => ⟨piece.notMem, piece⟩)).1
  rw [Query.pairs, bytes, ← map_pairOf_of_writes each]
  cases pieces with
  | nil => rfl
  | cons first rest => rw [List.splitOn_intercalate ampersand plain (List.cons_ne_nil first rest)]

end Query

theorem Request.queryPairs_eq (request : Request) :
    request.queryPairs = Query.pairs (Utf8.encode (request.target.query.getD "")) := by
  rw [queryPairs]
  cases request.target.query <;> rfl

/-- The values of a name are those that were written under it, in order and whatever stands between
them, and there are none exactly if the name was not written. -/
theorem Request.queryValues?_of_writes {request : Request} {pairs : List (String × String)}
    (writes : Query.Writes (request.target.query.getD "") pairs) (name : String) :
    (request.queryValues? name).getD [] = (pairs.filter (·.1 == name)).map Prod.snd ∧
      (request.queryValues? name = none ↔ ∀ value, (name, value) ∉ pairs) := by
  rw [queryValues?, request.queryPairs_eq, Query.pairs_of_writes writes]
  exact ⟨getD_valuesNamed? name pairs, valuesNamed?_eq_none_iff name pairs⟩

/-- Reserved characters, an empty name, a repeated name and one without any value. The digits are of
either case, and empty pieces stand between the pairs. -/
theorem Request.queryValues?_of_writes_reserved :
    let request : Request := ⟨"GET", ⟨"/", some "%74=%C3%A9&&=%3d+%2B&%74=&"⟩, .empty, [], []⟩
    let pairs := [("t", "é"), ("", "= +"), ("t", "")]
    Query.Writes (request.target.query.getD "") pairs ∧
      (request.queryValues? "t").getD [] = ["é", ""] ∧
      (request.queryValues? "").getD [] = ["= +"] ∧ request.queryValues? "é" = none := by
  intro request pairs
  have lower : Query.Spells [0x25, 0x33, 0x64, 0x2B, 0x25, 0x32, 0x42] (Utf8.encode "= +") :=
    .escaped (.inl rfl) (.inr rfl) (.blank (.escaped (.inl rfl) (.inl rfl) .nil))
  have writes : Query.Writes (request.target.query.getD "") pairs := by
    refine ⟨_, [some ("t", "é"), none, some ("", "= +"), some ("t", ""), none],
      .cons (.pair (Query.spells_percentEncode _) (Query.spells_percentEncode _)) (.cons .nothing
        (.cons (.pair .nil lower) (.cons (.pair (Query.spells_percentEncode _) .nil)
          (.cons .nothing .nil)))), rfl, by decide⟩
  exact ⟨writes, (queryValues?_of_writes writes "t").1, (queryValues?_of_writes writes "").1,
    (queryValues?_of_writes writes "é").2.mpr (by simp [pairs])⟩

end HttpHandler
