import Mathlib.Data.List.Basic
import HttpHandler.Text.Basic

/-!
# Reading what was written

Text that is written as bytes is read back, character by character: of the bytes of a character the
first tells how many follow, and each of the others adds six bits.
-/

namespace HttpHandler.Utf8

variable {byte low high : UInt8} {code : Nat}

theorem toNat_ofNat_of_lt {n : Nat} (small : n < 256) : (UInt8.ofNat n).toNat = n := by
  simp only [UInt8.toNat_ofNat']
  omega

theorem not_lt_of_toNat_le {bound : UInt8} (le : bound.toNat ≤ byte.toNat) : ¬byte < bound :=
  UInt8.not_lt.mpr (UInt8.le_iff_toNat_le.mpr le)

section Start

/-! What a byte that begins a character says of it. -/

theorem start_of_one (most : byte.toNat < 0x80) :
    State.start byte = ([some (Char.ofNat byte.toNat)], .ready) :=
  if_pos (UInt8.lt_iff_toNat_lt.mpr most)

theorem start_of_two (least : 0xC2 ≤ byte.toNat) (most : byte.toNat < 0xE0) :
    State.start byte = ([], .within 0 0x80 0xBF (byte.toNat - 0xC0)) := by
  have notOne : ¬byte < 0x80 := not_lt_of_toNat_le (Nat.le_trans (by decide) least)
  have begins : ¬byte < 0xC2 := not_lt_of_toNat_le least
  have two : byte < 0xE0 := UInt8.lt_iff_toNat_lt.mpr most
  rw [State.start, if_neg notOne, if_neg begins, if_pos two]

theorem start_of_three (least : 0xE0 ≤ byte.toNat) (most : byte.toNat < 0xF0) :
    State.start byte =
      ([], .within 1 (if byte = 0xE0 then 0xA0 else 0x80) (if byte = 0xED then 0x9F else 0xBF)
        (byte.toNat - 0xE0)) := by
  have notOne : ¬byte < 0x80 := not_lt_of_toNat_le (Nat.le_trans (by decide) least)
  have begins : ¬byte < 0xC2 := not_lt_of_toNat_le (Nat.le_trans (by decide) least)
  have notTwo : ¬byte < 0xE0 := not_lt_of_toNat_le least
  have three : byte < 0xF0 := UInt8.lt_iff_toNat_lt.mpr most
  rw [State.start, if_neg notOne, if_neg begins, if_neg notTwo, if_pos three]

theorem start_of_four (least : 0xF0 ≤ byte.toNat) (most : byte.toNat < 0xF5) :
    State.start byte =
      ([], .within 2 (if byte = 0xF0 then 0x90 else 0x80) (if byte = 0xF4 then 0x8F else 0xBF)
        (byte.toNat - 0xF0)) := by
  have notOne : ¬byte < 0x80 := not_lt_of_toNat_le (Nat.le_trans (by decide) least)
  have begins : ¬byte < 0xC2 := not_lt_of_toNat_le (Nat.le_trans (by decide) least)
  have notTwo : ¬byte < 0xE0 := not_lt_of_toNat_le (Nat.le_trans (by decide) least)
  have notThree : ¬byte < 0xF0 := not_lt_of_toNat_le least
  have four : byte < 0xF5 := UInt8.lt_iff_toNat_lt.mpr most
  rw [State.start, if_neg notOne, if_neg begins, if_neg notTwo, if_neg notThree, if_pos four]

end Start

/-- A byte that continues a character, from its six bits. -/
def continuation (bits : Nat) : UInt8 := UInt8.ofNat (bits % 64 + 0x80)

theorem toNat_continuation (bits : Nat) : (continuation bits).toNat = bits % 64 + 0x80 :=
  toNat_ofNat_of_lt (by omega)

theorem scan_within_zero {bits : Nat} (least : low.toNat ≤ bits % 64 + 0x80)
    (most : bits % 64 + 0x80 ≤ high.toNat) (rest : Bytes) :
    scan (.within 0 low high code) (continuation bits :: rest) =
      some (Char.ofNat (code * 64 + bits % 64)) :: scan .ready rest := by
  have inside : low ≤ continuation bits ∧ continuation bits ≤ high := by
    rw [UInt8.le_iff_toNat_le, UInt8.le_iff_toNat_le, toNat_continuation]
    exact ⟨least, most⟩
  rw [scan, State.step, if_pos inside, toNat_continuation, Nat.add_sub_cancel]
  rfl

theorem scan_within_succ {bits pending : Nat} (least : low.toNat ≤ bits % 64 + 0x80)
    (most : bits % 64 + 0x80 ≤ high.toNat) (rest : Bytes) :
    scan (.within (pending + 1) low high code) (continuation bits :: rest) =
      scan (.within pending 0x80 0xBF (code * 64 + bits % 64)) rest := by
  have inside : low ≤ continuation bits ∧ continuation bits ≤ high := by
    rw [UInt8.le_iff_toNat_le, UInt8.le_iff_toNat_le, toNat_continuation]
    exact ⟨least, most⟩
  rw [scan, State.step, if_pos inside, toNat_continuation, Nat.add_sub_cancel]
  rfl

section Characters

/-! A character of each length, with what follows it. The bits of its bytes make up its code again. -/

variable {v : Nat} (rest : Bytes)

theorem scan_one (most : v ≤ 0x7F) :
    scan .ready (UInt8.ofNat v :: rest) = some (Char.ofNat v) :: scan .ready rest := by
  have lead : (UInt8.ofNat v).toNat = v := toNat_ofNat_of_lt (by omega)
  rw [scan, State.step, start_of_one (by omega), lead]
  rfl

theorem scan_two (least : 0x7F < v) (most : v ≤ 0x7FF) :
    scan .ready (UInt8.ofNat (v / 64 % 0x20 + 0xC0) :: continuation v :: rest) =
      some (Char.ofNat v) :: scan .ready rest := by
  have lead := toNat_ofNat_of_lt (show v / 64 % 0x20 + 0xC0 < 256 by omega)
  have code : v / 64 % 0x20 * 64 + v % 64 = v := by omega
  rw [scan, State.step, start_of_two (by omega) (by omega), lead, Nat.add_sub_cancel,
    List.nil_append, scan_within_zero (by simp) (by simp; omega), code]

theorem scan_three (least : 0x7FF < v) (most : v ≤ 0xFFFF) (scalar : v < 0xD800 ∨ 0xDFFF < v) :
    scan .ready (UInt8.ofNat (v / 4096 % 0x10 + 0xE0) :: continuation (v / 64) ::
      continuation v :: rest) = some (Char.ofNat v) :: scan .ready rest := by
  have lead := toNat_ofNat_of_lt (show v / 4096 % 0x10 + 0xE0 < 256 by omega)
  have code : (v / 4096 % 0x10 * 64 + v / 64 % 64) * 64 + v % 64 = v := by omega
  rw [scan, State.step, start_of_three (by omega) (by omega), lead, Nat.add_sub_cancel,
    List.nil_append, scan_within_succ, scan_within_zero (by simp) (by simp; omega), code]
  -- Behind 0xE0 the second byte is not too small, and behind 0xED it stays below the surrogates.
  · simp only [apply_ite UInt8.toNat, ← UInt8.toNat_inj, lead, UInt8.reduceToNat]
    split <;> omega
  · simp only [apply_ite UInt8.toNat, ← UInt8.toNat_inj, lead, UInt8.reduceToNat]
    split <;> omega

theorem scan_four (least : 0xFFFF < v) (most : v < 0x110000) :
    scan .ready (UInt8.ofNat (v / 262144 % 0x08 + 0xF0) :: continuation (v / 4096) ::
      continuation (v / 64) :: continuation v :: rest) =
      some (Char.ofNat v) :: scan .ready rest := by
  have lead := toNat_ofNat_of_lt (show v / 262144 % 0x08 + 0xF0 < 256 by omega)
  have code : ((v / 262144 % 0x08 * 64 + v / 4096 % 64) * 64 + v / 64 % 64) * 64 + v % 64 = v := by
    omega
  rw [scan, State.step, start_of_four (by omega) (by omega), lead, Nat.add_sub_cancel,
    List.nil_append, scan_within_succ, scan_within_succ (by simp) (by simp; omega),
    scan_within_zero (by simp) (by simp; omega), code]
  -- Behind 0xF0 the second byte is not too small, and behind 0xF4 not too large for a code point.
  · simp only [apply_ite UInt8.toNat, ← UInt8.toNat_inj, lead, UInt8.reduceToNat]
    split <;> omega
  · simp only [apply_ite UInt8.toNat, ← UInt8.toNat_inj, lead, UInt8.reduceToNat]
    split <;> omega

end Characters

theorem scan_utf8EncodeChar (c : Char) (rest : Bytes) :
    scan .ready (String.utf8EncodeChar c ++ rest) = some c :: scan .ready rest := by
  have valid : c.val.toNat < 0xD800 ∨ 0xDFFF < c.val.toNat ∧ c.val.toNat < 0x110000 := c.valid
  have code : Char.ofNat c.val.toNat = c := Char.ofNat_toNat c
  rw [String.utf8EncodeChar]
  split
  case isTrue one => exact (scan_one rest one).trans (by rw [code])
  case isFalse notOne =>
    split
    case isTrue two => exact (scan_two rest (by omega) two).trans (by rw [code])
    case isFalse notTwo =>
      split
      case isTrue three =>
        exact (scan_three rest (by omega) three (by omega)).trans (by rw [code])
      case isFalse notThree => exact (scan_four rest (by omega) (by omega)).trans (by rw [code])

theorem encode_of_ascii {text : String} (ascii : ∀ c ∈ text.toList, c.toNat < 0x80) :
    encode text = text.toList.map fun c => UInt8.ofNat c.toNat := by
  have one : ∀ c ∈ text.toList, String.utf8EncodeChar c = [UInt8.ofNat c.toNat] :=
    fun c member => if_pos (Nat.le_of_lt_succ (ascii c member))
  rw [encode, List.flatMap_congr one]
  exact List.flatMap_pure_eq_map _ _

theorem scan_encode (text : String) : scan .ready (encode text) = text.toList.map some := by
  rw [encode]
  induction text.toList with
  | nil => rfl
  | cons c rest ih => rw [List.flatMap_cons, scan_utf8EncodeChar, ih, List.map_cons]

theorem decodeLossy_encode (text : String) : decodeLossy (encode text) = text := by
  rw [decodeLossy, scan_encode, List.map_map]
  exact (congrArg String.ofList (List.map_id text.toList)).trans String.ofList_toList

end HttpHandler.Utf8
