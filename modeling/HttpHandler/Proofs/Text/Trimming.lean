import Mathlib.Data.List.DropRight
import Mathlib.Data.List.TakeWhile
import HttpHandler.Text.Basic

/-!
# Trimming

Trimming takes away blanks around a text and nothing else: blanks that are added are lost again, and a
text between two characters that are no blanks is kept.
-/

namespace HttpHandler.Text

variable {c : Char} {before after : List Char}

theorem trimEnd_append_of_blank (blank : ∀ c ∈ after, isBlank c = true) (text : List Char) :
    trimEnd (text ++ after) = trimEnd text := by
  rw [trimEnd, List.reverse_append, List.dropWhile_append_of_pos (by simpa using blank), trimEnd]

theorem trim_append_of_blank (blank : ∀ c ∈ after, isBlank c = true) (text : List Char) :
    trim (text ++ after) = trim text := by
  rw [trim, trim, List.dropWhile_append]
  split
  case isFalse => exact trimEnd_append_of_blank blank _
  case isTrue all =>
    rw [List.isEmpty_iff.mp all, List.dropWhile_eq_nil_iff.mpr blank]

theorem trim_blank_append (blank : ∀ c ∈ before, isBlank c = true) (text : List Char) :
    trim (before ++ text) = trim text := by
  rw [trim, trim, List.dropWhile_append_of_pos blank]

theorem trim_dropWhile (text : List Char) : trim (text.dropWhile isBlank) = trim text := by
  rw [trim, trim, List.dropWhile_idempotent]

theorem trim_trimEnd (text : List Char) : trim (trimEnd text) = trim text := by
  have blank : ∀ c ∈ text.rtakeWhile isBlank, isBlank c = true := fun c => List.mem_rtakeWhile_imp
  have whole : trimEnd text ++ text.rtakeWhile isBlank = text :=
    List.rdropWhile_append_rtakeWhile
  have added := trim_append_of_blank blank (trimEnd text)
  rw [whole] at added
  exact added.symm

theorem trim_trim (text : List Char) : trim (trim text) = trim text := by
  have trimmed := trim_trimEnd (text.dropWhile isBlank)
  rw [trim_dropWhile] at trimmed
  exact trimmed

/-- A character that is no blank stops the trimming from both sides. -/
theorem trim_append_cons (visible : isBlank c = false) (before after : List Char) :
    trim (before ++ c :: after) = before.dropWhile isBlank ++ c :: trimEnd after := by
  have start : (before ++ c :: after).dropWhile isBlank =
      before.dropWhile isBlank ++ c :: after := by
    rw [List.dropWhile_append]
    split
    case isFalse => rfl
    case isTrue all =>
      rw [List.isEmpty_iff.mp all, List.dropWhile_cons_of_neg (by simp [visible]), List.nil_append]
  rw [trim, start]
  simp [trimEnd, List.dropWhile_append, visible]

theorem trim_eq_self {text : List Char} (starts : ∀ c ∈ text.head?, isBlank c = false)
    (ends : ∀ c ∈ text.getLast?, isBlank c = false) : trim text = text := by
  have front : text.dropWhile isBlank = text := by
    cases text with
    | nil => rfl
    | cons first rest => exact List.dropWhile_cons_of_neg (by simp [starts first rfl])
  have back : text.rdropWhile isBlank = text := by
    rw [List.rdropWhile_eq_self_iff]
    intro nonempty
    simp [ends (text.getLast nonempty) (List.getLast?_eq_some_getLast nonempty)]
  rw [trim, front]
  exact back

end HttpHandler.Text
