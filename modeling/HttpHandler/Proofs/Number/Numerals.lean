import HttpHandler.Number.Integer

/-!
# Numerals

A text is read as an integer exactly if it is a numeral of an integer in the range: one or more ASCII
digits with at most one sign before them. A numeral outside the range is refused for its size, however
long it is, and the decimal text of every integer in the range is read back.
-/

namespace HttpHandler.Number

/-- One or more ASCII digits. -/
structure AreDigits (characters : List Char) : Prop where
  nonempty : characters ≠ []
  digits : ∀ c ∈ characters, c.isDigit = true

instance (characters : List Char) : Decidable (AreDigits characters) :=
  decidable_of_iff (characters ≠ [] ∧ characters.all Char.isDigit = true)
    ⟨fun ⟨nonempty, digits⟩ => ⟨nonempty, List.all_eq_true.mp digits⟩,
      fun are => ⟨are.nonempty, List.all_eq_true.mpr are.digits⟩⟩

/-- `IsNumeral characters n` says that some characters are digits, with at most one sign before them, and
that `n` is the integer which they stand for. -/
inductive IsNumeral : List Char → Int → Prop where
  | unsigned {digits : List Char} (are : AreDigits digits) :
    IsNumeral digits (Nat.ofDigitChars 10 digits 0)
  | plus {digits : List Char} (are : AreDigits digits) :
    IsNumeral ('+' :: digits) (Nat.ofDigitChars 10 digits 0)
  | minus {digits : List Char} (are : AreDigits digits) :
    IsNumeral ('-' :: digits) (-(Nat.ofDigitChars 10 digits 0 : Int))

theorem areDigits_toDigits (n : Nat) : AreDigits (Nat.toDigits 10 n) :=
  ⟨Nat.toDigits_ne_nil, fun _ member => Nat.isDigit_of_mem_toDigits (by decide) (by decide) member⟩

theorem IsNumeral.characters {characters : List Char} {n : Int} (numeral : IsNumeral characters n) :
    ∀ c ∈ characters, c.isDigit = true ∨ c = '+' ∨ c = '-' := by
  cases numeral with
  | unsigned are => exact fun c member => .inl (are.digits c member)
  | plus are =>
      exact List.forall_mem_cons.mpr
        ⟨.inr (.inl rfl), fun c member => .inl (are.digits c member)⟩
  | minus are =>
      exact List.forall_mem_cons.mpr
        ⟨.inr (.inr rfl), fun c member => .inl (are.digits c member)⟩

theorem AreDigits.not_signed {sign : Char} {rest : List Char} (are : AreDigits (sign :: rest)) :
    sign ≠ '+' ∧ sign ≠ '-' := by
  have digit := are.digits sign List.mem_cons_self
  constructor
  · rintro rfl
    contradiction
  · rintro rfl
    contradiction

/-- Characters are a numeral of a single integer. -/
theorem IsNumeral.eq {characters : List Char} {n m : Int} (numeral : IsNumeral characters n)
    (other : IsNumeral characters m) : n = m := by
  cases numeral with
  | unsigned are =>
      cases other with
      | unsigned _ => rfl
      | plus _ => exact absurd rfl are.not_signed.1
      | minus _ => exact absurd rfl are.not_signed.2
  | plus _ =>
      cases other with
      | unsigned are => exact absurd rfl are.not_signed.1
      | plus _ => rfl
  | minus _ =>
      cases other with
      | unsigned are => exact absurd rfl are.not_signed.2
      | minus _ => rfl

/-- The decimal text of an integer is a numeral of it. -/
theorem isNumeral_toString (n : Int) : IsNumeral (toString n).toList n := by
  cases n with
  | ofNat n =>
      have spelled := IsNumeral.unsigned (areDigits_toDigits n)
      rw [Nat.ofDigitChars_ten_toDigits] at spelled
      have text : (toString (Int.ofNat n)).toList = Nat.toDigits 10 n := Nat.toList_repr
      rw [text]
      exact spelled
  | negSucc n =>
      have spelled := IsNumeral.minus (areDigits_toDigits (n + 1))
      rw [Nat.ofDigitChars_ten_toDigits] at spelled
      have text : (toString (Int.negSucc n)).toList = '-' :: Nat.toDigits 10 (n + 1) := by
        change ("-" ++ (n + 1).repr).toList = _
        rw [String.toList_append, Nat.toList_repr]
        rfl
      rw [text]
      exact spelled

theorem digit?_of_isDigit {c : Char} (digit : c.isDigit = true) :
    digit? c = some (c.toNat - '0'.toNat) := by
  have bounds : '0' ≤ c ∧ c ≤ '9' := by
    simpa [Char.isDigit, Char.le_def] using digit
  rw [digit?, if_pos bounds]

theorem isDigit_of_digit? {c : Char} {d : Nat} (digit : digit? c = some d) : c.isDigit = true := by
  rw [digit?] at digit
  split at digit
  · rename_i bounds
    simpa [Char.isDigit, Char.le_def] using bounds
  · contradiction

theorem le_ofDigitChars (digits : List Char) (value : Nat) :
    value ≤ Nat.ofDigitChars 10 digits value := by
  induction digits generalizing value with
  | nil => exact Nat.le_refl value
  | cons c rest ih =>
      rw [Nat.ofDigitChars_cons]
      have next := ih (10 * value + (c.toNat - '0'.toNat))
      omega

variable {bound : Nat} {overflow : IntegerError}

/-- Digits are read as their number if that is within the bound. A number that once exceeds the bound does
so to the end, so that it does not matter how many digits follow. -/
theorem readDigits_of_digits {digits : List Char} (are : ∀ c ∈ digits, c.isDigit = true) {value : Nat}
    (within : value ≤ bound) :
    readDigits bound overflow value digits =
      if Nat.ofDigitChars 10 digits value ≤ bound then .ok (Nat.ofDigitChars 10 digits value)
      else .error overflow := by
  induction digits generalizing value with
  | nil => rw [readDigits, Nat.ofDigitChars_nil, if_pos within]
  | cons c rest ih =>
      have first := digit?_of_isDigit (are c List.mem_cons_self)
      have others : ∀ other ∈ rest, other.isDigit = true := fun other member =>
        are other (List.mem_cons_of_mem c member)
      rw [readDigits, first, Nat.ofDigitChars_cons, Nat.mul_comm 10 value]
      by_cases fits : value * 10 + (c.toNat - '0'.toNat) ≤ bound
      · exact (if_pos fits).trans (ih others fits)
      · have grows := le_ofDigitChars rest (value * 10 + (c.toNat - '0'.toNat))
        have exceeds : ¬Nat.ofDigitChars 10 rest (value * 10 + (c.toNat - '0'.toNat)) ≤ bound := by
          omega
        rw [if_neg exceeds]
        exact if_neg fits

theorem digits_of_readDigits {digits : List Char} {value number : Nat}
    (read : readDigits bound overflow value digits = .ok number) :
    ∀ c ∈ digits, c.isDigit = true := by
  induction digits generalizing value with
  | nil => exact fun c member => absurd member List.not_mem_nil
  | cons c rest ih =>
      rw [readDigits] at read
      split at read
      · contradiction
      · rename_i digit
        split at read
        · exact List.forall_mem_cons.mpr ⟨isDigit_of_digit? digit, ih read⟩
        · contradiction

namespace Range

variable {range : Range}

theorem readCharacters_digits {digits : List Char} (are : AreDigits digits) :
    range.readCharacters digits =
      Int.ofNat <$> readDigits range.greatest.toNat .tooLarge 0 digits := by
  obtain ⟨c, rest, rfl⟩ := List.exists_cons_of_ne_nil are.nonempty
  obtain ⟨plus, minus⟩ := are.not_signed
  rw [readCharacters] <;> simp [plus, minus]

theorem readCharacters_plus {digits : List Char} (are : AreDigits digits) :
    range.readCharacters ('+' :: digits) =
      Int.ofNat <$> readDigits range.greatest.toNat .tooLarge 0 digits := by
  obtain ⟨c, rest, rfl⟩ := List.exists_cons_of_ne_nil are.nonempty
  rfl

theorem readCharacters_minus (negative : range.least < 0) {digits : List Char}
    (are : AreDigits digits) :
    range.readCharacters ('-' :: digits) =
      (fun magnitude : Nat => -(magnitude : Int)) <$>
        readDigits (-range.least).toNat .tooSmall 0 digits := by
  obtain ⟨c, rest, rfl⟩ := List.exists_cons_of_ne_nil are.nonempty
  exact if_pos negative

/-- A range that has zero and negative integers in it. -/
structure IsSigned (range : Range) : Prop where
  least : range.least < 0
  greatest : 0 ≤ range.greatest

/-- A numeral is read as its integer, or refused for its size. -/
theorem readCharacters_of_isNumeral (signed : range.IsSigned) {characters : List Char} {n : Int}
    (numeral : IsNumeral characters n) :
    range.readCharacters characters =
      if n < range.least then .error .tooSmall
      else if range.greatest < n then .error .tooLarge
      else .ok n := by
  obtain ⟨least, greatest⟩ := signed
  -- Each sign bounds the number on its own side, and the bound of the other side is never met.
  have upward {digits : List Char} (are : AreDigits digits) :
      Int.ofNat <$> readDigits range.greatest.toNat .tooLarge 0 digits =
        if (Nat.ofDigitChars 10 digits 0 : Int) < range.least then .error .tooSmall
        else if range.greatest < Nat.ofDigitChars 10 digits 0 then .error .tooLarge
        else .ok (Nat.ofDigitChars 10 digits 0 : Int) := by
    have notLess : ¬(Nat.ofDigitChars 10 digits 0 : Int) < range.least := by omega
    rw [readDigits_of_digits are.digits (Nat.zero_le _), if_neg notLess]
    by_cases fits : Nat.ofDigitChars 10 digits 0 ≤ range.greatest.toNat
    · have notGreater : ¬range.greatest < Nat.ofDigitChars 10 digits 0 := by omega
      rw [if_pos fits, if_neg notGreater]
      rfl
    · have greater : range.greatest < Nat.ofDigitChars 10 digits 0 := by omega
      rw [if_neg fits, if_pos greater]
      rfl
  cases numeral with
  | unsigned are => exact (readCharacters_digits are).trans (upward are)
  | plus are => exact (readCharacters_plus are).trans (upward are)
  | @minus digits are =>
      have notGreater : ¬range.greatest < -(Nat.ofDigitChars 10 digits 0 : Int) := by omega
      rw [readCharacters_minus least are, readDigits_of_digits are.digits (Nat.zero_le _),
        if_neg notGreater]
      by_cases fits : Nat.ofDigitChars 10 digits 0 ≤ (-range.least).toNat
      · have notLess : ¬-(Nat.ofDigitChars 10 digits 0 : Int) < range.least := by omega
        rw [if_pos fits, if_neg notLess]
        rfl
      · have less : -(Nat.ofDigitChars 10 digits 0 : Int) < range.least := by omega
        rw [if_neg fits, if_pos less]
        rfl

theorem areDigits_of_map_readDigits {digits : List Char} {f : Nat → Int} {n : Int}
    (some : digits ≠ []) (read : f <$> readDigits bound overflow 0 digits = .ok n) :
    AreDigits digits := by
  cases found : readDigits bound overflow 0 digits with
  | error error =>
      rw [found] at read
      contradiction
  | ok number => exact ⟨some, digits_of_readDigits found⟩

theorem exists_isNumeral_of_readCharacters {characters : List Char} {n : Int}
    (read : range.readCharacters characters = .ok n) : ∃ m, IsNumeral characters m := by
  rw [readCharacters.eq_def] at read
  split at read
  · contradiction
  · contradiction
  · contradiction
  · rename_i digits some
    exact ⟨_, .plus (areDigits_of_map_readDigits some read)⟩
  · rename_i digits some
    split at read
    · exact ⟨_, .minus (areDigits_of_map_readDigits some read)⟩
    · contradiction
  · rename_i digits some _ _ _ _
    exact ⟨_, .unsigned (areDigits_of_map_readDigits some read)⟩

/-- A text is read as an integer exactly if it is a numeral of it and the integer is in the range. -/
theorem read_eq_ok_iff (signed : range.IsSigned) (text : String) (n : Int) :
    range.read text = .ok n ↔
      IsNumeral text.toList n ∧ range.least ≤ n ∧ n ≤ range.greatest := by
  constructor
  · intro read
    obtain ⟨m, numeral⟩ := exists_isNumeral_of_readCharacters read
    have known := (readCharacters_of_isNumeral signed numeral).symm.trans read
    split at known
    · contradiction
    · split at known
      · contradiction
      · obtain rfl := Except.ok.inj known
        exact ⟨numeral, by omega, by omega⟩
  · rintro ⟨numeral, least, greatest⟩
    have notLess : ¬n < range.least := by omega
    have notGreater : ¬range.greatest < n := by omega
    exact (readCharacters_of_isNumeral signed numeral).trans
      ((if_neg notLess).trans (if_neg notGreater))

end Range

end HttpHandler.Number
