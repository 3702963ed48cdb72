/-
Whole numbers in decimal: how they are spelled, and with which digits they are written.

* `Spells`, `readChars_eq_ok_iff`: a number is read in every spelling, and nothing else is.
* `Misspells`, `readChars_eq_error_iff`: what is wrong with all else.
* `spells_toDigits`, `toDigits_cases`: a number is written in one of them, without needless zeros.
-/

import TrainingLauncher.Decimal

namespace TrainingLauncher

namespace Decimal

variable {limit value number : Nat} {chars : List Char} {fault : Fault}

/-- A number is spelled with one or more digits; a plus sign may stand before them. -/
def Spells (chars : List Char) (number : Nat) : Prop :=
  ∃ digits, (chars = digits ∨ chars = '+' :: digits) ∧ digits ≠ [] ∧
    (∀ char ∈ digits, char.isDigit = true) ∧ Nat.ofDigitChars 10 digits 0 = number

/-- Digits that are appended make a number no smaller. -/
theorem le_ofDigitChars (digits : List Char) (value : Nat) :
    value ≤ Nat.ofDigitChars 10 digits value := by
  rw [Nat.ofDigitChars_eq_ofDigitChars_zero]
  have factor : 1 * value ≤ 10 ^ digits.length * value :=
    Nat.mul_le_mul_right value (Nat.pow_pos (by decide))
  omega

/-- All digits are read as long as the number is in range. -/
theorem readDigits_eq_ok_iff (small : value ≤ limit) :
    readDigits limit value chars = .ok number ↔
      (∀ char ∈ chars, char.isDigit = true) ∧ Nat.ofDigitChars 10 chars value = number ∧
        number ≤ limit := by
  induction chars generalizing value with
  | nil =>
    simp only [readDigits, Except.ok.injEq, List.not_mem_nil, false_implies, implies_true,
      Nat.ofDigitChars_nil, true_and]
    exact ⟨fun same => ⟨same, same ▸ small⟩, fun ⟨same, _⟩ => same⟩
  | cons char rest ih =>
    rw [readDigits, List.forall_mem_cons, Nat.ofDigitChars_cons]
    by_cases digit : char.isDigit = true
    · rw [if_pos digit, and_iff_right digit]
      by_cases fits : 10 * value + digitValue char ≤ limit
      · simp only [if_pos fits]
        exact ih fits
      · simp only [if_neg fits]
        refine iff_of_false (fun same => by cases same) ?_
        rintro ⟨-, rfl, below⟩
        exact fits (Nat.le_trans (le_ofDigitChars rest _) below)
    · rw [if_neg digit]
      exact iff_of_false (fun same => by cases same) fun ⟨⟨first, _⟩, _⟩ => digit first

/-- Where no sign stands, the digits are the whole spelling. -/
theorem spells_iff_of_unsigned (unsigned : ∀ digits, chars ≠ '+' :: digits) :
    Spells chars number ↔ chars ≠ [] ∧ (∀ char ∈ chars, char.isDigit = true) ∧
      Nat.ofDigitChars 10 chars 0 = number := by
  constructor
  · rintro ⟨digits, rfl | signed, spelled⟩
    · exact spelled
    · exact (unsigned digits signed).elim
  · intro spelled
    exact ⟨chars, .inl rfl, spelled⟩

/-- Behind a sign the digits are the rest. -/
theorem spells_iff_of_signed {digits : List Char} :
    Spells ('+' :: digits) number ↔ digits ≠ [] ∧ (∀ char ∈ digits, char.isDigit = true) ∧
      Nat.ofDigitChars 10 digits 0 = number := by
  constructor
  · rintro ⟨others, rfl | same, spelled⟩
    · exact absurd (spelled.2.1 '+' List.mem_cons_self) (by decide)
    · exact (List.cons.inj same).2 ▸ spelled
  · intro spelled
    exact ⟨digits, .inr rfl, spelled⟩

/-- **The numbers in range are read in every spelling**, and nothing else is. -/
theorem readChars_eq_ok_iff :
    readChars limit chars = .ok number ↔ Spells chars number ∧ number ≤ limit := by
  unfold readChars
  split
  · refine iff_of_false (fun same => by cases same) ?_
    rw [spells_iff_of_unsigned (fun _ same => by cases same)]
    exact fun ⟨⟨filled, _⟩, _⟩ => filled rfl
  · refine iff_of_false (fun same => by cases same) ?_
    rw [spells_iff_of_signed]
    exact fun ⟨⟨filled, _⟩, _⟩ => filled rfl
  · rename_i digits alone
    have filled : digits ≠ [] := fun none => alone (none ▸ rfl)
    rw [readDigits_eq_ok_iff (Nat.zero_le limit), spells_iff_of_signed, and_iff_right filled,
      and_assoc]
  · rename_i filled _ unsigned
    rw [readDigits_eq_ok_iff (Nat.zero_le limit), spells_iff_of_unsigned unsigned,
      and_iff_right filled, and_assoc]

/-- What spoils digits that are appended to a number: the first other character, after digits that
fit, or a digit too many. -/
inductive Spoils (limit value : Nat) (chars : List Char) : Fault → Prop
  | notADigit {digits after : List Char} {char : Char} (split : chars = digits ++ char :: after)
      (all : ∀ digit ∈ digits, digit.isDigit = true)
      (fits : Nat.ofDigitChars 10 digits value ≤ limit) (other : char.isDigit = false) :
      Spoils limit value chars .notADigit
  | tooLarge {digits after : List Char} (split : chars = digits ++ after)
      (all : ∀ digit ∈ digits, digit.isDigit = true)
      (exceeds : limit < Nat.ofDigitChars 10 digits value) : Spoils limit value chars .tooLarge

/-- What is wrong with characters that spell no number in range. -/
inductive Misspells (limit : Nat) (chars : List Char) : Fault → Prop
  | empty (nothing : chars = []) : Misspells limit chars .empty
  | signAlone (alone : chars = ['+']) : Misspells limit chars .notADigit
  | signed {digits : List Char} {fault : Fault} (sign : chars = '+' :: digits)
      (spoils : Spoils limit 0 digits fault) : Misspells limit chars fault
  | unsigned {fault : Fault} (plain : ∀ digits, chars ≠ '+' :: digits)
      (spoils : Spoils limit 0 chars fault) : Misspells limit chars fault

theorem not_spoils_nil (small : value ≤ limit) : ¬ Spoils limit value [] fault := by
  rintro (⟨split, -, -, -⟩ | ⟨split, -, exceeds⟩)
  · simp at split
  · rw [(List.append_eq_nil_iff.mp split.symm).1, Nat.ofDigitChars_nil] at exceeds
    omega

/-- A digit that fits spoils nothing. -/
theorem spoils_cons_iff {char : Char} {rest : List Char} (digit : char.isDigit = true)
    (fits : 10 * value + digitValue char ≤ limit) :
    Spoils limit value (char :: rest) fault ↔
      Spoils limit (10 * value + digitValue char) rest fault := by
  constructor
  · rintro (@⟨digits, _, _, split, all, small, other⟩ | @⟨digits, _, split, all, exceeds⟩)
    · cases digits with
      | nil =>
        rw [← (List.cons.inj split).1, digit] at other
        cases other
      | cons first digits =>
        obtain ⟨rfl, same⟩ := List.cons.inj split
        rw [Nat.ofDigitChars_cons] at small
        exact .notADigit same (List.forall_mem_cons.mp all).2 small other
    · cases digits with
      | nil =>
        rw [Nat.ofDigitChars_nil] at exceeds
        omega
      | cons first digits =>
        obtain ⟨rfl, same⟩ := List.cons.inj split
        rw [Nat.ofDigitChars_cons] at exceeds
        exact .tooLarge same (List.forall_mem_cons.mp all).2 exceeds
  · rintro (⟨split, all, small, other⟩ | ⟨split, all, exceeds⟩)
    · exact .notADigit (congrArg (char :: ·) split) (List.forall_mem_cons.mpr ⟨digit, all⟩)
        (by rwa [Nat.ofDigitChars_cons]) other
    · exact .tooLarge (congrArg (char :: ·) split) (List.forall_mem_cons.mpr ⟨digit, all⟩)
        (by rwa [Nat.ofDigitChars_cons])

/-- A digit too many is what is wrong, whatever comes after it. -/
theorem spoils_cons_iff_of_exceeds {char : Char} {rest : List Char} (digit : char.isDigit = true)
    (exceeds : limit < 10 * value + digitValue char) :
    Spoils limit value (char :: rest) fault ↔ fault = .tooLarge := by
  constructor
  · rintro (@⟨digits, _, _, split, all, small, other⟩ | -)
    · cases digits with
      | nil =>
        rw [← (List.cons.inj split).1, digit] at other
        cases other
      | cons first digits =>
        rw [← (List.cons.inj split).1, Nat.ofDigitChars_cons] at small
        exact absurd (Nat.le_trans (le_ofDigitChars digits _) small) (Nat.not_le.mpr exceeds)
    · rfl
  · rintro rfl
    have split : char :: rest = [char] ++ rest := rfl
    exact .tooLarge split (by simpa using digit)
      (by rwa [Nat.ofDigitChars_cons, Nat.ofDigitChars_nil])

/-- Another character is what is wrong, whatever comes after it. -/
theorem spoils_cons_iff_of_other {char : Char} {rest : List Char} (small : value ≤ limit)
    (other : char.isDigit = false) :
    Spoils limit value (char :: rest) fault ↔ fault = .notADigit := by
  constructor
  · rintro (- | @⟨digits, _, split, all, exceeds⟩)
    · rfl
    · cases digits with
      | nil =>
        rw [Nat.ofDigitChars_nil] at exceeds
        omega
      | cons first digits =>
        rw [(List.cons.inj split).1, all first List.mem_cons_self] at other
        cases other
  · rintro rfl
    exact .notADigit (List.nil_append _).symm (List.forall_mem_nil _) small other

/-- Digits that are not all read are spoiled. -/
theorem readDigits_eq_error_iff (small : value ≤ limit) :
    readDigits limit value chars = .error fault ↔ Spoils limit value chars fault := by
  induction chars generalizing value with
  | nil => exact iff_of_false (fun same => by cases same) (not_spoils_nil small)
  | cons char rest ih =>
    rw [readDigits]
    cases digit : char.isDigit with
    | false =>
      rw [if_neg Bool.false_ne_true, spoils_cons_iff_of_other small digit, Except.error.injEq,
        eq_comm]
    | true =>
      rw [if_pos rfl]
      by_cases fits : 10 * value + digitValue char ≤ limit
      · rw [spoils_cons_iff digit fits, ← ih fits]
        simp only [if_pos fits]
      · rw [spoils_cons_iff_of_exceeds digit (Nat.not_le.mp fits)]
        simp only [if_neg fits, Except.error.injEq, eq_comm]

/-- **All that is not read is misspelled**, and the error says how. -/
theorem readChars_eq_error_iff :
    readChars limit chars = .error fault ↔ Misspells limit chars fault := by
  have spoiled (digits : List Char) :
      readDigits limit 0 digits = .error fault ↔ Spoils limit 0 digits fault :=
    readDigits_eq_error_iff (Nat.zero_le limit)
  constructor
  · intro failed
    unfold readChars at failed
    split at failed
    · cases failed
      exact .empty rfl
    · cases failed
      exact .signAlone rfl
    · exact .signed rfl ((spoiled _).mp failed)
    · rename_i unsigned
      exact .unsigned unsigned ((spoiled _).mp failed)
  · rintro (rfl | rfl | ⟨rfl, spoils⟩ | ⟨plain, spoils⟩)
    · rfl
    · rfl
    · rename_i digits
      cases digits with
      | nil => exact absurd spoils (not_spoils_nil (Nat.zero_le limit))
      | cons first rest => exact (spoiled _).mpr spoils
    · unfold readChars
      split
      · exact absurd spoils (not_spoils_nil (Nat.zero_le limit))
      · exact absurd rfl (plain _)
      · exact absurd rfl (plain _)
      · exact (spoiled _).mpr spoils

theorem isDigit_of_mem_toDigits {char : Char} (inside : char ∈ Nat.toDigits 10 number) :
    char.isDigit = true :=
  Nat.isDigit_of_mem_toDigits (by decide) (by decide) inside

/-- Of a number that is not zero the first digit is not zero. -/
theorem head?_toDigits_ne_zero (positive : 0 < number) :
    (Nat.toDigits 10 number).head? ≠ some '0' := by
  induction number using Nat.strongRecOn with
  | ind number ih =>
    by_cases small : number < 10
    · rw [Nat.toDigits_of_lt_base small]
      intro same
      have digit : number.digitChar.toNat = '0'.toNat := by rw [Option.some.inj same]
      rw [Nat.toNat_digitChar_of_lt_ten small] at digit
      have zero : '0'.toNat = 48 := by decide
      omega
    · have tens : 0 < number / 10 := by omega
      have less : number / 10 < number := by omega
      rw [Nat.toDigits_of_base_le (by decide) (by omega), List.head?_append]
      intro same
      cases head : (Nat.toDigits 10 (number / 10)).head? with
      | none => exact Nat.toDigits_ne_nil (List.head?_eq_none_iff.mp head)
      | some first =>
        rw [head, Option.some_or] at same
        exact ih _ less tens (head.trans same)

/-- A number is written as a zero, or with digits of which the first is no zero. -/
theorem toDigits_cases (number : Nat) : Nat.toDigits 10 number = ['0'] ∨
    ∃ first others, Nat.toDigits 10 number = first :: others ∧ first ≠ '0' ∧
      ∀ char ∈ first :: others, char.isDigit = true := by
  rcases Nat.eq_zero_or_pos number with rfl | positive
  · exact .inl (Nat.toDigits_zero 10)
  · obtain ⟨first, others, written⟩ := List.exists_cons_of_ne_nil
      (Nat.toDigits_ne_nil : Nat.toDigits 10 number ≠ [])
    have nonzero := head?_toDigits_ne_zero positive
    refine .inr ⟨first, others, written, ?_, ?_⟩
    · rintro rfl
      exact nonzero (congrArg List.head? written)
    · rw [← written]
      exact fun _ => isDigit_of_mem_toDigits

/-- The digits that a number is written with spell it. -/
theorem spells_toDigits (number : Nat) : Spells (Nat.toDigits 10 number) number :=
  ⟨_, .inl rfl, Nat.toDigits_ne_nil, fun _ => isDigit_of_mem_toDigits,
    Nat.ofDigitChars_ten_toDigits⟩

theorem toList_toString (number : Nat) : (toString number).toList = Nat.toDigits 10 number := by
  rw [Nat.toString_eq_repr, Nat.toList_repr]

/-- A spelling has signs and digits only. -/
theorem Spells.mem {char : Char} (spelled : Spells chars number) (inside : char ∈ chars) :
    char = '+' ∨ char.isDigit = true := by
  obtain ⟨digits, rfl | rfl, -, figures, -⟩ := spelled
  · exact .inr (figures char inside)
  · exact (List.mem_cons.mp inside).imp_right (figures char)

end Decimal

end TrainingLauncher
