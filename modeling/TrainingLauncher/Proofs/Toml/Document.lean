/-
Documents of plain settings, read back. A setting is a line with a key and a value; what it takes
for the line to be read on its own belongs to the setting. A document of settings is then read line
by line, and with different keys it is the table of its settings.

* `Numeral`: a number at the end of a line, which is no date, no time and no fraction.
* `value_digits`, `value_quoted`: numbers and texts are read back as values.
* `Setting`, `Setting.ofText`, `Setting.ofNumber`: lines that are read on their own.
* `document_lines`: a document of settings is the table of their values.
-/

import TrainingLauncher.Proofs.Decimal
import TrainingLauncher.Proofs.Toml.Quotation
import TrainingLauncher.Toml.Document

namespace TrainingLauncher.Toml

/-- Digits at the end of a line. -/
def Numeral (source : List Char) : Prop :=
  ∃ digits rest, source = digits ++ '\n' :: rest ∧ ∀ char ∈ digits, char.isDigit = true

section Numbers

variable {source rest digits : List Char} {number : Nat}

/-- The end of a line is no digit. -/
theorem isDigit_newline : '\n'.isDigit = false := by decide

/-- A number at the end of a line goes on with a digit, or the line ends. -/
theorem Numeral.eq_cons (numeral : Numeral source) :
    ∃ char rest, source = char :: rest ∧ (char.isDigit = true ∨ char = '\n') := by
  obtain ⟨digits, rest, rfl, all⟩ := numeral
  cases digits with
  | nil => exact ⟨'\n', rest, rfl, .inr rfl⟩
  | cons digit others => exact ⟨digit, _, rfl, .inl (all digit List.mem_cons_self)⟩

/-- Nothing but a digit or the end of the line comes next. -/
theorem Numeral.ne_cons (numeral : Numeral source) {other : Char}
    (unlike : other.isDigit = false ∧ other ≠ '\n') : source ≠ other :: rest := by
  rintro rfl
  obtain ⟨char, others, same, digit | newline⟩ := numeral.eq_cons
  · rw [← (List.cons.inj same).1, unlike.1] at digit
    cases digit
  · exact unlike.2 ((List.cons.inj same).1.trans newline)

theorem Numeral.after_eq_none (numeral : Numeral source) {expected : Char}
    (unlike : expected.isDigit = false ∧ expected ≠ '\n') :
    Moment.after expected source = none := by
  obtain ⟨char, others, rfl, -⟩ := numeral.eq_cons
  have different : char ≠ expected := by
    rintro rfl
    exact numeral.ne_cons unlike rfl
  exact if_neg different

/-- After two digits of a number comes the rest of the number. -/
theorem Numeral.of_twoDigits {value : Nat} (numeral : Numeral source)
    (read : Moment.twoDigits source = some (value, rest)) : Numeral rest := by
  obtain ⟨digits, others, rfl, all⟩ := numeral
  match digits with
  | [] =>
    cases others with
    | nil => cases read
    | cons next others => simp [Moment.twoDigits, isDigit_newline] at read
  | [digit] => simp [Moment.twoDigits, isDigit_newline] at read
  | first :: second :: digits =>
    have more : ∀ char ∈ digits, char.isDigit = true := fun char inside =>
      all char (List.mem_cons_of_mem _ (List.mem_cons_of_mem _ inside))
    simp only [Moment.twoDigits, List.cons_append, Option.ite_none_right_eq_some,
      Option.some.injEq, Prod.mk.injEq] at read
    exact ⟨digits, others, read.2.2.symm, more⟩

/-- A number is not a date: no dash follows its first four digits. -/
theorem Numeral.date_eq_none (numeral : Numeral source) : Moment.date source = none := by
  unfold Moment.date
  cases century : Moment.twoDigits source with
  | none => rfl
  | some pair =>
    have afterCentury := numeral.of_twoDigits century
    cases inCentury : Moment.twoDigits pair.2 with
    | none => simp [inCentury]
    | some next =>
      have dash : Moment.after '-' next.2 = none :=
        (afterCentury.of_twoDigits inCentury).after_eq_none (by decide)
      simp [inCentury, dash]

/-- A number is not a time of day: no colon follows its first two digits. -/
theorem Numeral.time_eq_none (numeral : Numeral source) : Moment.time source = none := by
  unfold Moment.time
  cases hour : Moment.between 0 23 source with
  | none => rfl
  | some rest =>
    have afterHour : Numeral rest := by
      unfold Moment.between at hour
      split at hour
      · rename_i value others read
        rw [Option.ite_none_right_eq_some] at hour
        cases hour.2
        exact numeral.of_twoDigits read
      · cases hour
    simp [afterHour.after_eq_none (by decide : ':'.isDigit = false ∧ ':' ≠ '\n')]

/-- A number carries no sign. -/
theorem Numeral.sign_eq (numeral : Numeral source) : Number.sign source = (false, source) := by
  unfold Number.sign
  split
  · exact absurd rfl (numeral.ne_cons (by decide))
  · exact absurd rfl (numeral.ne_cons (by decide))
  · rfl

theorem moreDigits_append (all : ∀ char ∈ digits, char.isDigit = true) :
    Number.moreDigits Char.isDigit (digits ++ '\n' :: rest) = (digits, '\n' :: rest) := by
  induction digits with
  | nil =>
    rw [List.nil_append, Number.moreDigits.eq_def]
    simp [isDigit_newline]
  | cons digit others ih =>
    obtain ⟨first, later⟩ := List.forall_mem_cons.mp all
    rw [List.cons_append, Number.moreDigits.eq_def]
    simp [first, ih later]

theorem numeral_toDigits (number : Nat) (rest : List Char) :
    Numeral (Nat.toDigits 10 number ++ '\n' :: rest) :=
  ⟨_, rest, rfl, fun _ => Decimal.isDigit_of_mem_toDigits⟩

/-- The digits of a number are read up to the end of the line. -/
theorem decimal_toDigits (number : Nat) (rest : List Char) :
    Number.decimal (Nat.toDigits 10 number ++ '\n' :: rest) =
      some (Nat.toDigits 10 number, '\n' :: rest) := by
  rcases Decimal.toDigits_cases number with written | ⟨first, others, written, other, digits⟩
  · rw [written]
    rfl
  · obtain ⟨digit, later⟩ := List.forall_mem_cons.mp digits
    rw [written]
    unfold Number.decimal
    split
    · rename_i same
      exact absurd (List.cons.inj same).1 other
    · simp [Number.digits, digit, moreDigits_append later]

theorem hexDigit?_of_isDigit {char : Char} (digit : char.isDigit = true) :
    Quotation.hexDigit? char = some (char.toNat - '0'.toNat) := by
  have between : '0' ≤ char ∧ char ≤ '9' := by
    simpa [Char.isDigit, Char.le_def] using digit
  exact if_pos between

/-- Digits have the value of the number they are the digits of. -/
theorem value_toDigits (number : Nat) : Number.value 10 (Nat.toDigits 10 number) = number := by
  have agree (digits : List Char) (all : ∀ char ∈ digits, char.isDigit = true) (total : Nat) :
      digits.foldl (fun total digit => 10 * total + (Quotation.hexDigit? digit).getD 0) total =
        Nat.ofDigitChars 10 digits total := by
    induction digits generalizing total with
    | nil => rfl
    | cons first others ih =>
      obtain ⟨digit, later⟩ := List.forall_mem_cons.mp all
      rw [List.foldl_cons, ih later, Nat.ofDigitChars_cons, hexDigit?_of_isDigit digit]
      rfl
  rw [Number.value, agree _ fun _ => Decimal.isDigit_of_mem_toDigits]
  exact Nat.ofDigitChars_ten_toDigits

/-- Digits alone are neither a fraction nor infinite. -/
theorem afterFloat_toDigits (number : Nat) (rest : List Char) :
    Number.afterFloat (Nat.toDigits 10 number ++ '\n' :: rest) = none := by
  have numeral := numeral_toDigits number rest
  unfold Number.afterFloat
  rw [numeral.sign_eq]
  simp only
  split
  · rename_i same
    exact absurd same (numeral.ne_cons (by decide))
  · rename_i same
    exact absurd same (numeral.ne_cons (by decide))
  · simp [decimal_toDigits, Number.fraction, Number.exponent]

/-- A whole number of 64 bits is read back from its digits. -/
theorem integer_toDigits (small : number ≤ 9223372036854775807) (rest : List Char) :
    Number.integer (Nat.toDigits 10 number ++ '\n' :: rest) =
      some ((number : Int), '\n' :: rest) := by
  have numeral := numeral_toDigits number rest
  have read := decimal_toDigits number rest
  have inRange : Number.inRange (number : Int) = some (number : Int) := by
    unfold Number.inRange
    exact if_pos (by omega)
  -- after a zero the line ends, so that no letter names a radix
  have ends {next : Char} {others : List Char}
      (same : Nat.toDigits 10 number ++ '\n' :: rest = '0' :: next :: others) : next = '\n' := by
    rw [same] at read
    exact (List.cons.inj (Prod.mk.inj (Option.some.inj read)).2).1
  unfold Number.integer
  split
  · rename_i same
    exact absurd (ends same) (by decide)
  · rename_i same
    exact absurd (ends same) (by decide)
  · rename_i same
    exact absurd (ends same) (by decide)
  · rw [numeral.sign_eq]
    simp [read, value_toDigits, Number.signed, inRange]

end Numbers

section Values

variable {number : Nat}

/-- **A whole number at the end of a line is read back from its digits.** -/
theorem value_digits (small : number ≤ 9223372036854775807) (depth : Nat) (rest : List Char) :
    value depth (Nat.toDigits 10 number ++ '\n' :: rest) =
      some (.integer number, '\n' :: rest) := by
  have numeral := numeral_toDigits number rest
  have read : scalar (Nat.toDigits 10 number ++ '\n' :: rest) =
      some (.integer number, '\n' :: rest) := by
    simp only [scalar, Moment.afterMoment, numeral.date_eq_none, numeral.time_eq_none,
      afterFloat_toDigits, integer_toDigits small]
  unfold value
  split
  · exact absurd ‹_› (numeral.ne_cons (by decide))
  · exact absurd ‹_› (numeral.ne_cons (by decide))
  · exact absurd ‹_› (numeral.ne_cons (by decide))
  · exact absurd ‹_› (numeral.ne_cons (by decide))
  · exact absurd ‹_› (numeral.ne_cons (by decide))
  · exact absurd ‹_› (numeral.ne_cons (by decide))
  · exact read

/-- **A text at the end of a line is read back from between its quotes.** -/
theorem value_quoted (text : String) (depth : Nat) (rest : List Char) :
    value depth ((Quotation.choose text.toList).write text.toList ++ '\n' :: rest) =
      some (.text text, '\n' :: rest) := by
  have stops : ∀ style ∈ Quotation.styles, ('\n' :: rest).head? ≠ some style.quote :=
    fun style proper same => (Quotation.quote_ne_of_mem proper).2.1 (Option.some.inj same).symm
  have read := Quotation.text_write text.toList stops
  obtain ⟨quote, shown, written, rfl | rfl⟩ := Quotation.write_eq_cons text.toList
  · rw [written, List.cons_append] at read ⊢
    simp [value, read]
  · rw [written, List.cons_append] at read ⊢
    simp [value, read]

end Values

section Lines

variable {char : Char} {rest : List Char}

theorem skipSpaces_cons (shown : isSpace char = false) :
    skipSpaces (char :: rest) = char :: rest := by
  simp [skipSpaces, shown]

/-- A character of a plain key starts nothing else. -/
theorem isKeyChar_unlike (plain : isKeyChar char = true) :
    isSpace char = false ∧ char ≠ '"' ∧ char ≠ '\'' ∧ char ≠ '[' ∧ char ≠ '#' ∧ char ≠ '\n' ∧
      char ≠ '\r' := by
  refine ⟨?_, ?_, ?_, ?_, ?_, ?_, ?_⟩
  · by_cases space : char = ' '
    · subst space
      exact absurd plain (by decide)
    by_cases tab : char = '\t'
    · subst tab
      exact absurd plain (by decide)
    simp [isSpace, space, tab]
  all_goals
    rintro rfl
    exact absurd plain (by decide)

/-- A digit, and a quote, is no blank. -/
theorem isSpace_of_isDigit (digit : char.isDigit = true) : isSpace char = false :=
  (isKeyChar_unlike (by simp [isKeyChar, Char.isAlphanum, digit])).1

end Lines

/-- A key that needs no quotes. -/
def IsBare (key : String) : Prop := key ≠ "" ∧ key.toList.all isKeyChar = true

instance (key : String) : Decidable (IsBare key) := inferInstanceAs (Decidable (_ ∧ _))

/-- A line that puts a value under a plain key, and is read on its own. -/
structure Setting where
  key : String
  value : Value
  /-- The value as it is written. -/
  shown : List Char
  bare : IsBare key
  flush : ∀ rest, skipSpaces (shown ++ rest) = shown ++ rest
  reads : ∀ rest, Toml.value depthLimit (shown ++ '\n' :: rest) = some (value, '\n' :: rest)

namespace Setting

/-- The setting as a line. -/
def line (setting : Setting) : List Char :=
  setting.key.toList ++ [' ', '=', ' '] ++ setting.shown ++ ['\n']

/-- The setting as an entry of a table. -/
def entry (setting : Setting) : String × Value := (setting.key, setting.value)

/-- The setting as a statement. -/
def statement (setting : Setting) : Statement := .assignment [] setting.key setting.value

/-- A setting whose value is a text. -/
def ofText (key : String) (bare : IsBare key) (text : String) : Setting where
  key := key
  value := .text text
  shown := (Quotation.choose text.toList).write text.toList
  bare := bare
  flush rest := by
    obtain ⟨quote, shown, written, rfl | rfl⟩ := Quotation.write_eq_cons text.toList
    · rw [written]
      exact skipSpaces_cons (by decide)
    · rw [written]
      exact skipSpaces_cons (by decide)
  reads rest := value_quoted text depthLimit rest

/-- A setting whose value is a whole number of 64 bits. -/
def ofNumber (key : String) (bare : IsBare key) (number : Nat)
    (small : number ≤ 9223372036854775807) : Setting where
  key := key
  value := .integer number
  shown := Nat.toDigits 10 number
  bare := bare
  flush rest := by
    cases digits : Nat.toDigits 10 number with
    | nil => exact absurd digits Nat.toDigits_ne_nil
    | cons first others =>
      have digit : first.isDigit = true :=
        Decimal.isDigit_of_mem_toDigits (digits ▸ List.mem_cons_self)
      exact skipSpaces_cons (isSpace_of_isDigit digit)
  reads rest := value_digits small depthLimit rest

section Reading

variable (setting : Setting) (rest : List Char)

theorem line_append : setting.line ++ rest =
    setting.key.toList ++ ' ' :: '=' :: ' ' :: (setting.shown ++ '\n' :: rest) := by
  simp [line]

/-- A line starts with a character of its key. -/
theorem line_eq_cons : ∃ first more, setting.line ++ rest = first :: more ∧
    isKeyChar first = true := by
  have filled := setting.bare.1
  have plain := List.all_eq_true.mp setting.bare.2
  rw [line_append]
  cases chars : setting.key.toList with
  | nil => exact absurd (String.toList_eq_nil_iff.mp chars) filled
  | cons first others => exact ⟨first, _, rfl, plain first (chars ▸ List.mem_cons_self)⟩

theorem skipSpaces_line : skipSpaces (setting.line ++ rest) = setting.line ++ rest := by
  obtain ⟨first, more, starts, plain⟩ := setting.line_eq_cons rest
  rw [starts]
  exact skipSpaces_cons (isKeyChar_unlike plain).1

/-- A line is not empty. -/
theorem endOfLine_line : endOfLine (setting.line ++ rest) = none := by
  obtain ⟨first, more, starts, plain⟩ := setting.line_eq_cons rest
  obtain ⟨space, -, -, -, hash, newline, back⟩ := isKeyChar_unlike plain
  rw [starts]
  unfold endOfLine
  rw [skipSpaces_cons space]
  simp [hash, lineBreak?_cons_of_ne newline back]

theorem keyPart_line : keyPart (setting.line ++ rest) =
    some (setting.key, ' ' :: '=' :: ' ' :: (setting.shown ++ '\n' :: rest)) := by
  obtain ⟨first, more, starts, plain⟩ := setting.line_eq_cons rest
  obtain ⟨-, double, single, -⟩ := isKeyChar_unlike plain
  have unquoted : Quotation.line (setting.line ++ rest) = none := by
    rw [starts]
    simp [Quotation.line, double, single]
  have filled : setting.key.toList ≠ [] := fun none =>
    setting.bare.1 (String.toList_eq_nil_iff.mp none)
  have plain := List.all_eq_true.mp setting.bare.2
  have blank : isKeyChar ' ' = false := by decide
  unfold keyPart
  rw [unquoted, line_append, List.takeWhile_append_of_pos plain,
    List.dropWhile_append_of_pos plain]
  simp [blank, filled]

/-- The key of a line leads nowhere else. -/
theorem key_line : Toml.key (setting.line ++ rest) =
    some (([], setting.key), '=' :: ' ' :: (setting.shown ++ '\n' :: rest)) := by
  have next : skipSpaces (' ' :: '=' :: ' ' :: (setting.shown ++ '\n' :: rest)) =
      '=' :: ' ' :: (setting.shown ++ '\n' :: rest) := rfl
  simp [Toml.key, depthLimit, keyParts, skipSpaces_line, keyPart_line, next]

/-- **A line is read on its own**, up to its end. -/
theorem statement_line :
    Toml.statement (setting.line ++ rest) = some (setting.statement, '\n' :: rest) := by
  have next : skipSpaces (' ' :: (setting.shown ++ '\n' :: rest)) =
      setting.shown ++ '\n' :: rest :=
    setting.flush _
  have read : pair (Toml.value depthLimit) (setting.line ++ rest) =
      some (([], setting.key, setting.value), '\n' :: rest) := by
    simp [pair, key_line, next, setting.reads]
  obtain ⟨first, more, starts, plain⟩ := setting.line_eq_cons rest
  obtain ⟨-, -, -, bracket, -⟩ := isKeyChar_unlike plain
  rw [starts] at read ⊢
  unfold Toml.statement
  split
  · rename_i same
    exact absurd (List.cons.inj same).1 bracket
  · rename_i same
    exact absurd (List.cons.inj same).1 bracket
  · rw [read]
    rfl

end Reading

end Setting

section Documents

variable {settings : List Setting}

/-- The lines of settings. -/
def lines (settings : List Setting) : List Char := settings.flatMap Setting.line

theorem lines_cons (setting : Setting) (others : List Setting) :
    lines (setting :: others) = setting.line ++ lines others := List.flatMap_cons

/-- Every line takes a character at least. -/
theorem length_le_lines (settings : List Setting) : settings.length ≤ (lines settings).length := by
  induction settings with
  | nil => exact Nat.le_refl _
  | cons setting others ih =>
    rw [lines_cons, List.length_append, List.length_cons]
    have one : 1 ≤ setting.line.length := by simp [Setting.line]; omega
    omega

/-- The statements of a document are its settings, one after the other. -/
theorem statements_lines {bound : Nat} (enough : settings.length < bound) :
    statements bound (lines settings) = some (settings.map Setting.statement) := by
  induction settings generalizing bound with
  | nil =>
    cases bound with
    | zero => cases enough
    | succ bound => rfl
  | cons setting others ih =>
    cases bound with
    | zero => cases enough
    | succ bound =>
      have later := ih (Nat.lt_of_succ_lt_succ enough)
      have ended : endOfLine ('\n' :: lines others) = some (lines others) := rfl
      obtain ⟨first, more, starts, -⟩ := setting.line_eq_cons (lines others)
      have next := setting.skipSpaces_line (lines others)
      have unfinished := setting.endOfLine_line (lines others)
      have read := setting.statement_line (lines others)
      rw [lines_cons, statements, next]
      rw [starts] at unfinished read ⊢
      simp [unfinished, read, ended, later]

/-- Under a new key a value is put at the end of a table. -/
theorem assignBelow_of_lookup_eq_none {entries : Entries} {key : String} (value : Value)
    (fresh : entries.lookup key = none) :
    entries.assignBelow [] [] key value = some (entries ++ [(key, value)]) := by
  simp [Entries.assignBelow, Entries.assign, Entries.within, Entries.add, fresh]

/-- Settings with new and different keys are put at the end of a table. -/
theorem build_settings {entries : Entries}
    (different : (entries.map Prod.fst ++ settings.map Setting.key).Nodup) :
    build entries [] (settings.map Setting.statement) =
      some (entries ++ settings.map Setting.entry) := by
  induction settings generalizing entries with
  | nil => simp [build]
  | cons setting others ih =>
    have fresh : entries.lookup setting.key = none := by
      rw [List.lookup_eq_none_iff]
      intro entry inside
      have apart := List.nodup_append.mp different |>.2.2 entry.1 (List.mem_map_of_mem inside)
        setting.key List.mem_cons_self
      simpa using apart.symm
    have remaining :
        ((entries ++ [setting.entry]).map Prod.fst ++ others.map Setting.key).Nodup := by
      simpa [Setting.entry] using different
    have later := ih remaining
    rw [List.map_cons, Setting.statement, build, assignBelow_of_lookup_eq_none _ fresh]
    simpa [Setting.entry] using later

/-- A document of settings carries no mark at its start. -/
theorem unmarked_lines (settings : List Setting) : unmarked (lines settings) = lines settings := by
  cases settings with
  | nil => rfl
  | cons setting others =>
    obtain ⟨first, more, starts, plain⟩ := setting.line_eq_cons (lines others)
    rw [lines_cons, starts]
    unfold unmarked
    split
    · rename_i same
      rw [(List.cons.inj same).1] at plain
      exact absurd plain (by decide)
    · rfl

/-- **A document of settings with different keys is the table of their values.** -/
theorem document_lines (different : (settings.map Setting.key).Nodup) :
    document (String.ofList (lines settings)) = some (settings.map Setting.entry) := by
  have enough : settings.length < (lines settings).length + 1 :=
    Nat.lt_succ_of_le (length_le_lines settings)
  have built : build [] [] (settings.map Setting.statement) =
      some ([] ++ settings.map Setting.entry) :=
    build_settings different
  simp [document, unmarked_lines, statements_lines enough, built]

end Documents

end TrainingLauncher.Toml
