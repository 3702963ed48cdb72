/-
JSON texts, read back. Whatever value is printed, the reader reads that value, as long as values do
not nest deeper than it allows.

* `Json.IsPlain`: a value without fractions that nests only so deep.
* `Json.textBody_escaped`, `Json.number_toString`, `Json.sequence_intercalate`: the parts of a text.
* `Json.read_pretty`: what is printed is read back.
-/

import Mathlib.Data.List.Forall2
import TrainingLauncher.Json.Reader
import TrainingLauncher.Proofs.Decimal
import TrainingLauncher.Proofs.Fields

namespace TrainingLauncher.Json

open Text Toml Toml.Quotation

section Texts

variable {char : Char} {rest : List Char}

/-- A control character is written in four digits, of which two are zeros. -/
theorem hexNumber?_control : ∀ control < 0x20,
    hexNumber? 0 ['0', '0', Nat.digitChar (control / 16), Nat.digitChar (control % 16)] =
      some control := by
  decide

/-- A character of a text is read as it was, escaped or not. -/
theorem textBody_escaped (char : Char) (rest : List Char) :
    textBody 0 ((escaped char).toList ++ rest) = before char (textBody 0 rest) := by
  by_cases quote : char = '"'
  · simp [quote, escaped, textBody, letter?]
  by_cases slash : char = '\\'
  · simp [slash, escaped, textBody, letter?]
  by_cases backspace : char = '\x08'
  · simp [backspace, escaped, textBody, letter?]
  by_cases tab : char = '\t'
  · simp [tab, escaped, textBody, letter?]
  by_cases newline : char = '\n'
  · simp [newline, escaped, textBody, letter?]
  by_cases feed : char = '\x0c'
  · simp [feed, escaped, textBody, letter?]
  by_cases back : char = '\r'
  · simp [back, escaped, textBody, letter?]
  by_cases control : char.toNat < 0x20
  · have valid : char.toNat.isValidChar := .inl (by omega)
    have spelled := hexNumber?_control char.toNat control
    simp [escaped, quote, slash, backspace, tab, newline, feed, back, control, textBody, spelled,
      codePoint?, valid]
  · simp [escaped, quote, slash, backspace, tab, newline, feed, back, control, textBody]

/-- **A text is read back** from between its quotes. -/
theorem textBody_string (text : String) (rest : List Char) :
    ∃ shown, (string text).toList = '"' :: shown ∧
      textBody 0 (shown ++ rest) = some (text.toList, rest) := by
  have read (chars : List Char) : textBody 0 (chars.flatMap (fun char => (escaped char).toList) ++
      '"' :: rest) = some (chars, rest) := by
    induction chars with
    | nil => rfl
    | cons char others ih =>
      rw [List.flatMap_cons, List.append_assoc, textBody_escaped, ih]
      rfl
  refine ⟨text.toList.flatMap (fun char => (escaped char).toList) ++ ['"'], ?_, ?_⟩
  · simp [string, String.toList_join, List.flatMap_map]
  · rw [List.append_assoc]
    exact read text.toList

end Texts

section Numbers

variable {first : Char} {rest : List Char}

/-- A text goes on with something else than a number. -/
def Ends (rest : List Char) : Prop := ∀ char ∈ rest.head?, isNumberChar char = false

theorem isNumberChar_of_isDigit (digit : first.isDigit = true) : isNumberChar first = true := by
  simp [isNumberChar, digit]

/-- The digits that a number is written with have no needless zero. -/
theorem isWhole_toDigits (number : Nat) : isWhole (Nat.toDigits 10 number) = true := by
  rcases Decimal.toDigits_cases number with written | ⟨first, others, written, other, digits⟩
  · rw [written]
    rfl
  · have whole : (first :: others).all Char.isDigit = true := List.all_eq_true.mpr digits
    rw [written, isWhole]
    · rw [whole]
      simp [other]
    · rintro rfl
      exact fun _ => other rfl

theorem unsigned?_toDigits {negative : Bool} {number : Nat} (signed : negative = true → number ≠ 0)
    (spelling : List Char) : unsigned? negative spelling (Nat.toDigits 10 number) =
      some (.integer (if negative then -(number : Int) else number)) := by
  rw [unsigned?, if_pos (isWhole_toDigits number), Nat.ofDigitChars_ten_toDigits]
  refine if_neg fun zero => ?_
  rw [Bool.and_eq_true, beq_iff_eq] at zero
  exact signed zero.1 zero.2

/-- A number is written as digits, after a sign if it is negative. -/
theorem toList_toString (number : Int) :
    (∃ size : Nat, number = size ∧ (toString number).toList = Nat.toDigits 10 size) ∨
      ∃ size : Nat, size ≠ 0 ∧ number = -size ∧
        (toString number).toList = '-' :: Nat.toDigits 10 size := by
  cases number with
  | ofNat size => exact .inl ⟨size, rfl, Nat.toList_repr⟩
  | negSucc less =>
    refine .inr ⟨less + 1, Nat.succ_ne_zero less, rfl, ?_⟩
    show ("-" ++ (less + 1).repr).toList = _
    rw [String.toList_append, Nat.toList_repr]
    rfl

/-- What a number is written with spells it, and nothing else than a number. -/
theorem number?_toString (number : Int) :
    number? (toString number).toList = some (.integer number) ∧
      ∀ char ∈ (toString number).toList, isNumberChar char = true := by
  rcases toList_toString number with ⟨size, rfl, written⟩ | ⟨size, positive, rfl, written⟩
  · rw [written]
    refine ⟨?_, fun _ inside => isNumberChar_of_isDigit (Decimal.isDigit_of_mem_toDigits inside)⟩
    unfold number?
    split
    · rename_i same
      have sign : '-'.isDigit = true :=
        Decimal.isDigit_of_mem_toDigits (same ▸ List.mem_cons_self)
      cases sign
    · exact unsigned?_toDigits (fun absurd => Bool.noConfusion absurd) _
  · rw [written]
    refine ⟨unsigned?_toDigits (fun _ => positive) _,
      List.forall_mem_cons.mpr ⟨rfl, fun _ inside => ?_⟩⟩
    exact isNumberChar_of_isDigit (Decimal.isDigit_of_mem_toDigits inside)

/-- **A whole number is read back** from how it is written. -/
theorem number_toString (number : Int) (ends : Ends rest) :
    Json.number ((toString number).toList ++ rest) = some (.integer number, rest) := by
  obtain ⟨spelled, chars⟩ := number?_toString number
  have beyond : rest.takeWhile isNumberChar = [] ∧ rest.dropWhile isNumberChar = rest := by
    cases rest with
    | nil => exact ⟨rfl, rfl⟩
    | cons first more =>
      have other : isNumberChar first = false := ends first rfl
      simp [other]
  unfold Json.number
  rw [List.takeWhile_append_of_pos chars, List.dropWhile_append_of_pos chars, beyond.1, beyond.2,
    List.append_nil, spelled]

end Numbers

section Sequences

variable {α : Type} {item : Reader α} {closing : Char} {gap rest : List Char}
  {shown : List (List Char)} {values : List α}

/-- A value may start with a character. -/
def isStart (char : Char) : Bool := !isBlank char && char != ']' && char != '\x7d'

/-- However a text goes on, if not with a number, its start is read as a value. -/
structure Shows (item : Reader α) (shown : List Char) (value : α) : Prop where
  starts : ∃ first more, shown = first :: more ∧ isStart first = true
  reads : ∀ rest, Ends rest → item (shown ++ rest) = some (value, rest)

theorem skipBlanks_append (blank : ∀ char ∈ gap, isBlank char = true) (source : List Char) :
    skipBlanks (gap ++ source) = skipBlanks source :=
  List.dropWhile_append_of_pos blank

theorem skipBlanks_cons {first : Char} (visible : isBlank first = false) :
    skipBlanks (first :: rest) = first :: rest := by
  simp [skipBlanks, visible]

theorem isBlank_of_isStart {first : Char} (start : isStart first = true) :
    isBlank first = false := by
  simp only [isStart, Bool.and_eq_true, Bool.not_eq_true'] at start
  exact start.1.1

theorem Shows.skipBlanks {shown : List Char} {value : α} (shows : Shows item shown value)
    (rest : List Char) : skipBlanks (shown ++ rest) = shown ++ rest := by
  obtain ⟨first, more, rfl, start⟩ := shows.starts
  exact skipBlanks_cons (isBlank_of_isStart start)

/-- A closing bracket ends a value, and is neither a blank nor a comma. -/
structure IsClosing (closing : Char) : Prop where
  ends : isNumberChar closing = false
  visible : isBlank closing = false
  comma : closing ≠ ','
  start : isStart closing = false

/-- A blank is no part of a number. -/
theorem ends_blank {char : Char} (blank : isBlank char = true) (rest : List Char) :
    Ends (char :: rest) := by
  intro first same
  cases same
  simp only [isBlank, Bool.or_eq_true, beq_iff_eq] at blank
  rcases blank with ((rfl | rfl) | rfl) | rfl <;> decide

/-- After the last value come blanks and the closing bracket. -/
theorem ends_closing (closes : IsClosing closing) (blank : ∀ char ∈ gap, isBlank char = true)
    (rest : List Char) : Ends (gap ++ closing :: rest) := by
  cases gap with
  | nil =>
    intro first same
    cases same
    exact closes.ends
  | cons first more => exact ends_blank (blank first List.mem_cons_self) _

/-- Values with commas and blanks between them are read one by one. -/
theorem others_intercalate {last : List Char} (closes : IsClosing closing)
    (blank : ∀ char ∈ gap, isBlank char = true) (blankLast : ∀ char ∈ last, isBlank char = true)
    (shows : List.Forall₂ (Shows item) shown values) (filled : shown ≠ []) {bound : Nat}
    (enough : shown.length ≤ bound) (rest : List Char) :
    others closing item bound
      (gap ++ ((',' :: gap).intercalate shown ++ (last ++ closing :: rest))) =
        some (values, rest) := by
  induction shows generalizing bound with
  | nil => exact absurd rfl filled
  | cons first later ih =>
    rename_i line value lines values
    cases bound with
    | zero => cases enough
    | succ bound =>
      rw [others, skipBlanks_append blank]
      cases later with
      | nil =>
        have next : skipBlanks (last ++ closing :: rest) = closing :: rest := by
          rw [skipBlanks_append blankLast, skipBlanks_cons closes.visible]
        rw [List.intercalate_singleton, first.skipBlanks,
          first.reads _ (ends_closing closes blankLast rest)]
        simp [next]
      | cons second later =>
        rename_i line' value' lines values
        have ends : Ends (',' :: (gap ++ ((',' :: gap).intercalate (line' :: lines) ++
            (last ++ closing :: rest)))) := by
          intro char same
          cases same
          rfl
        have read := ih (by simp) (Nat.le_of_succ_le_succ enough)
        have comma : skipBlanks (',' :: (gap ++ ((',' :: gap).intercalate (line' :: lines) ++
            (last ++ closing :: rest)))) = ',' :: (gap ++ ((',' :: gap).intercalate
              (line' :: lines) ++ (last ++ closing :: rest))) :=
          skipBlanks_cons (by decide)
        rw [List.intercalate_cons_cons, List.append_assoc, List.append_assoc, List.cons_append,
          first.skipBlanks, first.reads _ ends]
        simp [comma, closes.comma.symm, read]

theorem length_le_intercalate (separator : List Char)
    (shows : List.Forall₂ (Shows item) shown values) :
    shown.length ≤ (separator.intercalate shown).length := by
  induction shows with
  | nil => exact Nat.zero_le _
  | cons first later ih =>
    obtain ⟨_, _, rfl, -⟩ := first.starts
    cases later with
    | nil =>
      rw [List.intercalate_singleton]
      simp
    | cons second later =>
      rw [List.intercalate_cons_cons]
      simp only [List.length_append, List.length_cons] at ih ⊢
      omega

theorem intercalate_cons (separator : List Char) (char : Char) (more : List Char)
    (others : List (List Char)) :
    ∃ tail, separator.intercalate ((char :: more) :: others) = char :: tail := by
  cases others with
  | nil => exact ⟨more, List.intercalate_singleton⟩
  | cons next others => exact ⟨_, List.intercalate_cons_cons⟩

/-- **Values between two brackets are read**, with commas and blanks between them. -/
theorem sequence_intercalate {last : List Char} (closes : IsClosing closing)
    (blank : ∀ char ∈ gap, isBlank char = true) (blankLast : ∀ char ∈ last, isBlank char = true)
    (shows : List.Forall₂ (Shows item) shown values) (filled : shown ≠ []) (rest : List Char) :
    sequence closing item
      (gap ++ ((',' :: gap).intercalate shown ++ (last ++ closing :: rest))) =
        some (values, rest) := by
  have enough : shown.length ≤
      (gap ++ ((',' :: gap).intercalate shown ++ (last ++ closing :: rest))).length := by
    have lines := length_le_intercalate (',' :: gap) shows
    simp only [List.length_append]
    omega
  have read := others_intercalate closes blank blankLast shows filled enough rest
  cases shows with
  | nil => exact absurd rfl filled
  | cons first later =>
    rename_i line value lines values
    obtain ⟨char, more, rfl, start⟩ := first.starts
    have other : char ≠ closing := by
      rintro rfl
      rw [closes.start] at start
      cases start
    obtain ⟨tail, starts⟩ := intercalate_cons (',' :: gap) char more lines
    rw [sequence, skipBlanks_append blank, starts, List.cons_append,
      skipBlanks_cons (isBlank_of_isStart start)]
    rw [starts, List.cons_append] at read
    simp only [other, if_false]
    exact read

end Sequences

section Printing

variable {α : Type} {item : Reader α} {closing : Char} {rest : List Char} {indent : String}
  {depth : Nat}

/-- A value without fractions in which values nest `depth` deep at most. -/
def IsPlain : (depth : Nat) → Json → Prop
  | _, .fraction _ => False
  | 0, .list _ | 0, .object _ => False
  | depth + 1, .list items => ∀ item ∈ items, IsPlain depth item
  | depth + 1, .object members => ∀ member ∈ members, IsPlain depth member.2
  | _, _ => True

theorem prettyItems_eq_map (indent : String) (items : List Json) :
    prettyItems indent items = items.map (pretty indent) := by
  induction items with
  | nil => rw [prettyItems, List.map_nil]
  | cons first others ih => rw [prettyItems, List.map_cons, ih]

/-- A member of an object as it is printed. -/
def prettyMember (indent : String) (member : String × Json) : String :=
  string member.1 ++ ": " ++ pretty indent member.2

theorem prettyMembers_eq_map (indent : String) (members : List (String × Json)) :
    prettyMembers indent members = members.map (prettyMember indent) := by
  induction members with
  | nil => rw [prettyMembers, List.map_nil]
  | cons first others ih => rw [prettyMembers, List.map_cons, ih, prettyMember]

/-- What is put between two brackets, line by line, is read between them. -/
theorem sequence_enclosed {left right : String} {opening : Char} (opened : left.toList = [opening])
    (closed : right.toList = [closing]) (closes : IsClosing closing)
    (blank : ∀ char ∈ indent.toList, isBlank char = true) {values : List α} {line : α → String}
    (shows : ∀ value ∈ values, Shows item (line value).toList value) (rest : List Char) :
    ∃ shown, (enclosed left right indent (values.map line)).toList = opening :: shown ∧
        sequence closing item (shown ++ rest) = some (values, rest) := by
  cases values with
  | nil =>
    refine ⟨[closing], by simp [enclosed, opened, closed], ?_⟩
    simp [sequence, skipBlanks_cons closes.visible]
  | cons first others =>
    have blankGap : ∀ char ∈ '\n' :: (indent.toList ++ [' ', ' ']), isBlank char = true := by
      simpa [isBlank, or_imp, forall_and] using blank
    have blankLast : ∀ char ∈ '\n' :: indent.toList, isBlank char = true := by
      simpa [isBlank] using blank
    have each : List.Forall₂ (Shows item) (((first :: others).map line).map String.toList)
        (first :: others) := by
      rw [List.map_map, List.forall₂_map_left_iff, List.forall₂_same]
      exact shows
    have read := sequence_intercalate closes blankGap blankLast each (by simp) rest
    refine ⟨'\n' :: (indent.toList ++ [' ', ' ']) ++
      ((',' :: '\n' :: (indent.toList ++ [' ', ' '])).intercalate
        (((first :: others).map line).map String.toList) ++ ('\n' :: indent.toList ++ [closing])),
      ?_, ?_⟩
    · simp [enclosed, opened, closed, toList_joined]
    · simpa using read

theorem isClosing_bracket : IsClosing ']' :=
  ⟨by decide, by decide, by decide, by decide⟩

theorem isClosing_brace : IsClosing '\x7d' :=
  ⟨by decide, by decide, by decide, by decide⟩

/-- What is read between two brackets is read with them. -/
theorem shows_enclosed {outer : Reader Json} {wrap : List α → Json} {left right : String}
    {opening : Char} (opened : left.toList = [opening]) (closed : right.toList = [closing])
    (closes : IsClosing closing) (starts : isStart opening = true)
    (blank : ∀ char ∈ indent.toList, isBlank char = true) {values : List α} {line : α → String}
    (shows : ∀ value ∈ values, Shows item (line value).toList value)
    (reads : ∀ source, outer (opening :: source) =
      (sequence closing item source).map fun (values, rest) => (wrap values, rest)) :
    Shows outer (enclosed left right indent (values.map line)).toList (wrap values) := by
  constructor
  · obtain ⟨shown, written, -⟩ := sequence_enclosed opened closed closes blank shows []
    exact ⟨opening, shown, written, starts⟩
  · intro rest _
    obtain ⟨shown, written, read⟩ := sequence_enclosed opened closed closes blank shows rest
    rw [written, List.cons_append, reads, read]
    rfl

theorem shows_null (depth : Nat) : Shows (value depth) (pretty indent .null).toList .null where
  starts := ⟨'n', ['u', 'l', 'l'], by simp [pretty], by decide⟩
  reads rest _ := by simp [pretty, value]

theorem shows_bool (depth : Nat) (bool : Bool) :
    Shows (value depth) (pretty indent (.bool bool)).toList (.bool bool) := by
  cases bool with
  | true =>
    exact ⟨⟨'t', ['r', 'u', 'e'], by simp [pretty], by decide⟩,
      fun rest _ => by simp [pretty, value]⟩
  | false =>
    exact ⟨⟨'f', ['a', 'l', 's', 'e'], by simp [pretty], by decide⟩,
      fun rest _ => by simp [pretty, value]⟩

theorem shows_text (depth : Nat) (text : String) :
    Shows (value depth) (pretty indent (.text text)).toList (.text text) := by
  rw [pretty]
  constructor
  · obtain ⟨shown, written, -⟩ := textBody_string text []
    exact ⟨'"', shown, written, by decide⟩
  · intro rest _
    obtain ⟨shown, written, read⟩ := textBody_string text rest
    simp [written, value, read]

/-- A number starts like nothing else. -/
theorem value_eq_number {first : Char} (starts : isNumberChar first = true) :
    value depth (first :: rest) = number (first :: rest) := by
  have unlike {other : Char} {more : List Char} (same : first :: rest = other :: more)
      (differs : isNumberChar other = false) : False := by
    rw [(List.cons.inj same).1, differs] at starts
    cases starts
  unfold value
  split
  · exact (unlike ‹_› rfl).elim
  · exact (unlike ‹_› rfl).elim
  · exact (unlike ‹_› rfl).elim
  · exact (unlike ‹_› rfl).elim
  · exact (unlike ‹_› rfl).elim
  · exact (unlike ‹_› rfl).elim
  · rfl

theorem isStart_of_isNumberChar {first : Char} (starts : isNumberChar first = true) :
    isStart first = true := by
  have unlike (other : Char) (differs : isNumberChar other = false) : first ≠ other := by
    rintro rfl
    rw [differs] at starts
    cases starts
  simp [isStart, isBlank, unlike ' ' rfl, unlike '\n' rfl, unlike '\t' rfl, unlike '\r' rfl,
    unlike ']' rfl, unlike '\x7d' rfl]

theorem shows_integer (depth : Nat) (number : Int) :
    Shows (value depth) (pretty indent (.integer number)).toList (.integer number) := by
  rw [pretty]
  obtain ⟨-, chars⟩ := number?_toString number
  have filled : (toString number).toList ≠ [] := by
    rcases toList_toString number with ⟨size, -, written⟩ | ⟨size, -, -, written⟩
    · rw [written]
      exact Nat.toDigits_ne_nil
    · rw [written]
      exact List.cons_ne_nil _ _
  obtain ⟨first, more, written⟩ := List.exists_cons_of_ne_nil filled
  have starts : isNumberChar first = true := chars first (written ▸ List.mem_cons_self)
  refine ⟨⟨first, more, written, isStart_of_isNumberChar starts⟩, fun rest ends => ?_⟩
  have read := number_toString number ends
  rw [written, List.cons_append] at read ⊢
  rw [value_eq_number starts, read]

theorem shows_member {member : String × Json}
    (shows : Shows (value depth) (pretty indent member.2).toList member.2) :
    Shows (Json.member (value depth)) (prettyMember indent member).toList member := by
  have printed : (prettyMember indent member).toList =
      (string member.1).toList ++ ':' :: ' ' :: (pretty indent member.2).toList := by
    simp [prettyMember]
  rw [printed]
  constructor
  · obtain ⟨shown, written, -⟩ := textBody_string member.1 []
    rw [written]
    exact ⟨'"', _, rfl, by decide⟩
  · intro rest ends
    obtain ⟨shown, written, read⟩ := textBody_string member.1
      (':' :: ' ' :: ((pretty indent member.2).toList ++ rest))
    have colon : skipBlanks (':' :: ' ' :: ((pretty indent member.2).toList ++ rest)) =
        ':' :: ' ' :: ((pretty indent member.2).toList ++ rest) :=
      skipBlanks_cons (by decide)
    have space : skipBlanks (' ' :: ((pretty indent member.2).toList ++ rest)) =
        (pretty indent member.2).toList ++ rest :=
      shows.skipBlanks rest
    simp [written, Json.member, read, colon, space, shows.reads rest ends]

/-- **What is printed is read**, however the text goes on. -/
theorem shows_pretty {json : Json} (plain : IsPlain depth json)
    (blank : ∀ char ∈ indent.toList, isBlank char = true) :
    Shows (value depth) (pretty indent json).toList json := by
  induction depth generalizing json indent with
  | zero =>
    cases json with
    | null => exact shows_null 0
    | bool bool => exact shows_bool 0 bool
    | integer number => exact shows_integer 0 number
    | fraction spelling => exact plain.elim
    | text text => exact shows_text 0 text
    | list items => exact plain.elim
    | object members => exact plain.elim
  | succ depth ih =>
    have deeper : ∀ char ∈ (indent ++ "  ").toList, isBlank char = true := by
      simpa [isBlank, or_imp, forall_and] using blank
    cases json with
    | null => exact shows_null _
    | bool bool => exact shows_bool _ bool
    | integer number => exact shows_integer _ number
    | fraction spelling => exact plain.elim
    | text text => exact shows_text _ text
    | list items =>
      have shows : ∀ item ∈ items, Shows (value depth) (pretty (indent ++ "  ") item).toList item :=
        fun item among => ih (plain item among) deeper
      have opened : "[".toList = ['['] := rfl
      rw [pretty, prettyItems_eq_map]
      exact shows_enclosed opened rfl isClosing_bracket rfl blank shows fun _ => by simp [value]
    | object members =>
      have shows : ∀ member ∈ members, Shows (Json.member (value depth))
          (prettyMember (indent ++ "  ") member).toList member :=
        fun member among => shows_member (ih (plain member among) deeper)
      have opened : "\x7b".toList = ['\x7b'] := rfl
      rw [pretty, prettyMembers_eq_map]
      exact shows_enclosed opened rfl isClosing_brace rfl blank shows fun _ => by simp [value]

/-- **What is printed is read back.** -/
theorem read_pretty {json : Json} (plain : IsPlain depth json) :
    read depth (pretty "" json) = some json := by
  have shows : Shows (value depth) (pretty "" json).toList json := shows_pretty plain nofun
  have read := shows.reads [] nofun
  have starts := shows.skipBlanks []
  rw [List.append_nil] at read starts
  unfold Json.read
  rw [starts, read]
  rfl

/-- The reader also knows what is never printed. -/
example : read 1 "[-12, \"\\ud83d\\ude00\", 1.5e3]" =
    some (.list [.integer (-12), .text "😀", .fraction "1.5e3"]) := by
  cbv

end Printing

end TrainingLauncher.Json
