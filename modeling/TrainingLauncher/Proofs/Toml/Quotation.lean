/-
Quoted texts, read back. The grammar of a style says what may stand between its quotes and for which
text it stands. All that follows the grammar is read as the text it stands for, and in the style
that is chosen for it every text is written along the grammar. Neither the reader nor the writer
needs to be looked at together with the other one.

* `Quotation.Escapes`, `Quotation.Denotes`: the grammar.
* `Quotation.body_of_denotes`: the reader follows it.
* `Quotation.denotes_escapedAll`, `Quotation.denotes_raw`: so does the writer, with escapes and
  without them.
* `Quotation.text_write`: every text is read back from between its quotes.
-/

import TrainingLauncher.Toml.Quotation

namespace TrainingLauncher.Toml

theorem isPlain_newline : isPlain '\n' = false := by decide

theorem isPlain_return : isPlain '\r' = false := by decide

/-- A line does not break at any other character. -/
theorem lineBreak?_cons_of_ne {char : Char} (newline : char ≠ '\n') (back : char ≠ '\r')
    (rest : List Char) : lineBreak? (char :: rest) = none := by
  unfold lineBreak?
  split <;> simp_all

namespace Quotation

/-- The styles of quoting. -/
def styles : List Quotation := [basic, literal, basicLines, literalLines]

/-- What stands after a backslash, and the character that it stands for. -/
inductive Escapes : List Char → Char → Prop
  | letter {letter char : Char} (meaning : escape? letter = some char) : Escapes [letter] char
  | four {a b c d char : Char} (meaning : codePoint? [a, b, c, d] = some char) :
      Escapes ['u', a, b, c, d] char
  | eight {a b c d e f g h char : Char}
      (meaning : codePoint? [a, b, c, d, e, f, g, h] = some char) :
      Escapes ['U', a, b, c, d, e, f, g, h] char

/-- What stands between the quotes of a style, and the text that it stands for. Some quotes may
stand for themselves, but no more in a row than the style allows. -/
inductive Denotes (style : Quotation) : List Char → List Char → Prop
  | ends {count : Nat} (few : count ≤ style.quotesAllowed) :
      Denotes style (.replicate count style.quote) (.replicate count style.quote)
  | plain {count : Nat} {char : Char} {source value : List Char}
      (few : count ≤ style.quotesAllowed) (other : char ≠ style.quote)
      (unescaped : style.escapes = true → char ≠ '\\')
      (shown : isPlain char = true ∨ style.lines = true ∧ char = '\n')
      (rest : Denotes style source value) :
      Denotes style (.replicate count style.quote ++ char :: source)
        (.replicate count style.quote ++ char :: value)
  | escape {count : Nat} {spelling : List Char} {char : Char} {source value : List Char}
      (few : count ≤ style.quotesAllowed) (escapes : style.escapes = true)
      (meaning : Escapes spelling char) (rest : Denotes style source value) :
      Denotes style (.replicate count style.quote ++ '\\' :: (spelling ++ source))
        (.replicate count style.quote ++ char :: value)

section Reading

variable {style : Quotation} {char : Char} {source value rest : List Char}

/-- The quote of a style is one of two; escapes stand between double quotes. -/
theorem quote_of_mem (proper : style ∈ styles) :
    style.quote = '"' ∨ style.quote = '\'' ∧ style.escapes = false := by
  revert style
  decide

/-- No quote breaks a line, and none is a backslash. -/
theorem quote_ne_of_mem (proper : style ∈ styles) :
    style.quote ≠ '\r' ∧ style.quote ≠ '\n' ∧ style.quote ≠ '\\' := by
  revert style
  decide

/-- A character that means itself is read. -/
theorem body_plain (other : char ≠ style.quote) (unescaped : style.escapes = true → char ≠ '\\')
    (shown : isPlain char = true ∨ style.lines = true ∧ char = '\n') :
    style.body false (char :: source) = before char (style.body false source) := by
  have back : char ≠ '\r' := by
    rintro rfl
    simp [isPlain_return] at shown
  rw [body.eq_def]
  by_cases newline : char = '\n'
  · have lines : style.lines = true := by
      rcases shown with plain | ⟨lines, -⟩
      · rw [newline, isPlain_newline] at plain
        cases plain
      · exact lines
    simp [newline, lines]
  · have plain : isPlain char = true := shown.resolve_right fun both => newline both.2
    have straight : (style.escapes && char == '\\') = false := by
      simpa using unescaped
    simp [back, newline, other, plain, straight]

/-- Before fewer than two more, a quote means itself where a text may go over lines. -/
theorem body_quote (proper : style ∈ styles) (lines : style.lines = true)
    (few : style.leading source < 2) :
    style.body false (style.quote :: source) = before style.quote (style.body false source) := by
  obtain ⟨back, newline, -⟩ := quote_ne_of_mem proper
  rw [body.eq_def]
  simp [back, newline, lines, few]

/-- What stands after a backslash is read as the character that it stands for. -/
theorem body_escape {spelling : List Char} (proper : style ∈ styles)
    (escapes : style.escapes = true) (meaning : Escapes spelling char) :
    style.body false ('\\' :: (spelling ++ source)) = before char (style.body false source) := by
  have other : '\\' ≠ style.quote := (quote_ne_of_mem proper).2.2.symm
  cases meaning with
  | letter meaning =>
    rename_i letter
    unfold escape? at meaning
    split at meaning <;> cases meaning <;> rw [body.eq_def] <;> simp [other, escapes, escape?]
  | four meaning =>
    rw [body.eq_def]
    simp [other, escapes, meaning]
  | eight meaning =>
    rw [body.eq_def]
    simp [other, escapes, meaning]

theorem leading_replicate_append (count : Nat) (stops : source.head? ≠ some style.quote) :
    style.leading (.replicate count style.quote ++ source) = count := by
  have none : source.takeWhile (· == style.quote) = [] := by
    cases source with
    | nil => rfl
    | cons first rest =>
      have other : first ≠ style.quote := fun same => stops (same ▸ rfl)
      simp [other]
  have quotes : ∀ char ∈ List.replicate count style.quote, (char == style.quote) = true := by
    simp
  rw [leading, List.takeWhile_append_of_pos quotes, none, List.append_nil, List.length_replicate]

/-- The quotes at the end: up to two more than the closing ones belong to the text. -/
theorem body_ends {count : Nat} (proper : style ∈ styles) (few : count ≤ style.quotesAllowed)
    (stops : rest.head? ≠ some style.quote) :
    style.body false (.replicate count style.quote ++ (style.delimiter ++ rest)) =
      some (.replicate count style.quote, rest) := by
  obtain ⟨back, newline, -⟩ := quote_ne_of_mem proper
  by_cases lines : style.lines = true
  · rw [quotesAllowed, if_pos lines] at few
    have quotes : List.replicate count style.quote ++ (style.delimiter ++ rest) =
        style.quote :: (List.replicate (count + 2) style.quote ++ rest) := by
      rw [delimiter, if_pos lines, ← List.append_assoc, ← List.cons_append, ← List.replicate_succ]
      congr 1
      show List.replicate count style.quote ++ List.replicate 3 style.quote =
        List.replicate (count + 3) style.quote
      exact List.replicate_append_replicate
    have closing : ¬ count + 2 < 2 := by omega
    have left : List.drop (2 + count) (List.replicate (count + 2) style.quote ++ rest) = rest := by
      rw [Nat.add_comm]
      exact List.drop_left' (List.length_replicate ..)
    rw [quotes, body.eq_def]
    simp [back, newline, lines, leading_replicate_append _ stops, closing, Nat.min_eq_left few,
      left]
  · rw [quotesAllowed, if_neg lines, Nat.le_zero] at few
    rw [delimiter, if_neg lines, few, List.replicate_zero, List.nil_append, List.singleton_append,
      body.eq_def]
    simp [back, newline, lines]

/-- Quotes that are followed by something else are read one by one. -/
theorem body_quotes {count : Nat} (proper : style ∈ styles) (few : count ≤ style.quotesAllowed)
    (stops : source.head? ≠ some style.quote)
    (read : style.body false source = some (value, rest)) :
    style.body false (.replicate count style.quote ++ source) =
      some (.replicate count style.quote ++ value, rest) := by
  induction count with
  | zero => exact read
  | succ count ih =>
    have lines : style.lines = true := by
      cases lines : style.lines with
      | true => rfl
      | false =>
        rw [quotesAllowed, lines] at few
        cases few
    have small : style.leading (List.replicate count style.quote ++ source) < 2 := by
      rw [leading_replicate_append count stops]
      rw [quotesAllowed, if_pos lines] at few
      omega
    rw [List.replicate_succ, List.cons_append, body_quote proper lines small,
      ih (Nat.le_of_succ_le few)]
    rfl

/-- **What follows the grammar is read as the text it stands for.** -/
theorem body_of_denotes (proper : style ∈ styles) (denotes : Denotes style source value)
    (stops : rest.head? ≠ some style.quote) :
    style.body false (source ++ (style.delimiter ++ rest)) = some (value, rest) := by
  induction denotes with
  | ends few => exact body_ends proper few stops
  | plain few other unescaped shown _ ih =>
    rw [List.append_assoc, List.cons_append]
    refine body_quotes proper few (fun same => other (Option.some.inj same)) ?_
    rw [body_plain other unescaped shown, ih]
    rfl
  | escape few escapes meaning _ ih =>
    rw [List.append_assoc, List.cons_append, List.append_assoc]
    refine body_quotes proper few
      (fun same => (quote_ne_of_mem proper).2.2 (Option.some.inj same).symm) ?_
    rw [body_escape proper escapes meaning, ih]
    rfl

end Reading

section Writing

variable {style : Quotation} {char : Char} {chars source value rest : List Char}

/-- A character that cannot stand in a text as it is has a small code point. -/
theorem toNat_lt_of_not_isPlain (special : isPlain char = false) : char.toNat < 128 := by
  simp only [isPlain, Bool.or_eq_false_iff, Bool.and_eq_false_iff, decide_eq_false_iff_not,
    bne_eq_false_iff_eq] at special
  rcases special.2 with control | rfl
  · have small : char.toNat < ' '.toNat := by
      simpa [Char.le_def, UInt32.le_iff_toNat_le] using control
    exact Nat.lt_trans small (by decide)
  · decide

/-- Every character with a small code point can be written in four digits. -/
theorem codePoint?_fourDigits : ∀ value < 128,
    codePoint? (fourDigits value) = some (Char.ofNat value) := by
  decide +kernel

/-- Where escapes are understood, a character means itself or is escaped. -/
theorem escaped_cases (char : Char) :
    escaped char = [char] ∧ isPlain char = true ∧ char ≠ '\\' ∨
      ∃ spelling, escaped char = '\\' :: spelling ∧ Escapes spelling char := by
  have short (letter : Char) (meaning : escape? letter = some char)
      (written : escaped char = ['\\', letter]) :
      ∃ spelling, escaped char = '\\' :: spelling ∧ Escapes spelling char :=
    ⟨[letter], written, .letter meaning⟩
  by_cases backspace : char = '\x08'
  · exact .inr (short 'b' (by rw [backspace]; rfl) (by rw [backspace]; rfl))
  by_cases tab : char = '\t'
  · exact .inr (short 't' (by rw [tab]; rfl) (by rw [tab]; rfl))
  by_cases newline : char = '\n'
  · exact .inr (short 'n' (by rw [newline]; rfl) (by rw [newline]; rfl))
  by_cases feed : char = '\x0c'
  · exact .inr (short 'f' (by rw [feed]; rfl) (by rw [feed]; rfl))
  by_cases back : char = '\r'
  · exact .inr (short 'r' (by rw [back]; rfl) (by rw [back]; rfl))
  by_cases slash : char = '\\'
  · exact .inr (short '\\' (by rw [slash]; rfl) (by rw [slash]; rfl))
  unfold escaped
  rw [if_neg backspace, if_neg tab, if_neg newline, if_neg feed, if_neg back, if_neg slash]
  by_cases plain : isPlain char = true
  · exact .inl ⟨if_pos plain, plain, slash⟩
  · rw [Bool.not_eq_true] at plain
    have meaning := codePoint?_fourDigits _ (toNat_lt_of_not_isPlain plain)
    rw [Char.ofNat_toNat] at meaning
    refine .inr ⟨'u' :: fourDigits char.toNat, by simp [plain], ?_⟩
    exact .four meaning

/-- **With escapes every text can be written**, also after some quotes. -/
theorem denotes_escapedAll (proper : style ∈ styles) (escapes : style.escapes = true) {run : Nat}
    (few : run ≤ style.quotesAllowed) (chars : List Char) :
    Denotes style (.replicate run style.quote ++ style.escapedAll run chars)
      (.replicate run style.quote ++ chars) := by
  induction chars generalizing run with
  | nil =>
    rw [escapedAll, List.append_nil]
    exact .ends few
  | cons char rest ih =>
    have later := ih (Nat.zero_le _)
    rw [List.replicate_zero, List.nil_append, List.nil_append] at later
    rw [escapedAll]
    by_cases quote : char = style.quote
    · rw [if_pos quote, quote]
      by_cases more : run < style.quotesAllowed
      · -- the quote joins those before it
        have grown := ih more
        rw [List.replicate_succ', List.append_assoc, List.append_assoc] at grown
        rw [if_pos more]
        exact grown
      · have double : style.quote = '"' := by
          rcases quote_of_mem proper with double | ⟨-, raw⟩
          · exact double
          · rw [escapes] at raw
            cases raw
        have meaning : Escapes [style.quote] style.quote := .letter (by rw [double]; rfl)
        rw [if_neg more]
        exact .escape few escapes meaning later
    · rw [if_neg quote]
      by_cases newline : style.lines = true ∧ char = '\n'
      · have kept : (style.lines && char == '\n') = true := by simpa using newline
        rw [if_pos kept]
        refine .plain few quote (fun _ slash => ?_) (.inr newline) later
        rw [newline.2] at slash
        exact absurd slash (by decide)
      · have other : ¬ (style.lines && char == '\n') = true := by simpa using newline
        rw [if_neg other]
        rcases escaped_cases char with ⟨written, plain, slash⟩ | ⟨spelling, written, meaning⟩
        · rw [written]
          exact .plain few quote (fun _ => slash) (.inl plain) later
        · rw [written, List.cons_append]
          exact .escape few escapes meaning later

/-- **Without escapes a text is written as it is**, if it has no more quotes in a row than the style
allows. -/
theorem denotes_raw (raw : style.escapes = false) {run : Nat}
    (shown : ∀ char ∈ chars, isPlain char = true ∨ style.lines = true ∧ char = '\n')
    (few : longestRun style.quote run chars ≤ style.quotesAllowed) :
    Denotes style (.replicate run style.quote ++ chars) (.replicate run style.quote ++ chars) := by
  induction chars generalizing run with
  | nil =>
    rw [List.append_nil]
    exact .ends few
  | cons char rest ih =>
    obtain ⟨here, later⟩ := List.forall_mem_cons.mp shown
    rw [longestRun] at few
    by_cases quote : char = style.quote
    · rw [if_pos quote] at few
      have grown := ih later few
      rw [List.replicate_succ', List.append_assoc] at grown
      rw [quote]
      exact grown
    · rw [if_neg quote, Nat.max_le] at few
      refine .plain few.1 quote (fun escapes => ?_) here ?_
      · rw [raw] at escapes
        cases escapes
      · exact ih later few.2

/-- The characters of a text between the quotes of a style. -/
def inner (style : Quotation) (chars : List Char) : List Char :=
  if style.escapes then style.escapedAll 0 chars else chars

/-- **A text is written along the grammar of its style.** -/
theorem denotes_choose (chars : List Char) :
    choose chars ∈ styles ∧ Denotes (choose chars) ((choose chars).inner chars) chars := by
  have escaping {style : Quotation} (proper : style ∈ styles) (escapes : style.escapes = true) :
      style ∈ styles ∧ Denotes style (style.inner chars) chars := by
    refine ⟨proper, ?_⟩
    rw [inner, if_pos escapes]
    exact denotes_escapedAll proper escapes (Nat.zero_le _) chars
  have verbatim {style : Quotation} (proper : style ∈ styles) (raw : style.escapes = false)
      (none : chars.any needsEscape = false) (unbroken : style.lines = false → '\n' ∉ chars)
      (few : longestRun style.quote 0 chars ≤ style.quotesAllowed) :
      style ∈ styles ∧ Denotes style (style.inner chars) chars := by
    have shown : ∀ char ∈ chars, isPlain char = true ∨ style.lines = true ∧ char = '\n' := by
      intro char among
      by_cases newline : char = '\n'
      · cases lines : style.lines with
        | true => exact .inr ⟨rfl, newline⟩
        | false => exact absurd (newline ▸ among) (unbroken lines)
      · have special := List.any_eq_false.mp none char among
        left
        simpa [needsEscape, newline] using special
    refine ⟨proper, ?_⟩
    rw [inner, raw]
    show Denotes style (.replicate 0 style.quote ++ chars) (.replicate 0 style.quote ++ chars)
    exact denotes_raw raw shown few
  unfold choose
  simp only
  split
  · exact escaping (by decide) rfl
  split
  · rename_i single
    simp only [Bool.and_eq_true, Bool.not_eq_true', beq_iff_eq] at single
    refine verbatim (by decide) rfl single.1.1 (fun _ => ?_) (Nat.le_of_eq single.1.2)
    simpa using single.2
  split
  · exact escaping (by decide) rfl
  split
  · rename_i several
    simp only [Bool.and_eq_true, Bool.not_eq_true', decide_eq_true_eq] at several
    exact verbatim (by decide) rfl several.1 (fun single => by cases single) several.2
  split
  · exact escaping (by decide) rfl
  · exact escaping (by decide) rfl

/-- What follows the grammar starts with a line break only if its text does. -/
theorem lineBreak?_of_denotes (proper : style ∈ styles) (denotes : Denotes style source value)
    (unbroken : '\n' ∉ value) : lineBreak? (source ++ (style.delimiter ++ rest)) = none := by
  obtain ⟨back, newline, -⟩ := quote_ne_of_mem proper
  have quoted (more : List Char) : lineBreak? (style.quote :: more) = none :=
    lineBreak?_cons_of_ne newline back more
  have quotes (count : Nat) {more : List Char} (unbroken : lineBreak? more = none) :
      lineBreak? (List.replicate count style.quote ++ more) = none := by
    cases count with
    | zero => exact unbroken
    | succ count => exact quoted _
  cases denotes with
  | ends few =>
    refine quotes _ ?_
    unfold delimiter
    split <;> exact quoted _
  | plain few other unescaped shown _ =>
    rename_i char _ _
    rw [List.append_assoc]
    refine quotes _ (lineBreak?_cons_of_ne ?_ ?_ _)
    · rintro rfl
      simp at unbroken
    · rintro rfl
      simp [isPlain_return] at shown
  | escape few escapes meaning _ =>
    rw [List.append_assoc]
    have slash : '\\' ≠ '\n' ∧ '\\' ≠ '\r' := by decide
    exact quotes _ (lineBreak?_cons_of_ne slash.1 slash.2 _)

/-- What is written between the quotes is read as the text. -/
theorem content_of_denotes (proper : style ∈ styles) (denotes : Denotes style source value)
    (stops : rest.head? ≠ some style.quote) :
    style.content ((if style.lines && value.contains '\n' then ['\n'] else []) ++
      (source ++ (style.delimiter ++ rest))) = some (String.ofList value, rest) := by
  have read := body_of_denotes proper denotes stops
  unfold content
  cases lines : style.lines with
  | false => simp [read]
  | true =>
    by_cases broken : '\n' ∈ value
    · simp [broken, lineBreak?, read]
    · simp [broken, lineBreak?_of_denotes proper denotes broken, read]

/-- A text on a single line does not look like one over several lines. -/
theorem text_of_denotes (proper : style ∈ styles) (single : style.lines = false)
    (denotes : Denotes style source value) (stops : rest.head? ≠ some style.quote) :
    text (style.delimiter ++ (source ++ (style.delimiter ++ rest))) =
      style.content (source ++ (style.delimiter ++ rest)) := by
  have alone (more : List Char) : source ++ (style.delimiter ++ rest) ≠
      style.quote :: style.quote :: more := by
    intro same
    rw [delimiter, single] at same
    cases denotes with
    | ends few =>
      rw [quotesAllowed, single, if_neg Bool.false_ne_true, Nat.le_zero] at few
      rw [few] at same
      have follows : rest = style.quote :: more := (List.cons.inj same).2
      exact stops (by rw [follows]; rfl)
    | plain few other _ _ _ =>
      rw [quotesAllowed, single, if_neg Bool.false_ne_true, Nat.le_zero] at few
      rw [few] at same
      exact other (List.cons.inj same).1
    | escape few _ _ _ =>
      rw [quotesAllowed, single, if_neg Bool.false_ne_true, Nat.le_zero] at few
      rw [few] at same
      exact (quote_ne_of_mem proper).2.2 (List.cons.inj same).1.symm
  revert single alone
  generalize source ++ (style.delimiter ++ rest) = shown
  intro single alone
  simp only [styles, List.mem_cons, List.not_mem_nil, or_false] at proper
  rcases proper with rfl | rfl | rfl | rfl
  · show text ('"' :: shown) = _
    unfold text
    split
    · rename_i same
      exact absurd (List.cons.inj same).2 (alone _)
    · rename_i same
      cases same
    · rfl
  · show text ('\'' :: shown) = _
    unfold text
    split
    · rename_i same
      cases same
    · rename_i same
      exact absurd (List.cons.inj same).2 (alone _)
    · rfl
  · cases single
  · cases single

/-- **A text is read back from between its quotes**, whatever comes after them. -/
theorem text_write (chars : List Char) (stops : ∀ style ∈ styles, rest.head? ≠ some style.quote) :
    text ((choose chars).write chars ++ rest) = some (String.ofList chars, rest) := by
  obtain ⟨proper, denotes⟩ := denotes_choose chars
  revert proper denotes
  generalize choose chars = style
  intro proper denotes
  have read := content_of_denotes proper denotes (stops style proper)
  have written : style.write chars ++ rest = style.delimiter ++
      ((if style.lines && chars.contains '\n' then ['\n'] else []) ++
        (style.inner chars ++ (style.delimiter ++ rest))) := by
    simp only [write, inner, List.append_assoc]
  rw [written]
  cases lines : style.lines with
  | false =>
    rw [lines] at read
    exact (text_of_denotes proper lines denotes (stops style proper)).trans read
  | true =>
    rw [lines] at read
    simp only [styles, List.mem_cons, List.not_mem_nil, or_false] at proper
    rcases proper with rfl | rfl | rfl | rfl
    · cases lines
    · cases lines
    · exact read
    · exact read

/-- What is written starts with a quote. -/
theorem write_eq_cons (chars : List Char) : ∃ quote shown,
    (choose chars).write chars = quote :: shown ∧ (quote = '"' ∨ quote = '\'') := by
  obtain ⟨proper, -⟩ := denotes_choose chars
  have starts : ((choose chars).write chars).head? = some (choose chars).quote := by
    cases lines : (choose chars).lines <;> simp [write, delimiter, lines]
  obtain ⟨shown, written⟩ := List.head?_eq_some_iff.mp starts
  exact ⟨_, shown, written, (quote_of_mem proper).imp_right And.left⟩

end Writing

end Quotation

end TrainingLauncher.Toml
