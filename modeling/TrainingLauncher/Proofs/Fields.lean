/-
Lists written with commas, read back. The pieces of such a list hold no comma, and texts without one
come back as they were written. So an endpoint that was read from a list has no comma in its host,
and a list of such endpoints is written so that everybody who splits it finds them in their places.

* `Text.fields_joined`: a list of texts without commas is read back as it was written.
* `Text.map_trimChars_pieces`: when pieces are trimmed, blanks around the whole do not count.
* `Endpoint.parseList_commaless`: what is read from a list has no comma in it.
* `Endpoint.parseList_trim`: blanks around a list do not count.
* `Endpoint.fields_join`: the entries of a written list are the endpoints.
-/

import Mathlib.Data.List.Basic
import TrainingLauncher.Endpoint

namespace TrainingLauncher

namespace Text

section Pieces

variable {separates : Char → Bool} {chars : List Char} {char : Char}

theorem pieces_eq_splitOnP (separates : Char → Bool) (chars : List Char) :
    pieces separates chars = chars.splitOnP separates := by
  induction chars with
  | nil => rfl
  | cons char rest ih =>
    rw [pieces, List.splitOnP_cons_eq_if_modifyHead, ih]
    split
    · rfl
    · cases cut : rest.splitOnP separates with
      | nil => exact (List.splitOnP_ne_nil _ _ cut).elim
      | cons piece others => rfl

/-- A piece holds characters of the text, and none that separates. -/
theorem mem_of_mem_pieces {piece : List Char} (member : piece ∈ pieces separates chars)
    (inside : char ∈ piece) : char ∈ chars ∧ separates char = false := by
  induction chars generalizing piece with
  | nil =>
    obtain rfl := List.mem_singleton.mp member
    cases inside
  | cons first rest ih =>
    have later {piece : List Char} (member : piece ∈ pieces separates rest)
        (inside : char ∈ piece) : char ∈ first :: rest ∧ separates char = false :=
      (ih member inside).imp_left (List.mem_cons_of_mem _)
    rw [pieces] at member
    split at member
    · rcases List.mem_cons.mp member with rfl | member
      · cases inside
      · exact later member inside
    · rename_i plain
      split at member
      · rename_i empty
        exact (pieces_ne_nil _ _ empty).elim
      · rename_i piece' others cut
        rcases List.mem_cons.mp member with rfl | member
        · rcases List.mem_cons.mp inside with rfl | inside
          · exact ⟨List.mem_cons_self, Bool.eq_false_iff.mpr plain⟩
          · exact later (cut ▸ List.mem_cons_self) inside
        · exact later (cut ▸ List.mem_cons_of_mem _ member) inside

/-- A character that does not separate goes to the first piece of the rest. -/
theorem pieces_cons_of_plain (rest : List Char) (plain : separates char = false) :
    ∃ piece others, pieces separates rest = piece :: others ∧
      pieces separates (char :: rest) = (char :: piece) :: others := by
  cases cut : pieces separates rest with
  | nil => exact (pieces_ne_nil _ _ cut).elim
  | cons piece others =>
    refine ⟨piece, others, rfl, ?_⟩
    rw [pieces, if_neg (Bool.eq_false_iff.mp plain), cut]

end Pieces

section Trimming

variable {separates : Char → Bool} {chars : List Char} {char : Char}

/-- A visible character keeps its place when what follows is trimmed. -/
theorem trimEnd_cons_of_visible (rest : List Char) (visible : isBlank char = false) :
    trimEnd (char :: rest) = char :: trimEnd rest := by
  cases kept : trimEnd rest with
  | nil =>
    rw [trimEnd, kept]
    exact if_neg (Bool.eq_false_iff.mp visible)
  | cons first others => exact trimEnd_cons_of_kept kept

/-- What the blanks are trimmed off to depends on what is left of the rest alone. -/
theorem trimEnd_cons_congr {rest other : List Char} (same : trimEnd rest = trimEnd other) :
    trimEnd (char :: rest) = trimEnd (char :: other) := by
  rw [trimEnd, trimEnd, same]

theorem trimChars_cons_of_blank (rest : List Char) (blank : isBlank char = true) :
    trimChars (char :: rest) = trimChars rest := by
  rw [trimChars, List.dropWhile_cons_of_pos blank, ← trimChars]

theorem trimChars_cons_of_visible (rest : List Char) (visible : isBlank char = false) :
    trimChars (char :: rest) = trimEnd (char :: rest) := by
  rw [trimChars, List.dropWhile_cons_of_neg (Bool.eq_false_iff.mp visible)]

theorem trimChars_trimEnd (chars : List Char) : trimChars (trimEnd chars) = trimChars chars := by
  induction chars with
  | nil => rfl
  | cons char rest ih =>
    cases blank : isBlank char with
    | false =>
      rw [trimChars_cons_of_visible rest blank, trimEnd_cons_of_visible rest blank,
        trimChars_cons_of_visible _ blank, trimEnd_cons_of_visible _ blank, trimEnd_trimEnd]
    | true =>
      rw [trimChars_cons_of_blank rest blank, ← ih]
      cases kept : trimEnd rest with
      | nil =>
        rw [trimEnd, kept]
        dsimp only
        rw [if_pos blank]
      | cons first others =>
        rw [trimEnd_cons_of_kept kept, trimChars_cons_of_blank _ blank]

/-- Nothing is left of a text exactly when it is blank. -/
theorem trimChars_eq_nil_iff : trimChars chars = [] ↔ ∀ char ∈ chars, isBlank char = true := by
  induction chars with
  | nil => exact iff_of_true rfl (List.forall_mem_nil _)
  | cons char rest ih =>
    rw [List.forall_mem_cons, ← ih]
    cases blank : isBlank char with
    | false =>
      rw [trimChars_cons_of_visible rest blank, trimEnd_cons_of_visible rest blank]
      simp
    | true => simp [trimChars_cons_of_blank rest blank]

/-- Something is left exactly when there is a visible character. -/
theorem isEmpty_trim_iff {text : String} :
    (trim text).isEmpty = false ↔ ∃ char ∈ text.toList, isBlank char = false := by
  rw [← Bool.not_eq_true, String.isEmpty_iff, trim, String.ofList_eq_empty_iff,
    trimChars_eq_nil_iff]
  simp

variable (visible : ∀ char, separates char = true → isBlank char = false)

include visible

theorem plain_of_blank (blank : isBlank char = true) : separates char = false := by
  cases found : separates char with
  | false => rfl
  | true => exact absurd blank (Bool.eq_false_iff.mp (visible char found))

/-- Blanks at the end of a text are at the end of its last piece. -/
theorem map_trimEnd_pieces (chars : List Char) :
    (pieces separates (trimEnd chars)).map trimEnd = (pieces separates chars).map trimEnd := by
  induction chars with
  | nil => rfl
  | cons char rest ih =>
    -- a character that stays goes with the first piece of the rest, or separates
    have stays (kept : trimEnd (char :: rest) = char :: trimEnd rest) :
        (pieces separates (trimEnd (char :: rest))).map trimEnd =
          (pieces separates (char :: rest)).map trimEnd := by
      rw [kept]
      cases plain : separates char with
      | true =>
        rw [pieces, pieces, if_pos plain, if_pos plain, List.map_cons, List.map_cons, ih]
      | false =>
        obtain ⟨piece, others, cut, grown⟩ := pieces_cons_of_plain (trimEnd rest) plain
        obtain ⟨piece', others', cut', grown'⟩ := pieces_cons_of_plain rest plain
        rw [cut, cut'] at ih
        obtain ⟨same, alike⟩ := List.cons.inj ih
        rw [grown, grown', List.map_cons, List.map_cons, trimEnd_cons_congr same, alike]
    cases blank : isBlank char with
    | false => exact stays (trimEnd_cons_of_visible rest blank)
    | true =>
      cases left : trimEnd rest with
      | cons first others => exact stays (by rw [trimEnd_cons_of_kept left, left])
      | nil =>
        obtain ⟨piece, others, cut, grown⟩ :=
          pieces_cons_of_plain rest (plain_of_blank visible blank)
        have gone : trimEnd (char :: rest) = [] := by
          rw [trimEnd, left]
          exact if_pos blank
        rw [left, cut] at ih
        obtain ⟨same, alike⟩ := List.cons.inj ih
        have single : trimEnd (char :: piece) = [] := by
          rw [trimEnd, ← same]
          exact if_pos blank
        rw [gone, grown, List.map_cons, single, ← alike]
        rfl

/-- Blanks at the start of a text are at the start of its first piece. -/
theorem map_trimChars_pieces_dropWhile (chars : List Char) :
    (pieces separates (chars.dropWhile isBlank)).map trimChars =
      (pieces separates chars).map trimChars := by
  induction chars with
  | nil => rfl
  | cons char rest ih =>
    cases blank : isBlank char with
    | false => rw [List.dropWhile_cons_of_neg (Bool.eq_false_iff.mp blank)]
    | true =>
      obtain ⟨piece, others, cut, grown⟩ :=
        pieces_cons_of_plain rest (plain_of_blank visible blank)
      rw [List.dropWhile_cons_of_pos blank, ih, cut, grown, List.map_cons, List.map_cons,
        trimChars_cons_of_blank piece blank]

/-- **When the pieces are trimmed, blanks around the whole do not count.** -/
theorem map_trimChars_pieces (chars : List Char) :
    (pieces separates (trimChars chars)).map trimChars =
      (pieces separates chars).map trimChars := by
  have later : trimChars ∘ trimEnd = trimChars := funext trimChars_trimEnd
  rw [trimChars, ← map_trimChars_pieces_dropWhile visible chars, ← later, ← List.map_map,
    map_trimEnd_pieces visible, List.map_map, later]

end Trimming

section Lists

theorem joined_cons_cons (separator text next : String) (rest : List String) :
    joined separator (text :: next :: rest) =
      text ++ separator ++ joined separator (next :: rest) := by
  have hoisted (start : String) : rest.foldl (fun whole other => whole ++ separator ++ other)
      (text ++ separator ++ start) = text ++ separator ++
        rest.foldl (fun whole other => whole ++ separator ++ other) start := by
    induction rest generalizing start with
    | nil => rfl
    | cons other rest ih => simpa only [List.foldl_cons, String.append_assoc] using ih _
  exact hoisted next

theorem toList_joined (separator : String) (texts : List String) :
    (joined separator texts).toList = separator.toList.intercalate (texts.map String.toList) := by
  induction texts with
  | nil => rfl
  | cons text rest ih =>
    cases rest with
    | nil => exact List.intercalate_singleton.symm
    | cons next rest =>
      rw [joined_cons_cons, String.toList_append, String.toList_append, ih]
      exact List.intercalate_cons_cons.symm

/-- **A list of texts without commas is read back as it was written.** -/
theorem fields_joined {texts : List String} (filled : texts ≠ [])
    (commaless : ∀ text ∈ texts, ',' ∉ text.toList) : fields (joined "," texts) = texts := by
  have split : (joined "," texts).toList.splitOn ',' = texts.map String.toList := by
    rw [toList_joined]
    exact List.splitOn_intercalate ',' (List.forall_mem_map.mpr commaless) (by simpa using filled)
  rw [fields, pieces_eq_splitOnP, ← List.splitOn_eq_splitOnP, split, List.map_map]
  exact (List.map_congr_left fun _ _ => String.ofList_toList).trans (List.map_id _)

/-- A piece of a list holds no comma, and nothing that the list does not. -/
theorem mem_of_mem_fields {list field : String} {char : Char} (member : field ∈ fields list)
    (inside : char ∈ field.toList) : char ∈ list.toList ∧ char ≠ ',' := by
  obtain ⟨piece, cut, rfl⟩ := List.mem_map.mp member
  rw [String.toList_ofList] at inside
  obtain ⟨within, plain⟩ := mem_of_mem_pieces cut inside
  exact ⟨within, by simpa using plain⟩

theorem mem_of_mem_trimEnd {chars : List Char} {char : Char} (inside : char ∈ trimEnd chars) :
    char ∈ chars := by
  induction chars with
  | nil => exact inside
  | cons first rest ih =>
    rw [trimEnd] at inside
    split at inside
    · split at inside
      · cases inside
      · exact List.mem_of_mem_head? (by simpa using (List.mem_singleton.mp inside).symm)
    · rename_i kept
      exact (List.mem_cons.mp inside).elim (fun same => same ▸ List.mem_cons_self)
        fun member => List.mem_cons_of_mem _ (ih member)

/-- Trimming adds nothing. -/
theorem mem_of_mem_trimChars {chars : List Char} {char : Char} (inside : char ∈ trimChars chars) :
    char ∈ chars :=
  (List.dropWhile_sublist _).subset (mem_of_mem_trimEnd inside)

/-- The entries of a list hold no comma. -/
theorem commaless_of_mem_entries {list text : String} (member : text ∈ entries list) :
    ',' ∉ text.toList := by
  obtain ⟨trimmed, -⟩ := List.mem_filter.mp member
  obtain ⟨field, cut, rfl⟩ := List.mem_map.mp trimmed
  intro inside
  rw [trim, String.toList_ofList] at inside
  exact (mem_of_mem_fields cut (mem_of_mem_trimChars inside)).2 rfl

end Lists

end Text

namespace Endpoint

open Text

/-- There is no comma in the host. -/
def Commaless (endpoint : Endpoint) : Prop := ',' ∉ endpoint.host.toList

section Reading

variable {source : String} {endpoint : Endpoint} {endpoints : List Endpoint}

theorem mem_of_splitLastColon {chars before after : List Char} {char : Char}
    (split : splitLastColon chars = some (before, after)) (inside : char ∈ before) :
    char ∈ chars := by
  induction chars generalizing before after with
  | nil => cases split
  | cons first rest ih =>
    rw [splitLastColon] at split
    split at split
    · rename_i front back later
      cases split
      exact (List.mem_cons.mp inside).elim (fun same => same ▸ List.mem_cons_self)
        fun member => List.mem_cons_of_mem _ (ih later member)
    · split at split
      · cases split
        cases inside
      · cases split

/-- The host of an endpoint was part of the text. -/
theorem mem_of_parse (read : parse source = .ok endpoint) {char : Char}
    (inside : char ∈ endpoint.host.toList) : char ∈ source.toList := by
  rw [parse] at read
  split at read
  · cases read
  · cases read
  · rename_i host port split
    split at read
    · cases read
    · cases read
      rw [String.toList_ofList] at inside
      exact mem_of_mem_trimChars (mem_of_splitLastColon split inside)

theorem parseAll_eq_ok_iff {sources : List String} :
    parseAll sources = .ok endpoints ↔ sources.map parse = endpoints.map .ok := by
  induction sources generalizing endpoints with
  | nil =>
    cases endpoints with
    | nil => exact iff_of_true rfl rfl
    | cons endpoint endpoints =>
      refine iff_of_false (fun same => ?_) fun same => ?_
      · cases same
      · cases same
  | cons source sources ih =>
    constructor
    · intro read
      obtain ⟨endpoint, one, read⟩ := bind_eq_ok_iff.mp read
      obtain ⟨others, rest, read⟩ := bind_eq_ok_iff.mp read
      cases read
      rw [List.map_cons, List.map_cons, one, ih.mp rest]
    · intro same
      cases endpoints with
      | nil => cases same
      | cons endpoint endpoints =>
        obtain ⟨one, rest⟩ := List.cons.inj same
        exact bind_eq_ok_iff.mpr ⟨_, one, bind_eq_ok_iff.mpr ⟨_, ih.mpr rest, rfl⟩⟩

/-- **What is read from a list has no comma in it.** -/
theorem parseList_commaless (read : parseList source = .ok endpoints) :
    ∀ endpoint ∈ endpoints, endpoint.Commaless := by
  intro endpoint member inside
  have same := parseAll_eq_ok_iff.mp read
  have parsed : .ok endpoint ∈ (fields source).map parse := same ▸ List.mem_map_of_mem member
  obtain ⟨field, member, one⟩ := List.mem_map.mp parsed
  exact (mem_of_mem_fields member (mem_of_parse one inside)).2 rfl

/-- Blanks around an endpoint do not count. -/
theorem parse_congr {other : String} (same : trimChars source.toList = trimChars other.toList) :
    parse source = parse other := by
  rw [parse, parse, same]

theorem parseAll_congr {sources others : List String}
    (same : sources.map parse = others.map parse) : parseAll sources = parseAll others := by
  induction sources generalizing others with
  | nil =>
    cases others with
    | nil => rfl
    | cons other others => cases same
  | cons source sources ih =>
    cases others with
    | nil => cases same
    | cons other others =>
      obtain ⟨one, rest⟩ := List.cons.inj same
      rw [parseAll, parseAll, one, ih rest]

/-- **Blanks around a list do not count**, as each of its endpoints is read without those around
it. -/
theorem parseList_trim (source : String) : parseList (trim source) = parseList source := by
  have visible (char : Char) (comma : (char == ',') = true) : isBlank char = false := by
    rw [beq_iff_eq.mp comma]
    decide
  have read : parse ∘ String.ofList = (parse ∘ String.ofList) ∘ trimChars := by
    funext chars
    refine parse_congr ?_
    rw [String.toList_ofList, String.toList_ofList, trimChars_trimChars]
  refine parseAll_congr ?_
  calc (fields (trim source)).map parse
      = ((pieces (· == ',') (trimChars source.toList)).map trimChars).map
          (parse ∘ String.ofList) := by
        rw [fields, trim, String.toList_ofList, List.map_map, List.map_map, ← read]
    _ = ((pieces (· == ',') source.toList).map trimChars).map (parse ∘ String.ofList) := by
        rw [map_trimChars_pieces visible]
    _ = (fields source).map parse := by
        rw [fields, List.map_map, List.map_map, ← read]

/-- What is wrong with an endpoint is wrong with the description. -/
theorem parse_error {error : LaunchError} (failed : parse source = .error error) :
    error.IsConfig := by
  rw [parse] at failed
  split at failed
  · exact ⟨_, (Except.error.inj failed).symm⟩
  · exact ⟨_, (Except.error.inj failed).symm⟩
  · split at failed
    · exact ⟨_, (Except.error.inj failed).symm⟩
    · cases failed

theorem parseAll_error {sources : List String} {error : LaunchError}
    (failed : parseAll sources = .error error) : error.IsConfig := by
  induction sources with
  | nil => cases failed
  | cons source sources ih =>
    obtain one | ⟨endpoint, -, failed⟩ := bind_eq_error_iff.mp failed
    · exact parse_error one
    · obtain rest | ⟨others, -, absurd⟩ := bind_eq_error_iff.mp failed
      · exact ih rest
      · cases absurd

/-- So is what is wrong with a list. -/
theorem parseList_error {error : LaunchError} (failed : parseList source = .error error) :
    error.IsConfig :=
  parseAll_error failed

/-- A list that is read has an endpoint. -/
theorem parseList_ne_nil (read : parseList source = .ok endpoints) : endpoints ≠ [] := by
  rintro rfl
  exact fields_ne_nil source (by simpa using parseAll_eq_ok_iff.mp read)

end Reading

section Writing

/-- A number is written without commas. -/
theorem comma_not_mem_toString (number : Nat) : ',' ∉ (toString number).toList := by
  intro inside
  rw [Nat.toString_eq_repr, Nat.toList_repr] at inside
  exact absurd (Nat.isDigit_of_mem_toDigits (by decide) (by decide) inside) (by decide)

theorem Commaless.text {endpoint : Endpoint} (commaless : endpoint.Commaless) :
    ',' ∉ endpoint.text.toList := by
  rw [Endpoint.text, String.toList_append, String.toList_append, List.mem_append, List.mem_append]
  rintro ((inside | inside) | inside)
  · exact commaless inside
  · exact absurd inside (by decide)
  · exact comma_not_mem_toString _ inside

/-- **The entries of a written list are the endpoints**, if there are any and none has a comma. -/
theorem fields_join {endpoints : List Endpoint} (filled : endpoints ≠ [])
    (commaless : ∀ endpoint ∈ endpoints, endpoint.Commaless) :
    fields (join endpoints) = endpoints.map text :=
  fields_joined (by simpa using filled) (List.forall_mem_map.mpr fun endpoint member =>
    (commaless endpoint member).text)

end Writing

end Endpoint

end TrainingLauncher
