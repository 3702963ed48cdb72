/-
Blank characters and what is left of a text without them: `trim` drops the blanks at both ends,
`words` is the list of the longest runs without a blank.
-/

import TrainingLauncher.Text.Property

namespace TrainingLauncher.Text

/-- The code points with the Unicode property White_Space. -/
def blankRanges : List CodeRange := [
  (0x9, 0xd), (0x20, 0x20), (0x85, 0x85), (0xa0, 0xa0), (0x1680, 0x1680), (0x2000, 0x200a),
  (0x2028, 0x2029), (0x202f, 0x202f), (0x205f, 0x205f), (0x3000, 0x3000)]

/-- A character of white space. -/
def isBlank (char : Char) : Bool := inRanges blankRanges char

/-- A list of characters without the blanks it ends with. -/
def trimEnd : List Char → List Char
  | [] => []
  | char :: rest =>
    match trimEnd rest with
    | [] => if isBlank char then [] else [char]
    | kept => char :: kept

/-- A list of characters without the blanks it starts and ends with. -/
def trimChars (chars : List Char) : List Char := trimEnd (chars.dropWhile isBlank)

/-- A text without the blanks it starts and ends with. -/
def trim (text : String) : String := String.ofList (trimChars text.toList)

/-- The pieces between the characters that separate, one more than there are such characters. -/
def pieces (separates : Char → Bool) : List Char → List (List Char)
  | [] => [[]]
  | char :: rest =>
    if separates char then [] :: pieces separates rest
    else match pieces separates rest with
      | [] => [[char]]
      | piece :: others => (char :: piece) :: others

/-- The longest runs of characters that are not blank, in order. -/
def words (text : String) : List String :=
  ((pieces isBlank text.toList).filter (!·.isEmpty)).map String.ofList

theorem pieces_ne_nil (separates : Char → Bool) (chars : List Char) :
    pieces separates chars ≠ [] := by
  cases chars with
  | nil => simp [pieces]
  | cons char rest =>
    rw [pieces]
    split
    · simp
    · split <;> simp

theorem trimEnd_cons_of_kept {char first : Char} {rest others : List Char}
    (kept : trimEnd rest = first :: others) : trimEnd (char :: rest) = char :: first :: others := by
  rw [trimEnd, kept]

theorem trimEnd_trimEnd (chars : List Char) : trimEnd (trimEnd chars) = trimEnd chars := by
  induction chars with
  | nil => rfl
  | cons char rest ih =>
    cases kept : trimEnd rest with
    | nil =>
      rw [trimEnd, kept]
      dsimp only
      split
      · rfl
      · rename_i visible
        exact if_neg visible
    | cons first others =>
      rw [kept] at ih
      rw [trimEnd_cons_of_kept kept, trimEnd_cons_of_kept ih]

/-- A list that starts with no blank still does so without the blanks at its end. -/
theorem dropWhile_trimEnd {chars : List Char} (starts : ∀ char ∈ chars.head?, isBlank char = false) :
    (trimEnd chars).dropWhile isBlank = trimEnd chars := by
  cases chars with
  | nil => rfl
  | cons char rest =>
    have visible : ¬ isBlank char = true := Bool.eq_false_iff.mp (starts char rfl)
    cases kept : trimEnd rest with
    | nil =>
      rw [trimEnd, kept]
      dsimp only
      rw [if_neg visible, List.dropWhile_cons_of_neg visible]
    | cons first others =>
      rw [trimEnd_cons_of_kept kept, List.dropWhile_cons_of_neg visible]

theorem trimChars_trimChars (chars : List Char) :
    trimChars (trimChars chars) = trimChars chars := by
  have starts : ∀ char ∈ (chars.dropWhile isBlank).head?, isBlank char = false := by
    intro char first
    have visible := List.head?_dropWhile_not isBlank chars
    rwa [Option.mem_def.mp first] at visible
  rw [trimChars, trimChars, dropWhile_trimEnd starts, trimEnd_trimEnd]

/-- There is nothing left to trim off a trimmed text. -/
theorem trim_trim (text : String) : trim (trim text) = trim text := by
  rw [trim, trim, String.toList_ofList, trimChars_trimChars]

end TrainingLauncher.Text
