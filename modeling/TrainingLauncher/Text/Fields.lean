/-
Lists written with commas. `fields` keeps every piece as it stands; `entries` trims the pieces and
leaves out the empty ones; `joined` writes a list back.
-/

import TrainingLauncher.Text.Blank

namespace TrainingLauncher.Text

/-- The pieces of a text between its commas. -/
def fields (text : String) : List String :=
  (pieces (· == ',') text.toList).map String.ofList

/-- The trimmed pieces of a text between its commas that are not empty. -/
def entries (text : String) : List String :=
  ((fields text).map trim).filter (!·.isEmpty)

/-- The texts of a list one after the other, with `separator` between neighbours. -/
def joined (separator : String) : List String → String
  | [] => ""
  | text :: rest => rest.foldl (fun whole next => whole ++ separator ++ next) text

theorem fields_ne_nil (text : String) : fields text ≠ [] := by
  simpa [fields] using pieces_ne_nil _ _

/-- The entries of a list are trimmed and not empty. -/
theorem trim_of_mem_entries {list text : String} (member : text ∈ entries list) :
    trim text = text ∧ text.isEmpty = false := by
  obtain ⟨trimmed, full⟩ := List.mem_filter.mp member
  obtain ⟨field, -, rfl⟩ := List.mem_map.mp trimmed
  exact ⟨trim_trim field, by simpa using full⟩

end TrainingLauncher.Text
