/-
The shape of the table of variables. The column of names is as wide as the longest name has bytes,
and a text never has more characters than bytes; so every name fits its column. A value that is
shown has at most the 45 characters of its own column, and one that is cut is longer than what is
left of it. Hence all lines are equally long, whatever the names and the values are. Only a column
of more than 65535 characters cannot be laid out; a launcher that meets a name of that length stops,
and there is no table.

* `Environment.IsRow`, `Environment.Shows`: the line of a name and a text, and what is shown of a
  value.
* `Environment.nameWidth_isGreatest`: the width of the column of names.
* `Environment.table?_isTable`, `Environment.table?_eq_none`: when there is a table.
* `Environment.table_keeps_shape`: the table, line by line.
* `Job.settings_table`: there is one for the variables of a job.
-/

import Mathlib.Data.List.Forall2
import Mathlib.Data.String.Basic
import Mathlib.Order.Bounds.Basic
import TrainingLauncher.Environment.Table
import TrainingLauncher.Proofs.Driver
import TrainingLauncher.Proofs.Environment

namespace TrainingLauncher

namespace Environment

/-! ### Lengths -/

section Lengths

theorem length_le_utf8Len (chars : List Char) : chars.length ≤ String.utf8Len chars := by
  induction chars with
  | nil => exact Nat.zero_le _
  | cons char rest ih =>
    rw [List.length_cons, String.utf8Len]
    exact Nat.add_le_add ih char.utf8Size_pos

/-- A text has no more characters than bytes. -/
theorem length_le_utf8ByteSize (text : String) : text.length ≤ text.utf8ByteSize := by
  have bytes := String.utf8ByteSize_ofList text.toList
  rw [String.ofList_toList] at bytes
  rw [bytes, ← String.length_toList]
  exact length_le_utf8Len text.toList

@[simp] theorem length_rule (char : Char) (width : Nat) : (rule char width).length = width := by
  rw [rule, String.length_ofList, List.length_replicate]

/-- The largest of some numbers, taken one after the other. -/
theorem isGreatest_foldl_max (first : Nat) (rest : List Nat) :
    IsGreatest (insert first {size | size ∈ rest}) (rest.foldl max first) := by
  induction rest generalizing first with
  | nil => simp [IsGreatest, upperBounds]
  | cons next rest ih =>
    -- the fold goes on from the larger of the first two numbers, which is one of them
    obtain ⟨member, above⟩ := ih (max first next)
    rw [List.foldl_cons]
    have large := above (Set.mem_insert _ _)
    refine ⟨?_, ?_⟩
    · obtain same | member := member
      · rw [same]
        obtain larger | larger := max_choice first next
        · exact .inl larger
        · exact .inr (larger.symm ▸ List.mem_cons_self)
      · exact .inr (List.mem_cons_of_mem _ member)
    · rintro size (rfl | member)
      · exact (le_max_left _ _).trans large
      · obtain rfl | member := List.mem_cons.mp member
        · exact (le_max_right _ _).trans large
        · exact above (.inr member)

end Lengths

/-! ### What is shown of a value -/

section Value

variable {value shown : String}

/-- What is shown of a value: all of it if it has fewer than 45 characters, and otherwise its last
41 characters behind three dots. -/
def Shows (value shown : String) : Prop :=
  (value.length < 45 → shown = value) ∧
    (45 ≤ value.length → ∃ hidden last, value = hidden ++ last ∧ last.length = 41 ∧
      shown = "... " ++ last)

theorem Shows.length_le (shows : Shows value shown) : shown.length ≤ 45 := by
  obtain ⟨short, long⟩ := shows
  obtain small | large := Nat.lt_or_ge value.length 45
  · rw [short small]
    exact small.le
  · obtain ⟨hidden, last, -, counted, rfl⟩ := long large
    have dots : "... ".length = 4 := by decide
    rw [String.length_append, counted, dots]

/-- A text ends with so many characters, unless it is shorter. -/
theorem ending?_eq_some {count : Nat} {text : String} (enough : count ≤ text.length) :
    ∃ hidden last, text = hidden ++ last ∧ last.length = count ∧ ending? count text = some last := by
  refine ⟨String.ofList (text.toList.take (text.length - count)),
    String.ofList (text.toList.drop (text.length - count)), ?_, ?_, if_pos enough⟩
  · rw [← String.ofList_append, List.take_append_drop, String.ofList_toList]
  · rw [String.length_ofList, List.length_drop, String.length_toList]
    exact Nat.sub_sub_self enough

/-- **There is something to show of every value**: one that is cut is longer than what is left of
it. -/
theorem shownValue?_shows (value : String) :
    ∃ shown, shownValue? value = some shown ∧ Shows value shown := by
  obtain small | large := Nat.lt_or_ge value.length 45
  · exact ⟨value, if_pos small, fun _ => rfl, fun long => absurd small (Nat.not_lt.mpr long)⟩
  · obtain ⟨hidden, last, whole, counted, found⟩ :=
      ending?_eq_some (Nat.le_trans (by decide : 41 ≤ 45) large)
    have long : ¬ value.length < valueWidth := Nat.not_lt.mpr large
    refine ⟨"... " ++ last, ?_, fun short => absurd short long,
      fun _ => ⟨hidden, last, whole, counted, rfl⟩⟩
    rw [shownValue?, if_neg long, found, Option.map_some]

/-- A value of 44 characters is shown as it is, and the next one is cut. -/
example : shownValue? (rule 'v' 44) = some (rule 'v' 44) ∧
    shownValue? (rule 'v' 45) = some ("... " ++ rule 'v' 41) := by decide

end Value

/-! ### The lines -/

section Lines

variable {width : Nat} {name shown line head : String} {entries : List (String × String)}
  {rows : List String}

/-- A line of the table. The name stands at the right end of a column of the given width, and the
text beside it in the middle of a column of 45 characters. -/
def IsRow (width : Nat) (name shown line : String) : Prop :=
  ∃ indent left right, indent + name.length = width ∧ left + shown.length + right = 45 ∧
    (right = left ∨ right = left + 1) ∧
    line = "    |" ++ rule ' ' indent ++ name ++ "  " ++ rule ' ' left ++ shown ++ rule ' ' right ++
      "|"

/-- The line of a variable. -/
def IsVariableRow (width : Nat) (entry : String × String) (line : String) : Prop :=
  ∃ shown, Shows entry.2 shown ∧ IsRow width entry.1 shown line

theorem IsRow.length (row : IsRow width name shown line) : line.length = 53 + width := by
  obtain ⟨indent, left, right, names, values, -, rfl⟩ := row
  have frame : "    |".length = 5 ∧ "  ".length = 2 ∧ "|".length = 1 := by decide
  simp only [String.length_append, length_rule, frame]
  omega

theorem length_tableBorder (char : Char) (width : Nat) :
    (tableBorder char width).length = 53 + width := by
  have frame : "    +".length = 5 ∧ "+".length = 1 := by decide
  simp only [tableBorder, String.length_append, length_rule, frame, valueWidth, columnGap]
  omega

theorem length_of_variableRows (listed : List.Forall₂ (IsVariableRow width) entries rows) :
    ∀ row ∈ rows, row.length = 53 + width := by
  induction listed with
  | nil => exact fun row member => nomatch member
  | cons here _ ih =>
    obtain ⟨shown, -, isRow⟩ := here
    exact List.forall_mem_cons.mpr ⟨isRow.length, ih⟩

/-- **All lines are equally long.** -/
theorem length_of_mem_framed (headed : IsRow width name shown head)
    (listed : List.Forall₂ (IsVariableRow width) entries rows) :
    ∀ line ∈ framed width head rows, line.length = 53 + width := by
  intro line member
  simp only [framed, List.mem_append, List.mem_cons, List.not_mem_nil, or_false] at member
  obtain ((rfl | rfl | rfl) | member) | rfl := member
  · exact length_tableBorder _ _
  · exact headed.length
  · exact length_tableBorder _ _
  · exact length_of_variableRows listed line member
  · exact length_tableBorder _ _

/-- A name and a text that fit their columns are laid out, unless the column of names is too
wide. -/
theorem tableRow?_isRow (narrow : width ≤ widestColumn) (names : name.length ≤ width)
    (values : shown.length ≤ 45) :
    ∃ line, tableRow? width name shown = some line ∧ IsRow width name shown line := by
  have left : alignRight? width name = some (rule ' ' (width - name.length) ++ name) :=
    if_pos narrow
  have right : alignCentre? valueWidth shown = some (rule ' ' ((45 - shown.length) / 2) ++ shown ++
      rule ' ' ((45 - shown.length + 1) / 2)) := if_pos (by decide)
  have gap : rule ' ' columnGap = "  " := by decide
  refine ⟨_, ?_, width - name.length, (45 - shown.length) / 2, (45 - shown.length + 1) / 2,
    by omega, by omega, by omega, rfl⟩
  rw [tableRow?, left, right, gap]
  simp only [Option.bind_eq_bind, Option.bind_some, Option.pure_def, String.append_assoc]

theorem tableRow?_eq_none (wide : widestColumn < width) : tableRow? width name shown = none := by
  rw [tableRow?, alignRight?, if_neg (Nat.not_le.mpr wide)]
  rfl

/-- Every value of a variable is laid out, however long it is. -/
theorem variableRow?_isVariableRow {entry : String × String} (narrow : width ≤ widestColumn)
    (names : entry.1.length ≤ width) :
    ∃ row, variableRow? width entry = some row ∧ IsVariableRow width entry row := by
  obtain ⟨shown, found, shows⟩ := shownValue?_shows entry.2
  obtain ⟨row, laid, isRow⟩ := tableRow?_isRow narrow names shows.length_le
  refine ⟨row, ?_, shown, shows, isRow⟩
  rw [variableRow?, found]
  exact laid

/-- When each value of a list has a result, so has the list. -/
theorem mapM_eq_some {α β : Type} {convert : α → Option β} {suits : α → β → Prop} {items : List α}
    (converts : ∀ item ∈ items, ∃ result, convert item = some result ∧ suits item result) :
    ∃ results, items.mapM convert = some results ∧ List.Forall₂ suits items results := by
  induction items with
  | nil => exact ⟨[], rfl, .nil⟩
  | cons item rest ih =>
    obtain ⟨⟨result, found, suited⟩, others⟩ := List.forall_mem_cons.mp converts
    obtain ⟨results, all, alike⟩ := ih others
    refine ⟨result :: results, ?_, .cons suited alike⟩
    simp only [List.mapM_cons, found, all, Option.bind_eq_bind, Option.bind_some, Option.pure_def]

end Lines

/-! ### The table -/

section Table

variable {environment : Environment} {header : String × String}

/-- **The width of the column of names** is the largest of 40 and the numbers of bytes of the
names. -/
theorem nameWidth_isGreatest (environment : Environment) :
    IsGreatest (insert 40 (String.utf8ByteSize '' {name | name ∈ environment}))
      (nameWidth environment) := by
  have sizes : String.utf8ByteSize '' {name | name ∈ environment} =
      {size | size ∈ environment.keys.map String.utf8ByteSize} := by
    ext size
    simp [Std.TreeMap.mem_keys]
  rw [sizes]
  exact isGreatest_foldl_max 40 _

theorem nameWidth_le_iff {limit : Nat} (wide : 40 ≤ limit) : nameWidth environment ≤ limit ↔
    ∀ name ∈ environment, name.utf8ByteSize ≤ limit := by
  rw [isLUB_le_iff (nameWidth_isGreatest environment).isLUB, upperBounds_insert, Set.mem_inter_iff,
    mem_upperBounds, Set.forall_mem_image]
  exact and_iff_right wide

/-- Every name fits into the column of names. -/
theorem length_le_nameWidth {entry : String × String} (member : entry ∈ environment.toList) :
    entry.1.length ≤ nameWidth environment := by
  have found := Std.TreeMap.mem_toList_iff_getElem?_eq_some.mp member
  have named : entry.1 ∈ environment := by
    rw [Std.TreeMap.mem_iff_isSome_getElem?, found]
    rfl
  refine (length_le_utf8ByteSize entry.1).trans ((nameWidth_isGreatest environment).2 (.inr ?_))
  exact Set.mem_image_of_mem _ named

/-- All names fit into a column of 40 characters. -/
def HasShortNames (environment : Environment) : Prop :=
  ∀ name ∈ environment, name.utf8ByteSize ≤ 40

theorem HasShortNames.nameWidth (short : environment.HasShortNames) :
    nameWidth environment = 40 :=
  le_antisymm ((nameWidth_le_iff le_rfl).mpr short)
    ((nameWidth_isGreatest environment).2 (Set.mem_insert _ _))

theorem hasShortNames_ofList {entries : List (String × String)}
    (short : (entries.all fun entry => entry.1.utf8ByteSize ≤ 40) = true) :
    (ofList entries).HasShortNames := by
  intro name member
  by_contra long
  have other : name ∉ entries.map Prod.fst := by
    intro here
    obtain ⟨entry, listed, rfl⟩ := List.mem_map.mp here
    exact long (of_decide_eq_true (List.all_eq_true.mp short entry listed))
  rw [Std.TreeMap.mem_iff_isSome_getElem?, getElem?_ofList_of_notMem other] at member
  cases member

theorem HasShortNames.under {lower upper : Environment} (below : lower.HasShortNames)
    (above : upper.HasShortNames) : (lower.under upper).HasShortNames := by
  intro name member
  rw [Std.TreeMap.mem_iff_isSome_getElem?, getElem?_under, Option.isSome_or, Bool.or_eq_true,
    ← Std.TreeMap.mem_iff_isSome_getElem?, ← Std.TreeMap.mem_iff_isSome_getElem?] at member
  exact member.elim (above name) (below name)

theorem hasShortNames_rendezvous (directory : String) : (rendezvous directory).HasShortNames :=
  hasShortNames_ofList rfl

/-- A text is the table of an environment under a header. The column of names has the width of the
longest name in bytes, and at least 40. The variables are listed in the order of their names, each
in a line of its own, between the lines of the header and the lower border; all lines have the same
length. -/
structure IsTable (environment : Environment) (header : String × String) (text : String)
    (width : Nat) (entries : List (String × String)) (head : String) (rows : List String) :
    Prop where
  widest : IsGreatest (insert 40 (String.utf8ByteSize '' {name | name ∈ environment})) width
  ascending : entries.Pairwise fun one other => one.1 < other.1
  complete : ∀ name value, (name, value) ∈ entries ↔ environment[name]? = some value
  headed : IsRow width header.1 header.2 head
  listed : List.Forall₂ (IsVariableRow width) entries rows
  written : text = "\n" ++ String.join ((framed width head rows).map (· ++ "\n"))
  even : ∀ line ∈ framed width head rows, line.length = 53 + width

/-- **There is a table** when no name is too long for a column. -/
theorem table?_isTable (header : String × String)
    (narrow : nameWidth environment ≤ widestColumn) (first : header.1.length ≤ 40)
    (second : header.2.length ≤ 45) :
    ∃ text head rows, environment.table? header = some text ∧
      IsTable environment header text (nameWidth environment) environment.toList head rows := by
  have widest := nameWidth_isGreatest environment
  obtain ⟨head, top, headed⟩ :=
    tableRow?_isRow narrow (first.trans (widest.2 (Set.mem_insert _ _))) second
  obtain ⟨rows, all, listed⟩ := mapM_eq_some fun entry member =>
    variableRow?_isVariableRow narrow (length_le_nameWidth member)
  have laid : environment.tableLines? header = some (framed (nameWidth environment) head rows) := by
    simp only [tableLines?, top, all, Option.bind_eq_bind, Option.bind_some, Option.pure_def]
  have shown : environment.table? header =
      some ("\n" ++ String.join ((framed (nameWidth environment) head rows).map (· ++ "\n"))) := by
    rw [table?, laid]
    rfl
  exact ⟨_, head, rows, shown, {
    widest, headed, listed
    ascending := Std.TreeMap.ordered_keys_toList.imp compare_lt_iff_lt.mp
    complete := fun _ _ => Std.TreeMap.mem_toList_iff_getElem?_eq_some
    written := rfl
    even := length_of_mem_framed headed listed }⟩

/-- **There is none** when a name is too long. -/
theorem table?_eq_none {name : String} (member : name ∈ environment)
    (long : widestColumn < name.utf8ByteSize) : environment.table? header = none := by
  have wide : widestColumn < nameWidth environment :=
    long.trans_le ((nameWidth_isGreatest environment).2 (.inr (Set.mem_image_of_mem _ member)))
  simp only [table?, tableLines?, tableRow?_eq_none wide, Option.bind_eq_bind, Option.bind_none]

/-- **The table keeps its shape**, whatever the names and the values are. The one thing that can go
wrong is a name of more than 65535 bytes: no column is wide enough for it, and there is no table. In
particular a value is never too short for what is to be shown of it. Every other table has a line
for each variable, in the order of the names, and all its lines have the same length. -/
theorem table_keeps_shape (environment : Environment) (header : String × String)
    (first : header.1.length ≤ 40) (second : header.2.length ≤ 45) :
    (environment.table? header = none ↔ ∃ name ∈ environment, 65535 < name.utf8ByteSize) ∧
      ∀ text, environment.table? header = some text → ∃ width entries head rows,
        IsTable environment header text width entries head rows := by
  obtain wide | narrow := Nat.lt_or_ge widestColumn (nameWidth environment)
  · have stretched : ¬ ∀ name ∈ environment, name.utf8ByteSize ≤ widestColumn := fun short =>
      Nat.not_le.mpr wide ((nameWidth_le_iff (by decide)).mpr short)
    obtain ⟨name, member, long⟩ := not_forall₂.mp stretched
    have missing : environment.table? header = none := table?_eq_none member (Nat.not_le.mp long)
    refine ⟨iff_of_true missing ⟨name, member, Nat.not_le.mp long⟩, fun text found => ?_⟩
    cases missing.symm.trans found
  · obtain ⟨text, head, rows, found, isTable⟩ := table?_isTable header narrow first second
    refine ⟨iff_of_false (by simp [found]) ?_, fun other same => ?_⟩
    · rintro ⟨name, member, long⟩
      exact Nat.not_le.mpr long ((nameWidth_le_iff (by decide)).mp narrow name member)
    · obtain rfl := Option.some.inj (found.symm.trans same)
      exact ⟨_, _, head, rows, isTable⟩

/-- Variables with a name of two bytes a character, and with values of 44, 45 and 60 characters. -/
def mixedVariables : Environment :=
  ofList [("ИМЯ", rule 'é' 44), ("EDGE", rule 'v' 45), ("LONG", rule 'x' 60)]

theorem table_keeps_shape_mixedVariables :
    "Distributed Envs".length ≤ 40 ∧ "Value".length ≤ 45 ∧
      ∃ text, mixedVariables.table? ("Distributed Envs", "Value") = some text ∧
        ∃ width entries head rows,
          IsTable mixedVariables ("Distributed Envs", "Value") text width entries head rows := by
  obtain ⟨missing, shape⟩ :=
    table_keeps_shape mixedVariables ("Distributed Envs", "Value") (by decide) (by decide)
  have short : mixedVariables.HasShortNames := hasShortNames_ofList rfl
  have present : mixedVariables.table? ("Distributed Envs", "Value") ≠ none := by
    intro none
    obtain ⟨name, member, long⟩ := missing.mp none
    exact Nat.not_le.mpr long ((short name member).trans (by decide))
  obtain ⟨text, found⟩ := Option.ne_none_iff_exists'.mp present
  exact ⟨by decide, by decide, text, found, shape text found⟩

/-- A name that is too long for a column. -/
def longName : String := rule 'K' 65536

/-- A name can be too long for the table. -/
theorem table_missing_longName :
    "Distributed Envs".length ≤ 40 ∧ "Value".length ≤ 45 ∧
      (ofList [(longName, "v")]).table? ("Distributed Envs", "Value") = none := by
  have member : longName ∈ ofList [(longName, "v")] := by
    rw [Std.TreeMap.mem_iff_isSome_getElem?, getElem?_ofList]
    simp
  have long : widestColumn < longName.utf8ByteSize := by
    refine Nat.lt_of_lt_of_le ?_ (length_le_utf8ByteSize longName)
    rw [longName, length_rule]
    decide
  exact ⟨by decide, by decide, table?_eq_none member long⟩

end Table

/-! ### The variables of a job -/

namespace ServerJob

variable {job : ServerJob} {role : Role} {process : RoleProcess} {slot : Nat} {own : Environment}

theorem common_hasShortNames (job : ServerJob) (role : Role) :
    (job.common role).HasShortNames :=
  (hasShortNames_ofList rfl).under (hasShortNames_rendezvous job.rendezvous)

theorem listening_hasShortNames (process : RoleProcess) : (listening process).HasShortNames :=
  hasShortNames_ofList rfl

theorem affinity_hasShortNames (job : ServerJob) (slot : Nat) :
    (job.affinity slot).HasShortNames :=
  hasShortNames_ofList rfl

theorem environment_hasShortNames (answered : job.environment role process slot = .ok own) :
    own.HasShortNames := by
  have common := job.common_hasShortNames role
  have bound := job.affinity_hasShortNames slot
  cases role with
  | trainer =>
    have rank : (ofList [("PADDLE_TRAINER_ID", toString process.rank)]).HasShortNames :=
      hasShortNames_ofList rfl
    have ranked := common.under rank
    cases answered
    split
    · exact ranked
    · exact ranked.under bound
  | server =>
    cases answered
    exact common.under (listening_hasShortNames process)
  | heterWorker =>
    rw [environment] at answered
    split at answered
    · cases answered
    · cases answered
      exact (common.under (listening_hasShortNames process)).under bound

end ServerJob

end Environment

namespace Job

open Environment

/-- The variables that a driver has for a process have short names. -/
theorem settings_hasShortNames {config : LaunchConfig} {context : JobContext} {cluster : Cluster}
    {directory : String} {kind : JobKind} {post : Post} {own : Environment}
    (known : settings config context cluster directory kind post = .ok own) :
    own.HasShortNames := by
  cases kind with
  | collective =>
    rw [settings] at known
    rw [← Except.ok.inj known]
    exact (hasShortNames_rendezvous directory).under (hasShortNames_ofList rfl)
  | parameterServer => exact ServerJob.environment_hasShortNames known

/-- **The table that a job reports** is never missing: its lines have 93 characters, and it has one
for every variable of the process. -/
theorem settings_table {config : LaunchConfig} {context : JobContext} {cluster : Cluster}
    {directory : String} {kind : JobKind} {post : Post} {own : Environment}
    (known : settings config context cluster directory kind post = .ok own) :
    ∃ head rows, IsTable own ("Distributed Envs", "Value")
      (own.table ("Distributed Envs", "Value")) 40 own.toList head rows := by
  have width := (settings_hasShortNames known).nameWidth
  have narrow : nameWidth own ≤ widestColumn := width.trans_le (by decide)
  obtain ⟨text, head, rows, found, isTable⟩ :=
    table?_isTable ("Distributed Envs", "Value") narrow (by decide) (by decide)
  rw [width] at isTable
  rw [table, found]
  exact ⟨head, rows, isTable⟩

end Job

end TrainingLauncher
