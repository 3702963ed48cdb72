/-
Defaults that are stored are found again. A file that is written is read back as it was written,
also if it held something else before, and a document of defaults is read as the defaults. So
whoever loads defaults after they were stored gets them all, with everything open that was left
open.

* `FileTree.readText_write`: a file that is written in a tree of files is read back.
* `Host.Keeps`: a machine on which this is so.
* `Stage.keeps_of_write`: a tree of files makes such a machine.
* `Stored.run_save_load`: on such a machine stored defaults are loaded as they are.
* `Stored.save_load_roundTrips`: the laws together.
-/

import TrainingLauncher.CommandLine.Execution
import TrainingLauncher.Proofs.Script
import TrainingLauncher.Proofs.Toml.Defaults

namespace TrainingLauncher

namespace FileTree

variable {tree grown : FileTree} {place : Place} {path : String}

/-- What stands at the places of a tree after an entry was put. -/
theorem entry?_put (tree : FileTree) (place target : String) (entry : FileEntry)
    (filled : place ≠ "") : entry? (tree.put place entry) target =
      if target = place then some entry else tree.entry? target := by
  unfold entry? put
  by_cases same : target = place
  · subst same
    simp [filled]
  · have apart : compare place target ≠ .eq := fun equal =>
      same (Std.LawfulEqCmp.eq_of_compare equal).symm
    simp [same, Std.TreeMap.getElem?_insert, apart]

/-- What stands at the places of a tree after the content of a file was replaced. -/
theorem entry?_alter (tree : FileTree) (place target : String) (content : ByteArray)
    {earlier : ByteArray} {executable : Bool}
    (file : tree.entry? place = some (.file earlier executable)) :
    entry? (tree.alter place fun _ => content) target =
      if target = place then some (.file content executable) else tree.entry? target := by
  have filled : place ≠ "" := by
    rintro rfl
    cases file
  unfold entry? alter
  by_cases same : target = place
  · subst same
    have here : tree.entries[target]? = some (.file earlier executable) := by
      simpa [filled, entry?] using file
    simp [filled, here]
  · have apart : compare place target ≠ .eq := fun equal =>
      same (Std.LawfulEqCmp.eq_of_compare equal).symm
    simp [same, Std.TreeMap.getElem?_modify, apart]

/-- What a path leads to, if it is not a directory, is what stands at its place. -/
theorem entry_of_follow {slashed : Bool} {directory : String} {names : List String}
    (led : tree.follow slashed directory names = .ok place)
    (other : place.entry ≠ some .directory) : place.entry = tree.entry? place.path := by
  induction names generalizing directory with
  | nil =>
    cases led
    exact absurd rfl other
  | cons name rest ih =>
    unfold follow at led
    split at led
    · cases led
    · split at led
      · exact ih led
      · cases led
        rfl
      · cases led
      · cases led

/-- Where all directories stay, a path that led to something else leads to the same place. -/
theorem follow_of_kept {slashed : Bool} {directory : String} {names : List String}
    (kept : ∀ target, tree.entry? target = some .directory → grown.entry? target = some .directory)
    (led : tree.follow slashed directory names = .ok place)
    (before : place.entry ≠ some .directory)
    (after : grown.entry? place.path ≠ some .directory) :
    grown.follow slashed directory names = .ok { place with entry := grown.entry? place.path } := by
  induction names generalizing directory with
  | nil =>
    cases led
    exact absurd rfl before
  | cons name rest ih =>
    unfold follow at led ⊢
    split at led
    · cases led
    · rename_i short
      rw [if_neg short]
      split at led
      · rename_i found
        rw [kept _ found]
        exact ih led
      · cases led
        simp only
      · cases led
      · cases led

/-- A path that is not too long is followed name by name. -/
theorem locate_of_legal (legal : '\x00' ∉ path.toList) (filled : path ≠ "")
    (short : path.utf8ByteSize ≤ pathLimit) :
    tree.locate path = tree.follow (path.endsWith "/") "" (names path) := by
  unfold locate
  rw [String.contains_char_eq]
  simp [legal, filled, Nat.not_lt.mpr short]

/-- A directory that is there already is left alone. -/
theorem createDirectory_of_directory (led : tree.locate path = .ok place)
    (directory : place.entry = some .directory) : tree.createDirectory path = (.ok (), tree) := by
  have taken : tree.makeDirectory path = .error .alreadyExists := by
    simp [makeDirectory, led, directory, bind, Except.bind, throw, throwThe, MonadExceptOf.throw]
  have there : tree.isDirectory path = true := by
    simp [isDirectory, look, led, directory, bind, Except.bind, pure, Except.pure]
  have kind : IoError.alreadyExists.kind ≠ .notFound := by decide
  unfold createDirectory
  split
  · rfl
  · unfold createAlong
    simp [taken, kind, there]

/-- A file that is there already is written. -/
theorem write_of_file {earlier content : ByteArray} {executable : Bool}
    (led : tree.locate path = .ok place) (file : place.entry = some (.file earlier executable))
    (unslashed : place.slashed = false) :
    tree.write path content = .ok (tree.alter place.path fun _ => content) := by
  simp [write, createFile, led, file, unslashed, bind, Except.bind, pure, Except.pure]

/-- A path leads to a file, or to nothing yet. -/
def LeadsToFile (tree : FileTree) (path : String) : Prop :=
  ∀ place, tree.locate path = .ok place →
    place.entry = none ∨ ∃ content executable, place.entry = some (.file content executable)

/-- A path that leads anywhere in some tree is followed in every tree. -/
theorem locate_eq_follow (led : tree.locate path = .ok place) (other : FileTree) :
    other.locate path = other.follow (path.endsWith "/") "" (names path) := by
  unfold locate at led ⊢
  split at led
  · cases led
  split at led
  · cases led
  split at led
  · cases led
  · rename_i legal filled short
    rw [if_neg legal, if_neg filled, if_neg short]

/-- Writing a file puts it at its place, and changes nothing else. -/
theorem write_eq_ok {content : ByteArray} (plain : tree.LeadsToFile path)
    (written : tree.write path content = .ok grown) :
    ∃ place executable, tree.locate path = .ok place ∧ place.entry ≠ some .directory ∧
      place.slashed = false ∧ ∀ target, grown.entry? target =
        if target = place.path then some (.file content executable) else tree.entry? target := by
  unfold write at written
  obtain ⟨⟨created, others⟩, creates, altered⟩ := bind_eq_ok_iff.mp written
  cases altered
  unfold createFile at creates
  obtain ⟨place, led, creates⟩ := bind_eq_ok_iff.mp creates
  have followed := led
  rw [locate_eq_follow led] at followed
  rcases plain place led with missing | ⟨earlier, executable, file⟩
  · have other : place.entry ≠ some .directory := by rw [missing]; nofun
    have vacant : tree.entry? place.path = none := missing ▸ (entry_of_follow followed other).symm
    have filled : place.path ≠ "" := by
      intro root
      rw [root] at vacant
      cases vacant
    cases slashed : place.slashed with
    | true => simp [missing, slashed] at creates
    | false =>
      simp only [missing, slashed] at creates
      cases creates
      have made : entry? (tree.put place.path (.file .empty false)) place.path =
          some (.file .empty false) := by
        rw [entry?_put _ _ _ _ filled, if_pos rfl]
      refine ⟨place, false, led, other, slashed, fun target => ?_⟩
      rw [entry?_alter _ _ _ _ made, entry?_put _ _ _ _ filled]
      by_cases same : target = place.path
      · rw [if_pos same, if_pos same]
      · rw [if_neg same, if_neg same, if_neg same]
  · have other : place.entry ≠ some .directory := by rw [file]; nofun
    have found : tree.entry? place.path = some (.file earlier executable) :=
      file ▸ (entry_of_follow followed other).symm
    cases slashed : place.slashed with
    | true => simp [file, slashed] at creates
    | false =>
      simp only [file, slashed] at creates
      cases creates
      exact ⟨place, executable, led, other, slashed, fun target => entry?_alter tree _ _ _ found⟩

/-- **A file that is written in a tree of files is read back**, whatever it held before. -/
theorem readText_write {content : String} (plain : tree.LeadsToFile path)
    (written : tree.write path content.toUTF8 = .ok grown) : grown.readText path = .ok content := by
  obtain ⟨place, executable, led, other, unslashed, entries⟩ := write_eq_ok plain written
  have here : grown.entry? place.path = some (.file content.toUTF8 executable) := by
    rw [entries, if_pos rfl]
  have followed := led
  rw [locate_eq_follow led] at followed
  have kept : ∀ target, tree.entry? target = some .directory →
      grown.entry? target = some .directory := by
    intro target directory
    have apart : target ≠ place.path := by
      rintro rfl
      exact other ((entry_of_follow followed other).trans directory)
    rw [entries, if_neg apart, directory]
  have found : grown.locate path = .ok { place with entry := grown.entry? place.path } := by
    rw [locate_eq_follow led]
    exact follow_of_kept kept followed other (by rw [here]; nofun)
  have decoded : String.fromUTF8? content.toByteArray = some content :=
    dif_pos content.isValidUTF8
  have read : grown.read path = .ok content.toUTF8 := by
    simp [read, look, found, here, unslashed, contentOf, bind, Except.bind, pure, Except.pure]
  simp [readText, read, decoded, bind, Except.bind, pure, Except.pure]

/-- Where something is read there is something. -/
theorem look_isOk_of_readText {content : String} (read : tree.readText path = .ok content) :
    (tree.look path).isOk = true := by
  obtain ⟨bytes, found, -⟩ := bind_eq_ok_iff.mp read
  obtain ⟨entry, here, -⟩ := bind_eq_ok_iff.mp found
  rw [here]
  rfl

end FileTree

namespace Host

/-- From a state of the machine a file can be written; then it is there, and is read as it was
written. -/
structure Keeps (host : Host σ) (state : σ) (path content : String) : Prop where
  writes : (host.answer (.writeFile path content) state).1 = .ok ()
  stands : (host.answer (.fileExists path) (host.answer (.writeFile path content) state).2).1 = true
  reads : (host.answer (.readFile path) (host.answer (.fileExists path)
    (host.answer (.writeFile path content) state).2).2).1 = .ok content

end Host

namespace Rehearsal.Stage

/-- **A tree of files keeps what is written into it.** -/
theorem keeps_of_write {stage : Stage} {path content : String} {grown : FileTree}
    (plain : stage.files.LeadsToFile path)
    (written : stage.files.write path content.toUTF8 = .ok grown) :
    Stage.host.Keeps stage path content := by
  have read := FileTree.readText_write plain written
  have changed : stage.change (stage.files.write path content.toUTF8) =
      (.ok (), { stage with files := grown }) := by
    rw [written]
    rfl
  constructor
  · show (stage.change (stage.files.write path content.toUTF8)).1 = .ok ()
    rw [changed]
  · show ((stage.change (stage.files.write path content.toUTF8)).2.files.look path).isOk = true
    rw [changed]
    exact FileTree.look_isOk_of_readText read
  · show (stage.change (stage.files.write path content.toUTF8)).2.files.readText path = .ok content
    rw [changed]
    exact read

end Rehearsal.Stage

namespace CommandLine.Stored

variable {σ : Type} {host : Host σ} {state : σ} {node : Node}
  {directory path : String} {defaults : Defaults}

/-- **Stored defaults are loaded as they are**, whatever the file held before. -/
theorem run_save_load (owned : ownDirectory? node = some directory)
    (named : path? node = some path)
    (made : (host.answer (.createDirectory directory) state).1 = .ok ())
    (kept : host.Keeps (host.answer (.createDirectory directory) state).2 path
      (Toml.written defaults)) :
    ((save node defaults).run host state).1 = .ok path ∧
      ((load node).run host ((save node defaults).run host state).2).1 =
        defaults := by
  have saved : (save node defaults).run host state = (.ok path,
      (host.answer (.writeFile path (Toml.written defaults))
        (host.answer (.createDirectory directory) state).2).2) := by
    simp [save, owned, named, bind, Program.andThen, Program.request, Program.run, made,
      kept.writes, pure]
  have there := kept.stands
  have loaded := kept.reads
  refine ⟨by rw [saved], ?_⟩
  rw [saved]
  simp [load, named, bind, Program.andThen, Program.request, Program.run, there, loaded,
    Toml.defaults?_written, pure]

/-- **Stored defaults load back as they are.** Whatever the defaults are, with any characters in
their texts and any of them left open, their document is read as them. When the document is written
to a path of a tree of files that leads to a file or to nothing yet, then whatever stood there
before, what is read there afterwards are the defaults. On every machine that makes the directory
and keeps the document, storing defaults tells the path of the file, and loading them afterwards
gives them back. -/
theorem save_load_roundTrips :
    (∀ defaults : Defaults, Toml.defaults? (Toml.written defaults) = some defaults) ∧
    (∀ (tree grown : FileTree) (path : String) (defaults : Defaults), tree.LeadsToFile path →
      tree.write path (Toml.written defaults).toUTF8 = .ok grown →
      ∃ document, grown.readText path = .ok document ∧ Toml.defaults? document = some defaults) ∧
    ∀ {σ : Type} (host : Host σ) (state : σ) (node : Node) (directory path : String)
      (defaults : Defaults), ownDirectory? node = some directory →
      path? node = some path →
      (host.answer (.createDirectory directory) state).1 = .ok () →
      host.Keeps (host.answer (.createDirectory directory) state).2 path (Toml.written defaults) →
      ((save node defaults).run host state).1 = .ok path ∧
        ((load node).run host ((save node defaults).run host state).2).1 =
          defaults := by
  refine ⟨Toml.defaults?_written, ?_, ?_⟩
  · intro tree grown path defaults plain written
    exact ⟨_, FileTree.readText_write plain written, Toml.defaults?_written defaults⟩
  · intro σ host state node directory path defaults owned named made kept
    exact run_save_load owned named made kept

/-- Defaults whose texts need every kind of quotes and escapes. -/
def awkwardDefaults : Defaults := { Defaults.empty with
  logLevel := some ""
  mode := some .unset
  logDir := some "a\"b\'\'\'c\\d\ne\x01\x7f"
  startPort := some 65535
  ips := some "\'\"\"\"\'" }

section Rehearsal

open Rehearsal

/-- Files with something in the place of the stored defaults. -/
def storedFiles (content : ByteArray) : FileTree :=
  (((FileTree.empty.put "root" .directory).put "root/.config" .directory).put
    "root/.config/fleetrun" .directory).put "root/.config/fleetrun/config.toml"
      (.file content false)

theorem locate_directory (content : ByteArray) :
    (storedFiles content).locate "/root/.config/fleetrun" =
      .ok ⟨"root/.config/fleetrun", some .directory, false⟩ := by
  rw [FileTree.locate_of_legal (by decide) (by decide) (by decide),
    show "/root/.config/fleetrun".endsWith "/" = false by decide +kernel,
    show FileTree.names "/root/.config/fleetrun" = ["root", ".config", "fleetrun"] by
      decide +kernel]
  simp [FileTree.follow, storedFiles, FileTree.entry?_put, FileTree.step, FileTree.below]
  rfl

theorem locate_file (content : ByteArray) :
    (storedFiles content).locate "/root/.config/fleetrun/config.toml" =
      .ok ⟨"root/.config/fleetrun/config.toml", some (.file content false), false⟩ := by
  rw [FileTree.locate_of_legal (by decide) (by decide) (by decide),
    show "/root/.config/fleetrun/config.toml".endsWith "/" = false by decide +kernel,
    show FileTree.names "/root/.config/fleetrun/config.toml" =
      ["root", ".config", "fleetrun", "config.toml"] by decide +kernel]
  simp [FileTree.follow, storedFiles, FileTree.entry?_put, FileTree.step, FileTree.below]
  rfl

/-- A machine on which other defaults were stored before. -/
def storedStage : Stage :=
  .initial (storedFiles (Toml.written { Defaults.empty with gpus := some "0,1" }).toUTF8) []
    (.plain none 0)

/-- A node whose environment does not name the home directory. -/
def accountNode : Node := ⟨∅, some "/root", ⟨none, none⟩, [], []⟩

theorem save_load_roundTrips_awkward :
    (∃ grown document, storedStage.files.write "/root/.config/fleetrun/config.toml"
        (Toml.written awkwardDefaults).toUTF8 = .ok grown ∧
      grown.readText "/root/.config/fleetrun/config.toml" = .ok document ∧
      Toml.defaults? document = some awkwardDefaults) ∧
    ((save accountNode awkwardDefaults).run Stage.host storedStage).1 =
      .ok "/root/.config/fleetrun/config.toml" ∧
    ((load accountNode).run Stage.host
      ((save accountNode awkwardDefaults).run Stage.host storedStage).2).1 =
        awkwardDefaults := by
  have file := locate_file (Toml.written { Defaults.empty with gpus := some "0,1" }).toUTF8
  have plain : storedStage.files.LeadsToFile "/root/.config/fleetrun/config.toml" := by
    intro place led
    cases file.symm.trans led
    exact .inr ⟨_, _, rfl⟩
  have written : storedStage.files.write "/root/.config/fleetrun/config.toml"
      (Toml.written awkwardDefaults).toUTF8 = .ok _ :=
    FileTree.write_of_file file rfl rfl
  have made : Stage.host.answer (.createDirectory "/root/.config/fleetrun") storedStage =
      (.ok (), storedStage) := by
    have created := FileTree.createDirectory_of_directory
      (locate_directory (Toml.written { Defaults.empty with gpus := some "0,1" }).toUTF8) rfl
    show ((storedStage.files.createDirectory "/root/.config/fleetrun").1,
      { storedStage with
        files := (storedStage.files.createDirectory "/root/.config/fleetrun").2 }) = _
    rw [show storedStage.files.createDirectory _ = _ from created]
    rfl
  obtain ⟨-, inTree, onMachine⟩ := save_load_roundTrips
  obtain ⟨document, found, read⟩ := inTree _ _ _ awkwardDefaults plain written
  refine ⟨⟨_, document, written, found, read⟩, ?_⟩
  refine onMachine Stage.host storedStage accountNode "/root/.config/fleetrun" _ awkwardDefaults
    (by decide +kernel) (by decide +kernel) (by rw [made]) ?_
  rw [made]
  exact Stage.keeps_of_write plain written

end Rehearsal

end CommandLine.Stored

end TrainingLauncher
