/-
Where the ports of a node come from. The machine is asked for a free port until enough different
ones are known, but only so often; what was found are the different ports among the answers up to
the one that was enough. When the answers are used up before, the block after the default start port
takes the place of the free ports, and it gives the same guarantees.

* `PortBlock.answered`: the different ports among some answers.
* `PortBlock.Reaches`: the answers that are needed for so many different ports.
* `PortBlock.findFree_eq_some_iff`, `PortBlock.findFree_eq_none_iff`: what is found, and when.
* `PortBlock.allocate_eq_ok_iff`, `PortBlock.allocate_eq_error_iff`: what is handed out, and when.
* `PortBlock.allocate_firstFree`: all of it together.
-/

import Mathlib.Data.Finset.Card
import Mathlib.Data.List.ReduceOption
import Mathlib.Data.List.Sort
import TrainingLauncher.Proofs.PortBlock

namespace TrainingLauncher.PortBlock

section Answers

/-- The different ports among the answers of a machine. -/
def answered (answers : List (Option Port)) : Finset Port := answers.reduceOption.toFinset

variable {count : Nat} {answers asked other : List (Option Port)} {port : Port}

theorem mem_answered : port ∈ answered answers ↔ some port ∈ answers := by
  rw [answered, List.mem_toFinset, List.reduceOption_mem_iff]

theorem answered_mono (within : asked <+: other) : answered asked ⊆ answered other :=
  fun _ member => mem_answered.mpr (within.subset (mem_answered.mp member))

/-- More answers never make fewer ports known. -/
theorem card_answered_mono (within : asked <+: other) :
    (answered asked).card ≤ (answered other).card :=
  Finset.card_le_card (answered_mono within)

/-- An answer that is an error makes no port known. -/
theorem answered_append_none : answered (asked ++ [none]) = answered asked := by
  ext port
  simp [mem_answered]

theorem answered_append_some :
    answered (asked ++ [some port]) = insert port (answered asked) := by
  ext other
  simp only [mem_answered, Finset.mem_insert, List.mem_append, List.mem_singleton,
    Option.some.injEq]
  exact or_comm

/-- The answers that are needed for `count` different ports: they hold so many, and whoever has so
many from the same machine has heard all of them. -/
structure Reaches (count : Nat) (answers asked : List (Option Port)) : Prop where
  first : asked <+: answers
  enough : (answered asked).card = count
  least : ∀ other, other <+: answers → count ≤ (answered other).card → asked <+: other

theorem Reaches.nil : Reaches 0 answers [] where
  first := List.nil_prefix
  enough := rfl
  least _ _ _ := List.nil_prefix

/-- There is only one way to need as few answers as possible. -/
theorem Reaches.unique (one : Reaches count answers asked) (two : Reaches count answers other) :
    asked = other := by
  have shorter := one.least other two.first two.enough.ge
  have longer := two.least asked one.first one.enough.ge
  exact shorter.eq_of_length (Nat.le_antisymm shorter.length_le longer.length_le)

end Answers

section Lists

/-- A list has the ports of a set, in ascending order. -/
structure Lists (ports : List Port) (known : Finset Port) : Prop where
  ascending : ports.Pairwise (· < ·)
  same : ports.toFinset = known

variable {ports other : List Port} {known : Finset Port} {port : Port}

theorem Lists.length_eq (lists : Lists ports known) : ports.length = known.card := by
  rw [← lists.same, List.toFinset_card_of_nodup (lists.ascending.imp UInt16.ne_of_lt)]

/-- A set has one list. -/
theorem Lists.unique (one : Lists ports known) (two : Lists other known) : ports = other := by
  refine one.ascending.eq_of_mem_iff two.ascending fun port => ?_
  rw [← List.mem_toFinset, ← List.mem_toFinset, one.same, two.same]

theorem Lists.insertPort (lists : Lists ports known) :
    Lists (insertPort port ports) (insert port known) where
  ascending := insertPort_ascending lists.ascending
  same := by
    ext other
    rw [List.mem_toFinset, mem_insertPort, Finset.mem_insert, ← lists.same, List.mem_toFinset]

end Lists

section Collecting

variable {count : Nat} {found ports : List Port} {seen probes : List (Option Port)}

/-- One more answer is enough when it is the first after which there are enough ports. -/
theorem Reaches.of_last {port : Port} {rest : List (Option Port)}
    (few : (answered seen).card < count)
    (enough : (answered (seen ++ [some port])).card = count) :
    Reaches count (seen ++ some port :: rest) (seen ++ [some port]) := by
  have within : seen ++ [some port] <+: seen ++ some port :: rest :=
    ⟨rest, by rw [List.append_assoc, List.singleton_append]⟩
  refine ⟨within, enough, fun other first many => ?_⟩
  rcases List.prefix_or_prefix_of_prefix within first with longer | shorter
  · exact longer
  · rcases List.prefix_concat_iff.mp shorter with rfl | early
    · exact List.prefix_rfl
    · exact absurd (many.trans (card_answered_mono early)) (Nat.not_le.mpr few)

/-- **What is collected** after some answers that were not enough. The induction goes along the
answers that follow; those before are kept, with their ports in `found`. -/
theorem collect_reaches (lists : Lists found (answered seen)) (few : (answered seen).card < count)
    (collected : collect count found probes = some ports) :
    ∃ asked, Reaches count (seen ++ probes) asked ∧ Lists ports (answered asked) := by
  induction probes generalizing found seen with
  | nil => cases collected
  | cons answer rest ih =>
    cases answer with
    | none =>
      rw [collect] at collected
      rw [← answered_append_none] at lists few
      simpa only [List.append_assoc, List.singleton_append] using ih lists few collected
    | some port =>
      have more : Lists (insertPort port found) (answered (seen ++ [some port])) :=
        answered_append_some ▸ lists.insertPort
      rw [collect] at collected
      split at collected
      · rename_i many
        cases collected
        have step := @length_insertPort_le port found
        have exactly : (answered (seen ++ [some port])).card = count := by
          rw [more.length_eq] at step many
          rw [lists.length_eq] at step
          omega
        exact ⟨_, Reaches.of_last few exactly, more⟩
      · rename_i lacking
        rw [more.length_eq, ge_iff_le, Nat.not_le] at lacking
        simpa only [List.append_assoc, List.singleton_append] using ih more lacking collected

/-- **Nothing is collected** only when all answers together were not enough. -/
theorem collect_lacks (lists : Lists found (answered seen)) (few : (answered seen).card < count)
    (nothing : collect count found probes = none) : (answered (seen ++ probes)).card < count := by
  induction probes generalizing found seen with
  | nil => rwa [List.append_nil]
  | cons answer rest ih =>
    cases answer with
    | none =>
      rw [collect] at nothing
      rw [← answered_append_none] at lists few
      simpa only [List.append_assoc, List.singleton_append] using ih lists few nothing
    | some port =>
      have more : Lists (insertPort port found) (answered (seen ++ [some port])) :=
        answered_append_some ▸ lists.insertPort
      rw [collect] at nothing
      split at nothing
      · cases nothing
      · rename_i lacking
        rw [more.length_eq, ge_iff_le, Nat.not_le] at lacking
        simpa only [List.append_assoc, List.singleton_append] using ih more lacking nothing

end Collecting

section FreePorts

variable {count : Nat} {found : List Port} {probes : List (Option Port)}

theorem lists_nil : Lists [] (answered []) := ⟨.nil, rfl⟩

theorem findFree_reaches (free : findFree count probes = some found) :
    ∃ asked, Reaches count (probes.take probeLimit) asked ∧ Lists found (answered asked) := by
  rw [findFree] at free
  split at free
  · rename_i zero
    cases free
    exact ⟨[], zero ▸ Reaches.nil, lists_nil⟩
  · rename_i some
    have few : (answered []).card < count := Nat.pos_of_ne_zero some
    exact collect_reaches lists_nil few free

/-- **There are too few free ports** when the answers that are asked for do not hold so many. -/
theorem findFree_eq_none_iff : findFree count probes = none ↔
    (answered (probes.take probeLimit)).card < count := by
  constructor
  · intro nothing
    rw [findFree] at nothing
    split at nothing
    · cases nothing
    · rename_i some
      have few : (answered []).card < count := Nat.pos_of_ne_zero some
      exact collect_lacks lists_nil few nothing
  · intro few
    cases free : findFree count probes with
    | none => rfl
    | some found =>
      obtain ⟨asked, reaches, -⟩ := findFree_reaches free
      have many := card_answered_mono reaches.first
      rw [reaches.enough] at many
      exact absurd few (Nat.not_lt.mpr many)

/-- **The free ports** are those among the answers that are needed, in ascending order. -/
theorem findFree_eq_some_iff : findFree count probes = some found ↔
    ∃ asked, Reaches count (probes.take probeLimit) asked ∧ Lists found (answered asked) := by
  refine ⟨findFree_reaches, fun ⟨asked, reaches, lists⟩ => ?_⟩
  cases free : findFree count probes with
  | none =>
    have few := findFree_eq_none_iff.mp free
    have many := card_answered_mono reaches.first
    rw [reaches.enough] at many
    exact absurd few (Nat.not_lt.mpr many)
  | some ports =>
    obtain ⟨other, reaches', lists'⟩ := findFree_reaches free
    cases reaches.unique reaches'
    exact congrArg some (lists'.unique lists)

theorem isSome_findFree_iff : (findFree count probes).isSome ↔
    ∃ asked, asked <+: probes.take probeLimit ∧ count ≤ (answered asked).card := by
  rw [← Option.ne_none_iff_isSome, Ne, findFree_eq_none_iff, Nat.not_lt]
  constructor
  · exact fun many => ⟨_, List.prefix_rfl, many⟩
  · rintro ⟨asked, first, many⟩
    exact many.trans (card_answered_mono first)

/-- As many ports are found as were asked for. -/
theorem length_of_findFree (free : findFree count probes = some found) : found.length = count := by
  obtain ⟨asked, reaches, lists⟩ := findFree_reaches free
  rw [lists.length_eq, reaches.enough]

end FreePorts

section Allocation

variable {count offset : Nat} {start : Option Port} {probes : List (Option Port)}
  {found : List Port} {error : LaunchError}

/-- A block has as many ports as asked for, in ascending order. -/
theorem ports_lists {first : Port} (built : ports first offset count = .ok found) :
    found.length = count ∧ found.Pairwise (· < ·) := by
  obtain ⟨fits, rfl⟩ := ports_eq_ok_iff.mp built
  exact ⟨length_block, block_ascending fits⟩

/-- Where ports are handed out from. -/
inductive Allots (count offset : Nat) (probes : List (Option Port)) : Option Port → List Port → Prop
  /-- The block at the offset from the start port. -/
  | configured {start : Port} {found : List Port} (built : ports start offset count = .ok found) :
      Allots count offset probes (some start) found
  /-- Without a start port, the free ports. -/
  | probed {found : List Port} (free : findFree count probes = some found) :
      Allots count offset probes none found
  /-- When there are too few of them, the block at the offset from the default start port. -/
  | fallback {found : List Port} (few : findFree count probes = none)
      (built : ports defaultStart offset count = .ok found) :
      Allots count offset probes none found

theorem allocate_eq_ok_iff : (allocate count offset start probes).result = .ok found ↔
    Allots count offset probes start found := by
  cases start with
  | some start =>
    refine ⟨.configured, fun allots => ?_⟩
    cases allots with
    | configured built => exact built
  | none =>
    rw [allocate]
    cases free : findFree count probes with
    | some ports =>
      refine ⟨fun same => Except.ok.inj same ▸ .probed free, fun allots => ?_⟩
      cases allots with
      | probed free' =>
        cases free.symm.trans free'
        rfl
      | fallback few => cases free.symm.trans few
    | none =>
      refine ⟨.fallback free, fun allots => ?_⟩
      cases allots with
      | probed free' => cases free.symm.trans free'
      | fallback few built => exact built

/-- **Ports are refused** only when the block does not fit that they would be taken from, and with
the reason why it does not. -/
theorem allocate_eq_error_iff : (allocate count offset start probes).result = .error error ↔
    (start = none → findFree count probes = none) ∧
      ports (start.getD defaultStart) offset count = .error error := by
  cases start with
  | some start => exact (and_iff_right fun same => by cases same).symm
  | none =>
    rw [allocate]
    cases free : findFree count probes with
    | some ports =>
      exact iff_of_false (fun same => by cases same) fun refused => by cases refused.1 rfl
    | none => exact (and_iff_right fun _ => rfl).symm

/-- **As many ports are handed out as were asked for, in ascending order**, wherever they come
from. -/
theorem Allots.lists (allots : Allots count offset probes start found) :
    found.length = count ∧ found.Pairwise (· < ·) := by
  cases allots with
  | configured built => exact ports_lists built
  | probed free => exact ⟨length_of_findFree free, findFree_ascending free⟩
  | fallback _ built => exact ports_lists built

/-- **What a machine finds and what a node is given.** So many free ports are found exactly when
some of the first answers of the machine hold so many; they are the different ports of the fewest
answers that do, and so there are never more than the machine is asked for. A node with a start port
is given the block that it asks for. Without one it is given the free ports, and the block after the
default start port when there are too few. It is always given as many ports as it needs, in
ascending order; and it goes without only when the block does not fit that they would be taken
from. -/
theorem allocate_firstFree (count offset : Nat) (start : Option Port)
    (probes : List (Option Port)) :
    ((findFree count probes).isSome ↔ count = 0 ∨
      ∃ asked, asked <+: probes.take probeLimit ∧ count ≤ (answered asked).card) ∧
    (∀ found, findFree count probes = some found ↔
      ∃ asked, Reaches count (probes.take probeLimit) asked ∧ Lists found (answered asked)) ∧
    (∀ found, findFree count probes = some found → found.length = count) ∧
    (probeLimit < count → findFree count probes = none) ∧
    (∀ found, (allocate count offset start probes).result = .ok found ↔
      Allots count offset probes start found) ∧
    (∀ found, (allocate count offset start probes).result = .ok found →
      found.length = count ∧ found.Pairwise (· < ·)) ∧
    (∀ error, (allocate count offset start probes).result = .error error ↔
      (start = none → findFree count probes = none) ∧
        ports (start.getD defaultStart) offset count = .error error) ∧
    (∀ error, (allocate count offset start probes).result = .error error →
      portSpace < (start.getD defaultStart).toNat + offset + count ∧
        ((start.getD defaultStart).toNat + offset + count ≤ Decimal.limit64 →
          error.IsConfig)) := by
  refine ⟨?_, fun found => findFree_eq_some_iff, fun found => length_of_findFree, fun many => ?_,
    fun found => allocate_eq_ok_iff, fun found given => (allocate_eq_ok_iff.mp given).lists,
    fun error => allocate_eq_error_iff, fun error refused => ?_⟩
  · rw [isSome_findFree_iff]
    refine (or_iff_right_of_imp ?_).symm
    rintro rfl
    exact ⟨[], List.nil_prefix, Nat.zero_le _⟩
  · cases free : findFree count probes with
    | none => rfl
    | some ports => exact absurd (le_of_findFree free) (Nat.not_le.mpr many)
  · have unbuilt := (allocate_eq_error_iff.mp refused).2
    refine ⟨(ports_eq_error_iff.mp unbuilt).1, fun small => ?_⟩
    exact (ports_error unbuilt).resolve_right (Nat.not_lt.mpr small)

/-- A machine that repeats itself and fails now and then. -/
def hesitantProbes : List (Option Port) := [some 40001, none, some 40001, some 39999, some 40002]

theorem allocate_firstFree_hesitantProbes :
    (∃ asked, Reaches 2 hesitantProbes asked ∧ Lists [39999, 40001] (answered asked)) ∧
      (allocate 2 0 none hesitantProbes).result = .ok [39999, 40001] ∧
      (allocate 4 0 none hesitantProbes).result = .ok [6070, 6071, 6072, 6073] := by
  obtain ⟨-, found, -, -, two, -⟩ := allocate_firstFree 2 0 none hesitantProbes
  obtain ⟨-, -, -, -, four, -⟩ := allocate_firstFree 4 0 none hesitantProbes
  have free : findFree 2 hesitantProbes = some [39999, 40001] := by decide
  exact ⟨(found _).mp free, (two _).mpr (.probed free),
    (four _).mpr (.fallback (by decide) (by decide))⟩

end Allocation

end TrainingLauncher.PortBlock
