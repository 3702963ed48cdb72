/-
The ports that a node hands out are told apart. A block of ports is a stretch of numbers, which
cannot run over the end of the numbers there are, and the free ports that the machine finds are
collected in ascending order.

* `PortBlock.ports_eq_ok_iff`: when there is a block, and which.
* `PortBlock.mem_block`, `PortBlock.block_ascending`: the numbers of its ports.
* `PortBlock.allocate_nodup`: no port is handed out twice, wherever the ports come from.
-/

import Mathlib.Data.List.Nodup
import TrainingLauncher.PortBlock

namespace TrainingLauncher.PortBlock

section Blocks

variable {start : Port} {offset count : Nat}

/-- The ports of a block. -/
def block (start : Port) (offset count : Nat) : List Port :=
  (List.range' (start.toNat + offset) count).map UInt16.ofNat

/-- **A block is there, or too long for the ports there are, or too long to be counted.** -/
theorem ports_eq (start : Port) (offset count : Nat) : ports start offset count =
    if Decimal.limit64 < start.toNat + offset + count then .error .overflow
    else if portSpace < start.toNat + offset + count then
      .error (.config
        (.portBlock (start.toNat + offset) (start.toNat + offset + count) start.toNat))
    else .ok (block start offset count) := by
  have built : ports start offset count = counted (start.toNat + offset) >>= fun first =>
      counted (first + count) >>= fun last =>
        if last > portSpace then .error (.config (.portBlock first last start.toNat))
        else .ok ((List.range' first count).map UInt16.ofNat) := rfl
  rw [built]
  by_cases large : Decimal.limit64 < start.toNat + offset + count
  · rw [if_pos large]
    by_cases beyond : Decimal.limit64 < start.toNat + offset
    · rw [counted_eq_overflow_iff.mpr beyond]
      rfl
    · rw [counted_of_le (Nat.not_lt.mp beyond)]
      show counted (start.toNat + offset + count) >>= _ = _
      rw [counted_eq_overflow_iff.mpr large]
      rfl
  · have small : start.toNat + offset + count ≤ Decimal.limit64 := Nat.not_lt.mp large
    rw [if_neg large, counted_of_le (Nat.le_trans (Nat.le_add_right _ _) small)]
    show counted (start.toNat + offset + count) >>= _ = _
    rw [counted_of_le small]
    rfl

/-- A block that is too long to be counted is too long for the ports there are. -/
theorem portSpace_lt_of_limit64_lt {last : Nat} (large : Decimal.limit64 < last) :
    portSpace < last :=
  Nat.lt_of_le_of_lt (by decide) large

/-- **There is a block exactly when it ends within the numbers that ports have.** -/
theorem ports_eq_ok_iff {found : List Port} : ports start offset count = .ok found ↔
    start.toNat + offset + count ≤ portSpace ∧ found = block start offset count := by
  rw [ports_eq]
  split
  · rename_i large
    refine iff_of_false (fun absurd => by cases absurd) fun both => ?_
    exact Nat.not_lt.mpr both.1 (portSpace_lt_of_limit64_lt large)
  · split
    · rename_i long
      exact iff_of_false (fun absurd => by cases absurd) fun both => Nat.not_lt.mpr both.1 long
    · rename_i fits
      rw [and_iff_right (Nat.not_lt.mp fits), Except.ok.injEq]
      exact eq_comm

/-- **Where there is none, it would run over the end of the ports there are**, or of the numbers
that can be counted. -/
theorem ports_eq_error_iff {error : LaunchError} :
    ports start offset count = .error error ↔ portSpace < start.toNat + offset + count ∧
      error = if Decimal.limit64 < start.toNat + offset + count then .overflow
        else .config (.portBlock (start.toNat + offset) (start.toNat + offset + count)
          start.toNat) := by
  rw [ports_eq]
  split
  · rename_i large
    rw [and_iff_right (portSpace_lt_of_limit64_lt large), Except.error.injEq]
    exact eq_comm
  · split
    · rename_i long
      rw [and_iff_right long, Except.error.injEq]
      exact eq_comm
    · rename_i fits
      exact iff_of_false (fun absurd => by cases absurd) fun both => fits both.1

theorem ports_eq_overflow_iff : ports start offset count = .error .overflow ↔
    Decimal.limit64 < start.toNat + offset + count := by
  rw [ports_eq_error_iff]
  split
  · rename_i large
    exact iff_of_true ⟨portSpace_lt_of_limit64_lt large, rfl⟩ large
  · rename_i small
    exact iff_of_false (fun absurd => by cases absurd.2) small

theorem ports_error {error : LaunchError} (failed : ports start offset count = .error error) :
    error.IsConfig ∨ Decimal.limit64 < start.toNat + offset + count := by
  obtain ⟨-, same⟩ := ports_eq_error_iff.mp failed
  split at same
  · rename_i large
    exact .inr large
  · exact .inl ⟨_, same⟩

theorem length_block : (block start offset count).length = count := by
  rw [block, List.length_map, List.length_range']

variable (within : start.toNat + offset + count ≤ portSpace)

include within

/-- A number of the block is the number of its port. -/
theorem toNat_ofNat_of_mem_range' {number : Nat}
    (member : number ∈ List.range' (start.toNat + offset) count) :
    (UInt16.ofNat number).toNat = number := by
  have bound := (List.mem_range'_1.mp member).2
  exact UInt16.toNat_ofNat_of_lt' (Nat.lt_of_lt_of_le bound within)

theorem mem_block {port : Port} : port ∈ block start offset count ↔
    start.toNat + offset ≤ port.toNat ∧ port.toNat < start.toNat + offset + count := by
  rw [← List.mem_range'_1, block, List.mem_map]
  constructor
  · rintro ⟨number, member, rfl⟩
    rwa [toNat_ofNat_of_mem_range' within member]
  · exact fun member => ⟨_, member, UInt16.ofNat_toNat⟩

/-- A list of ports is the block when their numbers follow each other. -/
theorem eq_block_iff {found : List Port} : found = block start offset count ↔
    found.map UInt16.toNat = List.range' (start.toNat + offset) count := by
  have numbers : (block start offset count).map UInt16.toNat =
      List.range' (start.toNat + offset) count := by
    rw [block, List.map_map]
    refine (List.map_congr_left fun number member => ?_).trans (List.map_id _)
    exact toNat_ofNat_of_mem_range' within member
  constructor
  · rintro rfl
    exact numbers
  · intro same
    have injective : Function.Injective UInt16.toNat := fun _ _ => UInt16.toNat_inj.mp
    exact List.map_injective_iff.mpr injective (same.trans numbers.symm)

/-- The ports of a block follow each other. -/
theorem block_ascending : (block start offset count).Pairwise (· < ·) := by
  rw [block, List.pairwise_map]
  have numbers := List.pairwise_lt_range' (s := start.toNat + offset) (n := count)
  refine numbers.imp_of_mem fun {one other} early late before => ?_
  rw [UInt16.lt_iff_toNat_lt, toNat_ofNat_of_mem_range' within early,
    toNat_ofNat_of_mem_range' within late]
  exact before

theorem block_nodup : (block start offset count).Nodup :=
  (block_ascending within).imp UInt16.ne_of_lt

end Blocks

section FreePorts

variable {port : Port} {found : List Port}

theorem mem_insertPort {other : Port} :
    other ∈ insertPort port found ↔ other = port ∨ other ∈ found := by
  induction found with
  | nil => rw [insertPort, List.mem_singleton, List.mem_nil_iff, or_false]
  | cons first rest ih =>
    rw [insertPort]
    split
    · exact List.mem_cons
    · split
      · rename_i same
        subst same
        rw [List.mem_cons, or_self_left]
      · rw [List.mem_cons, ih, List.mem_cons, or_left_comm]

theorem insertPort_ascending (ascending : found.Pairwise (· < ·)) :
    (insertPort port found).Pairwise (· < ·) := by
  induction found with
  | nil => exact List.pairwise_singleton _ _
  | cons first rest ih =>
    obtain ⟨least, others⟩ := List.pairwise_cons.mp ascending
    rw [insertPort]
    split
    · rename_i before
      refine List.pairwise_cons.mpr ⟨fun other member => ?_, ascending⟩
      rcases List.mem_cons.mp member with rfl | member
      · exact before
      · exact UInt16.lt_trans before (least other member)
    · split
      · exact ascending
      · rename_i after differs
        have behind : first < port :=
          UInt16.lt_of_le_of_ne (UInt16.not_lt.mp after) fun same => differs same.symm
        refine List.pairwise_cons.mpr ⟨fun other member => ?_, ih others⟩
        rcases mem_insertPort.mp member with rfl | member
        · exact behind
        · exact least other member

theorem collect_ascending {count : Nat} {probes : List (Option Port)} {ports : List Port}
    (ascending : found.Pairwise (· < ·)) (collected : collect count found probes = some ports) :
    ports.Pairwise (· < ·) := by
  induction probes generalizing found with
  | nil => cases collected
  | cons probe rest ih =>
    cases probe with
    | none => exact ih ascending collected
    | some port =>
      rw [collect] at collected
      split at collected
      · cases collected
        exact insertPort_ascending ascending
      · exact ih (insertPort_ascending ascending) collected

/-- Every answer of the machine is one port at most. -/
theorem length_insertPort_le : (insertPort port found).length ≤ found.length + 1 := by
  induction found with
  | nil => exact Nat.le_refl 1
  | cons first rest ih =>
    rw [insertPort]
    split
    · exact Nat.le_refl _
    · split
      · exact Nat.le_succ _
      · exact Nat.succ_le_succ ih

theorem le_of_collect {count : Nat} {probes : List (Option Port)} {ports : List Port}
    (collected : collect count found probes = some ports) :
    count ≤ found.length + probes.length := by
  induction probes generalizing found with
  | nil => cases collected
  | cons probe rest ih =>
    rw [List.length_cons]
    cases probe with
    | none => exact Nat.le_succ_of_le (ih collected)
    | some port =>
      have longer := @length_insertPort_le port found
      rw [collect] at collected
      split at collected
      · rename_i enough
        exact Nat.le_trans enough (by omega)
      · have := ih collected
        omega

/-- **No more ports are found than the machine is asked for.** -/
theorem le_of_findFree {count : Nat} {probes : List (Option Port)} {ports : List Port}
    (free : findFree count probes = some ports) : count ≤ probeLimit := by
  rw [findFree] at free
  split at free
  · rename_i none
    exact none ▸ Nat.zero_le _
  · have bound := le_of_collect free
    rw [List.length_nil, Nat.zero_add] at bound
    exact Nat.le_trans bound (List.length_take_le _ _)

theorem findFree_ascending {count : Nat} {probes : List (Option Port)} {ports : List Port}
    (free : findFree count probes = some ports) : ports.Pairwise (· < ·) := by
  rw [findFree] at free
  split at free
  · cases free
    exact List.Pairwise.nil
  · exact collect_ascending List.Pairwise.nil free

end FreePorts

/-- A block repeats no port. -/
theorem ports_nodup {start : Port} {offset count : Nat} {found : List Port}
    (built : ports start offset count = .ok found) : found.Nodup := by
  obtain ⟨within, rfl⟩ := ports_eq_ok_iff.mp built
  exact block_nodup within

/-- **No port is handed out twice**, whether it follows a start port or was found free. -/
theorem allocate_nodup {count offset : Nat} {start : Option Port} {probes : List (Option Port)}
    {found : List Port} (allocated : (allocate count offset start probes).result = .ok found) :
    found.Nodup := by
  cases start with
  | some start => exact ports_nodup allocated
  | none =>
    rw [allocate] at allocated
    cases free : findFree count probes with
    | some ports =>
      rw [free] at allocated
      cases allocated
      exact (findFree_ascending free).imp UInt16.ne_of_lt
    | none =>
      rw [free, Noted.result_bind, Noted.result_note] at allocated
      exact ports_nodup allocated

end TrainingLauncher.PortBlock
