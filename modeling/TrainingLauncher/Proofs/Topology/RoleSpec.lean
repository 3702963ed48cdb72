/-
What is said about a role of a parameter-server job, and where its processes listen. A role whose
endpoints are listed has those of the list; a role with a count alone has a block of local ports.
A count of zero and a blank list are as good as none.

* `RoleSpec.Yields`: the endpoints that a description gives a role.
* `RoleSpec.resolve_eq_ok_iff`: these are the ones that the role gets.
* `RoleSpec.resolve_error`: why it gets none.
-/

import TrainingLauncher.ParameterServer
import TrainingLauncher.Proofs.Fields
import TrainingLauncher.Proofs.PortBlock

namespace TrainingLauncher.ParameterServer

open Text

/-- The role has a list of endpoints, which is not blank. -/
def RoleSpec.Lists (spec : RoleSpec) (text : String) : Prop :=
  spec.endpoints = some text ∧ ∃ char ∈ text.toList, isBlank char = false

/-- The role has no list of endpoints, or a blank one. -/
def RoleSpec.Unlisted (spec : RoleSpec) : Prop := ∀ text, ¬spec.Lists text

/-- The role has a count, which is not zero. -/
def RoleSpec.Counts (spec : RoleSpec) (count : Nat) : Prop := spec.count = some count ∧ 0 < count

/-- The endpoints of this node at consecutive ports. -/
def localBlock (first count : Nat) : List Endpoint :=
  (List.range' first count).map fun port => ⟨"127.0.0.1", UInt16.ofNat port⟩

/-- The endpoints that a description gives a role whose ports would start at `first`. -/
inductive RoleSpec.Yields (spec : RoleSpec) (first : Nat) : List Endpoint → Prop
  /-- Those of its list, if the count agrees. -/
  | listed {text : String} {endpoints : List Endpoint} (lists : spec.Lists text)
      (read : Endpoint.parseList text = .ok endpoints)
      (agrees : ∀ count, spec.Counts count → endpoints.length = count) : Yields spec first endpoints
  /-- As many as are counted, if there are so many ports. -/
  | counted {count : Nat} (counts : spec.Counts count) (unlisted : spec.Unlisted)
      (within : first + count ≤ 65536) : Yields spec first (localBlock first count)

variable {spec : RoleSpec} {role : Role} {first offset : Nat} {startPort : Option Port}
  {endpoints : List Endpoint}

theorem RoleSpec.effectiveCount_eq_some_iff {count : Nat} :
    spec.effectiveCount = some count ↔ spec.Counts count := by
  rw [effectiveCount, Counts, Option.filter_eq_some_iff]
  simp

theorem RoleSpec.effectiveList_eq_some_iff {list : String} :
    spec.effectiveList = some list ↔ ∃ text, spec.Lists text ∧ list = trim text := by
  rw [effectiveList, Option.filter_eq_some_iff, Option.map_eq_some_iff]
  constructor
  · rintro ⟨⟨text, given, rfl⟩, filled⟩
    exact ⟨text, ⟨given, isEmpty_trim_iff.mp (by simpa using filled)⟩, rfl⟩
  · rintro ⟨text, ⟨given, visible⟩, rfl⟩
    exact ⟨⟨text, given, rfl⟩, by simpa using isEmpty_trim_iff.mpr visible⟩

theorem RoleSpec.effectiveList_eq_none_iff : spec.effectiveList = none ↔ spec.Unlisted := by
  constructor
  · intro none text lists
    have some := effectiveList_eq_some_iff.mpr ⟨text, lists, rfl⟩
    rw [none] at some
    cases some
  · intro unlisted
    cases found : spec.effectiveList with
    | none => rfl
    | some list =>
      obtain ⟨text, lists, -⟩ := effectiveList_eq_some_iff.mp found
      exact (unlisted text lists).elim

theorem length_localBlock {count : Nat} : (localBlock first count).length = count := by
  rw [localBlock, List.length_map, List.length_range']

/-- The ports of a local block are consecutive. -/
theorem localBlock_ports {count : Nat} (within : first + count ≤ 65536) :
    (localBlock first count).map (·.port.toNat) = List.range' first count := by
  rw [localBlock, List.map_map]
  refine (List.map_congr_left fun port member => ?_).trans (List.map_id _)
  have bound := (List.mem_range'_1.mp member).2
  exact UInt16.toNat_ofNat_of_lt' (Nat.lt_of_lt_of_le bound within)

theorem localBlock_eq_map_block {count : Nat} (start : Port) :
    localBlock (start.toNat + offset) count =
      (PortBlock.block start offset count).map fun port => ⟨localHost, port⟩ := by
  rw [localBlock, PortBlock.block, List.map_map]
  rfl

/-- A role with a list gets what can be read from it, if the count agrees. -/
theorem RoleSpec.resolve_listed {text : String} (lists : spec.Lists text) :
    spec.resolve role offset startPort = .ok endpoints ↔
      Endpoint.parseList text = .ok endpoints ∧
        ∀ count, spec.Counts count → endpoints.length = count := by
  rw [resolve, effectiveList_eq_some_iff.mpr ⟨text, lists, rfl⟩]
  cases counted : spec.effectiveCount with
  | none =>
    dsimp only
    rw [Endpoint.parseList_trim]
    refine (and_iff_left fun count counts => ?_).symm
    rw [effectiveCount_eq_some_iff.mpr counts] at counted
    cases counted
  | some count =>
    have same {other : Nat} (counts : spec.Counts other) : other = count :=
      Option.some.inj ((effectiveCount_eq_some_iff.mpr counts).symm.trans counted)
    dsimp only
    rw [Endpoint.parseList_trim]
    constructor
    · intro resolved
      obtain ⟨found, read, resolved⟩ := bind_eq_ok_iff.mp resolved
      by_cases agrees : found.length = count
      · rw [if_neg (not_not_intro agrees)] at resolved
        cases resolved
        exact ⟨read, fun other counts => agrees.trans (same counts).symm⟩
      · rw [if_pos agrees] at resolved
        cases resolved
    · rintro ⟨read, agrees⟩
      have agrees := agrees count (effectiveCount_eq_some_iff.mp counted)
      refine bind_eq_ok_iff.mpr ⟨endpoints, read, ?_⟩
      rw [if_neg (not_not_intro agrees)]
      rfl

/-- A role with a count alone gets a block of ports, if there is one. -/
theorem RoleSpec.resolve_unlisted (unlisted : spec.Unlisted) :
    spec.resolve role offset startPort = .ok endpoints ↔ ∃ count, spec.Counts count ∧
      (startPort.getD PortBlock.defaultStart).toNat + offset + count ≤ 65536 ∧
        endpoints =
          localBlock ((startPort.getD PortBlock.defaultStart).toNat + offset) count := by
  rw [resolve, effectiveList_eq_none_iff.mpr unlisted]
  cases counted : spec.effectiveCount with
  | none =>
    refine iff_of_false (fun absurd => by cases absurd) ?_
    rintro ⟨count, counts, -⟩
    rw [effectiveCount_eq_some_iff.mpr counts] at counted
    cases counted
  | some count =>
    constructor
    · intro resolved
      obtain ⟨ports, built, same⟩ := bind_eq_ok_iff.mp resolved
      obtain ⟨within, rfl⟩ := PortBlock.ports_eq_ok_iff.mp built
      refine ⟨count, effectiveCount_eq_some_iff.mp counted, within, ?_⟩
      rw [localBlock_eq_map_block]
      exact (Except.ok.inj same).symm
    · rintro ⟨other, counts, within, rfl⟩
      obtain rfl : other = count :=
        Option.some.inj ((effectiveCount_eq_some_iff.mpr counts).symm.trans counted)
      rw [localBlock_eq_map_block]
      exact bind_eq_ok_iff.mpr ⟨_, PortBlock.ports_eq_ok_iff.mpr ⟨within, rfl⟩, rfl⟩

/-- A role has a list or none. -/
theorem RoleSpec.lists_or_unlisted (spec : RoleSpec) : (∃ text, spec.Lists text) ∨ spec.Unlisted :=
  (Classical.em _).imp_right not_exists.mp

/-- **A role gets the endpoints that its description gives it.** -/
theorem RoleSpec.resolve_eq_ok_iff : spec.resolve role offset startPort = .ok endpoints ↔
    spec.Yields ((startPort.getD PortBlock.defaultStart).toNat + offset) endpoints := by
  obtain ⟨text, lists⟩ | unlisted := spec.lists_or_unlisted
  · rw [resolve_listed lists]
    constructor
    · rintro ⟨read, agrees⟩
      exact .listed lists read agrees
    · rintro (⟨others, read, agrees⟩ | ⟨_, unlisted, _⟩)
      · cases lists.1.symm.trans others.1
        exact ⟨read, agrees⟩
      · exact (unlisted text lists).elim
  · rw [resolve_unlisted unlisted]
    constructor
    · rintro ⟨count, counts, within, rfl⟩
      exact .counted counts unlisted within
    · rintro (⟨lists, _, _⟩ | ⟨counts, _, within⟩)
      · exact (unlisted _ lists).elim
      · exact ⟨_, counts, within, rfl⟩

/-- A list that is read has an endpoint, and a count is not zero. -/
theorem RoleSpec.Yields.ne_nil (yields : spec.Yields first endpoints) : endpoints ≠ [] := by
  cases yields with
  | listed lists read agrees => exact Endpoint.parseList_ne_nil read
  | @counted count counts unlisted within =>
    refine List.ne_nil_of_length_pos ?_
    rw [length_localBlock]
    exact counts.2

/-- A role without a list has a local block. -/
theorem RoleSpec.Yields.block (yields : spec.Yields first endpoints) (unlisted : spec.Unlisted) :
    (∀ endpoint ∈ endpoints, endpoint.host = "127.0.0.1") ∧
      endpoints.map (·.port.toNat) = List.range' first endpoints.length := by
  cases yields with
  | listed lists read agrees => exact (unlisted _ lists).elim
  | counted counts unlisted within =>
    refine ⟨fun endpoint member => ?_, ?_⟩
    · obtain ⟨port, -, rfl⟩ := List.mem_map.mp member
      rfl
    · rw [localBlock_ports within, length_localBlock]

/-- When a role gets none, the description is to blame, unless there is a count alone and the end of
its block is beyond what can be counted. -/
theorem RoleSpec.resolve_error {error : LaunchError}
    (failed : spec.resolve role offset startPort = .error error) :
    error.IsConfig ∨ spec.Unlisted ∧ ∃ count, spec.Counts count ∧
      Decimal.limit64 < (startPort.getD PortBlock.defaultStart).toNat + offset + count := by
  rw [resolve] at failed
  split at failed
  · obtain unread | ⟨found, -, failed⟩ := bind_eq_error_iff.mp failed
    · exact .inl (Endpoint.parseList_error unread)
    · split at failed
      · exact .inl ⟨_, (Except.error.inj failed).symm⟩
      · cases failed
  · rename_i count counted listed
    obtain unbuilt | ⟨ports, -, absurd⟩ := bind_eq_error_iff.mp failed
    · refine (PortBlock.ports_error unbuilt).imp_right fun large => ?_
      exact ⟨effectiveList_eq_none_iff.mp listed, count, effectiveCount_eq_some_iff.mp counted,
        large⟩
    · cases absurd
  · exact .inl (Endpoint.parseList_error failed)
  · exact .inl ⟨_, (Except.error.inj failed).symm⟩

end TrainingLauncher.ParameterServer
