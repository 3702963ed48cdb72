/-
Which of the nodes of a job a machine is. An address that is given decides, and a job on a single
node runs here. Otherwise the machine looks itself up: its primary address counts before those of
its interfaces, and these count in their order.

* `Identifies`: the node that a machine is.
* `Unidentified`: why it is none of them.
* `resolveNode_eq_ok_iff`, `resolveNode_eq_error_iff`: these are the answers, and there is no other.
* `resolveNode_identifies`: what decides, what does not matter, and when there is an error.
-/

import TrainingLauncher.Proofs.Topology.Derivation

namespace TrainingLauncher

section Specification

variable (nodes : List String) (resolver : Resolver)

/-- The machine cannot tell its primary address, or it is not that of a node. -/
def PrimaryUnlisted : Prop := ∀ address, resolver.primary = some address → address ∉ nodes

/-- The node that a machine is, for an address that may be given. -/
inductive Identifies : Option String → String → Prop
  /-- The one that is given, if it is a node. -/
  | told {address : String} (listed : address ∈ nodes) : Identifies (some address) address
  /-- The only one. -/
  | alone {address : String} (single : nodes = [address]) : Identifies none address
  /-- Of several, the primary address of the machine. -/
  | primary {address : String} (several : 1 < nodes.length)
      (known : resolver.primary = some address) (listed : address ∈ nodes) :
      Identifies none address
  /-- If that is none of them, the first address of its interfaces that is one. -/
  | interface {address : String} {before after : List String} (several : 1 < nodes.length)
      (unlisted : PrimaryUnlisted nodes resolver)
      (known : resolver.interfaces = some (before ++ address :: after)) (listed : address ∈ nodes)
      (first : ∀ other ∈ before, other ∉ nodes) : Identifies none address

/-- Why a machine is none of the nodes, for an address that may be given. -/
inductive Unidentified : Option String → ConfigFault → Prop
  /-- There are no nodes. -/
  | empty {explicit : Option String} (nobody : nodes = []) : Unidentified explicit .noNodes
  /-- The address that is given is not that of a node. -/
  | told {address : String} (inhabited : nodes ≠ []) (unlisted : address ∉ nodes) :
      Unidentified (some address) (.nodeNotListed (some address) nodes)
  /-- There are several, and no address that the machine knows of itself is that of one. -/
  | unknown (several : 1 < nodes.length) (primary : PrimaryUnlisted nodes resolver)
      (interfaces : ∀ addresses, resolver.interfaces = some addresses →
        ∀ address ∈ addresses, address ∉ nodes) :
      Unidentified none (.nodeNotListed resolver.primary nodes)

end Specification

section Lookup

variable {nodes : List String} {resolver : Resolver} {explicit : Option String} {address : String}

/-- The first address that a machine knows of itself and that is a node. -/
def Resolver.candidate? (resolver : Resolver) (nodes : List String) : Option String :=
  (resolver.primary.toList ++ resolver.interfaces.getD []).find? (nodes.contains ·)

theorem find?_primary_eq_some_iff :
    resolver.primary.toList.find? (nodes.contains ·) = some address ↔
      resolver.primary = some address ∧ address ∈ nodes := by
  cases resolver.primary with
  | none => simp
  | some own =>
    rw [Option.toList_some, List.find?_singleton, Option.ite_none_right_eq_some,
      List.contains_iff_mem]
    constructor
    · rintro ⟨listed, same⟩
      exact ⟨same, Option.some.inj same ▸ listed⟩
    · rintro ⟨same, listed⟩
      exact ⟨Option.some.inj same ▸ listed, same⟩

theorem find?_primary_eq_none_iff :
    resolver.primary.toList.find? (nodes.contains ·) = none ↔ PrimaryUnlisted nodes resolver := by
  rw [List.find?_eq_none, PrimaryUnlisted]
  refine forall_congr' fun own => ?_
  rw [Option.mem_toList, List.contains_iff_mem]

/-- **The primary address counts first**, and then those of the interfaces in their order. -/
theorem Resolver.candidate?_eq_some_iff (several : 1 < nodes.length) :
    resolver.candidate? nodes = some address ↔ Identifies nodes resolver none address := by
  rw [candidate?, List.find?_append, Option.or_eq_some_iff, find?_primary_eq_some_iff,
    find?_primary_eq_none_iff, List.find?_eq_some_iff_append]
  constructor
  · rintro (⟨known, listed⟩ | ⟨unlisted, listed, before, after, known, first⟩)
    · exact .primary several known listed
    · have addresses : resolver.interfaces = some (before ++ address :: after) := by
        cases asked : resolver.interfaces with
        | none => simp [asked] at known
        | some addresses => simpa [asked] using known
      refine .interface several unlisted addresses (List.contains_iff_mem.mp listed) ?_
      exact fun other member => by simpa using first other member
  · intro identifies
    cases identifies with
    | alone single => simp [single] at several
    | primary several known listed => exact .inl ⟨known, listed⟩
    | @interface _ before after several unlisted known listed first =>
      refine .inr ⟨unlisted, List.contains_iff_mem.mpr listed, before, after, ?_, ?_⟩
      · rw [known, Option.getD_some]
      · exact fun other member => by simpa using first other member

/-- A machine that knows no address of a node is none of several nodes. -/
theorem Resolver.candidate?_eq_none_iff : resolver.candidate? nodes = none ↔
    PrimaryUnlisted nodes resolver ∧ ∀ addresses, resolver.interfaces = some addresses →
      ∀ address ∈ addresses, address ∉ nodes := by
  rw [candidate?, List.find?_append, Option.or_eq_none_iff, find?_primary_eq_none_iff,
    List.find?_eq_none]
  refine and_congr_right fun _ => ?_
  cases resolver.interfaces with
  | none => simp
  | some addresses => simp

/-- Without nodes there is nothing to be found. -/
theorem resolveNode_nil : resolveNode [] explicit resolver = .error (.config .noNodes) := by
  cases explicit <;> rfl

/-- An address that is given and not listed is an error. -/
theorem resolveNode_unlisted (inhabited : nodes ≠ []) (unlisted : address ∉ nodes) :
    resolveNode nodes (some address) resolver =
      .error (.config (.nodeNotListed (some address) nodes)) := by
  cases nodes with
  | nil => exact (inhabited rfl).elim
  | cons node others =>
    unfold resolveNode
    simp only [List.idxOf?_eq_none_iff.mpr unlisted]

/-- A machine that is not told looks for itself among several nodes. -/
theorem resolveNode_several (several : 1 < nodes.length) :
    resolveNode nodes none resolver =
      match resolver.candidate? nodes with
      | some address => .ok (address, nodes.idxOf address)
      | none => .error (.config (.nodeNotListed resolver.primary nodes)) := by
  match nodes with
  | [] => cases several
  | [_] => exact absurd several (Nat.lt_irrefl 1)
  | _ :: _ :: _ => rfl

end Lookup

section Answers

variable {nodes : List String} {explicit : Option String} {resolver : Resolver} {address : String}
  {rank : Nat} {fault : ConfigFault} {error : LaunchError}

/-- The node that a machine is, is one of the nodes. -/
theorem Identifies.mem (identifies : Identifies nodes resolver explicit address) :
    address ∈ nodes := by
  cases identifies with
  | told listed => exact listed
  | alone single => exact single ▸ List.mem_singleton_self address
  | primary _ _ listed => exact listed
  | interface _ _ _ listed _ => exact listed

/-- **A machine is one of the nodes, or there is a reason why not.** -/
theorem identifies_or_unidentified (nodes : List String) (explicit : Option String)
    (resolver : Resolver) : (∃ address, Identifies nodes resolver explicit address) ∨
      ∃ fault, Unidentified nodes resolver explicit fault := by
  by_cases nobody : nodes = []
  · exact .inr ⟨_, .empty nobody⟩
  cases explicit with
  | some address =>
    by_cases listed : address ∈ nodes
    · exact .inl ⟨address, .told listed⟩
    · exact .inr ⟨_, .told nobody listed⟩
  | none =>
    by_cases several : 1 < nodes.length
    · cases found : resolver.candidate? nodes with
      | some address => exact .inl ⟨address, (resolver.candidate?_eq_some_iff several).mp found⟩
      | none =>
        obtain ⟨primary, interfaces⟩ := Resolver.candidate?_eq_none_iff.mp found
        exact .inr ⟨_, .unknown several primary interfaces⟩
    · have single : nodes.length = 1 :=
        Nat.le_antisymm (Nat.not_lt.mp several) (List.length_pos_iff.mpr nobody)
      obtain ⟨address, single⟩ := List.length_eq_one_iff.mp single
      exact .inl ⟨address, .alone single⟩

theorem resolveNode_of_identifies (identifies : Identifies nodes resolver explicit address) :
    resolveNode nodes explicit resolver = .ok (address, nodes.idxOf address) := by
  have found (several : 1 < nodes.length) (looked : Identifies nodes resolver none address) :
      resolveNode nodes none resolver = .ok (address, nodes.idxOf address) := by
    rw [resolveNode_several several, (resolver.candidate?_eq_some_iff several).mpr looked]
  cases identifies with
  | told listed => exact resolveNode_explicit (idxOf?_of_mem listed)
  | alone single =>
    subst single
    rw [List.idxOf_cons_self]
    rfl
  | primary several known listed => exact found several (.primary several known listed)
  | interface several unlisted known listed first =>
    exact found several (.interface several unlisted known listed first)

theorem resolveNode_of_unidentified (unidentified : Unidentified nodes resolver explicit fault) :
    resolveNode nodes explicit resolver = .error (.config fault) := by
  cases unidentified with
  | empty nobody => exact nobody ▸ resolveNode_nil
  | told inhabited unlisted => exact resolveNode_unlisted inhabited unlisted
  | unknown several primary interfaces =>
    rw [resolveNode_several several, Resolver.candidate?_eq_none_iff.mpr ⟨primary, interfaces⟩]

/-- **The answer is the node that the machine is**, with the first position of its address. -/
theorem resolveNode_eq_ok_iff : resolveNode nodes explicit resolver = .ok (address, rank) ↔
    Identifies nodes resolver explicit address ∧ nodes.idxOf? address = some rank := by
  constructor
  · intro located
    refine ⟨?_, idxOf?_of_resolveNode located⟩
    obtain ⟨own, identifies⟩ | ⟨fault, unidentified⟩ :=
      identifies_or_unidentified nodes explicit resolver
    · cases (resolveNode_of_identifies identifies).symm.trans located
      exact identifies
    · cases (resolveNode_of_unidentified unidentified).symm.trans located
  · rintro ⟨identifies, first⟩
    cases (idxOf?_of_mem identifies.mem).symm.trans first
    exact resolveNode_of_identifies identifies

/-- **Without an answer there is a reason**, and it is the fault that is told. -/
theorem resolveNode_eq_error_iff : resolveNode nodes explicit resolver = .error error ↔
    ∃ fault, Unidentified nodes resolver explicit fault ∧ error = .config fault := by
  constructor
  · intro failed
    obtain ⟨own, identifies⟩ | ⟨fault, unidentified⟩ :=
      identifies_or_unidentified nodes explicit resolver
    · cases (resolveNode_of_identifies identifies).symm.trans failed
    · cases (resolveNode_of_unidentified unidentified).symm.trans failed
      exact ⟨fault, unidentified, rfl⟩
  · rintro ⟨fault, unidentified, rfl⟩
    exact resolveNode_of_unidentified unidentified

/-- A machine that is told its address is not asked for those that it knows. -/
theorem resolveNode_told (nodes : List String) (address : String) (resolver other : Resolver) :
    resolveNode nodes (some address) resolver = resolveNode nodes (some address) other := by
  match nodes with
  | [] => rfl
  | [_] => rfl
  | _ :: _ :: _ => rfl

theorem mem_of_idxOf? (found : nodes.idxOf? address = some rank) : address ∈ nodes :=
  List.isSome_idxOf?.mp (Option.isSome_of_eq_some found)

/-- An address first stands in a place where no earlier one is its own. -/
theorem idxOf?_eq_some_iff_getElem? : nodes.idxOf? address = some rank ↔
    nodes[rank]? = some address ∧ ∀ earlier < rank, nodes[earlier]? ≠ some address := by
  rw [List.idxOf?_eq_some_iff]
  constructor
  · rintro ⟨bound, rfl, first⟩
    refine ⟨List.getElem?_eq_getElem bound, fun earlier before same => ?_⟩
    obtain ⟨within, same⟩ := List.getElem?_eq_some_iff.mp same
    exact first earlier before same
  · rintro ⟨here, first⟩
    obtain ⟨bound, same⟩ := List.getElem?_eq_some_iff.mp here
    refine ⟨bound, same, fun earlier before equal => first earlier before ?_⟩
    rw [List.getElem?_eq_getElem (Nat.lt_trans before bound), equal]

end Answers

/-- **Which node a machine is.** It is the node that it is identified with, in the first place where
the address of that node stands; or else there is a reason why it is none of them, and that reason
is the error. An address that is given is the only possible answer, and then what the machine knows
of itself does not matter. It does not matter either for a single node. -/
theorem resolveNode_identifies (nodes : List String) (explicit : Option String)
    (resolver : Resolver) :
    (∀ address rank, resolveNode nodes explicit resolver = .ok (address, rank) ↔
      Identifies nodes resolver explicit address ∧ nodes[rank]? = some address ∧
        ∀ earlier < rank, nodes[earlier]? ≠ some address) ∧
    (∀ error, resolveNode nodes explicit resolver = .error error ↔
      ∃ fault, Unidentified nodes resolver explicit fault ∧ error = .config fault) ∧
    (∀ own, explicit = some own →
      (∀ address rank, resolveNode nodes explicit resolver = .ok (address, rank) →
        address = own) ∧
      ∀ other, resolveNode nodes explicit other = resolveNode nodes explicit resolver) ∧
    (∀ node, nodes = [node] → explicit = none →
      resolveNode nodes explicit resolver = .ok (node, 0)) := by
  refine ⟨fun address rank => ?_, fun error => resolveNode_eq_error_iff, ?_, ?_⟩
  · rw [resolveNode_eq_ok_iff, idxOf?_eq_some_iff_getElem?]
  · rintro own rfl
    refine ⟨fun address rank located => ?_, fun other => resolveNode_told nodes own other resolver⟩
    cases (resolveNode_eq_ok_iff.mp located).1
    rfl
  · rintro node rfl rfl
    rfl

/-- A machine with an address that is no node, on a network where two of its addresses are. -/
def routedResolver : Resolver := ⟨some "172.17.0.1", some ["172.17.0.1", "10.0.0.2", "10.0.0.1"]⟩

theorem resolveNode_identifies_routedResolver :
    Identifies ["10.0.0.1", "10.0.0.2", "10.0.0.2"] routedResolver none "10.0.0.2" ∧
      resolveNode ["10.0.0.1", "10.0.0.2", "10.0.0.2"] none routedResolver =
        .ok ("10.0.0.2", 1) := by
  have identified := ((resolveNode_identifies ["10.0.0.1", "10.0.0.2", "10.0.0.2"] none
    routedResolver).1 "10.0.0.2" 1).mp (by decide)
  exact ⟨identified.1, by decide⟩

end TrainingLauncher
