/-
Which devices a launcher selects. Devices that are requested from a mask are counted in it: each is
handed on as the first place of the mask where it stands. So the places tell what was requested, and
to request all of a mask is to request nothing.

* `Devices.FirstAt`: a device in its first place in a mask.
* `Devices.positions_eq_ok_iff`, `Devices.positions_eq_error_iff`: the places of what is requested,
  and what is missing.
* `Devices.select_result`: a selection is what is asked for, and it needs a device.
* `Devices.select_masked_firstAt`: what is selected from a mask, and when.
* `Devices.select_everything`: a mask that is requested as a whole.
-/

import Mathlib.Data.List.Forall2
import TrainingLauncher.Devices
import TrainingLauncher.Proofs.NodeIdentity

namespace TrainingLauncher.Devices

open Text

section Positions

/-- A device stands in a place of a mask, and in none before. -/
structure FirstAt (mask : List String) (device : String) (id : DeviceId) : Prop where
  here : mask[id.toNat]? = some device
  least : ∀ earlier < id.toNat, mask[earlier]? ≠ some device

variable {mask requested : List String} {device : String} {id : DeviceId} {ids : List DeviceId}
  {error : LaunchError}

theorem firstAt_iff : FirstAt mask device id ↔ mask.idxOf? device = some id.toNat := by
  rw [idxOf?_eq_some_iff_getElem?]
  exact ⟨fun first => ⟨first.here, first.least⟩, fun ⟨here, least⟩ => ⟨here, least⟩⟩

/-- A place in a mask that is not too long is its own number. -/
theorem toNat_ofNat_of_idxOf? (small : mask.length ≤ Decimal.limit32) {position : Nat}
    (found : mask.idxOf? device = some position) : (UInt32.ofNat position).toNat = position := by
  obtain ⟨here, -⟩ := idxOf?_eq_some_iff_getElem?.mp found
  have bound := (List.getElem?_eq_some_iff.mp here).1
  have below : position ≤ Decimal.limit32 := Nat.le_of_lt (Nat.lt_of_lt_of_le bound small)
  exact UInt32.toNat_ofNat_of_lt' (Nat.lt_succ_of_le below)

/-- **The places of the requested devices** are the first ones where they stand. -/
theorem positions_eq_ok_iff (small : mask.length ≤ Decimal.limit32) :
    positions mask requested = .ok ids ↔ List.Forall₂ (FirstAt mask) requested ids := by
  induction requested generalizing ids with
  | nil =>
    rw [positions, Except.ok.injEq, List.forall₂_nil_left_iff]
    exact eq_comm
  | cons device rest ih =>
    rw [positions, List.forall₂_cons_left_iff]
    split
    · rename_i missing
      refine iff_of_false (fun same => by cases same) ?_
      rintro ⟨id, _, first, -⟩
      rw [firstAt_iff, missing] at first
      cases first
    · rename_i position found
      have own := toNat_ofNat_of_idxOf? small found
      constructor
      · intro placed
        obtain ⟨others, later, same⟩ := bind_eq_ok_iff.mp placed
        cases same
        exact ⟨_, others, firstAt_iff.mpr (own.symm ▸ found), ih.mp later, rfl⟩
      · rintro ⟨id, others, first, later, rfl⟩
        have same := Option.some.inj (found.symm.trans (firstAt_iff.mp first))
        have number : UInt32.ofNat position = id := UInt32.toNat_inj.mp (own.trans same)
        exact bind_eq_ok_iff.mpr ⟨others, ih.mpr later, number ▸ rfl⟩

/-- A device is requested and not in the mask, and all that are requested before are in it. -/
def FirstMissing (mask requested : List String) (device : String) : Prop :=
  ∃ before after, requested = before ++ device :: after ∧ (∀ earlier ∈ before, earlier ∈ mask) ∧
    device ∉ mask

theorem firstMissing_cons_of_notMem {first : String} {rest : List String} (absent : first ∉ mask) :
    FirstMissing mask (first :: rest) device ↔ device = first := by
  constructor
  · rintro ⟨before, after, split, present, -⟩
    cases before with
    | nil => exact (List.cons.inj split).1.symm
    | cons earlier before =>
      obtain ⟨rfl, -⟩ := List.cons.inj split
      exact (absent (present _ List.mem_cons_self)).elim
  · rintro rfl
    exact ⟨[], rest, rfl, List.forall_mem_nil _, absent⟩

theorem firstMissing_cons_of_mem {first : String} {rest : List String} (listed : first ∈ mask) :
    FirstMissing mask (first :: rest) device ↔ FirstMissing mask rest device := by
  constructor
  · rintro ⟨before, after, split, present, absent⟩
    cases before with
    | nil =>
      obtain ⟨rfl, -⟩ := List.cons.inj split
      exact (absent listed).elim
    | cons earlier before =>
      obtain ⟨-, rfl⟩ := List.cons.inj split
      exact ⟨before, after, rfl, (List.forall_mem_cons.mp present).2, absent⟩
  · rintro ⟨before, after, rfl, present, absent⟩
    exact ⟨first :: before, after, rfl, List.forall_mem_cons.mpr ⟨listed, present⟩, absent⟩

/-- **The first device that is missing in the mask** is told. -/
theorem positions_eq_error_iff : positions mask requested = .error error ↔
    ∃ device, FirstMissing mask requested device ∧
      error = .config (.deviceNotVisible device mask) := by
  induction requested with
  | nil =>
    refine iff_of_false (fun same => by cases same) ?_
    rintro ⟨device, ⟨before, after, split, -⟩, -⟩
    exact List.append_ne_nil_of_right_ne_nil before (List.cons_ne_nil _ _) split.symm
  | cons first rest ih =>
    rw [positions]
    split
    · rename_i missing
      simp only [firstMissing_cons_of_notMem (List.idxOf?_eq_none_iff.mp missing),
        exists_eq_left, Except.error.injEq]
      exact eq_comm
    · rename_i position found
      simp only [firstMissing_cons_of_mem (mem_of_idxOf? found), ← ih, bind_eq_error_iff]
      refine or_iff_left ?_
      rintro ⟨_, -, same⟩
      cases same

/-- There is a place for everything when nothing is missing. -/
theorem exists_positions_iff :
    (∃ ids, positions mask requested = .ok ids) ↔ ∀ device ∈ requested, device ∈ mask := by
  induction requested with
  | nil => exact iff_of_true ⟨[], rfl⟩ (List.forall_mem_nil _)
  | cons device rest ih =>
    rw [positions, List.forall_mem_cons]
    split
    · rename_i missing
      refine iff_of_false (fun ⟨ids, same⟩ => by cases same) fun ⟨listed, _⟩ => ?_
      exact List.idxOf?_eq_none_iff.mp missing listed
    · rename_i position found
      rw [and_iff_right (mem_of_idxOf? found), ← ih]
      constructor
      · rintro ⟨ids, placed⟩
        obtain ⟨others, later, -⟩ := bind_eq_ok_iff.mp placed
        exact ⟨others, later⟩
      · rintro ⟨others, later⟩
        exact ⟨_, bind_eq_ok_iff.mpr ⟨others, later, rfl⟩⟩

/-- What is requested, and the places where it stands. -/
theorem placed_iff : List.Forall₂ (FirstAt mask) requested ids ↔
    requested.map mask.idxOf? = ids.map fun id => some id.toNat := by
  rw [← List.forall₂_eq_eq_eq, List.forall₂_map_left_iff, List.forall₂_map_right_iff]
  exact ⟨fun placed => placed.imp fun _ _ => firstAt_iff.mp,
    fun placed => placed.imp fun _ _ => firstAt_iff.mpr⟩

/-- The devices of a mask without repetitions stand in their own places. -/
theorem placed_self (small : mask.length ≤ Decimal.limit32) (distinct : mask.Nodup) :
    List.Forall₂ (FirstAt mask) mask ((List.range mask.length).map UInt32.ofNat) := by
  refine placed_iff.mpr (List.ext_getElem ?_ fun place bound _ => ?_)
  · rw [List.length_map, List.length_map, List.length_map, List.length_range]
  · rw [List.length_map] at bound
    have own : mask.idxOf? mask[place] = some place := by
      rw [idxOf?_of_mem (List.getElem_mem bound), distinct.idxOf_getElem place bound]
    simp only [List.getElem_map, List.getElem_range, own, toNat_ofNat_of_idxOf? small own]

variable (placed : List.Forall₂ (FirstAt mask) requested ids)

include placed

theorem ne_nil_iff_of_placed : ids ≠ [] ↔ requested ≠ [] := by
  rw [← List.length_pos_iff, ← List.length_pos_iff, placed.length_eq]

/-- **The places tell what was requested.** -/
theorem map_getElem?_of_placed : (ids.map fun id => mask[id.toNat]?) = requested.map some := by
  rw [← List.forall₂_eq_eq_eq, List.forall₂_map_left_iff, List.forall₂_map_right_iff]
  exact placed.flip.imp fun _ _ => FirstAt.here

/-- **Requests are the same exactly when their places are.** -/
theorem getElem?_eq_iff_of_placed (one other : Nat) :
    ids[one]? = ids[other]? ↔ requested[one]? = requested[other]? := by
  constructor
  · intro same
    have told (k : Nat) : requested[k]?.map some = ids[k]?.map fun id => mask[id.toNat]? := by
      rw [← List.getElem?_map, ← List.getElem?_map, map_getElem?_of_placed placed]
    refine Option.map_injective (fun _ _ => Option.some.inj) ?_
    rw [told, told, same]
  · intro same
    have found (k : Nat) :
        (ids[k]?.map fun id => some id.toNat) = requested[k]?.map mask.idxOf? := by
      rw [← List.getElem?_map, ← List.getElem?_map, placed_iff.mp placed]
    refine Option.map_injective (fun id number equal => ?_) ((found one).trans ?_)
    · exact UInt32.toNat_inj.mp (Option.some.inj equal)
    · rw [same, found]

theorem lt_length_of_placed : ∀ id ∈ ids, id.toNat < mask.length := by
  intro id member
  have known : mask[id.toNat]? ∈ requested.map some := by
    rw [← map_getElem?_of_placed placed]
    exact List.mem_map_of_mem member
  obtain ⟨device, -, here⟩ := List.mem_map.mp known
  exact (List.getElem?_eq_some_iff.mp here.symm).1

end Positions

section Selection

variable {requested visible mask : String} {detected : Nat}

/-- A selection needs a device. -/
def inhabited (ids : List DeviceId) : Except LaunchError (List DeviceId) :=
  if ids.isEmpty then .error (.config .noDevices) else .ok ids

theorem inhabited_eq_ok_iff {ids found : List DeviceId} :
    inhabited ids = .ok found ↔ ids ≠ [] ∧ found = ids := by
  cases ids with
  | nil => exact iff_of_false (fun same => by cases same) fun ⟨filled, _⟩ => filled rfl
  | cons id rest =>
    refine ⟨fun same => ⟨List.cons_ne_nil _ _, (Except.ok.inj same).symm⟩, ?_⟩
    rintro ⟨-, rfl⟩
    rfl

theorem inhabited_eq_error_iff {ids : List DeviceId} {error : LaunchError} :
    inhabited ids = .error error ↔ ids = [] ∧ error = .config .noDevices := by
  cases ids with
  | nil =>
    refine ⟨fun same => ⟨rfl, (Except.error.inj same).symm⟩, ?_⟩
    rintro ⟨-, rfl⟩
    rfl
  | cons id rest => exact iff_of_false (fun same => by cases same) fun ⟨empty, _⟩ => by cases empty

/-- The devices that are asked for, if there are any. -/
def wanted (requested visible : Option String) (detected : Nat) :
    Except LaunchError (List DeviceId) :=
  match requested with
  | none => .ok ((List.range (detected % (Decimal.limit32 + 1))).map UInt32.ofNat)
  | some requested =>
    if entries (visible.getD "") = [] then parseAll (entries requested)
    else positions (entries (visible.getD "")) (entries requested)

/-- **What is selected** are the devices that are asked for, and there has to be one. -/
theorem select_result {requested visible : Option String} :
    (select requested visible detected).result =
      wanted requested visible detected >>= inhabited := by
  have kept (ids : List DeviceId) : (if ids.isEmpty then Noted.fail (.config .noDevices)
      else pure ids : Noted (List DeviceId)).result = inhabited ids := by
    rw [inhabited]
    split <;> rfl
  cases requested with
  | none => exact kept _
  | some requested =>
    cases listed : entries (visible.getD "") with
    | nil =>
      rw [wanted, if_pos listed]
      simp only [select, listed, Noted.result_bind, Noted.result_lift, kept]
    | cons device rest =>
      rw [wanted, if_neg (listed ▸ List.cons_ne_nil _ _)]
      simp only [select, listed, Noted.result_bind, Noted.result_lift, Noted.result_note,
        Noted.result_pure, kept]
      rfl

/-- Without a request everything that was detected is selected, whatever can be seen. -/
theorem select_unrequested {visible : Option String} :
    (select none visible detected).result =
      inhabited ((List.range (detected % (Decimal.limit32 + 1))).map UInt32.ofNat) :=
  select_result

/-- From a mask that has entries, their places are selected. -/
theorem select_masked (filled : entries visible ≠ []) :
    (select (some requested) (some visible) detected).result =
      positions (entries visible) (entries requested) >>= inhabited := by
  rw [select_result, wanted, Option.getD_some, if_neg filled]

/-- **What is selected from a mask.** The selection is made exactly when something is requested and
nothing of it is missing. It has, for every device that is requested, the first place where the
device stands in the mask; so the mask tells from the places what was requested, no two different
devices have the same place, and every place is one of the mask. Otherwise the error is that nothing
is requested, or it names the first device that is missing. -/
theorem select_masked_firstAt (requested visible : String) (detected : Nat)
    (filled : entries visible ≠ []) (small : (entries visible).length ≤ Decimal.limit32) :
    (∀ ids, (select (some requested) (some visible) detected).result = .ok ids ↔
      entries requested ≠ [] ∧ List.Forall₂ (FirstAt (entries visible)) (entries requested) ids) ∧
    ((∃ ids, (select (some requested) (some visible) detected).result = .ok ids) ↔
      entries requested ≠ [] ∧ ∀ device ∈ entries requested, device ∈ entries visible) ∧
    (∀ ids, (select (some requested) (some visible) detected).result = .ok ids →
      (ids.map fun id => (entries visible)[id.toNat]?) = (entries requested).map some ∧
      (∀ one other : Nat, ids[one]? = ids[other]? ↔
        (entries requested)[one]? = (entries requested)[other]?) ∧
      ∀ id ∈ ids, id.toNat < (entries visible).length) ∧
    (∀ error, (select (some requested) (some visible) detected).result = .error error ↔
      entries requested = [] ∧ error = .config .noDevices ∨
        ∃ device, FirstMissing (entries visible) (entries requested) device ∧
          error = .config (.deviceNotVisible device (entries visible))) := by
  have selected (ids : List DeviceId) :
      (select (some requested) (some visible) detected).result = .ok ids ↔
        entries requested ≠ [] ∧
          List.Forall₂ (FirstAt (entries visible)) (entries requested) ids := by
    simp only [select_masked filled, bind_eq_ok_iff, inhabited_eq_ok_iff, positions_eq_ok_iff small]
    constructor
    · rintro ⟨ids, placed, some, rfl⟩
      exact ⟨(ne_nil_iff_of_placed placed).mp some, placed⟩
    · rintro ⟨some, placed⟩
      exact ⟨ids, placed, (ne_nil_iff_of_placed placed).mpr some, rfl⟩
  refine ⟨selected, ?_, fun ids chosen => ?_, fun error => ?_⟩
  · simp only [selected, exists_and_left, ← positions_eq_ok_iff small, exists_positions_iff]
  · obtain ⟨-, placed⟩ := (selected ids).mp chosen
    exact ⟨map_getElem?_of_placed placed, getElem?_eq_iff_of_placed placed,
      lt_length_of_placed placed⟩
  · have nothing : positions (entries visible) (entries requested) = .ok [] ↔
        entries requested = [] := by
      rw [positions_eq_ok_iff small, List.forall₂_nil_right_iff]
    rw [select_masked filled, bind_eq_error_iff, positions_eq_error_iff, or_comm, ← nothing]
    simp only [inhabited_eq_error_iff]
    refine or_congr_left ⟨?_, fun ⟨placed, same⟩ => ⟨[], placed, rfl, same⟩⟩
    rintro ⟨_, placed, rfl, same⟩
    exact ⟨placed, same⟩

/-- Devices are requested from a mask in which one is called twice and one has no number. -/
theorem select_masked_firstAt_namedDevice :
    (select (some "gpu-b, 7,7") (some "4,gpu-b,,7,gpu-b") 0).result = .ok [1, 2, 2] ∧
      List.Forall₂ (FirstAt ["4", "gpu-b", "7", "gpu-b"]) ["gpu-b", "7", "7"] [1, 2, 2] := by
  have chosen :
      (select (some "gpu-b, 7,7") (some "4,gpu-b,,7,gpu-b") 0).result = .ok [1, 2, 2] := by
    decide +kernel
  obtain ⟨selected, -⟩ :=
    select_masked_firstAt "gpu-b, 7,7" "4,gpu-b,,7,gpu-b" 0 (by decide) (by decide)
  exact ⟨chosen, ((selected _).mp chosen).2⟩

end Selection

section Everything

variable {kind : DeviceKind} {environment : Environment} {mask : String}

/-- What is detected under a mask are its entries. -/
theorem detect_masked (masked : environment[kind.maskVariable]? = some mask)
    (deviceFiles : List String) :
    detect kind environment deviceFiles = (entries mask).length := by
  rw [detect, masked]

/-- All of so many devices as a mask has are all of the mask. -/
theorem select_whole (distinct : (entries mask).Nodup)
    (small : (entries mask).length ≤ Decimal.limit32) (visible : Option String) (detected : Nat) :
    (select none visible (entries mask).length).result =
      (select (some mask) (some mask) detected).result := by
  rw [select_unrequested, Nat.mod_eq_of_lt (Nat.lt_succ_of_le small)]
  by_cases blank : entries mask = []
  · -- a mask without entries is no mask, and then no number is requested, either
    rw [select_result, wanted, Option.getD_some, if_pos blank, blank]
    rfl
  · rw [select_masked blank, (positions_eq_ok_iff small).mpr (placed_self small distinct)]
    rfl

/-- A topology depends on the request for devices only through the devices that are selected. -/
theorem topology_of_devices {config : LaunchConfig} {node : Node} {one other : Option String}
    (same : { config with gpus := one }.devices node = { config with gpus := other }.devices node) :
    ({ config with gpus := one }.topology node).result =
      ({ config with gpus := other }.topology node).result := by
  have kinds : { config with gpus := one }.kind = { config with gpus := other }.kind := rfl
  rw [LaunchConfig.topology_result, LaunchConfig.topology_result, kinds]
  cases { config with gpus := other }.kind with
  | parameterServer => rfl
  | collective =>
    dsimp only
    rw [LaunchConfig.collectiveTopology_result, LaunchConfig.collectiveTopology_result, same]
    rfl

/-- **To request a whole mask is to request nothing.** When the entries of a mask are distinct, the
devices that are detected under it are its places, and these are also selected when the mask itself
is requested from it; a mask without entries is the same error both times. So a job on a node with
the mask has the same topology, whether it names all devices of the mask or none. -/
theorem select_everything (distinct : (entries mask).Nodup)
    (small : (entries mask).length ≤ Decimal.limit32) :
    (∀ kind environment deviceFiles visible detected,
      environment[DeviceKind.maskVariable kind]? = some mask →
        (select none visible (detect kind environment deviceFiles)).result =
          (select (some mask) (some mask) detected).result) ∧
    ∀ (config : LaunchConfig) (node : Node),
      node.environment[DeviceKind.gpu.maskVariable]? = some mask →
        ({ config with gpus := some mask }.topology node).result =
          ({ config with gpus := none }.topology node).result := by
  refine ⟨fun kind environment deviceFiles visible detected masked => ?_,
    fun config node masked => ?_⟩
  · rw [detect_masked masked]
    exact select_whole distinct small visible detected
  · have devices : { config with gpus := some mask }.devices node =
        { config with gpus := none }.devices node := by
      simp only [LaunchConfig.devices, masked, detect_masked masked]
      exact (select_whole distinct small _ _).symm
    exact topology_of_devices devices

/-- The mask of a node on which two devices are left. -/
def twoLeft : Environment := .ofList [("XPU_VISIBLE_DEVICES", " 3, xpu-7 ,,")]

theorem select_everything_twoLeft :
    (select none none (detect .xpu twoLeft [])).result = .ok [0, 1] ∧
      (select (some " 3, xpu-7 ,,") (some " 3, xpu-7 ,,") 0).result = .ok [0, 1] := by
  have all : (select none none (detect .xpu twoLeft [])).result = .ok [0, 1] := by decide +kernel
  have same := (select_everything (by decide) (by decide)).1 .xpu twoLeft [] none 0
    (show twoLeft["XPU_VISIBLE_DEVICES"]? = some " 3, xpu-7 ,," by decide +kernel)
  exact ⟨all, same ▸ all⟩

end Everything

end TrainingLauncher.Devices
