/-
What a variable is in an environment that was put together from others.

* `Environment.getElem?_ofList`: in a list of variables the last value of a name counts.
* `Environment.getElem?_under`: of two environments the upper one counts.
* `Environment.getElem?_withoutProxies`: without the proxy settings everything else is as before.
-/

import Mathlib.Data.List.Basic
import TrainingLauncher.Environment

namespace TrainingLauncher.Environment

theorem getElem?_insert (environment : Environment) (name value other : String) :
    (environment.insert name value)[other]? =
      if name = other then some value else environment[other]? := by
  rw [Std.TreeMap.getElem?_insert]
  exact if_congr Std.LawfulEqCmp.compare_eq_iff_eq rfl rfl

/-- Variables that are added one after the other: the last value of a name counts, and a name that
is not among them keeps its value. -/
theorem getElem?_foldl_insert (lower : Environment) (entries : List (String × String))
    (name : String) :
    (entries.foldl (fun environment entry => environment.insert entry.1 entry.2) lower)[name]? =
      (entries.reverse.lookup name).or lower[name]? := by
  induction entries generalizing lower with
  | nil => rfl
  | cons entry rest ih =>
    obtain ⟨other, value⟩ := entry
    rw [List.foldl_cons, ih, getElem?_insert, List.reverse_cons, List.lookup_append,
      Option.or_assoc]
    congr 1
    by_cases same : other = name
    · simp [same]
    · have differs : (name == other) = false := beq_eq_false_iff_ne.mpr (Ne.symm same)
      simp [List.lookup_cons, same, differs]

/-- In a list of variables the last value of a name counts. -/
theorem getElem?_ofList (entries : List (String × String)) (name : String) :
    (ofList entries)[name]? = entries.reverse.lookup name := by
  rw [ofList, getElem?_foldl_insert]
  simp

/-- A list of variables holds no other ones. -/
theorem getElem?_ofList_of_notMem {entries : List (String × String)} {name : String}
    (other : name ∉ entries.map Prod.fst) : (ofList entries)[name]? = none := by
  rw [getElem?_ofList, List.lookup_eq_none_iff]
  intro entry member
  refine bne_iff_ne.mpr fun same => other (same ▸ ?_)
  exact List.mem_map_of_mem (List.mem_reverse.mp member)

theorem lookup_toList (environment : Environment) (name : String) :
    environment.toList.reverse.lookup name = environment[name]? := by
  cases found : environment.toList.reverse.lookup name with
  | none =>
    rw [List.lookup_eq_none_iff] at found
    refine (Option.eq_none_iff_forall_ne_some.mpr fun value here => ?_).symm
    have member := Std.TreeMap.mem_toList_iff_getElem?_eq_some.mpr here
    exact absurd (found _ (List.mem_reverse.mpr member)) (by simp)
  | some value =>
    obtain ⟨before, after, split, -⟩ := List.lookup_eq_some_iff.mp found
    have member : (name, value) ∈ environment.toList.reverse :=
      split ▸ List.mem_append_right before List.mem_cons_self
    exact (Std.TreeMap.mem_toList_iff_getElem?_eq_some.mp (List.mem_reverse.mp member)).symm

/-- **Of two environments the upper one counts**, as far as it has the name. -/
theorem getElem?_under (lower upper : Environment) (name : String) :
    (lower.under upper)[name]? = upper[name]?.or lower[name]? := by
  rw [under, getElem?_foldl_insert, lookup_toList]

theorem getElem?_erase (environment : Environment) (name other : String) :
    (environment.erase name)[other]? = if name = other then none else environment[other]? := by
  rw [Std.TreeMap.getElem?_erase]
  exact if_congr Std.LawfulEqCmp.compare_eq_iff_eq rfl rfl

/-- Names that are dropped one after the other are not there any more; other names keep their
values. -/
theorem getElem?_foldl_erase (environment : Environment) (names : List String) (name : String) :
    (names.foldl (fun kept dropped => kept.erase dropped) environment)[name]? =
      if name ∈ names then none else environment[name]? := by
  induction names generalizing environment with
  | nil => rfl
  | cons dropped rest ih =>
    rw [List.foldl_cons, ih, getElem?_erase]
    by_cases same : dropped = name
    · simp [same]
    · simp [same, Ne.symm same]

/-- **Without the proxy settings everything else is as before.** -/
theorem getElem?_withoutProxies (environment : Environment) (name : String) :
    environment.withoutProxies[name]? =
      if name ∈ proxyVariables then none else environment[name]? :=
  getElem?_foldl_erase environment proxyVariables name

end TrainingLauncher.Environment
