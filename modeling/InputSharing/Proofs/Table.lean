import InputSharing.Identity
import Mathlib.Data.List.Nodup

/-!
# Tables

Facts about finite maps that speak of one key at a time.
-/

namespace InputSharing.Table

open Std

variable {κ ν : Type} [Ord κ] [TransOrd κ]

theorem mem_iff_exists (table : Table κ ν) (key : κ) :
    key ∈ table ↔ ∃ value, table[key]? = some value := by
  rw [ExtTreeMap.mem_iff_isSome_getElem?, Option.isSome_iff_exists]

theorem mem_of_getElem? {table : Table κ ν} {key : κ} {value : ν}
    (found : table[key]? = some value) : key ∈ table :=
  (mem_iff_exists table key).2 ⟨value, found⟩

theorem not_mem_of_getElem? {table : Table κ ν} {key : κ}
    (absent : table[key]? = none) : key ∉ table := by
  rw [mem_iff_exists, absent]
  rintro ⟨_, found⟩
  cases found

theorem toList_filter_perm (table : Table κ ν) (keep : ν → Bool) :
    table.toList.Perm
      ((table.toList.filter fun entry => !keep entry.2) ++
        (table.filter fun _ value => keep value).toList) := by
  rw [ExtTreeMap.toList_filter]
  exact ((List.filter_append_perm (fun entry => keep entry.2) table.toList).symm).trans
    List.perm_append_comm

variable [LawfulEqOrd κ]

theorem exists_mem_of_isEmpty {table : Table κ ν} (occupied : table.isEmpty = false) :
    ∃ key, key ∈ table := by
  have some_key : table.keys ≠ [] := by
    intro none_left
    have empty := ExtTreeMap.isEmpty_keys.symm.trans (congrArg List.isEmpty none_left)
    rw [occupied] at empty
    cases empty
  obtain ⟨key, listed⟩ := List.exists_mem_of_ne_nil table.keys some_key
  exact ⟨key, ExtTreeMap.mem_keys.1 listed⟩

theorem getElem?_insert_eq (table : Table κ ν) (key tested : κ) (value : ν)
    [Decidable (key = tested)] :
    (table.insert key value)[tested]? =
      if key = tested then some value else table[tested]? := by
  rw [ExtTreeMap.getElem?_insert]
  simp only [Std.compare_eq_iff_eq]

theorem getElem?_erase_eq (table : Table κ ν) (key tested : κ) [Decidable (key = tested)] :
    (table.erase key)[tested]? = if key = tested then none else table[tested]? := by
  rw [ExtTreeMap.getElem?_erase]
  simp only [Std.compare_eq_iff_eq]

theorem mem_erase_iff (table : Table κ ν) (key tested : κ) :
    tested ∈ table.erase key ↔ key ≠ tested ∧ tested ∈ table := by
  rw [ExtTreeMap.mem_erase, ne_eq, Std.compare_eq_iff_eq]

theorem getElem?_modify_eq (table : Table κ ν) (key tested : κ) (change : ν → ν)
    [Decidable (key = tested)] :
    (table.modify key change)[tested]? =
      if key = tested then table[tested]?.map change else table[tested]? := by
  rw [ExtTreeMap.getElem?_modify]
  by_cases same : key = tested
  · subst same
    simp
  · simp [same]

theorem getElem?_insertIfNew_eq (table : Table κ ν) (key tested : κ) (value : ν)
    [Decidable (key = tested)] :
    (table.insertIfNew key value)[tested]? =
      if key = tested then some (table[tested]?.getD value) else table[tested]? := by
  rw [ExtTreeMap.getElem?_insertIfNew]
  simp only [Std.compare_eq_iff_eq]
  by_cases same : key = tested
  · subst same
    rw [if_pos rfl]
    cases found : table[key]? with
    | none =>
        rw [if_pos ⟨rfl, not_mem_of_getElem? found⟩]
        rfl
    | some old =>
        rw [if_neg fun both => both.2 (mem_of_getElem? found)]
        rfl
  · rw [if_neg fun both => same both.1, if_neg same]

omit [LawfulEqOrd κ] in
/-- Two tables with the same entries but for one key. -/
theorem getElem?_eq_ite {table other : Table κ ν} {key : κ}
    (same : ∀ tested, key ≠ tested → table[tested]? = other[tested]?) (tested : κ)
    [Decidable (key = tested)] :
    table[tested]? = if key = tested then table[key]? else other[tested]? := by
  split
  · next equal => rw [equal]
  · next different => exact same tested different

theorem mem_filter_key (table : Table κ ν) (keep : κ → Bool) (key : κ) :
    key ∈ table.filter (fun tested _ => keep tested) ↔ key ∈ table ∧ keep key = true := by
  rw [mem_iff_exists, mem_iff_exists, ExtTreeMap.getElem?_filter']
  cases table[key]? <;> simp

/-- A change that keeps the value of its key keeps the whole table. -/
theorem modify_eq_self {table : Table κ ν} {key : κ} {change : ν → ν}
    (kept : ∀ value, table[key]? = some value → change value = value) :
    table.modify key change = table := by
  classical
  apply ExtTreeMap.ext_getElem?
  intro tested
  rw [getElem?_modify_eq]
  by_cases same : key = tested
  · subst same
    rw [if_pos rfl]
    cases found : table[key]? with
    | none => rfl
    | some value => rw [Option.map_some, kept value found]
  · rw [if_neg same]

theorem modify_eq_self_iff {table : Table κ ν} {key : κ} {change : ν → ν} :
    table.modify key change = table ↔ ∀ value, table[key]? = some value → change value = value := by
  classical
  refine ⟨?_, modify_eq_self⟩
  intro same value found
  have changed := congrArg (fun table : Table κ ν => table[key]?) same
  simp only [getElem?_modify_eq, if_true, found, Option.map_some] at changed
  exact Option.some.inj changed

theorem erase_eq_self_iff {table : Table κ ν} {key : κ} :
    table.erase key = table ↔ key ∉ table := by
  classical
  constructor
  · intro same
    rw [← same, mem_erase_iff]
    exact fun present => present.1 rfl
  · intro absent
    apply ExtTreeMap.ext_getElem?
    intro tested
    rw [getElem?_erase_eq]
    split
    · next equal => rw [← equal, ExtTreeMap.getElem?_eq_none absent]
    · rfl

theorem insertIfNew_eq_self_iff {table : Table κ ν} {key : κ} {value : ν} :
    table.insertIfNew key value = table ↔ key ∈ table := by
  constructor
  · intro same
    rw [← same]
    exact ExtTreeMap.mem_insertIfNew_self
  · intro present
    apply ExtTreeMap.ext_getElem?
    intro tested
    rw [ExtTreeMap.getElem?_insertIfNew, if_neg fun new => new.2 present]

theorem modify_eq_insert {table : Table κ ν} {key : κ} {change : ν → ν} {value : ν}
    (found : table[key]? = some value) :
    table.modify key change = table.insert key (change value) := by
  classical
  apply ExtTreeMap.ext_getElem?
  intro tested
  rw [getElem?_modify_eq, getElem?_insert_eq]
  by_cases same : key = tested
  · subst same
    rw [if_pos rfl, if_pos rfl, found, Option.map_some]
  · rw [if_neg same, if_neg same]

theorem insert_eq_self {table : Table κ ν} {key : κ} {value : ν}
    (found : table[key]? = some value) : table.insert key value = table := by
  have kept : table.modify key id = table := modify_eq_self fun _ _ => rfl
  exact (modify_eq_insert found).symm.trans kept

theorem modify_modify (table : Table κ ν) (key : κ) (first second : ν → ν) :
    (table.modify key first).modify key second =
      table.modify key fun value => second (first value) := by
  classical
  apply ExtTreeMap.ext_getElem?
  intro tested
  rw [getElem?_modify_eq, getElem?_modify_eq, getElem?_modify_eq]
  by_cases same : key = tested
  · rw [if_pos same, if_pos same, if_pos same, Option.map_map]
    rfl
  · rw [if_neg same, if_neg same, if_neg same]

/-! ## Tables as lists -/

theorem nodup_keys (table : Table κ ν) : table.keys.Nodup := by
  have distinct := ExtTreeMap.distinct_keys (t := table)
  refine distinct.imp ?_
  intro first second different same
  subst same
  exact different (Std.compare_eq_iff_eq.2 rfl)

theorem nodup_toList (table : Table κ ν) : table.toList.Nodup := by
  have distinct := nodup_keys table
  rw [← ExtTreeMap.map_fst_toList_eq_keys] at distinct
  exact distinct.of_map _

theorem mem_toList {table : Table κ ν} {key : κ} {value : ν} :
    (key, value) ∈ table.toList ↔ table[key]? = some value :=
  ExtTreeMap.mem_toList_iff_getElem?_eq_some

theorem filter_eq_self_iff {table : Table κ ν} {keep : ν → Bool} :
    (table.filter fun _ value => keep value) = table ↔
      ∀ entry ∈ table.toList, keep entry.2 = true := by
  rw [ExtTreeMap.filter_eq_self_iff]
  constructor
  · rintro kept ⟨key, value⟩ listed
    obtain ⟨present, rfl⟩ := ExtTreeMap.getElem?_eq_some_iff.1 (mem_toList.1 listed)
    exact kept key present
  · intro kept key present
    exact kept (key, table[key]) (mem_toList.2 (ExtTreeMap.getElem?_eq_some_getElem present))

theorem toList_insert_perm {table : Table κ ν} {key : κ} {value : ν} (fresh : key ∉ table) :
    (table.insert key value).toList.Perm ((key, value) :: table.toList) := by
  classical
  have unlisted : (key, value) ∉ table.toList := by
    intro listed
    exact fresh (mem_of_getElem? (mem_toList.1 listed))
  rw [List.perm_ext_iff_of_nodup (nodup_toList _)
    (List.nodup_cons.2 ⟨unlisted, nodup_toList table⟩)]
  rintro ⟨tested, found⟩
  rw [mem_toList, getElem?_insert_eq, List.mem_cons, mem_toList]
  by_cases same : key = tested
  · subst same
    have absent : table[key]? = none := ExtTreeMap.getElem?_eq_none fresh
    simp [absent, eq_comm]
  · have other : tested ≠ key := fun equal => same equal.symm
    simp [same, other]

theorem toList_erase_perm {table : Table κ ν} {key : κ} {value : ν}
    (found : table[key]? = some value) :
    table.toList.Perm ((key, value) :: (table.erase key).toList) := by
  classical
  have unlisted : (key, value) ∉ (table.erase key).toList := by
    rw [mem_toList, getElem?_erase_eq]
    simp
  rw [List.perm_ext_iff_of_nodup (nodup_toList _)
    (List.nodup_cons.2 ⟨unlisted, nodup_toList _⟩)]
  rintro ⟨tested, held⟩
  rw [mem_toList, List.mem_cons, mem_toList, getElem?_erase_eq]
  by_cases same : key = tested
  · subst same
    simp [found, eq_comm]
  · have other : tested ≠ key := fun equal => same equal.symm
    simp [same, other]

/-- A key gets another value. -/
theorem toList_insert_erase_perm (table : Table κ ν) (key : κ) (value : ν) :
    (table.insert key value).toList.Perm ((key, value) :: (table.erase key).toList) := by
  classical
  have found : (table.insert key value)[key]? = some value := by
    rw [getElem?_insert_eq, if_pos rfl]
  have others : (table.insert key value).erase key = table.erase key := by
    apply Std.ExtTreeMap.ext_getElem?
    intro tested
    rw [getElem?_erase_eq, getElem?_erase_eq, getElem?_insert_eq]
    by_cases same : key = tested
    · rw [if_pos same, if_pos same]
    · rw [if_neg same, if_neg same, if_neg same]
  have perm := toList_erase_perm found
  rw [others] at perm
  exact perm

end InputSharing.Table
