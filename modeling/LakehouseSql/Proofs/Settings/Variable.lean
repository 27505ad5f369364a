import Mathlib.Data.List.Sort
import LakehouseSql.Proofs.Settings.Source
/-! # Variables one by one

Setting the value at the end of a path and laying a table over another one are two recursions with
one meaning: a path is set by laying over the table that has nothing else. So it makes no
difference whether one source holds all variables or each variable has a source of its own.
-/
namespace LakehouseSql

namespace SettingsSource

variable {table ms : List (String × Json)} {key : String}

private theorem mergeMembers_eq_append (h : ((table ++ ms).map (·.1)).Nodup) :
    mergeMembers table ms = table ++ ms := by
  induction ms generalizing table with
  | nil => simp [mergeMembers]
  | cons m ms ih =>
    obtain ⟨key, j⟩ := m
    have hnew : key ∉ table.map (·.1) := by
      rw [List.map_append, List.nodup_append] at h
      intro hmem
      exact h.2.2 key hmem key (by simp) rfl
    have hnone : table.lookup key = none := Dictionary.lookup_eq_none_iff.mpr hnew
    have hstep : mergeMember table key j = table ++ [(key, j)] := by
      obtain ⟨merged, hoverlay, hinsert⟩ := mergeMember_eq table key j
      rw [hnone, overlay_none] at hoverlay
      rw [hinsert, ← Option.some.inj hoverlay, Dictionary.insertEntry_eq_append key j table hnew]
    rw [mergeMembers, hstep, ih, List.append_assoc, List.singleton_append]
    rw [List.append_assoc, List.singleton_append]
    exact h

theorem mergeMembers_nil (h : DistinctKeys ms) : mergeMembers [] ms = ms :=
  mergeMembers_eq_append (by simpa using h.keys)

/-- A table is laid over the table that the key has, or over an empty one. -/
theorem mergeMember_table (hms : mergeMembers [] ms = ms) :
    mergeMember table key (.object ms) = Dictionary.insertEntry key
      (.object (mergeMembers (Environment.tableAt key table) ms)) table := by
  unfold mergeMember Environment.tableAt
  cases table.lookup key with
  | none => rw [hms]
  | some lower =>
    cases lower with
    | object existing => rfl
    | null | bool | number | string | array | unreadable => rw [hms]

theorem mergeMembers_insertPath {j : Json} (hj : ∀ inner, j ≠ .object inner) (path : List String)
    (table : List (String × Json)) :
    mergeMembers table (Environment.insertPath j path []) =
      Environment.insertPath j path table := by
  induction path generalizing table with
  | nil => simp [Environment.insertPath, mergeMembers]
  | cons key path ih =>
    cases path with
    | nil =>
      obtain ⟨merged, hoverlay, hinsert⟩ := mergeMember_eq table key j
      rw [overlay_scalar _ hj] at hoverlay
      rw [Environment.insertPath, Environment.insertPath, Dictionary.insertEntry, mergeMembers,
        mergeMembers, hinsert, Option.some.inj hoverlay]
    | cons k path =>
      have halone : Environment.insertPath j (key :: k :: path) [] =
          [(key, .object (Environment.insertPath j (k :: path) []))] := rfl
      rw [halone, mergeMembers, mergeMembers, mergeMember_table (ih []), ih]
      rfl

theorem mergeMembers_insertVariable (start : String) (entry : String × String)
    (table : List (String × Json)) :
    mergeMembers table (Environment.insertVariable start [] entry) =
      Environment.insertVariable start table entry := by
  unfold Environment.insertVariable
  cases Environment.path? start entry.1 with
  | none => simp [mergeMembers]
  | some path => exact mergeMembers_insertPath (Environment.parseValue_ne_object _ _) path table

theorem ordered_of_same_priority {sources : List SettingsSource} {priority : UInt8}
    (h : ∀ s ∈ sources, s.priority = priority) : ordered sources = sources := by
  apply List.mergeSort_of_pairwise
  apply List.pairwise_of_forall_mem_list
  intro a ha b hb
  have hab : a.priority = b.priority := (h a ha).trans (h b hb).symm
  exact decide_eq_true (hab ▸ UInt8.le_refl _)

theorem mergeOver_cons {source : SettingsSource} {values : List (String × Json)}
    (h : source.load = .ok values) (sources : List SettingsSource)
    (table : List (String × Json)) :
    (mergeOver table (source :: sources)).result =
      (mergeOver (mergeMembers table values) sources).result := by
  rw [mergeOver, h]

theorem load_environment (start : String) (bindings : List (String × String)) :
    (environment start bindings).load = .ok (Environment.load start bindings) :=
  rfl

theorem mergeOver_variables (start : String) (bindings : List (String × String))
    (table : List (String × Json)) :
    (mergeOver table (bindings.map fun entry => environment start [entry])).result =
      .ok (bindings.foldl (Environment.insertVariable start) table) := by
  induction bindings generalizing table with
  | nil => rfl
  | cons entry bindings ih =>
    have halone : Environment.load start [entry] = Environment.insertVariable start [] entry := by
      rw [Environment.load, List.foldl_cons, List.foldl_nil]
    rw [List.map_cons, mergeOver_cons (load_environment start [entry]), halone,
      mergeMembers_insertVariable, ih, List.foldl_cons]

theorem merged_environment (start : String) (bindings : List (String × String)) :
    (merged [environment start bindings]).result = .ok (Environment.load start bindings) := by
  have halone : ordered [environment start bindings] = [environment start bindings] :=
    List.mergeSort_singleton _
  rw [merged, halone, mergeOver_cons (load_environment start bindings),
    mergeMembers_nil (Environment.distinctKeys_load start bindings), mergeOver]

/-- One source for all variables and one source for each of them, added in their order, give the
same table: the variables set one after the other. -/
theorem variables_together_or_apart (start : String) (bindings : List (String × String)) :
    (merged [environment start bindings]).result =
      (merged (bindings.map fun entry => environment start [entry])).result ∧
    (merged (bindings.map fun entry => environment start [entry])).result =
      .ok (Environment.load start bindings) := by
  have hpriority : ∀ s ∈ bindings.map fun entry => environment start [entry],
      s.priority = 100 := by
    intro s hs
    obtain ⟨entry, -, rfl⟩ := List.mem_map.mp hs
    rfl
  have hapart : (merged (bindings.map fun entry => environment start [entry])).result =
      .ok (Environment.load start bindings) := by
    rw [merged, ordered_of_same_priority hpriority, mergeOver_variables, Environment.load]
  exact ⟨(merged_environment start bindings).trans hapart.symm, hapart⟩

end SettingsSource

end LakehouseSql
