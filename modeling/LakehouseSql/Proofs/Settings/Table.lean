import LakehouseSql.Proofs.Dictionary
import LakehouseSql.Settings.Source
/-! # Tables laid over each other

Tables hold each key once, however deep they nest, and so does a table that another one is laid
over. What is then found under a key depends only on what the two tables have there: two tables
are merged, anything else of the upper table replaces what lies below it.
-/
namespace LakehouseSql

/-- No key comes twice, neither in the table nor in a table further in. -/
inductive DistinctKeys : List (String × Json) → Prop where
  | intro {table : List (String × Json)} (keys : (table.map (·.1)).Nodup)
      (inner : ∀ key ms, table.lookup key = some (.object ms) → DistinctKeys ms) :
      DistinctKeys table

namespace DistinctKeys

variable {table ms : List (String × Json)} {key : String} {j : Json}

theorem keys (h : DistinctKeys table) : (table.map (·.1)).Nodup := by
  cases h with
  | intro hkeys => exact hkeys

theorem inner (h : DistinctKeys table) (hkey : table.lookup key = some (.object ms)) :
    DistinctKeys ms := by
  cases h with
  | intro _ hinner => exact hinner key ms hkey

theorem nil : DistinctKeys [] :=
  ⟨.nil, nofun⟩

theorem of_forall_mem (hkeys : (table.map (·.1)).Nodup)
    (h : ∀ key ms, (key, Json.object ms) ∈ table → DistinctKeys ms) : DistinctKeys table :=
  ⟨hkeys, fun key ms hkey => h key ms ((Dictionary.lookup_eq_some_iff_mem hkeys).mp hkey)⟩

theorem of_perm {others : List (String × Json)} (h : DistinctKeys table)
    (hperm : table.Perm others) : DistinctKeys others := by
  refine ⟨(hperm.map (·.1)).nodup_iff.mp h.keys, fun key ms hkey => ?_⟩
  rw [← Dictionary.lookup_of_perm h.keys hperm] at hkey
  exact h.inner hkey

theorem insertEntry (h : DistinctKeys table) (hj : ∀ ms, j = .object ms → DistinctKeys ms) :
    DistinctKeys (Dictionary.insertEntry key j table) := by
  refine ⟨Dictionary.distinct_insertEntry key j table h.keys, ?_⟩
  intro k ms hk
  rw [Dictionary.lookup_insertEntry] at hk
  split at hk
  · exact hj ms (Option.some.inj hk)
  · exact h.inner hk

end DistinctKeys

namespace SettingsSource

/-- One value laid over another, each perhaps missing. -/
def overlay : Option Json → Option Json → Option Json
  | lower, none => lower
  | some (.object existing), some (.object incoming) =>
    some (.object (mergeMembers existing incoming))
  | _, upper => upper

theorem overlay_none (upper : Option Json) : overlay none upper = upper := by
  cases upper with
  | none => rfl
  | some j => cases j <;> rfl

/-- Only a table lets something of what lies below it through. -/
theorem overlay_scalar (lower : Option Json) {j : Json} (h : ∀ ms, j ≠ .object ms) :
    overlay lower (some j) = some j := by
  cases j with
  | object ms => exact absurd rfl (h ms)
  | null | bool | number | string | array | unreadable => cases lower <;> rfl

theorem overlay_table (incoming : List (String × Json)) {lower : Option Json}
    (h : ∀ existing, lower ≠ some (.object existing)) :
    overlay lower (some (.object incoming)) = some (.object incoming) := by
  cases lower with
  | none => rfl
  | some j =>
    cases j with
    | object existing => exact absurd rfl (h existing)
    | null | bool | number | string | array | unreadable => rfl

theorem overlay_cases (lower upper : Option Json) :
    overlay lower upper = lower ∨ overlay lower upper = upper ∨
      ∃ existing incoming, lower = some (.object existing) ∧ upper = some (.object incoming) ∧
        overlay lower upper = some (.object (mergeMembers existing incoming)) := by
  unfold overlay
  split
  · exact .inl rfl
  · exact .inr (.inr ⟨_, _, rfl, rfl, rfl⟩)
  · exact .inr (.inl rfl)

variable {table ms : List (String × Json)}

/-- Laying a value over a table sets what the key then has. -/
theorem mergeMember_eq (table : List (String × Json)) (key : String) (j : Json) :
    ∃ merged, overlay (table.lookup key) (some j) = some merged ∧
      mergeMember table key j = Dictionary.insertEntry key merged table := by
  cases j with
  | object incoming =>
    unfold mergeMember
    split
    · rename_i existing h
      exact ⟨_, by rw [h]; rfl, rfl⟩
    · rename_i h
      exact ⟨_, overlay_table incoming h, rfl⟩
  | null | bool | number | string | array | unreadable =>
    exact ⟨_, overlay_scalar _ nofun, rfl⟩

theorem lookup_mergeMember (table : List (String × Json)) (key k : String) (j : Json) :
    (mergeMember table key j).lookup k =
      if k = key then overlay (table.lookup key) (some j) else table.lookup k := by
  obtain ⟨merged, hoverlay, hinsert⟩ := mergeMember_eq table key j
  rw [hinsert, Dictionary.lookup_insertEntry, hoverlay]

/-- What is found under a key of a table that another was laid over. -/
theorem lookup_mergeMembers (h : (ms.map (·.1)).Nodup) (table : List (String × Json))
    (key : String) :
    (mergeMembers table ms).lookup key = overlay (table.lookup key) (ms.lookup key) := by
  induction ms generalizing table with
  | nil => rfl
  | cons m ms ih =>
    obtain ⟨k, j⟩ := m
    obtain ⟨hk, hms⟩ := List.nodup_cons.mp h
    rw [mergeMembers, ih hms, lookup_mergeMember, Dictionary.lookup_cons]
    by_cases hkey : key = k
    · -- the keys are distinct, so nothing comes later for this one
      have habsent : ms.lookup key = none := Dictionary.lookup_eq_none_iff.mpr (hkey ▸ hk)
      rw [if_pos hkey, if_pos hkey, habsent, hkey]
      rfl
    · rw [if_neg hkey, if_neg hkey]

private theorem nodup_mergeMembers (ms : List (String × Json)) {table : List (String × Json)}
    (h : (table.map (·.1)).Nodup) : ((mergeMembers table ms).map (·.1)).Nodup := by
  induction ms generalizing table with
  | nil => exact h
  | cons m ms ih =>
    obtain ⟨merged, -, hinsert⟩ := mergeMember_eq table m.1 m.2
    rw [mergeMembers, hinsert]
    exact ih (Dictionary.distinct_insertEntry m.1 merged table h)

theorem distinctKeys_mergeMembers (h : DistinctKeys ms) :
    ∀ {table}, DistinctKeys table → DistinctKeys (mergeMembers table ms) := by
  induction h with
  | @intro ms hkeys hinner ih =>
    intro table htable
    refine ⟨nodup_mergeMembers ms htable.keys, ?_⟩
    intro key merged hmerged
    rw [lookup_mergeMembers hkeys] at hmerged
    rcases overlay_cases (table.lookup key) (ms.lookup key) with h | h | h
    · exact htable.inner (h ▸ hmerged)
    · exact hinner key merged (h ▸ hmerged)
    · obtain ⟨existing, incoming, hlower, hupper, h⟩ := h
      cases h.symm.trans hmerged
      exact ih key incoming hupper (htable.inner hlower)

end SettingsSource

end LakehouseSql
