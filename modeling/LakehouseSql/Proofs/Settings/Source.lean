import LakehouseSql.Proofs.Outcome
import LakehouseSql.Proofs.Settings.Table
/-! # The tables that sources give

Whatever source is asked, the table it gives holds each key once. The standard values do so, setting
the keys of variables keeps it so, and a document is refused before it could give a key twice.
-/
namespace LakehouseSql

namespace DistinctKeys

variable {table ms : List (String × Json)} {key : String} {j : Json}

theorem append (h : DistinctKeys table) (hkey : table.lookup key = none)
    (hj : ∀ ms, j = .object ms → DistinctKeys ms) : DistinctKeys (table ++ [(key, j)]) := by
  rw [← Dictionary.insertEntry_eq_append key j table (Dictionary.lookup_eq_none_iff.mp hkey)]
  exact h.insertEntry hj

theorem append_table (h : DistinctKeys table) (hkey : table.lookup key = none)
    (hms : DistinctKeys ms) : DistinctKeys (table ++ [(key, .object ms)]) :=
  h.append hkey fun _ heq => Json.object.inj heq ▸ hms

theorem insertEntry_table (h : DistinctKeys table) (hms : DistinctKeys ms) :
    DistinctKeys (Dictionary.insertEntry key (.object ms) table) :=
  h.insertEntry fun _ heq => Json.object.inj heq ▸ hms

end DistinctKeys

namespace Environment

variable {table : List (String × Json)} {j : Json}

theorem distinctKeys_tableAt (key : String) (h : DistinctKeys table) :
    DistinctKeys (tableAt key table) := by
  unfold tableAt
  split
  · rename_i inner hinner
    exact h.inner hinner
  · exact .nil

theorem distinctKeys_insertPath (hj : ∀ ms, j ≠ .object ms) (path : List String)
    (h : DistinctKeys table) : DistinctKeys (insertPath j path table) := by
  induction path generalizing table with
  | nil => exact h
  | cons key path ih =>
    cases path with
    | nil => exact h.insertEntry fun ms hms => absurd hms (hj ms)
    | cons k path => exact h.insertEntry_table (ih (distinctKeys_tableAt key h))

theorem parseValue_ne_object (key s : String) (ms : List (String × Json)) :
    parseValue key s ≠ .object ms := by
  unfold parseValue
  split
  · nofun
  · split
    · nofun
    · split
      · nofun
      · split <;> nofun

theorem distinctKeys_insertVariable (start : String) (entry : String × String)
    (h : DistinctKeys table) : DistinctKeys (insertVariable start table entry) := by
  unfold insertVariable
  split
  · exact h
  · exact distinctKeys_insertPath (parseValue_ne_object _ _) _ h

theorem distinctKeys_load (start : String) (bindings : List (String × String)) :
    DistinctKeys (load start bindings) := by
  have hrun : ∀ table, DistinctKeys table →
      DistinctKeys (bindings.foldl (insertVariable start) table) := by
    induction bindings with
    | nil => exact fun _ h => h
    | cons entry bindings ih =>
      exact fun _ h => ih _ (distinctKeys_insertVariable start entry h)
  exact hrun [] .nil

end Environment

namespace Toml

variable {table result : List (String × Json)} {j : Json}

private theorem wordValue?_ne_object (word : List Char) (ms : List (String × Json)) :
    wordValue? word ≠ some (.object ms) := by
  unfold wordValue?
  split
  · nofun
  · nofun
  · intro h
    obtain ⟨n, -, heq⟩ := Option.map_eq_some_iff.mp h
    cases heq

theorem value_ne_object {fuel : Nat} {cs rest : List Char} (h : value fuel cs = some (j, rest))
    (ms : List (String × Json)) : j ≠ .object ms := by
  rintro rfl
  cases fuel with
  | zero => cases h
  | succ fuel =>
    unfold value at h
    split at h
    · simp at h
    · simp at h
    · simp at h
    · obtain ⟨j, hj, heq⟩ := Option.map_eq_some_iff.mp h
      cases heq
      exact wordValue?_ne_object _ ms hj

theorem distinctKeys_setKey (hj : ∀ ms, j ≠ .object ms) {path : List String}
    (h : DistinctKeys table) (hset : setKey j path table = some result) :
    DistinctKeys result := by
  induction path generalizing table result with
  | nil => cases hset
  | cons key path ih =>
    cases path with
    | nil =>
      rw [setKey] at hset
      split at hset
      · cases hset
      · rename_i hkey
        cases hset
        exact h.append (Option.not_isSome_iff_eq_none.mp hkey) fun ms hms => absurd hms (hj ms)
    | cons k path =>
      rw [setKey] at hset
      · split at hset
        · rename_i hkey
          obtain ⟨inner, hinner, rfl⟩ := Option.map_eq_some_iff.mp hset
          exact h.append_table hkey (ih .nil hinner)
        · rename_i existing hkey
          obtain ⟨inner, hinner, rfl⟩ := Option.map_eq_some_iff.mp hset
          exact h.insertEntry_table (ih (h.inner hkey) hinner)
        · cases hset
      · nofun

theorem distinctKeys_openTable {path : List String} (h : DistinctKeys table)
    (hopen : openTable path table = some result) : DistinctKeys result := by
  induction path generalizing table result with
  | nil =>
    cases hopen
    exact h
  | cons key path ih =>
    unfold openTable at hopen
    split at hopen
    · rename_i hkey
      obtain ⟨inner, hinner, rfl⟩ := Option.map_eq_some_iff.mp hopen
      exact h.append_table hkey (ih .nil hinner)
    · rename_i existing hkey
      obtain ⟨inner, hinner, rfl⟩ := Option.map_eq_some_iff.mp hopen
      exact h.insertEntry_table (ih (h.inner hkey) hinner)
    · cases hopen

theorem distinctKeys_line {p q : Progress} {cs rest : List Char} (h : DistinctKeys p.members)
    (hline : line p cs = some (q, rest)) : DistinctKeys q.members := by
  unfold line at hline
  split at hline
  · obtain ⟨⟨path, rest⟩, -, hline⟩ := Option.bind_eq_some_iff.mp hline
    dsimp only at hline
    split at hline
    · split at hline
      · cases hline
      · obtain ⟨rest, -, hline⟩ := Option.bind_eq_some_iff.mp hline
        obtain ⟨members, hmembers, hline⟩ := Option.bind_eq_some_iff.mp hline
        cases hline
        exact distinctKeys_openTable h hmembers
    · cases hline
  · obtain ⟨⟨path, rest⟩, -, hline⟩ := Option.bind_eq_some_iff.mp hline
    dsimp only at hline
    split at hline
    · obtain ⟨⟨j, rest⟩, hj, hline⟩ := Option.bind_eq_some_iff.mp hline
      obtain ⟨rest, -, hline⟩ := Option.bind_eq_some_iff.mp hline
      obtain ⟨members, hmembers, hline⟩ := Option.bind_eq_some_iff.mp hline
      cases hline
      exact distinctKeys_setKey (value_ne_object hj) h hmembers
    · cases hline

theorem distinctKeys_lines {fuel : Nat} {p : Progress} {cs : List Char}
    (h : DistinctKeys p.members) (hlines : lines fuel p cs = some result) :
    DistinctKeys result := by
  induction fuel generalizing p cs with
  | zero => cases hlines
  | succ fuel ih =>
    unfold lines at hlines
    split at hlines
    · cases hlines
      exact h
    · split at hlines
      · rename_i hline
        exact ih (distinctKeys_line h hline) hlines
      · cases hlines

theorem distinctKeys_read? {s : String} (h : read? s = some table) : DistinctKeys table :=
  distinctKeys_lines .nil h

end Toml

theorem SynapseSettings.distinctKeys_toJson {s : SynapseSettings} {ms : List (String × Json)}
    (h : s.toJson = .object ms) : DistinctKeys ms := by
  cases h
  refine .of_forall_mem (by simp) ?_
  intro key ms hmem
  cases hlocation : s.locationPrefix <;> simp [hlocation, Json.optional] at hmem

theorem FabricSettings.distinctKeys_toJson {s : FabricSettings} {ms : List (String × Json)}
    (h : s.toJson = .object ms) : DistinctKeys ms := by
  cases h
  refine .of_forall_mem (by simp) ?_
  intro key ms hmem
  cases hwarehouse : s.warehouseName <;> cases hlakehouse : s.lakehouseName <;>
    simp [hwarehouse, hlakehouse, Json.optional, Json.natural] at hmem

theorem Settings.distinctKeys_toMembers (s : Settings) : DistinctKeys s.toMembers := by
  refine .of_forall_mem (by simp [toMembers]) ?_
  intro key ms hmem
  have hinner : Json.object ms = s.synapse.toJson ∨ Json.object ms = s.fabric.toJson := by
    cases htable : s.tablePrefix <;>
      simp [toMembers, htable, Json.optional, Json.strings] at hmem <;>
      exact hmem.imp And.right And.right
  rcases hinner with h | h
  · exact SynapseSettings.distinctKeys_toJson h.symm
  · exact FabricSettings.distinctKeys_toJson h.symm

namespace SettingsSource

/-- The source can be asked, and the table it gives holds each key once. -/
def LoadsTable (s : SettingsSource) : Prop :=
  ∃ values, s.load = .ok values ∧ DistinctKeys values

theorem loadsTable_defaults : defaults.LoadsTable :=
  ⟨_, rfl, Settings.distinctKeys_toMembers _⟩

theorem loadsTable_environment (start : String) (bindings : List (String × String)) :
    (environment start bindings).LoadsTable :=
  ⟨_, rfl, Environment.distinctKeys_load start bindings⟩

theorem distinctKeys_loadToml {content : FileContent} {values : List (String × Json)}
    (h : loadToml content = .ok values) : DistinctKeys values := by
  cases content with
  | missing =>
    cases h
    exact .nil
  | directory => cases h
  | text s =>
    simp only [loadToml] at h
    split at h
    · rename_i hread
      cases h
      exact Toml.distinctKeys_read? hread
    · cases h

end SettingsSource

end LakehouseSql
