import LakehouseSql.Proofs.Render.Fragment.Fabric
import LakehouseSql.Proofs.Render.Fragment.Synapse
/-! # Untrusted texts stay inside literals

Whatever the untrusted texts of a statement hold, each of them comes out as one literal, and the
rest of the SQL text reads as it would with any other texts in their place.
-/
namespace LakehouseSql
open Sql (Fixed Fragment)

private theorem fragment_of_fixed {α : Type} {x : Except α String} {a a' : String}
    (hfixed : ∀ {b : String}, x = .ok b → Fixed b) (ha : x = .ok a) (ha' : x = .ok a') :
    Fragment a a' [] [] := by
  cases ha.symm.trans ha'
  exact hfixed ha

private theorem createStatistics_of_render {r : Renderer} {s : CreateStatistics} {sql : String}
    (h : r.render (.createStatistics s) = .ok sql) : r.createStatistics s = .ok sql := by
  unfold Renderer.render at h
  dsimp only at h
  split at h
  · cases h
  · exact h

section
variable {settings : Settings} {s s' : Statement} {sql sql' : String}

theorem Fabric.fragment_render (hs : s.Consistent) (hraw : s.WithoutRawSql) (h : s.Alike s')
    (hsql : (renderer settings).render s = .ok sql)
    (hsql' : (renderer settings).render s' = .ok sql') :
    Fragment sql sql' (writtenTexts s) (writtenTexts s') := by
  cases h with
  | createTable h => exact fragment_createTable hs hraw h hsql hsql'
  | insert h => exact fragment_insert hraw h hsql hsql'
  | update h => exact fragment_update hraw h hsql hsql'
  | copy h => exact fragment_copy hs hraw h hsql hsql'
  | same s =>
    cases s with
    | createTable t => exact fragment_createTable hs hraw (.refl t) hsql hsql'
    | insert i => exact fragment_insert hraw (.refl i) hsql hsql'
    | update u => exact fragment_update hraw (.refl u) hsql hsql'
    | copy c => exact fragment_copy hs hraw (.refl c) hsql hsql'
    | dropTable t => exact fragment_of_fixed fixed_dropTable hsql hsql'
    | createSchema s => exact fragment_of_fixed fixed_createSchema hsql hsql'
    | dropSchema s => exact fragment_of_fixed fixed_dropSchema hsql hsql'
    | select s => exact fragment_of_fixed (Render.fixed_select hraw) hsql hsql'
    | delete d => exact fragment_of_fixed (fixed_delete hraw) hsql hsql'
    | dropView v => exact fragment_of_fixed Render.fixed_dropView hsql hsql'
    | createStatistics s =>
      exact fragment_of_fixed fixed_createStatistics (createStatistics_of_render hsql)
        (createStatistics_of_render hsql')
    | merge | createView | rawSql => exact hraw.elim

theorem Synapse.fragment_render (hs : s.Consistent) (hraw : s.WithoutRawSql) (h : s.Alike s')
    (hsql : (renderer settings).render s = .ok sql)
    (hsql' : (renderer settings).render s' = .ok sql') :
    Fragment sql sql' (writtenTexts settings s) (writtenTexts settings s') := by
  cases h with
  | createTable h => exact fragment_createTable hs hraw h hsql hsql'
  | insert | update | copy => cases hsql
  | same s =>
    cases s with
    | createTable t => exact fragment_createTable hs hraw (.refl t) hsql hsql'
    | insert | update | delete | copy => cases hsql
    | dropTable t => exact fragment_of_fixed fixed_dropTable hsql hsql'
    | createSchema s => exact fragment_of_fixed fixed_createSchema hsql hsql'
    | dropSchema s => exact fragment_of_fixed fixed_dropSchema hsql hsql'
    | select s => exact fragment_of_fixed (Render.fixed_select hraw) hsql hsql'
    | dropView v => exact fragment_of_fixed Render.fixed_dropView hsql hsql'
    | createStatistics s =>
      exact fragment_of_fixed fixed_createStatistics (createStatistics_of_render hsql)
        (createStatistics_of_render hsql')
    | merge | createView | rawSql => exact hraw.elim

end

/-- The SQL texts of two statements that differ in untrusted texts have the same tokens apart from
the literals of these texts, and no comments. -/
theorem untrusted_texts_stay_literals {s s' : Statement} (h : s.Constructible)
    (hraw : s.WithoutRawSql) (halike : s.Alike s') (settings : Settings) (sql sql' : String) :
    ((Fabric.renderer settings).render s = .ok sql →
      (Fabric.renderer settings).render s' = .ok sql' →
      Sql.Alike sql.toList sql'.toList (Fabric.writtenTexts s) (Fabric.writtenTexts s')) ∧
    ((Synapse.renderer settings).render s = .ok sql →
      (Synapse.renderer settings).render s' = .ok sql' →
      Sql.Alike sql.toList sql'.toList (Synapse.writtenTexts settings s)
        (Synapse.writtenTexts settings s')) := by
  constructor
  · intro hsql hsql'
    exact (Fabric.fragment_render h.consistent hraw halike hsql hsql').alike
  · intro hsql hsql'
    exact (Synapse.fragment_render h.consistent hraw halike hsql hsql').alike

/-- A default, a location and a property that try to leave their literals. -/
theorem hostile_table_stays_literals :
    let table (value location key owner : String) : CreateTable :=
      ⟨⟨"gold", "orders", none, none, none⟩,
        [⟨"note", "varchar(20)", true, some (.text value), false, false, none, none, none⟩], none,
        none, some location, .parquet, [], none, .ofList [(key, owner)], false⟩
    let s := Statement.createTable (table "none" "lake/orders" "owner" "sales")
    let s' := Statement.createTable (table "'); DROP TABLE gold.orders; --" "lake'/*" "]" "''")
    s.Constructible ∧ s.WithoutRawSql ∧ s.Alike s' ∧
    (∃ sql sql', (Fabric.renderer .standard).render s = .ok sql ∧
      (Fabric.renderer .standard).render s' = .ok sql' ∧
      Sql.Alike sql.toList sql'.toList ["none", "lake/orders", "owner", "sales"]
        ["'); DROP TABLE gold.orders; --", "lake'/*", "]", "''"]) ∧
    ∃ sql sql', (Synapse.renderer .standard).render s = .ok sql ∧
      (Synapse.renderer .standard).render s' = .ok sql' ∧
      Sql.Alike sql.toList sql'.toList ["lake/orders"] ["lake'/*"] := by
  intro table s s'
  have htarget : Target.Reached ⟨"gold", "orders", none, none, none⟩ :=
    Lifecycle.reached_of_made ⟨"gold", "orders", rfl⟩
  have hcolumn : ColumnDefinition.Reached
      ⟨"note", "varchar(20)", true, some (.text "none"), false, false, none, none, none⟩ :=
    ⟨_, [.defaultValue (.text "none")], ⟨"note", "varchar(20)", rfl⟩, rfl⟩
  have hs : s.Constructible :=
    ⟨_, [.property "owner" "sales", .recreate false], ⟨_, ⟨_, none, none, some "lake/orders"⟩,
      htarget, List.forall_mem_singleton.mpr hcolumn, rfl⟩, rfl⟩
  have hraw : s.WithoutRawSql :=
    ⟨rfl, List.forall_mem_singleton.mpr
      ⟨List.all_eq_true.mp rfl, by simp [SqlValue.IsData], rfl, rfl⟩⟩
  have halike : s.Alike s' :=
    .createTable (.intro (.cons (.intro (.some (.text _ _))) .nil) (.some trivial) rfl)
  have htexts := untrusted_texts_stay_literals hs hraw halike .standard
  have hfabric : (Fabric.renderer .standard).render s = .ok
      ("CREATE TABLE IF NOT EXISTS [gold].[orders] (\n    [note] varchar(20) DEFAULT 'none'\n)\n" ++
        "USING DELTA\nLOCATION 'lake/orders'\nTBLPROPERTIES ('owner' = 'sales')") := by
    decide +kernel
  have hfabric' : (Fabric.renderer .standard).render s' = .ok
      ("CREATE TABLE IF NOT EXISTS [gold].[orders] (\n    [note] varchar(20) DEFAULT " ++
        "'''); DROP TABLE gold.orders; --'\n)\nUSING DELTA\nLOCATION 'lake''/*'\n" ++
        "TBLPROPERTIES (']' = '''''')") := by
    decide +kernel
  have hsynapse : (Synapse.renderer .standard).render s = .ok
      ("CREATE EXTERNAL TABLE [gold].[orders] (\n    [note] varchar(20)\n)\nWITH (\n" ++
        "    DATA_SOURCE = processed_data_source,\n    LOCATION = 'lake/orders',\n" ++
        "    FILE_FORMAT = parquet_file_format\n)") := by
    decide +kernel
  have hsynapse' : (Synapse.renderer .standard).render s' = .ok
      ("CREATE EXTERNAL TABLE [gold].[orders] (\n    [note] varchar(20)\n)\nWITH (\n" ++
        "    DATA_SOURCE = processed_data_source,\n    LOCATION = 'lake''/*',\n" ++
        "    FILE_FORMAT = parquet_file_format\n)") := by
    decide +kernel
  exact ⟨hs, hraw, halike, ⟨_, _, hfabric, hfabric', (htexts _ _).1 hfabric hfabric'⟩,
    ⟨_, _, hsynapse, hsynapse', (htexts _ _).2 hsynapse hsynapse'⟩⟩

end LakehouseSql
