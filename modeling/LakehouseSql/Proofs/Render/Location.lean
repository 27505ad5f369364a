import Mathlib.Data.List.DropRight
import LakehouseSql.Proofs.Render.Fragment.Common
import LakehouseSql.Render.Synapse
/-! # Where external tables are placed

The statement for an external table names the place of its files in the options of the table. A
table without a place of its own is placed under the configured folder, unless it is filled by a
query: then it got a place when it was made, and the folder is not looked at.
-/
namespace LakehouseSql.Synapse
open Render
open Identifier (Conforms)
open Sql (Closed Parts Reads Token tokens)

/-- The place that options name. -/
def readLocation : List Token → Option String
  | .word "LOCATION" :: .sign '=' :: .literal place :: _ => some place
  | _ :: toks => readLocation toks
  | [] => none

/-- What stands before the name and the options of a table. -/
def createHead (recreate : Bool) (name : String) : String :=
  (if recreate then dropIfExists name ++ ";\n" else "") ++ "CREATE EXTERNAL TABLE " ++ name

/-- What the statement for a table has before its options and behind them. -/
inductive Framed (settings : Settings) (t : CreateTable) : String → String → Prop where
  | query {name query : String} (hname : targetName settings t.target = .ok name)
      (hquery : t.selectQuery = some query) :
      Framed settings t (createHead t.recreate name ++ "\n") ("\nAS " ++ query)
  | source {name source table : String} (hname : targetName settings t.target = .ok name)
      (hquery : t.selectQuery = none) (hsource : t.sourceTable = some source)
      (htable : qualifyDotted settings source = .ok table) :
      Framed settings t (createHead t.recreate name ++ "\n") ("\nAS SELECT * FROM " ++ table)
  | columns {name columns : String} (hname : targetName settings t.target = .ok name)
      (hquery : t.selectQuery = none) (hsource : t.sourceTable = none)
      (hcolumns : columnDefinitions t.columns = .ok columns) :
      Framed settings t (createHead t.recreate name ++ " (\n    " ++ columns ++ "\n)\n") ""

/-- The options in the statement for a table name the place. -/
def Places (settings : Settings) (t : CreateTable) (sql place : String) : Prop :=
  ∃ before options behind toks, Framed settings t before behind ∧
    sql = before ++ options ++ behind ∧ Closed options toks ∧ readLocation toks = some place

/-- The stem of a text is what stands before the slashes at its end. -/
def IsStem (stem root : String) : Prop :=
  stem.toList.getLast? ≠ some '/' ∧
    ∃ slashes, root = stem ++ slashes ∧ slashes.toList.all (· == '/') = true

section
variable {settings : Settings} {t : CreateTable} {sql place place' : String}

private theorem createHead_append (recreate : Bool) (name rest : String) :
    (if recreate then dropIfExists name ++ (";\n" ++ ("CREATE EXTERNAL TABLE " ++ (name ++ rest)))
      else "CREATE EXTERNAL TABLE " ++ (name ++ rest)) = createHead recreate name ++ rest := by
  cases recreate with
  | false => simp only [createHead, Bool.false_eq_true, if_false, String.empty_append,
      String.append_assoc]
  | true => simp only [createHead, if_true, String.append_assoc]

private theorem createTable_eq_ok (h : createTable settings t = .ok sql) :
    ∃ before options behind format, Framed settings t before behind ∧
      sql = before ++ options ++ behind ∧ fileFormatName settings t = .ok format ∧
      externalOptions settings (location settings t) format = .ok options := by
  simp only [createTable, bind_eq_ok_iff, pure_eq_ok_iff, named_eq_ok_iff] at h
  obtain ⟨name, hname, format, hformat, body, hbody, rfl⟩ := h
  unfold createBody at hbody
  cases hquery : t.selectQuery with
  | some query =>
    simp only [hquery, bind_eq_ok_iff, pure_eq_ok_iff, named_eq_ok_iff] at hbody
    obtain ⟨options, hoptions, rfl⟩ := hbody
    refine ⟨_, options, _, format, .query hname hquery, ?_, hformat, hoptions⟩
    simp only [String.append_assoc, createHead_append]
  | none =>
    cases hsource : t.sourceTable with
    | some source =>
      simp only [hquery, hsource, bind_eq_ok_iff, pure_eq_ok_iff, named_eq_ok_iff] at hbody
      obtain ⟨options, hoptions, table, htable, rfl⟩ := hbody
      refine ⟨_, options, _, format, .source hname hquery hsource htable, ?_, hformat, hoptions⟩
      simp only [String.append_assoc, createHead_append]
    | none =>
      simp only [hquery, hsource, guard_eq_ok_iff, bind_eq_ok_iff, pure_eq_ok_iff,
        named_eq_ok_iff] at hbody
      obtain ⟨-, columns, hcolumns, options, hoptions, rfl⟩ := hbody
      refine ⟨_, options, _, format, .columns hname hquery hsource hcolumns, ?_, hformat, hoptions⟩
      simp only [String.append_assoc, createHead_append, String.append_empty]

private theorem readLocation_append {front rest : List Token} (h : .sign '=' ∉ front) :
    readLocation (front ++ .sign ',' :: rest) = readLocation rest := by
  induction front with
  | nil => rfl
  | cons t front ih =>
    obtain ⟨-, hfront⟩ := not_or.mp (mt List.mem_cons.mpr h)
    rw [List.cons_append, readLocation]
    · exact ih hfront
    · intro place toks _ htoks
      cases front with
      | nil => cases htoks
      | cons t front =>
        cases (List.cons.inj htoks).1
        simp at hfront

private theorem closed_externalOptions {options format : String} (hformat : Conforms .sql format)
    (h : externalOptions settings place format = .ok options) :
    ∃ toks, Closed options toks ∧ readLocation toks = some place := by
  simp only [externalOptions, bind_eq_ok_iff, pure_eq_ok_iff, plainName_eq_ok_iff] at h
  obtain ⟨source, ⟨hsource, rfl⟩, rfl⟩ := h
  obtain ⟨sourceToks, hsigns, hreadSource⟩ := Reads.bare hsource
  obtain ⟨formatToks, -, hreadFormat⟩ := Reads.bare hformat
  have hopen : Closed "WITH (\n    DATA_SOURCE = "
      [.word "WITH", .sign '(', .word "DATA_SOURCE", .sign '='] := .words rfl (by decide +kernel)
  have hplace : Parts ",\n    LOCATION = " [.sign ',', .word "LOCATION", .sign '='] :=
    .words rfl (by decide +kernel)
  have hfile : Parts ",\n    FILE_FORMAT = " [.sign ',', .word "FILE_FORMAT", .sign '='] :=
    .words rfl (by decide +kernel)
  have hclose : Parts "\n)" [.sign ')'] := .words rfl (by decide +kernel)
  have hplaced := (hreadSource.enclose hopen hplace).append (Reads.literal place)
  refine ⟨_, hreadFormat.enclose (hplaced.close hfile) hclose, ?_⟩
  have hequals : .sign '=' ∉ sourceToks := fun hmem => by cases hsigns _ hmem
  simp [readLocation, readLocation_append hequals]

theorem conforms_of_fileFormatName {format : String} (h : fileFormatName settings t = .ok format) :
    Conforms .sql format := by
  have hplain {role name : String} (h : Rendered.named (plainName role name) = .ok format) :
      Conforms .sql format := by
    obtain ⟨hname, rfl⟩ := plainName_eq_ok_iff.mp (named_eq_ok_iff.mp h)
    exact hname
  unfold fileFormatName at h
  split at h
  · exact hplain h
  · exact hplain h
  · cases h
  · cases h

theorem places_location (h : createTable settings t = .ok sql) :
    Places settings t sql (location settings t) := by
  obtain ⟨before, options, behind, format, hframed, hsql, hformat, hoptions⟩ := createTable_eq_ok h
  obtain ⟨toks, hclosed, hread⟩ :=
    closed_externalOptions (conforms_of_fileFormatName hformat) hoptions
  exact ⟨before, options, behind, toks, hframed, hsql, hclosed, hread⟩

theorem Framed.unique {before behind before' behind' : String} (h : Framed settings t before behind)
    (h' : Framed settings t before' behind') : before = before' ∧ behind = behind' := by
  cases h with
  | query hname hquery =>
    cases h' with
    | query hname' hquery' =>
      cases result_unique hname hname'
      cases hquery.symm.trans hquery'
      exact ⟨rfl, rfl⟩
    | source _ hquery' | columns _ hquery' => cases hquery.symm.trans hquery'
  | source hname hquery hsource htable =>
    cases h' with
    | source hname' _ hsource' htable' =>
      cases result_unique hname hname'
      cases hsource.symm.trans hsource'
      cases result_unique htable htable'
      exact ⟨rfl, rfl⟩
    | query _ hquery' => cases hquery.symm.trans hquery'
    | columns _ _ hsource' => cases hsource.symm.trans hsource'
  | columns hname hquery hsource hcolumns =>
    cases h' with
    | columns hname' _ _ hcolumns' =>
      cases result_unique hname hname'
      cases result_unique hcolumns hcolumns'
      exact ⟨rfl, rfl⟩
    | query _ hquery' => cases hquery.symm.trans hquery'
    | source _ _ hsource' => cases hsource.symm.trans hsource'

/-- The statement for a table names one place. -/
theorem Places.unique (h : Places settings t sql place) (h' : Places settings t sql place') :
    place = place' := by
  obtain ⟨before, options, behind, toks, hframed, hsql, hclosed, hread⟩ := h
  obtain ⟨before', options', behind', toks', hframed', hsql', hclosed', hread'⟩ := h'
  obtain ⟨rfl, rfl⟩ := hframed.unique hframed'
  obtain rfl : options = options' := by
    have hchars := congrArg String.toList (hsql.symm.trans hsql')
    simp only [String.toList_append, List.append_assoc, List.append_cancel_left_eq,
      List.append_cancel_right_eq] at hchars
    exact String.toList_inj.mp hchars
  have htoks := hclosed.reads.tokens_eq.symm.trans hclosed'.reads.tokens_eq
  cases htoks
  exact Option.some.inj (hread.symm.trans hread')

theorem isStem_iff {stem root : String} :
    IsStem stem root ↔ stem = withoutTrailingSlashes root := by
  have hkept : (withoutTrailingSlashes root).toList = root.toList.rdropWhile (· == '/') :=
    String.toList_ofList
  rw [← String.toList_inj, hkept]
  constructor
  · rintro ⟨hlast, slashes, rfl, hslashes⟩
    have hback : ∀ c ∈ slashes.toList.reverse, (c == '/') = true :=
      fun c hc => List.all_eq_true.mp hslashes c (List.mem_reverse.mp hc)
    have hstem : stem.toList.rdropWhile (· == '/') = stem.toList := by
      refine List.rdropWhile_eq_self_iff.mpr fun hne hslash => hlast ?_
      rw [List.getLast?_eq_some_getLast hne, beq_iff_eq.mp hslash]
    rw [String.toList_append, List.rdropWhile, List.reverse_append,
      List.dropWhile_append_of_pos hback, ← List.rdropWhile, hstem]
  · intro hstem
    refine ⟨fun hlast => ?_, String.ofList (root.toList.rtakeWhile (· == '/')), ?_, ?_⟩
    · rw [hstem] at hlast
      obtain ⟨hne, hslash⟩ := List.mem_getLast?_eq_getLast hlast
      have hother := List.rdropWhile_last_not (· == '/') root.toList hne
      rw [← hslash] at hother
      exact hother rfl
    · apply String.toList_inj.mp
      rw [String.toList_append, hstem, String.toList_ofList, List.rdropWhile_append_rtakeWhile]
    · rw [String.toList_ofList, List.all_eq_true]
      intro c hc
      have hslash := List.mem_rtakeWhile_imp hc
      exact hslash

end

theorem run_keeps_location (made : CreateTable) (setters : List CreateTable.Setter) :
    (CreateTable.lifecycle.run made setters).target = made.target ∧
      (CreateTable.lifecycle.run made setters).location = made.location := by
  refine Lifecycle.run_keeps (l := CreateTable.lifecycle)
    (P := fun t => t.target = made.target ∧ t.location = made.location) ?_ setters ⟨rfl, rfl⟩
  intro t setter t' ht h
  cases setter with
  | partitions partitions =>
    obtain ⟨-, rfl⟩ := CreateTable.withPartitions_eq_ok_iff.mp h
    exact ht
  | fileFormat | distribution | property | recreate =>
    cases h
    exact ht

/-- A table without a place of its own is placed in its folder below the configured one exactly if
no query fills it. If a query does, the configured folder is not looked at. -/
theorem placed_below_prefix_iff {target : Target} {d : TableDefinition} {made : CreateTable}
    {settings : Settings} {root stem sql : String} (hmade : CreateTable.create target d = .ok made)
    (hplace : d.location = none) (setters : List CreateTable.Setter)
    (hroot : settings.synapse.locationPrefix = some root) (hne : root ≠ "")
    (hstem : IsStem stem root) (h : (renderer settings).render
      (.createTable (CreateTable.lifecycle.run made setters)) = .ok sql) :
    ∃ place, Places settings (CreateTable.lifecycle.run made setters) sql place ∧
      (place = stem ++ "/" ++ target.schema ++ "/" ++ target.object ++ "/" ↔
        d.selectQuery = none) ∧
      (d.selectQuery ≠ none → place = target.schema ++ "/" ++ target.object) := by
  obtain ⟨htarget, hlocation⟩ := run_keeps_location made setters
  obtain ⟨-, rfl⟩ := CreateTable.create_eq_ok_iff.mp hmade
  obtain rfl := isStem_iff.mp hstem
  refine ⟨_, places_location h, ?_⟩
  rw [location, htarget, hlocation]
  dsimp only
  cases hquery : d.selectQuery with
  | none =>
    have hdefault : CreateTable.defaultLocation target d = none := by
      simp [CreateTable.defaultLocation, hplace, hquery]
    have hbelow : generatedLocation settings target = withoutTrailingSlashes root ++ "/" ++
        target.schema ++ "/" ++ target.object ++ "/" := by
      have hfilled : root.isEmpty = false := by simpa using hne
      simp only [generatedLocation, hroot, hfilled, Bool.false_eq_true, if_false,
        String.append_assoc]
    rw [hdefault, Option.getD_none, hbelow]
    exact ⟨iff_of_true rfl rfl, fun h => absurd rfl h⟩
  | some query =>
    have hdefault : CreateTable.defaultLocation target d =
        some (target.schema ++ "/" ++ target.object) := by
      simp [CreateTable.defaultLocation, hplace, hquery]
    rw [hdefault, Option.getD_some]
    refine ⟨iff_of_false (fun h => ?_) nofun, fun _ => rfl⟩
    have hlength := congrArg String.length h
    simp only [String.length_append] at hlength
    have hslash : "/".length = 1 := rfl
    omega

/-- A copy of another table, placed below a folder that is configured with slashes at its end. -/
theorem copied_table_below_prefix :
    let settings : Settings :=
      { Settings.standard with
        synapse := { Settings.standard.synapse with locationPrefix := some "abfss://lake//" } }
    let target : Target := ⟨"silver", "orders", none, none, none⟩
    let t : CreateTable :=
      ⟨target, [], none, some "bronze.orders", none, default, [], none, .empty, false⟩
    let sql := "CREATE EXTERNAL TABLE [silver].[orders]\nWITH (\n" ++
      "    DATA_SOURCE = processed_data_source,\n    LOCATION = 'abfss://lake/silver/orders/',\n" ++
      "    FILE_FORMAT = parquet_file_format\n)\nAS SELECT * FROM [bronze].[orders]"
    CreateTable.lifecycle.Reached t ∧ (renderer settings).render (.createTable t) = .ok sql ∧
      Places settings t sql "abfss://lake/silver/orders/" := by
  intro settings target t sql
  have htarget : target.Reached := Lifecycle.reached_of_made ⟨"silver", "orders", rfl⟩
  let d : TableDefinition := .ofSourceTable "bronze.orders"
  let made : CreateTable := { t with recreate := true }
  have hmade : CreateTable.create target d = .ok made := by decide +kernel
  have ht : CreateTable.lifecycle.run made [.recreate false] = t := rfl
  have hstem : IsStem "abfss://lake" "abfss://lake//" :=
    ⟨by decide, "//", by decide, by decide⟩
  have hsql : (renderer settings).render (.createTable t) = .ok sql := by decide +kernel
  obtain ⟨place, hplaces, hbelow, -⟩ :=
    placed_below_prefix_iff hmade rfl [.recreate false] rfl (by decide) hstem (ht ▸ hsql)
  have hplace : place = "abfss://lake/silver/orders/" :=
    (hbelow.mpr rfl).trans (by decide +kernel)
  exact ⟨⟨made, _, ⟨target, d, htarget, List.forall_mem_nil _, hmade⟩, ht⟩, hsql, hplace ▸ hplaces⟩

/-- A table that a query fills, which is placed outside the configured folder. -/
theorem filled_table_outside_prefix :
    let settings : Settings :=
      { Settings.standard with
        synapse := { Settings.standard.synapse with locationPrefix := some "abfss://lake" } }
    let target : Target := ⟨"silver", "orders", none, none, none⟩
    let t : CreateTable := ⟨target, [], some "SELECT 1 AS id", none, some "silver/orders", default,
      [], none, .empty, true⟩
    let sql := "IF EXISTS (SELECT * FROM sys.external_tables " ++
      "WHERE object_id = OBJECT_ID('[silver].[orders]'))\n" ++
      "    DROP EXTERNAL TABLE [silver].[orders];\nCREATE EXTERNAL TABLE [silver].[orders]\n" ++
      "WITH (\n    DATA_SOURCE = processed_data_source,\n    LOCATION = 'silver/orders',\n" ++
      "    FILE_FORMAT = parquet_file_format\n)\nAS SELECT 1 AS id"
    target.Reached ∧ CreateTable.asSelect target "SELECT 1 AS id" = .ok t ∧
      (renderer settings).render (.createTable t) = .ok sql ∧
      IsStem "abfss://lake" "abfss://lake" ∧ Places settings t sql "silver/orders" ∧
      ¬Places settings t sql "abfss://lake/silver/orders/" := by
  intro settings target t sql
  have htarget : target.Reached := Lifecycle.reached_of_made ⟨"silver", "orders", rfl⟩
  have hmade : CreateTable.asSelect target "SELECT 1 AS id" = .ok t := by decide +kernel
  have hsql : (renderer settings).render (.createTable t) = .ok sql := by decide +kernel
  have hplaces : Places settings t sql "silver/orders" := places_location hsql
  have hother : ¬Places settings t sql "abfss://lake/silver/orders/" := by
    intro h
    exact absurd (h.unique hplaces) (by decide)
  exact ⟨htarget, hmade, hsql, ⟨by decide, "", by decide, by decide⟩, hplaces, hother⟩

end LakehouseSql.Synapse
