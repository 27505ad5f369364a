import Mathlib.Data.List.Perm.Subperm
import LakehouseSql.Proofs.Validation
import LakehouseSql.Statement
/-! # When statements are made

For each constructor and each setter that can fail, the exact condition under which it succeeds and
the value that it then gives. Conditions on several fields at once are predicates of their own.
-/
namespace LakehouseSql
open Identifier (Conforms)

theorem Target.create_eq_ok_iff {schema object : String} {t : Target} :
    Target.create schema object = .ok t ↔
      Conforms .object schema ∧ Conforms .object object ∧
        ⟨schema, object, none, none, none⟩ = t := by
  simp [Target.create]

namespace ColumnDefinition

/-- A computed column has no default value. -/
def Exclusive (c : ColumnDefinition) : Prop :=
  c.computedExpression = none ∨ c.defaultValue = none

@[simp] theorem validate_eq_ok_iff {c : ColumnDefinition} {u : Unit} :
    c.validate = .ok u ↔ c.Exclusive := by
  unfold validate Exclusive
  cases c.computedExpression <;> cases c.defaultValue <;> simp

variable {c d : ColumnDefinition}

theorem create_eq_ok_iff {name dataType : String} :
    create name dataType = .ok c ↔ Conforms .column name ∧ Text.isBlankText dataType = false ∧
      ⟨name, dataType, true, none, false, false, none, none, none⟩ = c := by
  simp [create]

theorem withCollation_eq_ok_iff {collation : String} :
    c.withCollation collation = .ok d ↔
      Conforms .object collation ∧ { c with collation := some collation } = d := by
  simp [withCollation]

theorem withDefaultValue_eq_ok_iff {value : SqlValue} :
    c.withDefaultValue value = .ok d ↔
      c.computedExpression = none ∧ { c with defaultValue := some value } = d := by
  simp [withDefaultValue, Exclusive]

theorem withComputedExpression_eq_ok_iff {expression : String} :
    c.withComputedExpression expression = .ok d ↔
      (Text.isBlankText expression = false ∧ c.defaultValue = none) ∧
        { c with computedExpression := some expression } = d := by
  simp [withComputedExpression, Exclusive, and_assoc]

end ColumnDefinition

/-- The definition says something, and no text of it is blank. -/
structure TableDefinition.Sound (d : TableDefinition) : Prop where
  given : d.columns ≠ [] ∨ d.selectQuery.isSome ∨ d.sourceTable.isSome ∨ d.location.isSome
  columns : ∀ c ∈ d.columns, c.Exclusive
  selectQuery : ∀ t ∈ d.selectQuery, Text.isBlankText t = false
  sourceTable : ∀ t ∈ d.sourceTable, Text.isBlankText t = false
  parts : ∀ t ∈ d.sourceTable, ∀ part ∈ CreateTable.dottedParts t, Conforms .object part
  location : ∀ t ∈ d.location, Text.isBlankText t = false

namespace CreateTable

private theorem checkParts_eq_ok_iff {parts : List String} {u : Unit} :
    checkParts parts = .ok u ↔ ∀ part ∈ parts, Conforms .object part := by
  induction parts with
  | nil => simp [checkParts]
  | cons part parts ih => simp [checkParts, ih]

private theorem checkColumns_eq_ok_iff {columns : List ColumnDefinition} {u : Unit} :
    checkColumns columns = .ok u ↔ ∀ c ∈ columns, c.Exclusive := by
  induction columns with
  | nil => simp [checkColumns]
  | cons column columns ih => simp [checkColumns, ih]

private theorem isEmpty_eq_false_iff {d : TableDefinition} :
    d.isEmpty = false ↔
      d.columns ≠ [] ∨ d.selectQuery.isSome ∨ d.sourceTable.isSome ∨ d.location.isSome := by
  simp only [TableDefinition.isEmpty, Bool.and_eq_false_iff, List.isEmpty_eq_false_iff,
    Option.isNone_eq_false_iff, or_assoc]

theorem create_eq_ok_iff {target : Target} {d : TableDefinition} {t : CreateTable} :
    create target d = .ok t ↔ d.Sound ∧
      ⟨target, d.columns, d.selectQuery, d.sourceTable, defaultLocation target d, default, [], none,
        .empty, true⟩ = t := by
  have hparts : (∀ part ∈ d.sourceTable.elim [] dottedParts, Conforms .object part) ↔
      ∀ t ∈ d.sourceTable, ∀ part ∈ dottedParts t, Conforms .object part := by
    cases d.sourceTable <;> simp
  simp only [create, guard_eq_ok_iff, Bool.not_eq_true, isEmpty_eq_false_iff, bind_eq_ok_iff,
    checkColumns_eq_ok_iff, Checked.notBlankIfGiven_eq_ok_iff, checkParts_eq_ok_iff, hparts,
    pure_eq_ok_iff, exists_const]
  constructor
  · intro h
    obtain ⟨hg, hc, hq, hs, hp, hl, rfl⟩ := h
    exact ⟨⟨hg, hc, hq, hs, hp, hl⟩, rfl⟩
  · intro h
    obtain ⟨⟨hg, hc, hq, hs, hp, hl⟩, rfl⟩ := h
    exact ⟨hg, hc, hq, hs, hp, hl, rfl⟩

theorem withPartitions_eq_ok_iff {t r : CreateTable} {partitions : List String} :
    t.withPartitions partitions = .ok r ↔
      (∀ c ∈ partitions, Conforms .column c) ∧ { t with partitions } = r := by
  simp [withPartitions]

end CreateTable

theorem CreateSchema.withAuthorization_eq_ok_iff {s r : CreateSchema} {owner : String} :
    s.withAuthorization owner = .ok r ↔
      Conforms .object owner ∧ { s with authorization := some owner } = r := by
  simp [withAuthorization]

namespace DropSchema

variable {s r : DropSchema}

theorem withCascade_eq_ok_iff {cascade : Bool} :
    s.withCascade cascade = .ok r ↔ ¬(cascade ∧ s.restrict) ∧ { s with cascade } = r := by
  simp [withCascade, validate]

theorem withRestrict_eq_ok_iff {restrict : Bool} :
    s.withRestrict restrict = .ok r ↔ ¬(s.cascade ∧ restrict) ∧ { s with restrict } = r := by
  simp [withRestrict, validate]

end DropSchema

namespace Select

variable {s r : Select}

theorem withColumns_eq_ok_iff {columns : List String} :
    s.withColumns columns = .ok r ↔
      (∀ c ∈ columns, Conforms .column c) ∧ { s with columns } = r := by
  simp [withColumns]

theorem withGroupBy_eq_ok_iff {columns : List String} :
    s.withGroupBy columns = .ok r ↔
      (∀ c ∈ columns, Conforms .column c) ∧ { s with groupBy := columns } = r := by
  simp [withGroupBy]

theorem withHaving_eq_ok_iff {condition : String} :
    s.withHaving condition = .ok r ↔
      s.groupBy ≠ [] ∧ { s with having := some condition } = r := by
  simp [withHaving]

theorem withLimit_eq_ok_iff {limit : UInt64} :
    s.withLimit limit = .ok r ↔ limit ≠ 0 ∧ { s with limit := some limit } = r := by
  simp [withLimit]

end Select

/-- The query is not blank, or there are rows and all have the columns of the first. -/
def InsertSource.Sound : InsertSource → Prop
  | .query sql => Text.isBlankText sql = false
  | .rows rs => ∃ first ∈ rs.head?, (∀ key ∈ first.keys, Conforms .column key) ∧
      ∀ row ∈ rs, ∀ key, key ∈ row.keys ↔ key ∈ first.keys

theorem InsertSource.Sound.rows_ne_nil {rows : List (Dictionary SqlValue)}
    (h : (InsertSource.rows rows).Sound) : rows ≠ [] := by
  rintro rfl
  obtain ⟨first, hfirst, -⟩ := h
  cases hfirst

namespace Insert

private theorem contains_iff_mem_keys {α : Type} {d : Dictionary α} {key : String} :
    d.contains key ↔ key ∈ d.keys := by
  simp only [Dictionary.contains, Dictionary.get?, Dictionary.keys]
  induction d.entries with
  | nil => simp
  | cons entry entries ih =>
    by_cases hk : key = entry.1 <;> simp [hk]

private theorem sameColumns_iff {first row : Dictionary SqlValue} :
    sameColumns first row ↔ ∀ key, key ∈ row.keys ↔ key ∈ first.keys := by
  have hlen (d : Dictionary SqlValue) : d.size = d.keys.length := by
    simp [Dictionary.size, Dictionary.keys]
  simp only [sameColumns, Bool.and_eq_true, beq_iff_eq, List.all_eq_true, contains_iff_mem_keys,
    hlen]
  constructor
  · rintro ⟨hl, hsub⟩ key
    -- as many distinct keys, and all of the first row among them
    have hperm := (first.distinct.subperm hsub).perm_of_length_le (Nat.le_of_eq hl)
    exact hperm.symm.mem_iff
  · intro h
    have hperm := (List.perm_ext_iff_of_nodup row.distinct first.distinct).mpr h
    exact ⟨hperm.length_eq, fun key hk => (h key).mpr hk⟩

variable {i j : Insert}

private theorem checkSource_eq_ok_iff {source : InsertSource} {u : Unit} :
    checkSource source = .ok u ↔ source.Sound := by
  match source with
  | .query sql => simp [checkSource, InsertSource.Sound]
  | .rows [] => simp [checkSource, InsertSource.Sound]
  | .rows (first :: rows) =>
    simp [checkSource, InsertSource.Sound, sameColumns_iff, -List.all_cons]

theorem create_eq_ok_iff {target : Target} {source : InsertSource} :
    create target source = .ok i ↔ source.Sound ∧ ⟨target, source, [], default⟩ = i := by
  simp [create, checkSource_eq_ok_iff]

/-- The columns are all columns of the rows. -/
def OfSource (columns : List String) : InsertSource → Prop
  | .query _ => True
  | .rows rows => ∀ first ∈ rows.head?, ∀ c ∈ columns, c ∈ first.keys

private theorem absentColumn?_eq_none_iff {columns : List String} {source : InsertSource} :
    absentColumn? columns source = none ↔ OfSource columns source := by
  match source with
  | .query sql => simp [absentColumn?, OfSource]
  | .rows [] => simp [absentColumn?, OfSource]
  | .rows (first :: rows) => simp [absentColumn?, OfSource, contains_iff_mem_keys]

theorem withColumns_eq_ok_iff {columns : List String} :
    i.withColumns columns = .ok j ↔
      ((∀ c ∈ columns, Conforms .column c) ∧ OfSource columns i.source) ∧
        { i with columns } = j := by
  rw [← absentColumn?_eq_none_iff]
  simp only [withColumns, bind_eq_ok_iff, Checked.columns_eq_ok_iff, exists_const, and_assoc]
  refine and_congr_right fun _ => ?_
  split <;> simp [*]

end Insert

namespace Dictionary

/-- The entries are assignments to columns, at least one. -/
def Assigns (d : Dictionary SqlValue) : Prop :=
  d.keys ≠ [] ∧ ∀ key ∈ d.keys, Conforms .column key

theorem isEmpty_eq_false_iff {α : Type} {d : Dictionary α} : d.isEmpty = false ↔ d.keys ≠ [] := by
  simp [isEmpty, keys]

end Dictionary

theorem Update.create_eq_ok_iff {target : Target} {assignments : Dictionary SqlValue}
    {s : Update} :
    Update.create target assignments = .ok s ↔
      assignments.Assigns ∧ ⟨target, assignments, none, none⟩ = s := by
  simp [Update.create, Dictionary.Assigns, Dictionary.isEmpty_eq_false_iff, and_assoc]

/-- Something is asked for, nothing twice, and nothing that is empty. -/
structure MergeActions.Sound (a : MergeActions) : Prop where
  given : a.isEmpty = false
  bySource : ¬(a.bySourceUpdate.isSome ∧ a.bySourceDelete)
  matchedDelete : ∀ t ∈ a.matchedDelete, Text.isBlankText t = false
  matchedUpdate : ∀ d ∈ a.matchedUpdate, d.Assigns
  notMatchedInsert : ∀ d ∈ a.notMatchedInsert, d.Assigns
  bySourceUpdate : ∀ d ∈ a.bySourceUpdate, d.Assigns

namespace Merge

private theorem checkAssignments_eq_ok_iff {field : String}
    {assignments : Option (Dictionary SqlValue)} {u : Unit} :
    checkAssignments field assignments = .ok u ↔ ∀ d ∈ assignments, d.Assigns := by
  cases assignments with
  | none => simp [checkAssignments]
  | some d => simp [checkAssignments, Dictionary.Assigns, Dictionary.isEmpty_eq_false_iff]

private theorem checkActions_eq_ok_iff {a : MergeActions} {u : Unit} :
    checkActions a = .ok u ↔ a.Sound := by
  simp only [checkActions, guard_eq_ok_iff, Bool.not_eq_true, bind_eq_ok_iff,
    Checked.notBlankIfGiven_eq_ok_iff, checkAssignments_eq_ok_iff, exists_const, Bool.and_eq_true]
  constructor
  · intro h
    obtain ⟨hg, hb, hd, hu, hi, hs⟩ := h
    exact ⟨hg, hb, hd, hu, hi, hs⟩
  · intro h
    obtain ⟨hg, hb, hd, hu, hi, hs⟩ := h
    exact ⟨hg, hb, hd, hu, hi, hs⟩

theorem create_eq_ok_iff {target : Target} {sourceQuery condition : String}
    {actions : MergeActions} {m : Merge} :
    create target sourceQuery condition actions = .ok m ↔
      (Text.isBlankText sourceQuery = false ∧ Text.isBlankText condition = false ∧
        actions.Sound) ∧ ⟨target, sourceQuery, condition, actions⟩ = m := by
  simp [create, checkActions_eq_ok_iff, and_assoc]

end Merge

namespace CreateView

theorem create_eq_ok_iff {target : Target} {selectQuery : String} {v : CreateView} :
    create target selectQuery = .ok v ↔ Text.isBlankText selectQuery = false ∧
      ⟨target, selectQuery, [], false, false, true⟩ = v := by
  simp [create]

theorem withColumns_eq_ok_iff {v w : CreateView} {columns : List String} :
    v.withColumns columns = .ok w ↔
      (∀ c ∈ columns, Conforms .column c) ∧ { v with columns } = w := by
  simp [withColumns]

end CreateView

namespace StatisticsRequest

variable {r q : StatisticsRequest}

/-- A sample is not taken of a full scan. -/
def Exclusive (r : StatisticsRequest) : Prop :=
  r.samplePercent = none ∨ r.fullScan = false

@[simp] theorem validate_eq_ok_iff {u : Unit} : r.validate = .ok u ↔ r.Exclusive := by
  unfold validate Exclusive
  cases r.samplePercent <;> cases r.fullScan <;> simp

theorem withColumns_eq_ok_iff {columns : List String} :
    r.withColumns columns = .ok q ↔
      (∀ c ∈ columns, Conforms .column c) ∧ { r with columns } = q := by
  simp [withColumns]

theorem withSamplePercent_eq_ok_iff {percent : Binary64} :
    r.withSamplePercent percent = .ok q ↔
      (percent.isBetweenZeroAnd 100 ∧ r.fullScan = false) ∧
        { r with samplePercent := some percent } = q := by
  simp [withSamplePercent, Exclusive, and_assoc]

theorem withFullScan_eq_ok_iff {fullScan : Bool} :
    r.withFullScan fullScan = .ok q ↔
      (r.samplePercent = none ∨ fullScan = false) ∧ { r with fullScan } = q := by
  simp [withFullScan, Exclusive]

theorem withName_eq_ok_iff {name : String} :
    r.withName name = .ok q ↔ Conforms .object name ∧ { r with name := some name } = q := by
  simp [withName]

theorem resolve_eq_ok_iff {provider : Option StatsProvider} {s : CreateStatistics} :
    (r.resolve provider).result = .ok s ↔
      (r.Exclusive ∧ (r.findColumns provider).result ≠ [] ∧
        ∀ c ∈ (r.findColumns provider).result, Conforms .column c) ∧
        ⟨r.target, (r.findColumns provider).result, r.samplePercent, r.fullScan, r.name,
          r.autoDiscover⟩ = s := by
  rw [← validate_eq_ok_iff (u := ())]
  unfold resolve
  split
  · simp [*]
  · simp [*, withFoundColumns, and_assoc]

end StatisticsRequest

namespace Copy

theorem create_eq_ok_iff {target : Target} {sourcePath : String} {c : Copy} :
    create target sourcePath = .ok c ↔
      Text.isBlankText sourcePath = false ∧ ⟨target, sourcePath, default, .empty, none⟩ = c := by
  simp [create]

theorem withOption_eq_ok_iff {c d : Copy} {key : String} {value : SqlValue} :
    c.withOption key value = .ok d ↔
      Conforms .sql key ∧ { c with options := c.options.insert key value } = d := by
  simp [withOption]

end Copy

namespace RawSql

variable {r q : RawSql}

/-- A format other than the default one is for results that are returned. -/
def Coherent (r : RawSql) : Prop :=
  r.returnsResults ∨ r.resultFormat = default

@[simp] theorem validate_eq_ok_iff {u : Unit} : r.validate = .ok u ↔ r.Coherent := by
  unfold validate Coherent
  cases r.returnsResults <;> simp

theorem create_eq_ok_iff {target : Target} {sql : String} :
    create target sql = .ok r ↔
      Text.isBlankText sql = false ∧ ⟨target, sql, false, default, none⟩ = r := by
  simp [create]

theorem withReturnsResults_eq_ok_iff {returnsResults : Bool} :
    r.withReturnsResults returnsResults = .ok q ↔
      (returnsResults ∨ r.resultFormat = default) ∧ { r with returnsResults } = q := by
  simp [withReturnsResults, Coherent]

theorem withResultFormat_eq_ok_iff {resultFormat : ResultFormat} :
    r.withResultFormat resultFormat = .ok q ↔
      (r.returnsResults ∨ resultFormat = default) ∧ { r with resultFormat } = q := by
  simp [withResultFormat, Coherent]

theorem withLimit_eq_ok_iff {limit : UInt64} :
    r.withLimit limit = .ok q ↔ limit ≠ 0 ∧ { r with limit := some limit } = q := by
  simp [withLimit]

end RawSql

end LakehouseSql
