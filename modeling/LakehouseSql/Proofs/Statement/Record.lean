import LakehouseSql.Proofs.Draft.Rebuild
import LakehouseSql.Proofs.Json.Field
/-! # Statements and columns from their members

The members that are written of a statement are read as the draft of its fields. Members that were
left out have the values that they are left out for.
-/
namespace LakehouseSql
open Json

/-- What is read of a column that was written. -/
def ColumnDefinition.record (c : ColumnDefinition) : ColumnRecord :=
  ⟨some c.name, some c.dataType, c.nullable, c.defaultValue, c.primaryKey, c.unique,
    c.checkConstraint, c.collation, c.computedExpression⟩

namespace ColumnDefinition

private theorem toJson_ne_null (v : SqlValue) : v.toJson ≠ .null := by
  cases v <;> nofun

theorem distinct_members (c : ColumnDefinition) : (c.toJson.members.map (·.1)).Nodup := by
  have hnamed : NamedBy (columnMembers.map (·.1)) c.toJson.members := by
    simp only [toJson, Json.members, List.append_assoc]
    rw [← List.append_nil (Json.ifSome "computed_expression" _ _)]
    exact .cons (.cons (.cons (.ifSome (.cons (.cons
      (.ifSome (.ifSome (.ifSome (.all rfl)))))))))
  exact hnamed.nodup (by decide)

theorem columnField_toJson (c : ColumnDefinition) : columnField c.toJson = .ok c.record := by
  let named : ColumnRecord :=
    { name := some c.name, dataType := some c.dataType, nullable := c.nullable }
  let keyed : ColumnRecord :=
    { named with defaultValue := c.defaultValue, primaryKey := c.primaryKey, unique := c.unique }
  have hnamed : Folds columnMembers [("name", .string c.name), ("data_type", .string c.dataType),
      ("nullable", .bool c.nullable)] {} named :=
    .cons rfl rfl (.cons rfl rfl (.cons rfl rfl .nil))
  have hdefault : Folds columnMembers (ifSome "default_value" SqlValue.toJson c.defaultValue)
      named { named with defaultValue := c.defaultValue } := by
    refine .ifSome (fun defaultValue => { named with defaultValue }) (fun v => ?_) c.defaultValue
    have hvalue := optionalField_of_ok (sqlValueField_inverts v) (toJson_ne_null v)
    exact congrArg (Except.map fun v => { named with defaultValue := v }) hvalue
  have hkeyed : Folds columnMembers
      [("primary_key", .bool c.primaryKey), ("unique", .bool c.unique)]
      { named with defaultValue := c.defaultValue } keyed :=
    .cons rfl rfl (.cons rfl rfl .nil)
  have hcheck : Folds columnMembers (ifSome "check_constraint" .string c.checkConstraint)
      keyed { keyed with checkConstraint := c.checkConstraint } :=
    .ifSome (fun checkConstraint => { keyed with checkConstraint }) (fun _ => rfl) c.checkConstraint
  have hcollation : Folds columnMembers (ifSome "collation" .string c.collation)
      { keyed with checkConstraint := c.checkConstraint }
      { c.record with computedExpression := none } :=
    .ifSome (fun collation => { c.record with collation, computedExpression := none })
      (fun _ => rfl) c.collation
  have hcomputed : Folds columnMembers
      (ifSome "computed_expression" .string c.computedExpression)
      { c.record with computedExpression := none } c.record :=
    .ifSome (fun computedExpression => { c.record with computedExpression })
      (fun _ => rfl) c.computedExpression
  have hfolds : Folds columnMembers c.toJson.members {} c.record :=
    ((((hnamed.append hdefault).append hkeyed).append hcheck).append hcollation).append hcomputed
  have hread : recordField columnMembers {} c.toJson = .ok c.record :=
    hfolds.takeMembers_eq c.distinct_members
  rw [columnField, hread]
  rfl

theorem toDefinition_record {c : ColumnDefinition} (h : c.Consistent) :
    c.record.toDefinition = .ok c := by
  let plain : ColumnDefinition :=
    { c with defaultValue := none, collation := none, computedExpression := none }
  have hcreate : create c.name c.dataType =
      .ok ⟨c.name, c.dataType, true, none, false, false, none, none, none⟩ :=
    create_eq_ok_iff.mpr ⟨h.name, h.dataType, rfl⟩
  have hcollation : Draft.given c.collation withCollation plain =
      .ok { plain with collation := c.collation } :=
    (Draft.given_eq_ok_iff (fun collation => { plain with collation }) rfl
      fun _ => withCollation_eq_ok_iff).mpr ⟨h.collation, rfl⟩
  have hdefault : Draft.given c.defaultValue withDefaultValue
      { plain with collation := c.collation } = .ok { c with computedExpression := none } :=
    (Draft.given_eq_ok_iff (fun defaultValue => { c with defaultValue, computedExpression := none })
      rfl fun _ => withDefaultValue_eq_ok_iff).mpr ⟨fun _ _ => rfl, rfl⟩
  have hcomputed : Draft.given c.computedExpression withComputedExpression
      { c with computedExpression := none } = .ok c := by
    refine (Draft.given_eq_ok_iff (fun computedExpression => { c with computedExpression })
      rfl fun _ => withComputedExpression_eq_ok_iff).mpr ⟨fun e he => ⟨h.computed e he, ?_⟩, rfl⟩
    exact h.isExclusive.resolve_left (by rw [he]; nofun)
  unfold ColumnRecord.toDefinition
  simp only [bind_eq_ok_iff]
  exact ⟨_, hcreate, _, hcollation, _, hdefault, hcomputed⟩

end ColumnDefinition

namespace Json

private theorem allReadableWithin_of_forall {depth : Nat} {items : List Json}
    (h : ∀ item ∈ items, item.readableWithin depth) : allReadableWithin depth items = true := by
  induction items with
  | nil => rfl
  | cons item items ih =>
    simp only [allReadableWithin, Bool.and_eq_true]
    exact ⟨h item List.mem_cons_self, ih fun j hj => h j (List.mem_cons_of_mem item hj)⟩

private theorem allMembersReadableWithin_of_forall {depth : Nat} {ms : List (String × Json)}
    (h : ∀ m ∈ ms, m.2.readableWithin depth) : allMembersReadableWithin depth ms = true := by
  induction ms with
  | nil => rfl
  | cons m ms ih =>
    simp only [allMembersReadableWithin, Bool.and_eq_true]
    exact ⟨h m List.mem_cons_self, ih fun n hn => h n (List.mem_cons_of_mem m hn)⟩

private theorem strings_readable (names : List String) :
    (strings names).readableWithin columnsDepth = true := by
  apply allReadableWithin_of_forall
  intro item hitem
  obtain ⟨name, -, rfl⟩ := List.mem_map.mp hitem
  rfl

private theorem definition_readable (c : ColumnDefinition) :
    c.toJson.readableWithin 125 = true := by
  refine allMembersReadableWithin_of_forall ?_
  simp only [List.forall_mem_append]
  refine ⟨⟨⟨⟨⟨?_, forall_mem_ifSome fun v _ => ?_⟩, ?_⟩, forall_mem_ifSome fun _ _ => rfl⟩,
    forall_mem_ifSome fun _ _ => rfl⟩, forall_mem_ifSome fun _ _ => rfl⟩
  · simp [readableWithin]
  · cases v <;> rfl
  · simp [readableWithin]

theorem columnsField_strings (names : List String) :
    columnsField (strings names) = .ok (.names names) := by
  simp only [columnsField, strings_readable, strings_inverts names]
  rfl

theorem columnsField_definitions {columns : List ColumnDefinition} (hne : columns ≠ []) :
    columnsField (.array (columns.map (·.toJson))) =
      .ok (.definitions (columns.map (·.record))) := by
  have hreadable : readableWithin columnsDepth (.array (columns.map (·.toJson))) = true := by
    apply allReadableWithin_of_forall
    intro item hitem
    obtain ⟨c, -, rfl⟩ := List.mem_map.mp hitem
    exact definition_readable c
  obtain ⟨c, cs, rfl⟩ := List.exists_cons_of_ne_nil hne
  have hnames : listField stringField (.array ((c :: cs).map (·.toJson))) = .error .shape := rfl
  simp only [columnsField, hreadable, hnames, listField_map ColumnDefinition.columnField_toJson]
  rfl

end Json

namespace Statement

private theorem nodup_typed {kind : Json} (t : Target) {ms : List (String × Json)}
    (names : List String) (h : NamedBy names ms)
    (hnames : ("type" :: "schema_name" :: "object_name" :: "engine_hint" :: "logging_context" ::
      names).Nodup) :
    ((("type", kind) :: (t.members ++ ms)).map (·.1)).Nodup := by
  refine NamedBy.nodup (.cons ?_) hnames
  simp only [Target.members, List.append_assoc]
  exact .cons (.cons (.ifSome (.ifSome h)))

/-- No name comes twice among the members that are written of a statement. -/
theorem distinct_members (s : Statement) : (s.toJson.members.map (·.1)).Nodup := by
  cases s with
  | createTable t =>
    simp only [toJson, Json.members, fields, CreateTable.members, List.append_assoc]
    exact nodup_typed t.target ["columns", "select_query", "source_table", "location",
      "file_format", "partitions", "distribution", "properties", "recreate"]
      (.leftOut (.cons (.cons (.cons (.cons (.leftOut (.cons (.leftOut (.all rfl)))))))))
      (by decide)
  | dropTable t => exact nodup_typed t.target ["if_exists", "cascade"] (.all rfl) (by decide)
  | createSchema s =>
    exact nodup_typed s.target ["if_not_exists", "authorization"] (.all rfl) (by decide)
  | dropSchema s =>
    exact nodup_typed s.target ["if_exists", "cascade", "restrict"] (.all rfl) (by decide)
  | select s =>
    exact nodup_typed s.target ["columns", "distinct", "where_clause", "join_clause", "group_by",
      "having", "order_by", "limit", "offset"] (.all rfl) (by decide)
  | insert i => exact nodup_typed i.target ["source", "columns", "mode"] (.all rfl) (by decide)
  | update u =>
    exact nodup_typed u.target ["set_columns", "where_clause", "from_clause"] (.all rfl) (by decide)
  | delete d => exact nodup_typed d.target ["where_clause"] (.all rfl) (by decide)
  | merge m =>
    simp only [toJson, Json.members, fields, Merge.members, List.append_assoc]
    exact nodup_typed m.target ["source_query", "merge_condition", "when_matched_update",
      "when_matched_delete", "when_not_matched_insert", "when_not_matched_by_source_update",
      "when_not_matched_by_source_delete"] (.all rfl) (by decide)
  | createView v =>
    exact nodup_typed v.target ["select_query", "columns", "schemabinding", "materialized",
      "or_replace"] (.all rfl) (by decide)
  | dropView v => exact nodup_typed v.target ["if_exists"] (.all rfl) (by decide)
  | createStatistics s =>
    exact nodup_typed s.target ["columns", "sample_percent", "with_fullscan", "stats_name",
      "auto_discover"] (.all rfl) (by decide)
  | copy c =>
    simp only [toJson, Json.members, fields, Copy.members, List.append_assoc]
    rw [← List.append_nil (ite _ _ _)]
    exact nodup_typed c.target ["source_path", "file_format", "options"]
      (.cons (.cons (.leftOut (.all rfl)))) (by decide)
  | rawSql r =>
    exact nodup_typed r.target ["sql", "returns_results", "result_format", "limit"] (.all rfl)
      (by decide)

end Statement

namespace StatementRecord

private theorem word?_read {α : Type} [Vocabulary α] (h : Vocabulary.Faithful α)
    (change : Draft → Option α → Draft) (a : α) :
    (Member.word? change).read (word a) = .ok (some a) :=
  optionalField_word h a

private theorem folds_target (t : Target) (kind : StatementKind) :
    Folds statementMembers (("type", word kind) :: t.members) {} { draft := t.draft kind } := by
  let named : Draft := { kind, schema := t.schema, object := t.object }
  have hnamed : Folds statementMembers
      [("type", word kind), ("schema_name", .string t.schema), ("object_name", .string t.object)]
      {} { draft := named } := by
    refine .cons (by rfl) (word?_read StatementKind.faithful _ kind) ?_
    refine .cons (by rfl) (stringField_inverts t.schema) ?_
    refine .cons (by rfl) (stringField_inverts t.object) ?_
    exact .nil
  have hengine : Folds statementMembers (ifSome "engine_hint" word t.engineHint) { draft := named }
      { draft := { named with engineHint := t.engineHint } } := by
    let hinted (engineHint : Option Engine) : StatementRecord :=
      { draft := { named with engineHint } }
    refine .ifSome hinted (fun engine => ?_) t.engineHint
    have hlookup : statementMembers.lookup "engine_hint" = some _ := rfl
    exact Folds.takeMember_of_lookup hlookup (word?_read Engine.faithful _ engine)
  have hcontext : Folds statementMembers (ifSome "logging_context" .string t.loggingContext)
      { draft := { named with engineHint := t.engineHint } } { draft := t.draft kind } := by
    let hinted (loggingContext : Option String) : StatementRecord :=
      { draft := { t.draft kind with loggingContext } }
    refine .ifSome hinted (fun context => ?_) t.loggingContext
    have hlookup : statementMembers.lookup "logging_context" = some _ := rfl
    exact Folds.takeMember_of_lookup hlookup (optionalField_string context)
  exact (hnamed.append hengine).append hcontext

end StatementRecord

/-- What is read of columns that were written; the empty list is left out. -/
def ColumnDefinition.records (columns : List ColumnDefinition) : ColumnsRecord :=
  if columns.isEmpty then .names [] else .definitions (columns.map (·.record))

/-- What is read of a statement that was written. -/
def Statement.record : Statement → StatementRecord
  | createTable s =>
    { draft := { s.draft with columnDefinitions := [] }
      columns := ColumnDefinition.records s.columns }
  | select s => { draft := { s.draft with columns := [] }, columns := .names s.columns }
  | insert s =>
    { draft := { s.draft with selectQuery := none, rows := [], columns := [] }
      columns := .names s.columns
      source := some s.source }
  | merge s => { draft := { s.draft with selectQuery := none }, sourceQuery := some s.sourceQuery }
  | createView s => { draft := { s.draft with columns := [] }, columns := .names s.columns }
  | createStatistics s => { draft := { s.draft with columns := [] }, columns := .names s.columns }
  | s => { draft := s.draft }

namespace StatementRecord

private theorem folds_createTable (t : CreateTable) :
    Folds statementMembers (("type", word StatementKind.createTable) :: t.members) {}
      (Statement.createTable t).record := by
  have hcolumns : t.columns.isEmpty = false → columnsField (.array (t.columns.map (·.toJson))) =
      .ok (ColumnDefinition.records t.columns) := by
    intro h
    rw [ColumnDefinition.records, if_neg (by simp [h])]
    exact columnsField_definitions (List.isEmpty_eq_false_iff.mp h)
  simp only [CreateTable.members, List.append_assoc]
  refine (folds_target t.target .createTable).append ?_
  refine .leftOut (by rfl) hcolumns (fun h => ?_) ?_
  · rw [ColumnDefinition.records, if_pos h]
  refine .cons (by rfl) (optionalString_inverts t.selectQuery) ?_
  refine .cons (by rfl) (optionalString_inverts t.sourceTable) ?_
  refine .cons (by rfl) (optionalString_inverts t.location) ?_
  refine .cons (by rfl) (word?_read FileFormat.faithful _ t.fileFormat) ?_
  refine .leftOut (by rfl) (fun _ => strings_inverts t.partitions) (fun h => ?_) ?_
  · rw [List.isEmpty_iff.mp h]
    rfl
  refine .cons (by rfl) (optionalString_inverts t.distribution) ?_
  refine .leftOut (by rfl) (fun _ => stringField_inverts.dictionary t.properties)
    (fun h => ?_) ?_
  · rw [Dictionary.eq_empty_of_isEmpty h]
    rfl
  refine .cons (by rfl) (optionalField_bool t.recreate) ?_
  exact .nil

private theorem folds_dropTable (t : DropTable) :
    Folds statementMembers (("type", word StatementKind.dropTable) :: t.members) {}
      (Statement.dropTable t).record := by
  refine (folds_target t.target .dropTable).append ?_
  refine .cons (by rfl) (optionalField_bool t.ifExists) ?_
  refine .cons (by rfl) (optionalField_bool t.cascade) ?_
  exact .nil

private theorem folds_createSchema (s : CreateSchema) :
    Folds statementMembers (("type", word StatementKind.createSchema) :: s.members) {}
      (Statement.createSchema s).record := by
  refine (folds_target s.target .createSchema).append ?_
  refine .cons (by rfl) (optionalField_bool s.ifNotExists) ?_
  refine .cons (by rfl) (optionalString_inverts s.authorization) ?_
  exact .nil

private theorem folds_dropSchema (s : DropSchema) :
    Folds statementMembers (("type", word StatementKind.dropSchema) :: s.members) {}
      (Statement.dropSchema s).record := by
  refine (folds_target s.target .dropSchema).append ?_
  refine .cons (by rfl) (optionalField_bool s.ifExists) ?_
  refine .cons (by rfl) (optionalField_bool s.cascade) ?_
  refine .cons (by rfl) (optionalField_bool s.restrict) ?_
  exact .nil

private theorem folds_select (s : Select) :
    Folds statementMembers (("type", word StatementKind.select) :: s.members) {}
      (Statement.select s).record := by
  refine (folds_target s.target .select).append ?_
  refine .cons (by rfl) (columnsField_strings s.columns) ?_
  refine .cons (by rfl) (boolField_inverts s.distinct) ?_
  refine .cons (by rfl) (optionalString_inverts s.whereClause) ?_
  refine .cons (by rfl) (optionalString_inverts s.joinClause) ?_
  refine .cons (by rfl) (strings_inverts s.groupBy) ?_
  refine .cons (by rfl) (optionalString_inverts s.having) ?_
  refine .cons (by rfl) (strings_inverts s.orderBy) ?_
  refine .cons (by rfl) (optionalCount_inverts s.limit) ?_
  refine .cons (by rfl) (optionalCount_inverts s.offset) ?_
  exact .nil

private theorem folds_insert (i : Insert) :
    Folds statementMembers (("type", word StatementKind.insert) :: i.members) {}
      (Statement.insert i).record := by
  have hsource : optionalField insertSourceField i.source.toJson = .ok (some i.source) :=
    optionalField_of_ok (insertSourceField_inverts i.source) (by cases i.source <;> nofun)
  refine (folds_target i.target .insert).append ?_
  refine .cons (by rfl) hsource ?_
  refine .cons (by rfl) (columnsField_strings i.columns) ?_
  refine .cons (by rfl) (word?_read InsertMode.faithful _ i.mode) ?_
  exact .nil

private theorem folds_update (u : Update) :
    Folds statementMembers (("type", word StatementKind.update) :: u.members) {}
      (Statement.update u).record := by
  refine (folds_target u.target .update).append ?_
  refine .cons (by rfl) (sqlValueField_inverts.dictionary u.assignments) ?_
  refine .cons (by rfl) (optionalString_inverts u.whereClause) ?_
  refine .cons (by rfl) (optionalString_inverts u.fromClause) ?_
  exact .nil

private theorem folds_delete (d : Delete) :
    Folds statementMembers (("type", word StatementKind.delete) :: d.members) {}
      (Statement.delete d).record := by
  refine (folds_target d.target .delete).append ?_
  refine .cons (by rfl) (optionalString_inverts d.whereClause) ?_
  exact .nil

private theorem folds_merge (s : Merge) :
    Folds statementMembers (("type", word StatementKind.merge) :: s.members) {}
      (Statement.merge s).record := by
  have hassignments := sqlValueField_inverts.dictionary.optional nofun
  simp only [Merge.members, List.append_assoc]
  refine (folds_target s.target .merge).append ?_
  refine .cons (by rfl) (optionalField_string s.sourceQuery) ?_
  refine .cons (by rfl) (optionalField_string s.condition) ?_
  refine .cons (by rfl) (hassignments s.actions.matchedUpdate) ?_
  refine .cons (by rfl) (optionalString_inverts s.actions.matchedDelete) ?_
  refine .cons (by rfl) (hassignments s.actions.notMatchedInsert) ?_
  refine .cons (by rfl) (hassignments s.actions.bySourceUpdate) ?_
  refine .cons (by rfl) (boolField_inverts s.actions.bySourceDelete) ?_
  exact .nil

private theorem folds_createView (v : CreateView) :
    Folds statementMembers (("type", word StatementKind.createOrAlterView) :: v.members) {}
      (Statement.createView v).record := by
  refine (folds_target v.target .createOrAlterView).append ?_
  refine .cons (by rfl) (optionalField_string v.selectQuery) ?_
  refine .cons (by rfl) (columnsField_strings v.columns) ?_
  refine .cons (by rfl) (optionalField_bool v.schemaBinding) ?_
  refine .cons (by rfl) (optionalField_bool v.materialized) ?_
  refine .cons (by rfl) (optionalField_bool v.orReplace) ?_
  exact .nil

private theorem folds_dropView (v : DropView) :
    Folds statementMembers (("type", word StatementKind.dropView) :: v.members) {}
      (Statement.dropView v).record := by
  refine (folds_target v.target .dropView).append ?_
  refine .cons (by rfl) (optionalField_bool v.ifExists) ?_
  exact .nil

private theorem folds_createStatistics (s : CreateStatistics) :
    Folds statementMembers (("type", word StatementKind.createStatistics) :: s.members) {}
      (Statement.createStatistics s).record := by
  refine (folds_target s.target .createStatistics).append ?_
  refine .cons (by rfl) (columnsField_strings s.columns) ?_
  refine .cons (by rfl) (realField_inverts.optional nofun s.samplePercent) ?_
  refine .cons (by rfl) (optionalField_bool s.fullScan) ?_
  refine .cons (by rfl) (optionalString_inverts s.name) ?_
  refine .cons (by rfl) (optionalField_bool s.autoDiscover) ?_
  exact .nil

private theorem folds_copy (c : Copy) :
    Folds statementMembers (("type", word StatementKind.copy) :: c.members) {}
      (Statement.copy c).record := by
  rw [Copy.members, List.append_assoc, ← List.append_nil (ite _ _ _)]
  refine (folds_target c.target .copy).append ?_
  refine .cons (by rfl) (optionalField_string c.sourcePath) ?_
  refine .cons (by rfl) (word?_read FileFormat.faithful _ c.fileFormat) ?_
  refine .leftOut (by rfl) (fun _ => sqlValueField_inverts.dictionary c.options)
    (fun h => ?_) ?_
  · rw [Dictionary.eq_empty_of_isEmpty h]
    rfl
  exact .nil

private theorem folds_rawSql (s : RawSql) :
    Folds statementMembers (("type", word StatementKind.executeSql) :: s.members) {}
      (Statement.rawSql s).record := by
  refine (folds_target s.target .executeSql).append ?_
  refine .cons (by rfl) (optionalField_string s.sql) ?_
  refine .cons (by rfl) (optionalField_bool s.returnsResults) ?_
  refine .cons (by rfl) (word?_read ResultFormat.faithful _ s.resultFormat) ?_
  refine .cons (by rfl) (optionalCount_inverts s.limit) ?_
  exact .nil

theorem folds_members (s : Statement) : Folds statementMembers s.toJson.members {} s.record := by
  cases s with
  | createTable s => exact folds_createTable s
  | dropTable s => exact folds_dropTable s
  | createSchema s => exact folds_createSchema s
  | dropSchema s => exact folds_dropSchema s
  | select s => exact folds_select s
  | insert s => exact folds_insert s
  | update s => exact folds_update s
  | delete s => exact folds_delete s
  | merge s => exact folds_merge s
  | createView s => exact folds_createView s
  | dropView s => exact folds_dropView s
  | createStatistics s => exact folds_createStatistics s
  | copy s => exact folds_copy s
  | rawSql s => exact folds_rawSql s

private theorem definitions_records {columns : List ColumnDefinition}
    (h : ∀ c ∈ columns, c.Consistent) : definitions (columns.map (·.record)) = .ok columns := by
  induction columns with
  | nil => rfl
  | cons c cs ih =>
    have hc := ColumnDefinition.toDefinition_record (h c List.mem_cons_self)
    have hcs := ih fun d hd => h d (List.mem_cons_of_mem c hd)
    rw [List.map_cons, definitions, hc, hcs]
    rfl

private theorem withColumns_record {t : CreateTable} (h : ∀ c ∈ t.columns, c.Consistent) :
    (Statement.createTable t).record.withColumns = .ok t.draft := by
  obtain ⟨target, columns, _⟩ := t
  cases columns with
  | nil => rfl
  | cons c cs => exact bind_eq_ok_iff.mpr ⟨c :: cs, definitions_records h, rfl⟩

/-- A record of what was written gives the draft of the statement. -/
theorem toDraft_record {s : Statement} (h : ∀ c ∈ s.draft.columnDefinitions, c.Consistent) :
    s.record.toDraft = .ok s.draft := by
  cases s with
  | createTable t =>
    have hquery : (Statement.createTable t).record.query = t.selectQuery := Option.or_none
    refine bind_eq_ok_iff.mpr ⟨t.draft, mapError_eq_ok_iff.mpr (withColumns_record h), ?_⟩
    rw [hquery]
    rfl
  | insert i =>
    obtain ⟨target, source, columns, mode⟩ := i
    cases source <;> rfl
  | _ => rfl

end StatementRecord

end LakehouseSql
