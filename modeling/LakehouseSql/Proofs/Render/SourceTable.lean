import LakehouseSql.Proofs.Render.Fragment.Common
import LakehouseSql.Proofs.Render.Renderability
/-! # Tables that other tables are filled from

The source of a table is named by parts with dots between them. When the table is made, each part
is checked; when its source is written, only the first dot parts a schema from an object. A source
of more than two parts is therefore accepted and cannot be written. The full name of a target has
two parts, because there is no dot in an identifier, and is written as the target is.
-/
namespace LakehouseSql.Render
open CreateTable (dottedParts)
open Identifier (Conforms)

/-- The name is made of ASCII letters, digits and underscores. -/
def IsPlainName (name : String) : Prop :=
  name.toList.all (fun c => c.isAlphanum || c == '_') = true

/-- The parts of a name, each in brackets. -/
def bracketed (parts : List String) : String :=
  String.intercalate "." (parts.map fun part => "[" ++ part ++ "]")

/-- The statement ends in a query for all rows of the table that the parts name. -/
def FilledFrom (sql : String) (parts : List String) : Prop :=
  ∃ front, sql = front ++ "\nAS SELECT * FROM " ++ bracketed parts

section
variable {name before after : String}

private theorem toList_dotted :
    (before ++ "." ++ after).toList = before.toList ++ '.' :: after.toList := by
  simp

theorem splitAtDot_append (h : '.' ∉ before.toList) :
    splitAtDot (before ++ "." ++ after) = some (before, after) := by
  have hbefore : ∀ c ∈ before.toList, (c != '.') = true :=
    fun c hc => bne_iff_ne.mpr (ne_of_mem_of_not_mem hc h)
  rw [splitAtDot, toList_dotted, List.span_eq_takeWhile_dropWhile,
    List.takeWhile_append_of_pos hbefore, List.dropWhile_append_of_pos hbefore]
  simp

theorem splitAtDot_eq_none (h : '.' ∉ name.toList) : splitAtDot name = none := by
  have hname : ∀ c ∈ name.toList, (c != '.') = true :=
    fun c hc => bne_iff_ne.mpr (ne_of_mem_of_not_mem hc h)
  rw [splitAtDot, List.span_eq_takeWhile_dropWhile, List.dropWhile_eq_nil_iff.mpr hname]

theorem dottedParts_append (h : '.' ∉ before.toList) :
    dottedParts (before ++ "." ++ after) = before :: dottedParts after := by
  simp [dottedParts, List.splitOn_append_cons_self_of_not_mem h]

theorem dottedParts_eq_singleton (h : '.' ∉ name.toList) : dottedParts name = [name] := by
  simp [dottedParts, List.splitOn_eq_singleton h]

theorem dottedParts_ne_nil (name : String) : dottedParts name ≠ [] := by
  simp [dottedParts, List.splitOn_ne_nil]

theorem exists_first_part (h : '.' ∈ name.toList) :
    ∃ before after, '.' ∉ before.toList ∧ name = before ++ "." ++ after := by
  obtain ⟨before, after, hname, hbefore⟩ := List.eq_append_cons_of_mem h
  refine ⟨.ofList before, .ofList after, by simpa using hbefore, ?_⟩
  apply String.toList_inj.mp
  rw [toList_dotted, hname, String.toList_ofList, String.toList_ofList]

theorem dot_not_mem_of_conforms {rule : Identifier.Rule} (h : Conforms rule name) :
    '.' ∉ name.toList :=
  h.not_mem (by cases rule <;> rfl)

theorem conforms_of_isPlainName (hname : IsPlainName name) (h : Conforms .object name) :
    Conforms .sql name := by
  obtain ⟨first, rest, hchars, hfirst, -⟩ := h.shape
  rw [IsPlainName, hchars, List.all_cons, Bool.and_eq_true] at hname
  have hcolumn : Conforms .column name :=
    ⟨⟨first, rest, hchars, hfirst, List.all_eq_true.mp hname.2⟩, h.short, nofun⟩
  exact hcolumn.sql_of_column

end

section
variable {p : Platform} {source table : String}

/-- Without a prefix a source can be written exactly if it has one part or two. -/
theorem writableDotted_iff (hparts : ∀ part ∈ dottedParts source, Conforms .sql part) :
    WritableDotted (.forPlatform p) source ↔ (dottedParts source).length ≤ 2 := by
  by_cases hdot : '.' ∈ source.toList
  · obtain ⟨schema, object, hschema, rfl⟩ := exists_first_part hdot
    have hfirst : dottedParts (schema ++ "." ++ object) = schema :: dottedParts object :=
      dottedParts_append hschema
    rw [hfirst] at hparts ⊢
    obtain ⟨hschema', hobject'⟩ := List.forall_mem_cons.mp hparts
    simp only [WritableDotted, splitAtDot_append hschema]
    by_cases hmore : '.' ∈ object.toList
    · obtain ⟨before, after, hbefore, rfl⟩ := exists_first_part hmore
      have hrest := List.length_pos_iff.mpr (dottedParts_ne_nil after)
      refine iff_of_false (fun h => dot_not_mem_of_conforms h.2 hmore) ?_
      rw [dottedParts_append hbefore]
      simp only [List.length_cons]
      omega
    · rw [dottedParts_eq_singleton hmore] at hobject' ⊢
      exact iff_of_true ⟨hschema', hobject' _ List.mem_cons_self⟩ (by simp)
  · rw [dottedParts_eq_singleton hdot] at hparts ⊢
    simp only [WritableDotted, splitAtDot_eq_none hdot]
    exact iff_of_true (hparts _ List.mem_cons_self) (by simp)

/-- Without a prefix a source is written with each of its parts in brackets. -/
theorem eq_bracketed_of_qualifyDotted (h : qualifyDotted (.forPlatform p) source = .ok table) :
    table = bracketed (dottedParts source) := by
  by_cases hdot : '.' ∈ source.toList
  · obtain ⟨schema, object, hschema, rfl⟩ := exists_first_part hdot
    rw [qualifyDotted, splitAtDot_append hschema] at h
    obtain ⟨⟨-, hobject⟩, rfl⟩ := qualifiedName_eq_ok_iff.mp h
    have hphysical : (Settings.forPlatform p).physicalName schema object = object := rfl
    rw [hphysical] at hobject ⊢
    rw [dottedParts_append hschema, dottedParts_eq_singleton (dot_not_mem_of_conforms hobject)]
    simp [bracketed, String.intercalate_cons_cons, String.append_assoc]
  · rw [qualifyDotted, splitAtDot_eq_none hdot] at h
    obtain ⟨-, rfl⟩ := quoteName_eq_ok_iff.mp h
    rw [dottedParts_eq_singleton hdot]
    simp [bracketed]

end

section
variable {settings : Settings} {t : CreateTable} {source sql : String}

theorem fabric_source_last (hquery : t.selectQuery = none) (hsource : t.sourceTable = some source)
    (h : Fabric.createTable settings t = .ok sql) :
    ∃ front table, qualifyDotted settings source = .ok table ∧
      sql = front ++ "\nAS SELECT * FROM " ++ table := by
  simp only [Fabric.createTable, Fabric.contentText, hquery, hsource, bind_eq_ok_iff,
    pure_eq_ok_iff, named_eq_ok_iff] at h
  obtain ⟨name, -, columns, -, partitions, -, _, ⟨table, htable, rfl⟩, rfl⟩ := h
  exact ⟨_, table, htable, (String.append_assoc ..).symm⟩

theorem synapse_source_last (hquery : t.selectQuery = none) (hsource : t.sourceTable = some source)
    (h : Synapse.createTable settings t = .ok sql) :
    ∃ front table, qualifyDotted settings source = .ok table ∧
      sql = front ++ "\nAS SELECT * FROM " ++ table := by
  simp only [Synapse.createTable, Synapse.createBody, hquery, hsource, bind_eq_ok_iff,
    pure_eq_ok_iff, named_eq_ok_iff] at h
  obtain ⟨name, -, format, -, _, ⟨options, -, table, htable, rfl⟩, rfl⟩ := h
  let create := "CREATE EXTERNAL TABLE " ++ name ++ "\n" ++ options
  cases t.recreate with
  | false => exact ⟨create, table, htable, rfl⟩
  | true =>
    refine ⟨Synapse.dropIfExists name ++ ";\n" ++ create, table, htable, ?_⟩
    simp only [create, if_true, String.append_assoc]

end

section
variable {p : Platform} {r : Renderer} {t : CreateTable} {source : String}

/-- Under the standard settings only the source of a table can make its rendering fail. -/
theorem source_succeeds_iff
    (hr : r = Fabric.renderer (.forPlatform p) ∨ r = Synapse.renderer (.forPlatform p))
    (ht : t.Consistent) (hquery : t.selectQuery = none) (hsource : t.sourceTable = some source)
    (hformat : t.fileFormat = .parquet ∨ t.fileFormat = .csv)
    (htarget : WritableTarget (.forPlatform p) t.target) :
    Succeeds (r.render (.createTable t)) ↔ WritableDotted (.forPlatform p) source := by
  rcases hr with rfl | rfl
  · refine (Fabric.createTable_succeeds_iff ht).trans ?_
    simp [htarget, hquery, hsource]
  · have hvalid (name : String) (h : Identifier.validate .sql "" name = .ok ()) :
        Conforms .sql name := (Identifier.validate_eq_ok_iff .sql "" name).mp h
    have hparquet := hvalid "parquet_file_format" (by rfl)
    have hcsv := hvalid "csv_file_format" (by rfl)
    have hwritable : Synapse.WritableFormat (.forPlatform p) t.fileFormat :=
      hformat.imp (⟨·, hparquet⟩) (⟨·, hcsv⟩)
    have hplace : Conforms .sql (Settings.forPlatform p).synapse.processedExternalDataSource :=
      hvalid "processed_data_source" (by rfl)
    refine (Synapse.createTable_succeeds_iff ht).trans ?_
    simp [htarget, hwritable, hplace, Synapse.Filled, hquery, hsource]

/-- Under the standard settings a table whose names are plain is filled from its source exactly if
the source has one part or two; the statement then ends in the parts, each in brackets. -/
theorem source_rendered_iff_at_most_two_parts
    (hr : r = Fabric.renderer (.forPlatform p) ∨ r = Synapse.renderer (.forPlatform p))
    (ht : CreateTable.lifecycle.Reached t) (hquery : t.selectQuery = none)
    (hsource : t.sourceTable = some source)
    (hformat : t.fileFormat = .parquet ∨ t.fileFormat = .csv)
    (hnames : ∀ name ∈ t.target.schema :: t.target.object :: dottedParts source,
      IsPlainName name) :
    ((∃ sql, r.render (.createTable t) = .ok sql) ↔ (dottedParts source).length ≤ 2) ∧
      ∀ sql, r.render (.createTable t) = .ok sql → FilledFrom sql (dottedParts source) := by
  have hconsistent := CreateTable.reached_consistent ht
  obtain ⟨hschema, hobject, hplain⟩ := by
    simpa only [List.forall_mem_cons] using hnames
  have htarget : WritableTarget (.forPlatform p) t.target :=
    ⟨conforms_of_isPlainName hschema hconsistent.target.schema,
      conforms_of_isPlainName hobject hconsistent.target.object⟩
  have hparts : ∀ part ∈ dottedParts source, Conforms .sql part := fun part hpart =>
    conforms_of_isPlainName (hplain part hpart) (hconsistent.parts source hsource part hpart)
  refine ⟨?_, fun sql hsql => ?_⟩
  · exact (source_succeeds_iff hr hconsistent hquery hsource hformat htarget).trans
      (writableDotted_iff hparts)
  · obtain ⟨front, table, htable, rfl⟩ : ∃ front table,
        qualifyDotted (.forPlatform p) source = .ok table ∧
          sql = front ++ "\nAS SELECT * FROM " ++ table := by
      rcases hr with rfl | rfl
      · exact fabric_source_last hquery hsource hsql
      · exact synapse_source_last hquery hsource hsql
    exact ⟨front, by rw [eq_bracketed_of_qualifyDotted htable]⟩

/-- A copy of a table of another schema. -/
theorem two_part_source_rendered :
    let target : Target := ⟨"silver", "orders", none, none, none⟩
    let t : CreateTable :=
      ⟨target, [], none, some "bronze.orders_2024", none, default, [], none, .empty, true⟩
    CreateTable.lifecycle.Reached t ∧
      (∀ name ∈ ["silver", "orders", "bronze", "orders_2024"], IsPlainName name) ∧
      ∃ sql, (Synapse.renderer .standard).render (.createTable t) = .ok sql ∧
        FilledFrom sql ["bronze", "orders_2024"] := by
  intro target t
  have htarget : target.Reached := Lifecycle.reached_of_made ⟨"silver", "orders", rfl⟩
  have hmade : CreateTable.create target (.ofSourceTable "bronze.orders_2024") = .ok t := rfl
  have ht : CreateTable.lifecycle.Reached t :=
    Lifecycle.reached_of_made ⟨target, _, htarget, List.forall_mem_nil _, hmade⟩
  have hnames : ∀ name ∈ ["silver", "orders", "bronze", "orders_2024"], IsPlainName name := by
    simp [IsPlainName]
  obtain ⟨hrendered, hfilled⟩ := source_rendered_iff_at_most_two_parts (p := .synapse)
    (.inr rfl) ht rfl rfl (.inl rfl) hnames
  obtain ⟨sql, hsql⟩ := hrendered.mpr (by decide)
  exact ⟨ht, hnames, sql, hsql, hfilled sql hsql⟩

/-- A table of another database is accepted as a source, and neither platform renders it. -/
theorem three_part_source_not_rendered :
    let target : Target := ⟨"gold", "orders", none, none, none⟩
    let t : CreateTable :=
      ⟨target, [], none, some "lake.silver.orders", none, default, [], none, .empty, true⟩
    let e : RenderError := .identifier (.invalidCharacter "object" "silver.orders" '.')
    target.Reached ∧ CreateTable.create target (.ofSourceTable "lake.silver.orders") = .ok t ∧
      (∀ name ∈ "gold" :: "orders" :: dottedParts "lake.silver.orders", IsPlainName name) ∧
      (Fabric.renderer .standard).render (.createTable t) = .error e ∧
      (Synapse.renderer .standard).render (.createTable t) = .error e := by
  intro target t e
  have htarget : target.Reached := Lifecycle.reached_of_made ⟨"gold", "orders", rfl⟩
  have hnames : ∀ name ∈ ["gold", "orders", "lake", "silver", "orders"], IsPlainName name := by
    simp [IsPlainName]
  have hfabric : (Fabric.renderer .standard).render (.createTable t) = .error e := by
    unfold t target e
    rfl
  have hsynapse : (Synapse.renderer .standard).render (.createTable t) = .error e := by
    unfold t target e
    rfl
  exact ⟨htarget, rfl, hnames, hfabric, hsynapse⟩

end

section
variable {t : Target}

theorem fullName_sound (ht : t.Consistent) : Text.isBlankText t.fullName = false ∧
    ∀ part ∈ dottedParts t.fullName, Conforms .object part := by
  have hschema := dot_not_mem_of_conforms ht.schema
  have hobject := dot_not_mem_of_conforms ht.object
  refine ⟨?_, ?_⟩
  · -- the dot between schema and object is no blank
    simp [Target.fullName, Text.isBlankText, Text.isBlank]
  · rw [Target.fullName, dottedParts_append hschema, dottedParts_eq_singleton hobject]
    simp [ht.schema, ht.object]

/-- The full name of a target is accepted as a source, alone and beside whatever else is accepted,
and is written as the target is: both have the same quoted name or fail with the same error. -/
theorem full_name_resolves_to_target (ht : t.Reached) (settings : Settings) :
    (∀ target, ∃ made, CreateTable.create target (.ofSourceTable t.fullName) = .ok made ∧
      made.sourceTable = some t.fullName) ∧
    (∀ target d made, CreateTable.create target d = .ok made →
      CreateTable.create target { d with sourceTable := some t.fullName } =
        .ok { made with sourceTable := some t.fullName }) ∧
    qualifyDotted settings t.fullName = targetName settings t := by
  obtain ⟨hfilled, hparts⟩ := fullName_sound ht.consistent
  have hsource : ∀ s ∈ some t.fullName, Text.isBlankText s = false := by simpa using hfilled
  have hsourceParts : ∀ s ∈ some t.fullName, ∀ part ∈ dottedParts s, Conforms .object part := by
    simpa using hparts
  refine ⟨fun target => ?_, fun target d made hmade => ?_, ?_⟩
  · have hsound : (TableDefinition.ofSourceTable t.fullName).Sound :=
      ⟨.inr (.inr (.inl rfl)), List.forall_mem_nil _, nofun, hsource, hsourceParts, nofun⟩
    exact ⟨_, CreateTable.create_eq_ok_iff.mpr ⟨hsound, rfl⟩, rfl⟩
  · obtain ⟨hd, rfl⟩ := CreateTable.create_eq_ok_iff.mp hmade
    have hsound : TableDefinition.Sound { d with sourceTable := some t.fullName } :=
      { hd with
        given := .inr (.inr (.inl rfl))
        sourceTable := hsource
        parts := hsourceParts }
    exact CreateTable.create_eq_ok_iff.mpr ⟨hsound, rfl⟩
  · rw [Target.fullName, qualifyDotted,
      splitAtDot_append (dot_not_mem_of_conforms ht.consistent.schema)]
    rfl

/-- A source that gets the prefix of tables, and one that is refused like its target. -/
theorem prefixed_full_name_resolves :
    let settings : Settings := { Settings.standard with tablePrefix := some "dev_" }
    let t : Target := ⟨"bronze", "orders", none, none, none⟩
    let t' : Target := ⟨"bronze", "orders$old", none, none, none⟩
    let e : IdentifierError := .invalidCharacter "object" "dev_orders$old" '$'
    t.Reached ∧ qualifyDotted settings "bronze.orders" = .ok "[bronze].[dev_orders]" ∧
      targetName settings t = .ok "[bronze].[dev_orders]" ∧
      t'.Reached ∧ qualifyDotted settings "bronze.orders$old" = .error e ∧
      targetName settings t' = .error e := by
  intro settings t t' e
  have ht : t.Reached := Lifecycle.reached_of_made ⟨"bronze", "orders", rfl⟩
  have ht' : t'.Reached := Lifecycle.reached_of_made ⟨"bronze", "orders$old", rfl⟩
  have hphysical : settings.physicalName "bronze" "orders" = "dev_orders" := by rfl
  have hphysical' : settings.physicalName "bronze" "orders$old" = "dev_orders$old" := by rfl
  have hname : qualifiedName settings "bronze" "orders" = .ok "[bronze].[dev_orders]" := by
    rw [qualifiedName, hphysical]
    rfl
  have hname' : qualifiedName settings "bronze" "orders$old" = .error e := by
    rw [qualifiedName, hphysical']
    rfl
  obtain ⟨-, -, hsame⟩ := full_name_resolves_to_target ht settings
  obtain ⟨-, -, hsame'⟩ := full_name_resolves_to_target ht' settings
  exact ⟨ht, hsame.trans hname, hname, ht', hsame'.trans hname', hname'⟩

end

end LakehouseSql.Render
