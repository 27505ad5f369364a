import LakehouseSql.Proofs.Render.Fragment.Common
import LakehouseSql.Proofs.Render.Fragment.Synapse
import LakehouseSql.Proofs.Render.Location
/-! # Checks of existence

Queries on the catalogue and guards look for an external table by name. A query has the schema and
the physical object in two literals, a guard has the quoted name in one. Either way it is the name
under which the table is created and dropped, and what cannot be named is not looked for.
-/
namespace LakehouseSql.Synapse
open Render
open Sql (Closed Parts Reads Token tokens)

/-- The text is a schema and an object, each in brackets. -/
def Names (text schema object : String) : Prop :=
  tokens text.toList = some [.name schema, .sign '.', .name object]

/-- The conditions that hold for the rows of a table. -/
def filterTokens (schema table : String) : List Token :=
  [.word "WHERE", .word "s", .sign '.', .word "name", .sign '=', .literal schema, .word "AND",
    .word "et", .sign '.', .word "name", .sign '=', .literal table]

/-- The query has the conditions for a table and no others. -/
def FiltersOn (sql schema table : String) : Prop :=
  ∃ front, .word "WHERE" ∉ front ∧
    tokens sql.toList = some (front ++ filterTokens schema table)

/-- The query fails as the qualified name does, or else filters on the names in its brackets. -/
def LooksFor (query : String → String → Except IdentifierError String) (settings : Settings) :
    Prop :=
  ∀ schema object,
    (∀ e, query schema object = .error e ↔ qualifiedName settings schema object = .error e) ∧
    ∀ name, qualifiedName settings schema object = .ok name →
      ∃ sql s o, query schema object = .ok sql ∧ Names name s o ∧ FiltersOn sql s o

/-- The condition that there is an external table of a name. -/
def checkTokens (name : String) : List Token :=
  [.word "IF", .word "EXISTS", .sign '(', .word "SELECT", .sign '*', .word "FROM", .word "sys",
    .sign '.', .word "external_tables", .word "WHERE", .word "object_id", .sign '=',
    .word "OBJECT_ID", .sign '(', .literal name, .sign ')', .sign ')']

/-- What is done to an external table. -/
def tableTokens (verb schema object : String) : List Token :=
  [.word verb, .word "EXTERNAL", .word "TABLE", .name schema, .sign '.', .name object]

/-- A table is dropped if there is one of the name, which is its own name. -/
def GuardsDrop (sql name schema object : String) : Prop :=
  Names name schema object ∧
    tokens sql.toList = some (checkTokens name ++ tableTokens "DROP" schema object)

/-- The text begins with the tokens, whatever its end. -/
def BeginsWith (sql : String) (toks : List Token) : Prop :=
  ∃ front behind, sql = front ++ behind ∧ Closed front toks

section

private def catalogueQuery (front : String) (settings : Settings) (schema object : String) :
    Except IdentifierError String := do
  let (schema, table) ← catalogueNames settings schema object
  return front ++ "WHERE s.name = " ++ schema ++ " AND et.name = " ++ table

private def rowFront : String :=
  "SELECT 1 FROM sys.external_tables et\n" ++ "JOIN sys.schemas s ON et.schema_id = s.schema_id\n"

private def locationFront : String :=
  "SELECT eds.location + '/' + et.location AS full_location\n" ++
    "FROM sys.external_tables et\n" ++
    "JOIN sys.schemas s ON et.schema_id = s.schema_id\n" ++
    "JOIN sys.external_data_sources eds ON et.data_source_id = eds.data_source_id\n"

private def Unfiltered (p : String) : Prop :=
  ∃ toks, Closed p toks ∧ .word "WHERE" ∉ toks

private def frontTexts : List String :=
  ["SELECT 1 FROM sys.external_tables et\n", "SELECT eds.location + ",
    " + et.location AS full_location\n", "FROM sys.external_tables et\n",
    "JOIN sys.schemas s ON et.schema_id = s.schema_id\n",
    "JOIN sys.external_data_sources eds ON et.data_source_id = eds.data_source_id\n"]

private theorem tokens_fixed_texts :
    (∀ p ∈ frontTexts, (Sql.isClosed p && (tokens p.toList).any (.word "WHERE" ∉ ·)) = true) ∧
    "SELECT eds.location + '/' + et.location AS full_location\n" =
      "SELECT eds.location + " ++ Literal.quote "/" ++ " + et.location AS full_location\n" ∧
    tokens "WHERE s.name = ".toList =
      some [.word "WHERE", .word "s", .sign '.', .word "name", .sign '='] ∧
    tokens " AND et.name = ".toList =
      some [.word "AND", .word "et", .sign '.', .word "name", .sign '='] ∧
    tokens "IF EXISTS (SELECT * FROM sys.external_tables WHERE object_id = OBJECT_ID(".toList =
      some [.word "IF", .word "EXISTS", .sign '(', .word "SELECT", .sign '*', .word "FROM",
        .word "sys", .sign '.', .word "external_tables", .word "WHERE", .word "object_id",
        .sign '=', .word "OBJECT_ID", .sign '('] ∧
    tokens "))\n    DROP EXTERNAL TABLE ".toList =
      some [.sign ')', .sign ')', .word "DROP", .word "EXTERNAL", .word "TABLE"] ∧
    tokens "CREATE EXTERNAL TABLE ".toList =
      some [.word "CREATE", .word "EXTERNAL", .word "TABLE"] ∧
    tokens "\n".toList = some [] ∧ tokens " ".toList = some [] := by
  decide +kernel

private theorem tokens_front {p : String} (h : p ∈ frontTexts) :
    Sql.isClosed p = true ∧ ∃ toks, tokens p.toList = some toks ∧ .word "WHERE" ∉ toks := by
  have hp := tokens_fixed_texts.1 p h
  simpa only [Bool.and_eq_true, Option.any_eq_true, decide_eq_true_eq] using hp

private theorem unfiltered_front {p : String} (h : p ∈ frontTexts) : Unfiltered p := by
  obtain ⟨hclosed, toks, htoks, hfree⟩ := tokens_front h
  exact ⟨toks, .words hclosed htoks, hfree⟩

private theorem Unfiltered.append {p q : String} (hp : Unfiltered p) (hq : Unfiltered q) :
    Unfiltered (p ++ q) := by
  obtain ⟨s, hs, hfree⟩ := hp
  obtain ⟨t, ht, hfree'⟩ := hq
  exact ⟨s ++ t, hs.join ht, by simp [hfree, hfree']⟩

private theorem unfiltered_rowFront : Unfiltered rowFront := by
  refine .append (unfiltered_front ?_) (unfiltered_front ?_)
  all_goals simp [frontTexts]

private theorem unfiltered_locationFront : Unfiltered locationFront := by
  have hfirst : Unfiltered "SELECT eds.location + '/' + et.location AS full_location\n" := by
    obtain ⟨s, hs, hfree⟩ := unfiltered_front (p := "SELECT eds.location + ") (by simp [frontTexts])
    obtain ⟨-, t, ht, hfree'⟩ :=
      tokens_front (p := " + et.location AS full_location\n") (by simp [frontTexts])
    rw [tokens_fixed_texts.2.1]
    exact ⟨_, (Reads.literal "/").enclose hs (.words rfl ht), by simp [hfree, hfree']⟩
  refine ((hfirst.append (unfiltered_front ?_)).append (unfiltered_front ?_)).append
    (unfiltered_front ?_)
  all_goals simp [frontTexts]

end

section
variable {settings : Settings} {schema object name : String} {e : IdentifierError}

private theorem names_qualifiedName (h : qualifiedName settings schema object = .ok name) :
    Names name schema (settings.physicalName schema object) :=
  (reads_qualifiedName h).tokens_eq

private theorem catalogueQuery_eq_ok {front : String} (h : Writable settings schema object) :
    catalogueQuery front settings schema object = .ok (front ++ "WHERE s.name = " ++
      Literal.quote schema ++ " AND et.name = " ++
      Literal.quote (settings.physicalName schema object)) := by
  have hschema : quoteName "schema" schema = .ok ("[" ++ schema ++ "]") :=
    quoteName_eq_ok_iff.mpr ⟨h.1, rfl⟩
  have hobject : quoteName "object" (settings.physicalName schema object) = .ok _ :=
    quoteName_eq_ok_iff.mpr ⟨h.2, rfl⟩
  simp [catalogueQuery, catalogueNames, hschema, hobject]

private theorem catalogueQuery_eq_error_iff {front : String} :
    catalogueQuery front settings schema object = .error e ↔
      qualifiedName settings schema object = .error e := by
  simp only [catalogueQuery, catalogueNames, qualifiedName, bind_eq_error_iff, pure_ne_error,
    and_false, exists_false, or_false]

private theorem looksFor_catalogueQuery {front : String} (hfront : Unfiltered front) :
    LooksFor (catalogueQuery front settings) settings := by
  intro schema object
  refine ⟨fun e => catalogueQuery_eq_error_iff, fun name hname => ?_⟩
  obtain ⟨hwritable, -⟩ := qualifiedName_eq_ok_iff.mp hname
  refine ⟨_, _, _, catalogueQuery_eq_ok hwritable, names_qualifiedName hname, ?_⟩
  obtain ⟨toks, htoks, hfree⟩ := hfront
  obtain ⟨-, -, hwhere, hand, -⟩ := tokens_fixed_texts
  have hread := ((Reads.literal schema).enclose (htoks.join (.words rfl hwhere))
    (.words rfl hand)).append (.literal (settings.physicalName schema object))
  refine ⟨toks, hfree, ?_⟩
  rw [hread.tokens_eq]
  simp [filterTokens]

theorem looksFor_isExternalTableQuery : LooksFor (isExternalTableQuery settings) settings :=
  looksFor_catalogueQuery unfiltered_rowFront

theorem looksFor_externalTableLocationQuery :
    LooksFor (externalTableLocationQuery settings) settings :=
  looksFor_catalogueQuery unfiltered_locationFront

end

section
variable {settings : Settings} {target : Target} {t : CreateTable} {name sql : String}

theorem guardsDrop_dropIfExists (h : targetName settings target = .ok name) :
    GuardsDrop (dropIfExists name) name target.schema
      (settings.physicalName target.schema target.object) := by
  refine ⟨names_qualifiedName h, ?_⟩
  obtain ⟨-, -, -, -, hcheck, hdrop, -⟩ := tokens_fixed_texts
  have hread := ((Reads.literal name).enclose (.words rfl hcheck) (.words rfl hdrop)).append
    (reads_qualifiedName h)
  rw [dropIfExists_eq (quote_not_mem_targetName h), hread.tokens_eq]
  rfl

private theorem createTable_eq_head (h : createTable settings t = .ok sql) :
    ∃ name gap rest, targetName settings t.target = .ok name ∧ Parts gap [] ∧
      sql = createHead t.recreate name ++ (gap ++ rest) := by
  obtain ⟨-, -, -, -, -, -, -, hbreak, hblank⟩ := tokens_fixed_texts
  obtain ⟨before, options, behind, -, hframed, hsql, -⟩ := places_location h
  rw [String.append_assoc] at hsql
  cases hframed with
  | query hname _ | source hname _ _ _ =>
    exact ⟨_, _, _, hname, .words rfl hbreak, hsql.trans (String.append_assoc ..)⟩
  | @columns _ columns hname _ _ _ =>
    have hopening : " (\n    " = " " ++ "(\n    " := by decide
    refine ⟨_, _, "(\n    " ++ columns ++ "\n)\n" ++ (options ++ ""), hname,
      .words rfl hblank, ?_⟩
    rw [hsql, hopening]
    simp only [String.append_assoc]

/-- A statement that creates a table anew is the guarded drop and then the creation. -/
theorem createTable_eq_guard (hrecreate : t.recreate = true)
    (h : createTable settings t = .ok sql) : ∃ name rest, targetName settings t.target = .ok name ∧
      sql = dropIfExists name ++ ";\n" ++ rest ∧ BeginsWith rest (tableTokens "CREATE"
        t.target.schema (settings.physicalName t.target.schema t.target.object)) := by
  obtain ⟨name, gap, rest, hname, hgap, hsql⟩ := createTable_eq_head h
  obtain ⟨-, -, -, -, -, -, hcreate, -⟩ := tokens_fixed_texts
  have hbegins := (reads_qualifiedName hname).enclose (.words rfl hcreate) hgap
  refine ⟨name, _, hname, ?_, _, rest, rfl, hbegins⟩
  simp only [hsql, createHead, hrecreate, if_true, String.append_assoc]

/-- What looks for an external table looks for the one that is dropped and created: queries on the
catalogue, which fail where the name does, and the guard that a drop and a creation share. -/
theorem existence_checks_agree (settings : Settings) :
    LooksFor (isExternalTableQuery settings) settings ∧
    LooksFor (externalTableLocationQuery settings) settings ∧
    (∀ (drop : DropTable) dropped, drop.ifExists = true →
      (renderer settings).render (.dropTable drop) = .ok dropped →
      ∃ name s o, targetName settings drop.target = .ok name ∧ GuardsDrop dropped name s o) ∧
    ∀ (drop : DropTable) (create : CreateTable) created, drop.target = create.target →
      drop.ifExists = true → create.recreate = true →
      (renderer settings).render (.createTable create) = .ok created →
      ∃ dropped name s o rest, (renderer settings).render (.dropTable drop) = .ok dropped ∧
        GuardsDrop dropped name s o ∧ created = dropped ++ ";\n" ++ rest ∧
        BeginsWith rest (tableTokens "CREATE" s o) := by
  have hrender {drop : DropTable} (hexists : drop.ifExists = true) {dropped : String} :
      (renderer settings).render (.dropTable drop) = .ok dropped ↔
        ∃ name, targetName settings drop.target = .ok name ∧ dropIfExists name = dropped := by
    simp [Renderer.render, renderer, dropTable, hexists, named_eq_ok_iff]
  refine ⟨looksFor_isExternalTableQuery, looksFor_externalTableLocationQuery, ?_, ?_⟩
  · intro drop dropped hexists h
    obtain ⟨name, hname, rfl⟩ := (hrender hexists).mp h
    exact ⟨name, _, _, hname, guardsDrop_dropIfExists hname⟩
  · intro drop create created htarget hexists hrecreate h
    obtain ⟨name, rest, hname, hsql, hbegins⟩ := createTable_eq_guard hrecreate h
    exact ⟨dropIfExists name, name, _, _, rest, (hrender hexists).mpr ⟨name, htarget ▸ hname, rfl⟩,
      guardsDrop_dropIfExists hname, hsql, hbegins⟩

/-- A table with the prefix of tables, which is looked for, dropped and created, and a name that is
refused and not looked for. -/
theorem prefixed_table_checks_agree :
    let settings : Settings := { Settings.standard with tablePrefix := some "dev_" }
    let target : Target := ⟨"bronze", "orders", none, none, none⟩
    let drop : DropTable := ⟨target, true, false⟩
    let create : CreateTable := ⟨target, [], some "SELECT 1 AS id", none, some "bronze/orders",
      default, [], none, .empty, true⟩
    let e : IdentifierError := .invalidCharacter "object" "dev_orders$old" '$'
    qualifiedName settings "bronze" "orders" = .ok "[bronze].[dev_orders]" ∧
      (∃ sql s o, isExternalTableQuery settings "bronze" "orders" = .ok sql ∧
        Names "[bronze].[dev_orders]" s o ∧ FiltersOn sql s o) ∧
      qualifiedName settings "bronze" "orders$old" = .error e ∧
      externalTableLocationQuery settings "bronze" "orders$old" = .error e ∧
      ∃ created dropped name s o rest,
        (renderer settings).render (.createTable create) = .ok created ∧
        (renderer settings).render (.dropTable drop) = .ok dropped ∧
        GuardsDrop dropped name s o ∧ created = dropped ++ ";\n" ++ rest ∧
        BeginsWith rest (tableTokens "CREATE" s o) := by
  intro settings target drop create e
  have hphysical : settings.physicalName "bronze" "orders" = "dev_orders" := by rfl
  have hphysical' : settings.physicalName "bronze" "orders$old" = "dev_orders$old" := by rfl
  have hname : qualifiedName settings "bronze" "orders" = .ok "[bronze].[dev_orders]" := by
    rw [qualifiedName, hphysical]
    rfl
  have hrefused : qualifiedName settings "bronze" "orders$old" = .error e := by
    rw [qualifiedName, hphysical']
    rfl
  obtain ⟨created, hcreated⟩ :
      ∃ created, (renderer settings).render (.createTable create) = .ok created := by
    unfold settings create target
    exact ⟨_, rfl⟩
  obtain ⟨hquery, hlocation, -, hguard⟩ := existence_checks_agree settings
  obtain ⟨dropped, name, s, o, rest, hdropped, hdrops, hsame, hbegins⟩ :=
    hguard drop create created rfl rfl rfl hcreated
  exact ⟨hname, (hquery "bronze" "orders").2 _ hname, hrefused,
    ((hlocation "bronze" "orders$old").1 e).mpr hrefused,
    created, dropped, name, s, o, rest, hcreated, hdropped, hdrops, hsame, hbegins⟩

end

end LakehouseSql.Synapse
