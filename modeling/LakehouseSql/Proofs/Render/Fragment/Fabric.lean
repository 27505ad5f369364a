import LakehouseSql.Proofs.Render.Fragment.Common
import LakehouseSql.Render.Fabric
/-! # Statements for Fabric warehouses as fragments

Statements that are alike and hold no trusted text are written as fragments that bring in their
untrusted texts, each as a literal.
-/
namespace LakehouseSql.Fabric
open Render
open Sql (Fixed Fragment Piece Pieces)

def columnTexts (c : ColumnDefinition) : List String :=
  c.defaultValue.toList.flatMap SqlValue.texts

/-- The location is left out if the table is filled from elsewhere. -/
def locationTexts (t : CreateTable) : List String :=
  if t.selectQuery.isSome || t.sourceTable.isSome then [] else t.location.toList

def propertyTexts (properties : Dictionary String) : List String :=
  properties.entries.flatMap fun e => [e.1, e.2]

def rowTexts (columns : List String) (row : Dictionary SqlValue) : List String :=
  columns.flatMap fun column => ((row.get? column).getD .null).texts

def sourceTexts (columns : List String) : InsertSource → List String
  | .query _ => []
  | .rows rows => rows.flatMap (rowTexts columns)

/-- The untrusted texts of a statement in the order in which they are written. -/
def writtenTexts : Statement → List String
  | .createTable t =>
    t.columns.flatMap columnTexts ++ locationTexts t ++ propertyTexts t.properties
  | .insert i => sourceTexts i.effectiveColumns i.source
  | .update u => u.assignments.values.flatMap SqlValue.texts
  | .copy c => c.sourcePath :: c.options.values.flatMap SqlValue.texts
  | _ => []

section
variable {settings : Settings} {a a' : String}

private theorem fixed_keyText (c : ColumnDefinition) : Fixed (keyText c) := by
  unfold keyText
  split
  · exact .words rfl
  · split
    · exact .words rfl
    · exact .words rfl

private theorem fragment_default {v v' : Option SqlValue} (h : Option.Rel SqlValue.Alike v v')
    (hv : ∀ x ∈ v, x.IsData) :
    Fragment (whenGiven (fun v => " DEFAULT " ++ SqlValue.sql v) v)
      (whenGiven (fun v => " DEFAULT " ++ SqlValue.sql v) v')
      (v.toList.flatMap SqlValue.texts) (v'.toList.flatMap SqlValue.texts) := by
  cases h with
  | none => exact .words rfl
  | @some x x' hx =>
    simpa [whenGiven] using (Piece.value hx (hv x rfl)).behind (p := " DEFAULT ") rfl

private theorem piece_columnDefinition {c c' : ColumnDefinition} (hc : c.Consistent)
    (hraw : c.WithoutRawSql) (h : c.Alike c') (ha : columnDefinition c = .ok a)
    (ha' : columnDefinition c' = .ok a') : Piece a a' (columnTexts c) (columnTexts c') := by
  cases h with | @intro v' hdefault
  simp only [columnDefinition, hraw.computedExpression, whenGiven, String.append_empty,
    bind_eq_ok_iff, pure_eq_ok_iff] at ha ha'
  obtain ⟨name, hname, rfl⟩ := ha
  obtain ⟨name', hname', rfl⟩ := ha'
  obtain rfl := result_unique hname hname'
  have hnull : Fixed (if c.nullable then "" else " NOT NULL") := by
    split
    · exact .words rfl
    · exact .words rfl
  have htype := (fixed_quoteName hname).link (p := " ") rfl (Fragment.dataType hraw.dataType).piece
  have hhead := (htype.append (fixed_collation hc)).append hnull
  have hvalue := hhead.append (fragment_default hdefault hraw.defaultValue)
  exact (hvalue.append_fixed (fixed_keyText c)).piece

private theorem fragment_columnsText {columns columns' : List ColumnDefinition}
    (hcolumns : ∀ c ∈ columns, c.Consistent) (hraw : ∀ c ∈ columns, c.WithoutRawSql)
    (h : List.Forall₂ ColumnDefinition.Alike columns columns') (ha : columnsText columns = .ok a)
    (ha' : columnsText columns' = .ok a') :
    Fragment a a' (columns.flatMap columnTexts) (columns'.flatMap columnTexts) := by
  cases h with
  | nil =>
    cases ha
    cases ha'
    exact .words rfl
  | cons hc hcs =>
    simp only [columnsText, List.isEmpty_cons, Bool.false_eq_true, if_false, columnDefinitions,
      bind_eq_ok_iff, pure_eq_ok_iff] at ha ha'
    obtain ⟨_, ⟨items, hitems, rfl⟩, rfl⟩ := ha
    obtain ⟨_, ⟨items', hitems', rfl⟩, rfl⟩ := ha'
    have hpieces := pieces_mapM (List.Forall₂.cons hc hcs)
      (fun c hc c' h _ _ => piece_columnDefinition (hcolumns c hc) (hraw c hc) h) hitems hitems'
    have hjoined := hpieces.intercalate (p := ",\n    ") rfl
    have hlist := hjoined.behind (p := " (\n    ") rfl
    exact hlist.append_fixed (.words rfl)

private theorem fixed_partitionsText {partitions : List String}
    (h : partitionsText partitions = .ok a) : Fixed a := by
  unfold partitionsText at h
  split at h
  · cases h
    exact .words rfl
  · simp only [bind_eq_ok_iff, pure_eq_ok_iff] at h
    obtain ⟨list, hlist, rfl⟩ := h
    have hhead := (piece_columnList hlist).behind (p := "\nPARTITIONED BY (") rfl
    exact hhead.append_fixed (.words rfl)

private theorem fragment_locationText {t t' : CreateTable} (h : t.Alike t') :
    Fragment (locationText t) (locationText t') (locationTexts t) (locationTexts t') := by
  cases h with | @intro _ location _ _ hlocation _
  unfold locationText locationTexts
  dsimp only
  split
  · exact .words rfl
  · generalize t.location = given at hlocation
    cases hlocation with
    | none => exact .words rfl
    | some _ => exact (Piece.literal _ _).behind (p := "\nLOCATION ") rfl

private theorem pieces_propertyText {entries entries' : List (String × String)}
    (h : entries.length = entries'.length) :
    Pieces (entries.map propertyText) (entries'.map propertyText)
      (entries.flatMap fun e => [e.1, e.2]) (entries'.flatMap fun e => [e.1, e.2]) := by
  have hany : List.Forall₂ (fun _ _ => True) entries entries' :=
    List.forall₂_iff_zip.mpr ⟨h, fun _ => trivial⟩
  refine Pieces.map hany fun e _ e' _ => ?_
  exact (Piece.literal e.1 e'.1).link (p := " = ") rfl (.literal e.2 e'.2)

private theorem fragment_propertiesText {properties properties' : Dictionary String}
    (h : properties.size = properties'.size) :
    Fragment (propertiesText properties) (propertiesText properties') (propertyTexts properties)
      (propertyTexts properties') := by
  have hpieces := (pieces_propertyText h).intercalate (p := ", ") rfl
  unfold propertiesText propertyTexts Dictionary.isEmpty
  unfold Dictionary.size at h
  cases hes : properties.entries with
  | nil =>
    have hes' : properties'.entries = [] := List.length_eq_zero_iff.mp (by rw [← h, hes]; rfl)
    rw [hes']
    exact .words rfl
  | cons e es =>
    cases hes' : properties'.entries with
    | nil => simp [hes, hes'] at h
    | cons e' es' =>
      rw [hes, hes'] at hpieces
      exact (hpieces.behind (p := "\nTBLPROPERTIES (") rfl).append_fixed (.words rfl)

private theorem fixed_contentText {t : CreateTable} (ht : t.selectQuery = none)
    (h : contentText settings t = .ok a) : Fixed a := by
  unfold contentText at h
  rw [ht] at h
  cases hs : t.sourceTable with
  | none =>
    rw [hs] at h
    cases h
    exact .words rfl
  | some source =>
    simp only [hs, bind_eq_ok_iff, pure_eq_ok_iff] at h
    obtain ⟨name, hname, rfl⟩ := h
    exact (fixed_qualifyDotted hname).piece.behind rfl

private theorem fixed_createHead {name : String} (recreate : Bool) (hname : Fixed name) :
    Fixed (createHead recreate name) := by
  cases recreate with
  | false => exact hname.piece.behind rfl
  | true =>
    have hdrop := hname.piece.behind (p := "DROP TABLE IF EXISTS ") rfl
    exact hdrop.link (p := ";\nCREATE TABLE ") rfl hname.piece

theorem fragment_createTable {t t' : CreateTable} (ht : t.Consistent)
    (hraw : (Statement.createTable t).WithoutRawSql) (h : t.Alike t')
    (ha : createTable settings t = .ok a) (ha' : createTable settings t' = .ok a') :
    Fragment a a' (writtenTexts (.createTable t)) (writtenTexts (.createTable t')) := by
  have hlocation := fragment_locationText h
  cases h with | @intro columns location properties hcolumns _ hproperties
  simp only [createTable, bind_eq_ok_iff, pure_eq_ok_iff, named_eq_ok_iff] at ha ha'
  obtain ⟨name, hname, defs, hdefs, parts, hparts, content, hcontent, rfl⟩ := ha
  obtain ⟨name', hname', defs', hdefs', parts', hparts', content', hcontent', rfl⟩ := ha'
  obtain rfl := result_unique hname hname'
  obtain rfl := result_unique hparts hparts'
  obtain rfl : content = content' := result_unique (x := contentText settings t) hcontent hcontent'
  have hcreate := fixed_createHead t.recreate (fixed_targetName hname)
  have hdefined := hcreate.append (fragment_columnsText ht.columns hraw.2 hcolumns hdefs hdefs')
  have hdelta := hdefined.append_fixed (.words (p := "\nUSING DELTA") rfl)
  have hplaced := (hdelta.append_fixed (fixed_partitionsText hparts)).append hlocation
  have hdescribed := hplaced.append (fragment_propertiesText hproperties)
  exact hdescribed.append_fixed (fixed_contentText hraw.1 hcontent)

theorem fixed_dropTable {t : DropTable} (h : dropTable settings t = .ok a) : Fixed a := by
  simp only [dropTable, bind_eq_ok_iff, pure_eq_ok_iff, named_eq_ok_iff] at h
  obtain ⟨name, hname, rfl⟩ := h
  split <;> exact (fixed_targetName hname).piece.behind rfl

theorem fixed_createSchema {s : CreateSchema} (h : createSchema s = .ok a) : Fixed a := by
  simp only [createSchema, bind_eq_ok_iff, named_eq_ok_iff] at h
  obtain ⟨schema, hschema, h⟩ := h
  have hhead : Fixed
      ((if s.ifNotExists then "CREATE SCHEMA IF NOT EXISTS " else "CREATE SCHEMA ") ++ schema) := by
    split <;> exact (fixed_quoteName hschema).piece.behind rfl
  cases howner : s.authorization with
  | none =>
    simp only [howner, pure_eq_ok_iff] at h
    exact h ▸ hhead
  | some owner =>
    simp only [howner, bind_eq_ok_iff, pure_eq_ok_iff, named_eq_ok_iff] at h
    obtain ⟨quoted, hquoted, rfl⟩ := h
    exact hhead.link (p := " AUTHORIZATION ") rfl (fixed_quoteName hquoted).piece

theorem fixed_dropSchema {s : DropSchema} (h : dropSchema s = .ok a) : Fixed a := by
  simp only [dropSchema, bind_eq_ok_iff, pure_eq_ok_iff, named_eq_ok_iff] at h
  obtain ⟨schema, hschema, rfl⟩ := h
  have hhead : Fixed
      ((if s.ifExists then "DROP SCHEMA IF EXISTS " else "DROP SCHEMA ") ++ schema) := by
    split <;> exact (fixed_quoteName hschema).piece.behind rfl
  refine hhead.append ?_
  split
  · exact .words rfl
  · split
    · exact .words rfl
    · exact .words rfl

private theorem piece_rowText {columns : List String} {row row' : Dictionary SqlValue}
    (h : row.Alike row') (hrow : row.IsData) :
    Piece (rowText columns row) (rowText columns row') (rowTexts columns row)
      (rowTexts columns row') := by
  have hsame : List.Forall₂ Eq columns columns := List.forall₂_same.mpr fun _ _ => rfl
  have hvalues : Pieces (columns.map fun column => ((row.get? column).getD .null).sql)
      (columns.map fun column => ((row'.get? column).getD .null).sql)
      (rowTexts columns row) (rowTexts columns row') := by
    refine Pieces.map hsame ?_
    rintro column - _ rfl
    exact .value (h.getD column .null) (hrow.getD column nofun)
  have hopen := (hvalues.intercalate (p := ", ") rfl).behind (p := "(") rfl
  exact (hopen.append_fixed (.words rfl)).piece

private theorem fragment_sourceText {columns : List String}
    {rows rows' : List (Dictionary SqlValue)} (h : List.Forall₂ Dictionary.Alike rows rows')
    (hrows : ∀ row ∈ rows, row.IsData) :
    Fragment (sourceText columns (.rows rows)) (sourceText columns (.rows rows'))
      (sourceTexts columns (.rows rows)) (sourceTexts columns (.rows rows')) :=
  ((Pieces.map h fun row hrow _ halike => piece_rowText halike (hrows row hrow)).intercalate
    (p := ",\n") rfl).behind (p := "\nVALUES ") rfl

private theorem effectiveColumns_eq {i : Insert} {rows rows' : List (Dictionary SqlValue)}
    (hi : i.source = .rows rows) (h : List.Forall₂ Dictionary.Alike rows rows') :
    ({ i with source := .rows rows' } : Insert).effectiveColumns = i.effectiveColumns := by
  unfold Insert.effectiveColumns
  rw [hi]
  cases h with
  | nil => rfl
  | cons hrow _ =>
    dsimp only
    rw [hrow.keys_eq]

theorem fragment_insert {i i' : Insert} (hraw : (Statement.insert i).WithoutRawSql)
    (h : i.Alike i') (ha : insert settings i = .ok a) (ha' : insert settings i' = .ok a') :
    Fragment a a' (writtenTexts (.insert i)) (writtenTexts (.insert i')) := by
  obtain ⟨rows, hrows, hdata⟩ := hraw
  cases h with | @intro source hsource
  rw [hrows] at hsource
  cases hsource with | @rows _ rows' halike
  have hcolumns := effectiveColumns_eq hrows halike
  simp only [writtenTexts, hcolumns]
  simp only [insert, hcolumns, bind_eq_ok_iff, pure_eq_ok_iff, named_eq_ok_iff] at ha ha'
  obtain ⟨name, hname, list, hlist, rfl⟩ := ha
  obtain ⟨name', hname', list', hlist', rfl⟩ := ha'
  obtain rfl := result_unique hname hname'
  obtain rfl := result_unique hlist hlist'
  rw [hrows]
  have hhead {keyword : String} (hkeyword : Sql.isLead keyword = true) :=
    ((fixed_targetName hname).piece.behind hkeyword).append (fixed_parenthesizedColumns hlist)
  cases i.mode with
  | append => exact (hhead rfl).append (fragment_sourceText halike hdata)
  | overwrite => exact (hhead rfl).append (fragment_sourceText halike hdata)

theorem fragment_update {u u' : Update} (hraw : (Statement.update u).WithoutRawSql)
    (h : u.Alike u') (ha : update settings u = .ok a) (ha' : update settings u' = .ok a') :
    Fragment a a' (writtenTexts (.update u)) (writtenTexts (.update u')) := by
  obtain ⟨hdata, hwhere, hfrom⟩ := hraw
  cases h with | @intro assigned hassigned
  simp only [update, hwhere, hfrom, whenGiven, String.append_empty, bind_eq_ok_iff,
    pure_eq_ok_iff, named_eq_ok_iff] at ha ha'
  obtain ⟨name, hname, changes, hchanges, rfl⟩ := ha
  obtain ⟨name', hname', changes', hchanges', rfl⟩ := ha'
  obtain rfl := result_unique hname hname'
  have hhead := (fixed_targetName hname).piece.behind (p := "UPDATE ") rfl
  exact hhead.link (p := "\nSET ") rfl (piece_assignments hassigned hdata hchanges hchanges')

theorem fixed_delete {d : Delete} (hraw : d.whereClause = none)
    (h : delete settings d = .ok a) : Fixed a := by
  simp only [delete, hraw, whenGiven, String.append_empty, bind_eq_ok_iff, pure_eq_ok_iff,
    named_eq_ok_iff] at h
  obtain ⟨name, hname, rfl⟩ := h
  exact (fixed_targetName hname).piece.behind rfl

private theorem pieces_optionText {d d' : Dictionary SqlValue} (h : d.Alike d') (hd : d.IsData)
    (hkeys : ∀ key ∈ d.keys, Identifier.Conforms .sql key) :
    Pieces (d.entries.map optionText) (d'.entries.map optionText)
      (d.values.flatMap SqlValue.texts) (d'.values.flatMap SqlValue.texts) := by
  rw [Dictionary.values, Dictionary.values, List.flatMap_map, List.flatMap_map]
  refine Pieces.map h ?_
  rintro ⟨key, v⟩ hentry ⟨_, v'⟩ ⟨rfl, hv⟩
  have hkey : Identifier.Conforms .sql key := hkeys key (List.mem_map.mpr ⟨_, hentry, rfl⟩)
  have hdata : v.IsData := hd v (List.mem_map.mpr ⟨_, hentry, rfl⟩)
  exact ((Fragment.uppercase hkey).link (p := " = ") rfl (.value hv hdata)).piece

private theorem piece_formatOption {fileFormat : FileFormat} {format : String}
    (h : loadFormat? fileFormat = some format) :
    Piece ("FILE_TYPE = '" ++ format ++ "'") ("FILE_TYPE = '" ++ format ++ "'") [] [] := by
  have hword : '\'' ∉ format.toList := by
    cases fileFormat <;> cases h <;> decide
  have hhead : "FILE_TYPE = '" = "FILE_TYPE = " ++ "'" := rfl
  rw [hhead, String.append_assoc, String.append_assoc]
  exact ((Piece.quoted hword).behind rfl).piece

theorem fragment_copy {c c' : Copy} (hc : c.Consistent)
    (hraw : (Statement.copy c).WithoutRawSql) (h : c.Alike c')
    (ha : copy settings c = .ok a) (ha' : copy settings c' = .ok a') :
    Fragment a a' (writtenTexts (.copy c)) (writtenTexts (.copy c')) := by
  obtain ⟨hdata, hcredential⟩ := hraw
  cases h with | @intro path options hoptions
  unfold copy at ha ha'
  cases hformat : loadFormat? c.fileFormat with
  | none => simp [hformat] at ha
  | some format =>
    simp only [hformat, hcredential, Option.map_none, Option.toList_none, List.append_nil,
      bind_eq_ok_iff, pure_eq_ok_iff, named_eq_ok_iff] at ha ha'
    obtain ⟨name, hname, rfl⟩ := ha
    obtain ⟨name', hname', rfl⟩ := ha'
    obtain rfl := result_unique hname hname'
    have hpieces := Pieces.cons (piece_formatOption hformat)
      (pieces_optionText hoptions hdata hc.options)
    have hhead := (fixed_targetName hname).piece.behind (p := "COPY INTO ") rfl
    have hpath := hhead.link (p := "\nFROM ") rfl (.literal c.sourcePath path)
    have hjoined := hpieces.intercalate (p := ",\n    ") rfl
    have hlist := hpath.link (p := "\nWITH (\n    ") rfl hjoined
    exact hlist.append_fixed (.words rfl)

theorem fixed_createStatistics {s : CreateStatistics} (h : createStatistics settings s = .ok a) :
    Fixed a := by
  simp only [createStatistics, bind_eq_ok_iff, pure_eq_ok_iff, named_eq_ok_iff] at h
  obtain ⟨statistics, hstatistics, name, hname, columns, hcolumns, rfl⟩ := h
  exact fixed_statisticsText s (fixed_statisticsName hstatistics) rfl (fixed_targetName hname)
    (piece_columnList hcolumns) (.words rfl) rfl

end

end LakehouseSql.Fabric
