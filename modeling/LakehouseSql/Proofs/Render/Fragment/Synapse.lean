import LakehouseSql.Proofs.Render.Fragment.Common
import LakehouseSql.Render.Synapse
/-! # Statements for Synapse serverless pools as fragments

The only untrusted text that a pool writes is the location of an external table.
-/
namespace LakehouseSql.Synapse
open Render
open Sql (Fixed Fragment Piece Pieces)

/-- The untrusted texts of a statement, or what is written in their place. -/
def writtenTexts (settings : Settings) : Statement → List String
  | .createTable t => [location settings t]
  | _ => []

section
variable {settings : Settings} {a a' : String}

private theorem fixed_fileFormatName {t : CreateTable} (h : fileFormatName settings t = .ok a) :
    Fixed a := by
  unfold fileFormatName at h
  split at h
  · exact fixed_plainName (named_eq_ok_iff.mp h)
  · exact fixed_plainName (named_eq_ok_iff.mp h)
  · cases h
  · cases h

private theorem fragment_externalOptions {place place' fileFormat : String}
    (hformat : Fixed fileFormat) (ha : externalOptions settings place fileFormat = .ok a)
    (ha' : externalOptions settings place' fileFormat = .ok a') :
    Fragment a a' [place] [place'] := by
  simp only [externalOptions, bind_eq_ok_iff, pure_eq_ok_iff] at ha ha'
  obtain ⟨source, hsource, rfl⟩ := ha
  obtain ⟨source', hsource', rfl⟩ := ha'
  obtain rfl := result_unique hsource hsource'
  have hhead := (fixed_plainName hsource).piece.behind (p := "WITH (\n    DATA_SOURCE = ") rfl
  have hplace := hhead.link (p := ",\n    LOCATION = ") rfl (Piece.literal place place')
  have hfile := hplace.link (p := ",\n    FILE_FORMAT = ") rfl hformat.piece
  exact hfile.append_fixed (.words rfl)

private theorem piece_columnDefinition {c c' : ColumnDefinition} (hc : c.Consistent)
    (hraw : c.WithoutRawSql) (h : c.Alike c') (ha : columnDefinition c = .ok a)
    (ha' : columnDefinition c' = .ok a') : Piece a a' [] [] := by
  cases h with | @intro v' _
  -- the default value is not written
  obtain rfl : a = a' := result_unique (x := columnDefinition c) ha ha'
  simp only [columnDefinition, bind_eq_ok_iff, pure_eq_ok_iff] at ha
  obtain ⟨name, hname, rfl⟩ := ha
  have htype := (fixed_quoteName hname).link (p := " ") rfl (Fragment.dataType hraw.dataType).piece
  exact (htype.append (fixed_collation hc)).piece

private theorem piece_columnDefinitions {columns columns' : List ColumnDefinition}
    (hcolumns : ∀ c ∈ columns, c.Consistent) (hraw : ∀ c ∈ columns, c.WithoutRawSql)
    (h : List.Forall₂ ColumnDefinition.Alike columns columns')
    (ha : columnDefinitions columns = .ok a) (ha' : columnDefinitions columns' = .ok a') :
    Piece a a' [] [] := by
  simp only [columnDefinitions, bind_eq_ok_iff, pure_eq_ok_iff] at ha ha'
  obtain ⟨items, hitems, rfl⟩ := ha
  obtain ⟨items', hitems', rfl⟩ := ha'
  have hpieces := pieces_mapM_fixed h
    (fun c hc c' h _ _ => piece_columnDefinition (hcolumns c hc) (hraw c hc) h) hitems hitems'
  exact hpieces.intercalate rfl

theorem quote_not_mem_targetName {target : Target} {name : String}
    (h : targetName settings target = .ok name) : '\'' ∉ name.toList := by
  obtain ⟨⟨hschema, hobject⟩, rfl⟩ := qualifiedName_eq_ok_iff.mp h
  simp [Sql.not_mem_of_conforms hschema, Sql.not_mem_of_conforms hobject]

theorem dropIfExists_eq {name : String} (h : '\'' ∉ name.toList) : dropIfExists name =
    "IF EXISTS (SELECT * FROM sys.external_tables WHERE object_id = OBJECT_ID(" ++
      Literal.quote name ++ "))\n    DROP EXTERNAL TABLE " ++ name := by
  refine congrArg (· ++ name) (Sql.quote_between ?_ h ?_)
  all_goals decide +kernel

private theorem fixed_dropIfExists {target : Target} {name : String}
    (h : targetName settings target = .ok name) : Fixed (dropIfExists name) := by
  rw [dropIfExists_eq (quote_not_mem_targetName h)]
  exact ((Piece.fixedLiteral name).behind rfl).link rfl (fixed_targetName h).piece

private theorem fragment_createBody {t t' : CreateTable} {name fileFormat : String}
    (ht : t.Consistent) (hraw : (Statement.createTable t).WithoutRawSql) (h : t.Alike t')
    (hname : Fixed name) (hformat : Fixed fileFormat)
    (ha : createBody settings t name fileFormat = .ok a)
    (ha' : createBody settings t' name fileFormat = .ok a') :
    Fragment a a' [location settings t] [location settings t'] := by
  obtain ⟨hquery, hcolumns⟩ := hraw
  cases h with | @intro columns place properties halike _ _
  unfold createBody at ha ha'
  cases hsource : t.sourceTable with
  | some source =>
    simp only [hquery, hsource, bind_eq_ok_iff, pure_eq_ok_iff, named_eq_ok_iff] at ha ha'
    obtain ⟨options, hoptions, table, htable, rfl⟩ := ha
    obtain ⟨options', hoptions', table', htable', rfl⟩ := ha'
    obtain rfl := result_unique htable htable'
    have hhead := hname.piece.behind (p := "CREATE EXTERNAL TABLE ") rfl
    have hbroken := hhead.append (.words (p := "\n") rfl)
    have hplaced := hbroken.append (fragment_externalOptions hformat hoptions hoptions')
    exact (hplaced.append_fixed (.words rfl)).append_fixed (fixed_qualifyDotted htable)
  | none =>
    simp only [hquery, hsource, guard_eq_ok_iff, bind_eq_ok_iff, pure_eq_ok_iff,
      named_eq_ok_iff] at ha ha'
    obtain ⟨-, defs, hdefs, options, hoptions, rfl⟩ := ha
    obtain ⟨-, defs', hdefs', options', hoptions', rfl⟩ := ha'
    have hlist := piece_columnDefinitions ht.columns hcolumns halike hdefs hdefs'
    have hhead := hname.piece.behind (p := "CREATE EXTERNAL TABLE ") rfl
    have hlisted := hhead.link (p := " (\n    ") rfl hlist
    have hclosed := hlisted.append_fixed (.words (p := "\n)\n") rfl)
    exact hclosed.append (fragment_externalOptions hformat hoptions hoptions')

theorem fragment_createTable {t t' : CreateTable} (ht : t.Consistent)
    (hraw : (Statement.createTable t).WithoutRawSql) (h : t.Alike t')
    (ha : createTable settings t = .ok a) (ha' : createTable settings t' = .ok a') :
    Fragment a a' (writtenTexts settings (.createTable t))
      (writtenTexts settings (.createTable t')) := by
  simp only [createTable, bind_eq_ok_iff, pure_eq_ok_iff, named_eq_ok_iff] at ha ha'
  obtain ⟨name, hname, format, hformat, body, hbody, rfl⟩ := ha
  obtain ⟨name', hname', format', hformat', body', hbody', rfl⟩ := ha'
  have hrecreate : t'.recreate = t.recreate := by
    cases h
    rfl
  have hnames : name' = name := by
    cases h
    exact result_unique hname' hname
  have hformats : format' = format := by
    cases h
    exact result_unique hformat' hformat
  subst hnames hformats
  rw [hrecreate]
  have hbodies := fragment_createBody ht hraw h (fixed_targetName hname)
    (fixed_fileFormatName hformat) hbody hbody'
  split
  · have hdrop := (fixed_dropIfExists hname).append_fixed (.words (p := ";\n") rfl)
    exact hdrop.append hbodies
  · exact hbodies

theorem fixed_dropTable {t : DropTable} (h : dropTable settings t = .ok a) : Fixed a := by
  simp only [dropTable, bind_eq_ok_iff, pure_eq_ok_iff, named_eq_ok_iff] at h
  obtain ⟨name, hname, rfl⟩ := h
  split
  · exact fixed_dropIfExists hname
  · exact (fixed_targetName hname).piece.behind rfl

private theorem fixed_guarded {condition statement : String} (schema : String)
    (hcondition : Fixed condition) (hstatement : Fixed statement) :
    Fixed (guarded condition schema statement) := by
  have hhead := (hcondition.piece.behind (p := "IF ") rfl).link
    (p := " (SELECT * FROM sys.schemas WHERE name = ") rfl (.fixedLiteral schema)
  have hbody := hhead.link (p := ")\nBEGIN\n    ") rfl hstatement.piece
  exact hbody.append_fixed (.words rfl)

private theorem fixed_authorizationText {owner : Option String}
    (h : authorizationText owner = .ok a) : Fixed a := by
  cases owner with
  | none =>
    cases h
    exact .words rfl
  | some owner =>
    simp only [authorizationText, bind_eq_ok_iff, pure_eq_ok_iff] at h
    obtain ⟨name, hname, rfl⟩ := h
    exact (fixed_quoteName hname).piece.behind rfl

theorem fixed_createSchema {s : CreateSchema} (h : createSchema s = .ok a) : Fixed a := by
  simp only [createSchema, bind_eq_ok_iff, pure_eq_ok_iff, named_eq_ok_iff] at h
  obtain ⟨schema, hschema, owner, howner, rfl⟩ := h
  have hhead := (fixed_quoteName hschema).piece.behind (p := "CREATE SCHEMA ") rfl
  have hcreate := hhead.append (fixed_authorizationText howner)
  split
  · exact fixed_guarded _ (.words rfl) hcreate
  · exact hcreate

theorem fixed_dropSchema {s : DropSchema} (h : dropSchema s = .ok a) : Fixed a := by
  simp only [dropSchema, bind_eq_ok_iff, pure_eq_ok_iff, named_eq_ok_iff] at h
  obtain ⟨schema, hschema, rfl⟩ := h
  have hdrop := (fixed_quoteName hschema).piece.behind (p := "DROP SCHEMA ") rfl
  split
  · exact fixed_guarded _ (.words rfl) hdrop
  · exact hdrop

theorem fixed_createStatistics {s : CreateStatistics} (h : createStatistics settings s = .ok a) :
    Fixed a := by
  simp only [createStatistics, bind_eq_ok_iff, pure_eq_ok_iff, named_eq_ok_iff] at h
  obtain ⟨name, hname, statistics, hstatistics, columns, hcolumns, rfl⟩ := h
  exact fixed_statisticsText s (fixed_statisticsName hstatistics) rfl (fixed_targetName hname)
    (piece_columnList hcolumns) (.words rfl) rfl

end

end LakehouseSql.Synapse
