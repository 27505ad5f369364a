import LakehouseSql.Proofs.Render.Naming
import LakehouseSql.Proofs.Sql.Listing
import LakehouseSql.Proofs.Sql.Name
import LakehouseSql.Proofs.Sql.Value
import LakehouseSql.Proofs.Statement.Consistency
/-! # Written names and lists as fragments

What a renderer writes is a fragment: names because they are checked, values because texts stand in
quotes. So are the statements that the platforms share, if they hold no trusted text. Names and
lists of columns are also read back from what is written.
-/
namespace LakehouseSql.Render
open Identifier (Conforms)
open Sql (Fixed Fragment Piece Pieces)

section
variable {settings : Settings} {role name a a' : String} {ts ts' : List String}

theorem quoteName_eq_ok_iff : quoteName role name = .ok a ↔
    Conforms .sql name ∧ "[" ++ name ++ "]" = a := by
  simp [quoteName]

theorem plainName_eq_ok_iff : plainName role name = .ok a ↔ Conforms .sql name ∧ name = a := by
  simp [plainName]

theorem qualifiedName_eq_ok_iff {schema object : String} :
    qualifiedName settings schema object = .ok a ↔ Writable settings schema object ∧
      "[" ++ schema ++ "]" ++ "." ++ ("[" ++ settings.physicalName schema object ++ "]") = a := by
  simp [qualifiedName, quoteName_eq_ok_iff, Writable, and_assoc]

theorem columnList_eq_ok_iff {columns : List String} : columnList columns = .ok a ↔
    (∀ c ∈ columns, Conforms .sql c) ∧
      commaSeparated (columns.map fun c => "[" ++ c ++ "]") = a := by
  simp only [columnList, bind_eq_ok_iff, pure_eq_ok_iff,
    mapM_eq_ok_iff fun _ _ => quoteName_eq_ok_iff]
  constructor
  · rintro ⟨_, ⟨hcolumns, rfl⟩, rfl⟩
    exact ⟨hcolumns, rfl⟩
  · rintro ⟨hcolumns, rfl⟩
    exact ⟨_, ⟨hcolumns, rfl⟩, rfl⟩

/-- Columns that are listed in parentheses. -/
def listedColumns (columns : List String) : String :=
  " (" ++ commaSeparated (columns.map fun c => "[" ++ c ++ "]") ++ ")"

theorem parenthesizedColumns_eq_ok_iff {columns : List String} (hne : columns ≠ []) :
    parenthesizedColumns columns = .ok a ↔
      (∀ c ∈ columns, Conforms .sql c) ∧ listedColumns columns = a := by
  have hfilled : columns.isEmpty = false := by simpa using hne
  simp only [parenthesizedColumns, hfilled, Bool.false_eq_true, if_false, bind_eq_ok_iff,
    pure_eq_ok_iff, columnList_eq_ok_iff]
  constructor
  · rintro ⟨_, ⟨hcolumns, rfl⟩, rfl⟩
    exact ⟨hcolumns, rfl⟩
  · rintro ⟨hcolumns, rfl⟩
    exact ⟨_, ⟨hcolumns, rfl⟩, rfl⟩

theorem fixed_quoteName (h : quoteName role name = .ok a) : Fixed a := by
  obtain ⟨hname, rfl⟩ := quoteName_eq_ok_iff.mp h
  exact .bracketed hname

theorem fixed_plainName (h : plainName role name = .ok a) : Fixed a := by
  obtain ⟨hname, rfl⟩ := plainName_eq_ok_iff.mp h
  exact .bare hname

theorem fixed_qualifiedName {schema object : String}
    (h : qualifiedName settings schema object = .ok a) : Fixed a := by
  obtain ⟨⟨hschema, hobject⟩, rfl⟩ := qualifiedName_eq_ok_iff.mp h
  exact (Fragment.bracketed hschema).link (p := ".") rfl (Fragment.bracketed hobject).piece

theorem fixed_targetName {target : Target} (h : targetName settings target = .ok a) : Fixed a :=
  fixed_qualifiedName h

theorem fixed_qualifyDotted (h : qualifyDotted settings name = .ok a) : Fixed a := by
  unfold qualifyDotted at h
  split at h
  · exact fixed_qualifiedName h
  · exact fixed_quoteName h

theorem pieces_mapM {ε α : Type} {R : α → α → Prop} {f : α → Except ε String}
    {texts : α → List String} {l l' : List α} {as as' : List String} (h : List.Forall₂ R l l')
    (hf : ∀ x ∈ l, ∀ x', R x x' → ∀ a a', f x = .ok a → f x' = .ok a' →
      Piece a a' (texts x) (texts x'))
    (has : l.mapM f = .ok as) (has' : l'.mapM f = .ok as') :
    Pieces as as' (l.flatMap texts) (l'.flatMap texts) := by
  induction h generalizing as as' with
  | nil =>
    cases has
    cases has'
    exact .nil
  | cons hx _ ih =>
    simp only [List.mapM_cons, bind_eq_ok_iff, pure_eq_ok_iff] at has has'
    obtain ⟨a, ha, as, has, rfl⟩ := has
    obtain ⟨a', ha', as', has', rfl⟩ := has'
    obtain ⟨hfirst, hrest⟩ := List.forall_mem_cons.mp hf
    exact .cons (hfirst _ hx a a' ha ha') (ih hrest has has')

theorem pieces_mapM_fixed {ε α : Type} {R : α → α → Prop} {f : α → Except ε String}
    {l l' : List α} {as as' : List String} (h : List.Forall₂ R l l')
    (hf : ∀ x ∈ l, ∀ x', R x x' → ∀ a a', f x = .ok a → f x' = .ok a' → Piece a a' [] [])
    (has : l.mapM f = .ok as) (has' : l'.mapM f = .ok as') : Pieces as as' [] [] := by
  have hnone (l : List α) : l.flatMap (fun _ => ([] : List String)) = [] :=
    List.flatMap_eq_nil_iff.mpr fun _ _ => rfl
  have hpieces : Pieces as as' (l.flatMap fun _ => []) (l'.flatMap fun _ => []) :=
    pieces_mapM h hf has has'
  rwa [hnone, hnone] at hpieces

theorem piece_columnList {columns : List String} (h : columnList columns = .ok a) :
    Piece a a [] [] := by
  simp only [columnList, bind_eq_ok_iff, pure_eq_ok_iff] at h
  obtain ⟨names, hnames, rfl⟩ := h
  have hsame : List.Forall₂ Eq columns columns := List.forall₂_same.mpr fun _ _ => rfl
  refine (pieces_mapM_fixed hsame ?_ hnames hnames).intercalate rfl
  rintro column - _ rfl b b' hb hb'
  obtain rfl := result_unique hb hb'
  exact (fixed_quoteName hb).piece

theorem fixed_parenthesizedColumns {columns : List String}
    (h : parenthesizedColumns columns = .ok a) : Fixed a := by
  unfold parenthesizedColumns at h
  split at h
  · cases h
    exact .words rfl
  · simp only [bind_eq_ok_iff, pure_eq_ok_iff] at h
    obtain ⟨list, hlist, rfl⟩ := h
    exact ((piece_columnList hlist).behind (p := " (") rfl).append_fixed (.words rfl)

theorem piece_assignments {d d' : Dictionary SqlValue} (h : d.Alike d') (hd : d.IsData)
    (ha : assignments d "" = .ok a) (ha' : assignments d' "" = .ok a') :
    Piece a a' (d.values.flatMap SqlValue.texts) (d'.values.flatMap SqlValue.texts) := by
  simp only [assignments, bind_eq_ok_iff, pure_eq_ok_iff] at ha ha'
  obtain ⟨items, hitems, rfl⟩ := ha
  obtain ⟨items', hitems', rfl⟩ := ha'
  rw [Dictionary.values, Dictionary.values, List.flatMap_map, List.flatMap_map]
  refine (pieces_mapM h ?_ hitems hitems').intercalate rfl
  rintro ⟨column, v⟩ hentry ⟨column', v'⟩ ⟨rfl, hv⟩ b b' hb hb'
  simp only [assignment, bind_eq_ok_iff, pure_eq_ok_iff] at hb hb'
  obtain ⟨quoted, hquoted, rfl⟩ := hb
  obtain ⟨quoted', hquoted', rfl⟩ := hb'
  obtain rfl := result_unique hquoted hquoted'
  have hdata : v.IsData := hd v (List.mem_map.mpr ⟨_, hentry, rfl⟩)
  have hcolumn := (Fragment.words (p := "") rfl).append (fixed_quoteName hquoted)
  exact (hcolumn.link (p := " = ") rfl (.value hv hdata)).piece

theorem fixed_collation {c : ColumnDefinition} (hc : c.Consistent) :
    Fixed (whenGiven (" COLLATE " ++ ·) c.collation) := by
  have hname := hc.collation
  cases hcollation : c.collation with
  | none => exact .words rfl
  | some name => exact (Fragment.collation (hname name hcollation)).piece.behind rfl

end

section
variable {settings : Settings} {a : String}

private theorem fixed_topText (s : Select) : Fixed (topText s) := by
  unfold topText
  split
  · exact (Fragment.natural _).piece.behind (p := " TOP ") rfl
  · exact .words rfl

private theorem piece_selectedColumns {columns : List String}
    (h : selectedColumns columns = .ok a) : Piece a a [] [] := by
  unfold selectedColumns at h
  split at h
  · cases h
    exact (Fragment.words rfl).piece
  · exact piece_columnList h

private theorem fixed_groupText {s : Select} (hs : s.having = none)
    (h : groupText s = .ok a) : Fixed a := by
  unfold groupText at h
  split at h
  · cases h
    exact .words rfl
  · simp only [hs, whenGiven, String.append_empty, bind_eq_ok_iff, pure_eq_ok_iff] at h
    obtain ⟨list, hlist, rfl⟩ := h
    exact (piece_columnList hlist).behind (p := " GROUP BY ") rfl

private theorem fixed_orderText {s : Select} (hs : s.orderBy = []) : Fixed (orderText s) := by
  simp only [orderText, hs, List.isEmpty_nil, Bool.not_true, Bool.false_eq_true, if_false]
  split
  · exact .words rfl
  · exact .words rfl

private theorem fixed_offsetText (s : Select) : Fixed (offsetText s) := by
  unfold offsetText
  split
  · exact .words rfl
  · have hhead (n : Nat) : Fixed (" OFFSET " ++ toString n ++ " ROWS") :=
      ((Fragment.natural n).piece.behind (p := " OFFSET ") rfl).append_fixed (.words rfl)
    refine (hhead _).append_fixed ?_
    cases s.limit with
    | none => exact .words rfl
    | some limit =>
      exact ((Fragment.natural _).piece.behind (p := " FETCH NEXT ") rfl).append_fixed
        (.words rfl)

theorem fixed_select {s : Select} (hs : (Statement.select s).WithoutRawSql)
    (h : select settings s = .ok a) : Fixed a := by
  obtain ⟨hwhere, hjoin, hhaving, horder⟩ := hs
  simp only [select, hwhere, hjoin, whenGiven, String.append_empty, bind_eq_ok_iff, pure_eq_ok_iff,
    named_eq_ok_iff] at h
  obtain ⟨columns, hcolumns, name, hname, groups, hgroups, rfl⟩ := h
  have hword : Fixed ("SELECT" ++ if s.distinct then " DISTINCT" else "") := by
    split <;> exact .words rfl
  have hhead := (hword.append (fixed_topText s)).link (p := " ") rfl
    (piece_selectedColumns hcolumns)
  have hfrom := hhead.link (p := " FROM ") rfl (fixed_targetName hname).piece
  exact ((hfrom.append (fixed_groupText hhaving hgroups)).append (fixed_orderText horder)).append
    (fixed_offsetText s)

theorem fixed_dropView {v : DropView} (h : dropView settings v = .ok a) : Fixed a := by
  simp only [dropView, bind_eq_ok_iff, pure_eq_ok_iff, named_eq_ok_iff] at h
  obtain ⟨name, hname, rfl⟩ := h
  split <;> exact (fixed_targetName hname).piece.behind rfl

theorem fixed_statisticsText {statistics name columns on full sample : String}
    (s : CreateStatistics) (hstatistics : Fixed statistics) (hon : Sql.isLead on = true)
    (hname : Fixed name) (hcolumns : Piece columns columns [] []) (hfull : Fixed full)
    (hsample : Sql.isLead sample = true) :
    Fixed ("CREATE STATISTICS " ++ statistics ++ on ++ name ++ " (" ++ columns ++ ")" ++
      if s.fullScan then full
      else whenGiven (fun p => sample ++ SqlValue.numberText p ++ " PERCENT") s.samplePercent) := by
  have hword := hstatistics.piece.behind (p := "CREATE STATISTICS ") rfl
  have htable := hword.link hon hname.piece
  have hlisted := htable.link (p := " (") rfl hcolumns
  refine (hlisted.append_fixed (.words (p := ")") rfl)).append ?_
  split
  · exact hfull
  · cases s.samplePercent with
    | none => exact .words rfl
    | some p => exact ((Piece.number p).behind hsample).append_fixed (.words rfl)

theorem fixed_statisticsName {s : CreateStatistics} (h : statisticsName s = .ok a) : Fixed a :=
  fixed_quoteName h

end

section
open Sql (Parts Reads)

variable {settings : Settings} {a : String}

theorem reads_qualifiedName {schema object : String}
    (h : qualifiedName settings schema object = .ok a) :
    Reads a [.name schema, .sign '.', .name (settings.physicalName schema object)] := by
  obtain ⟨⟨hschema, hobject⟩, rfl⟩ := qualifiedName_eq_ok_iff.mp h
  have hpoint : Parts "." [.sign '.'] := .words rfl (by decide +kernel)
  have hread (n : String) (hn : Conforms .sql n) : Reads ("[" ++ n ++ "]") [.name n] :=
    .name (Sql.not_mem_of_conforms hn).1
  exact ((hread _ hschema).close hpoint).append (hread _ hobject)

theorem reads_parenthesizedColumns {columns : List String} (hne : columns ≠ [])
    (h : parenthesizedColumns columns = .ok a) :
    ∃ toks, Parts a toks ∧ Sql.IsList Sql.readName columns toks := by
  obtain ⟨hcolumns, rfl⟩ := (parenthesizedColumns_eq_ok_iff hne).mp h
  have hopen : Parts " (" [.sign '('] := .words rfl (by decide +kernel)
  exact Sql.reads_columns hopen hne fun c hc => (Sql.not_mem_of_conforms (hcolumns c hc)).1

end

end LakehouseSql.Render
