import LakehouseSql.Proofs.Render.Fragment.Common
import LakehouseSql.Proofs.Sql.Insertion
import LakehouseSql.Render.Fabric
/-! # Inserted rows are read back

An insert of rows, as a Fabric warehouse gets it, is read back: the target, the columns in their
order, and one tuple for each row in the order of the rows. Rows may list their columns in any
order; the value of a column is the row's own, and no column is missing.
-/
namespace LakehouseSql
open Render
open Sql (Closed Constant Insertion Reads Token)

private theorem exists_forall₂ {α β : Type} {R : α → β → Prop} {l : List α}
    (h : ∀ a ∈ l, ∃ b, R a b) : ∃ m, List.Forall₂ R l m := by
  induction l with
  | nil => exact ⟨[], .nil⟩
  | cons a l ih =>
    obtain ⟨⟨b, hb⟩, hrest⟩ := List.forall_mem_cons.mp h
    obtain ⟨m, hm⟩ := ih hrest
    exact ⟨b :: m, .cons hb hm⟩

namespace Dictionary

/-- The tuple holds, column by column, the constant of the row's own value. -/
def HasTuple (columns : List String) (row : Dictionary SqlValue) (tuple : List Constant) : Prop :=
  List.Forall₂ (fun column c => ∃ v, row.get? column = some v ∧ v.constant? = some c) columns tuple

/-- A row without SQL text has a tuple for any columns of its own. -/
theorem exists_hasTuple {columns : List String} {row : Dictionary SqlValue} (hdata : row.IsData)
    (h : ∀ c ∈ columns, c ∈ row.keys) : ∃ tuple, HasTuple columns row tuple := by
  refine exists_forall₂ fun column hcolumn => ?_
  cases hget : row.get? column with
  | none => exact absurd (h column hcolumn) (lookup_eq_none_iff.mp hget)
  | some v =>
    have hentry : (column, v) ∈ row.entries := (lookup_eq_some_iff_mem row.distinct).mp hget
    have hv : v.IsData := hdata v (List.mem_map.mpr ⟨_, hentry, rfl⟩)
    obtain ⟨c, hc⟩ := Option.isSome_iff_exists.mp (SqlValue.constant?_isSome_iff.mpr hv)
    exact ⟨c, v, rfl, hc⟩

end Dictionary

namespace Fabric

variable {settings : Settings} {i : Insert} {rows : List (Dictionary SqlValue)} {sql : String}

private theorem reads_rowText {columns : List String} {row : Dictionary SqlValue}
    {tuple : List Constant} (hne : columns ≠ []) (h : Dictionary.HasTuple columns row tuple) :
    ∃ toks, Reads (rowText columns row) toks ∧ Sql.IsList Sql.readConstant tuple toks := by
  refine Sql.reads_tuple (by simpa using hne) (List.forall₂_map_left_iff.mpr ?_)
  refine h.imp fun column c ⟨v, hv, hc⟩ => ?_
  rw [hv]
  exact Sql.reads_value hc

private theorem reads_sourceText {columns : List String} {tuples : List (List Constant)}
    (hcolumns : columns ≠ []) (hrows : rows ≠ [])
    (h : List.Forall₂ (Dictionary.HasTuple columns) rows tuples) :
    ∃ toks, Reads (sourceText columns (.rows rows)) (.word "VALUES" :: toks) ∧
      Sql.readTuples toks = some tuples := by
  have htexts := h.imp fun _ _ htuple => reads_rowText hcolumns htuple
  obtain ⟨toks, hreads, hread⟩ :=
    Sql.reads_tuples (by simpa using hrows) (List.forall₂_map_left_iff.mpr htexts)
  have hvalues : Closed "\nVALUES " [.word "VALUES"] := .words rfl (by decide +kernel)
  exact ⟨toks, hvalues.append hreads, hread⟩

private theorem ofText?_insert {tuples : List (List Constant)} (hrows : i.source = .rows rows)
    (hne : rows ≠ []) (hcolumns : i.effectiveColumns ≠ [])
    (htuples : List.Forall₂ (Dictionary.HasTuple i.effectiveColumns) rows tuples)
    (h : insert settings i = .ok sql) :
    Insertion.ofText? sql = some ⟨i.mode, i.target.schema,
      settings.physicalName i.target.schema i.target.object, i.effectiveColumns, tuples⟩ := by
  simp only [insert, bind_eq_ok_iff, pure_eq_ok_iff, named_eq_ok_iff, hrows] at h
  obtain ⟨name, hname, columns, hlisted, rfl⟩ := h
  obtain ⟨columnToks, hlist, hcolumnList⟩ := reads_parenthesizedColumns hcolumns hlisted
  obtain ⟨rowToks, hsource, hreadRows⟩ := reads_sourceText hcolumns hne htuples
  -- the words in front are all in which the two modes differ
  have htokens {keyword : String} {toks : List Token} (hkeyword : Closed keyword toks) :=
    (((hkeyword.append (reads_qualifiedName hname)).close hlist).append hsource).tokens_eq
  cases i.mode with
  | append =>
    have hinto : Closed "INSERT INTO " [.word "INSERT", .word "INTO"] :=
      .words rfl (by decide +kernel)
    rw [Insertion.ofText?, htokens hinto]
    simp [Sql.readInsertion, Sql.readInto, hcolumnList _, hreadRows]
  | overwrite =>
    have hinto : Closed "INSERT OVERWRITE " [.word "INSERT", .word "OVERWRITE"] :=
      .words rfl (by decide +kernel)
    rw [Insertion.ofText?, htokens hinto]
    simp [Sql.readInsertion, Sql.readInto, hcolumnList _, hreadRows]

/-- The text of an insert of rows is read back as its target, the columns that it lists and one
tuple for each row, made of the row's own values. -/
theorem inserted_rows_read_back (hi : Insert.lifecycle.Reached i) (hrows : i.source = .rows rows)
    (hkeys : ∀ row ∈ rows, row.keys ≠ []) (hdata : ∀ row ∈ rows, row.IsData)
    (h : (renderer settings).render (.insert i) = .ok sql) :
    ∃ tuples, Insertion.ofText? sql = some ⟨i.mode, i.target.schema,
        settings.physicalName i.target.schema i.target.object, i.effectiveColumns, tuples⟩ ∧
      List.Forall₂ (Dictionary.HasTuple i.effectiveColumns) rows tuples := by
  have hconsistent := Insert.reached_consistent hi
  have hpresent := hconsistent.effectiveColumns_present hrows
  have hne : rows ≠ [] := InsertSource.Sound.rows_ne_nil (hrows ▸ hconsistent.source)
  obtain ⟨tuples, htuples⟩ := exists_forall₂ fun row hrow =>
    Dictionary.exists_hasTuple (hdata row hrow) (hpresent row hrow)
  have hcolumns := Insert.effectiveColumns_ne_nil hrows hne hkeys
  exact ⟨tuples, ofText?_insert hrows hne hcolumns htuples h, htuples⟩

/-- Two rows with their columns in different orders, of which one column is listed twice. -/
theorem reordered_rows_read_back :
    let first : Dictionary SqlValue :=
      .ofList [("id", .integer (-7)), ("note", .text "it's"), ("price", .bool true)]
    let second : Dictionary SqlValue :=
      .ofList [("price", .float (.ofRatio true 5 2)), ("note", .null), ("id", .integer 8)]
    let target : Target := ⟨"silver", "orders", none, none, none⟩
    let i : Insert := ⟨target, .rows [first, second], ["price", "id", "note", "id"], .overwrite⟩
    let sql := "INSERT OVERWRITE [silver].[orders] ([price], [id], [note], [id])\n" ++
      "VALUES (1, -7, 'it''s', -7),\n(-2.5, 8, NULL, 8)"
    let tuples : List (List Constant) :=
      [[.number "1", .number "-7", .text "it's", .number "-7"],
        [.number "-2.5", .number "8", .null, .number "8"]]
    Insert.lifecycle.Reached i ∧ (∀ row ∈ [first, second], row.keys ≠ []) ∧
      (∀ row ∈ [first, second], row.IsData) ∧
      (renderer .standard).render (.insert i) = .ok sql ∧
      Insertion.ofText? sql = some ⟨.overwrite, "silver", "orders", i.effectiveColumns, tuples⟩ ∧
      List.Forall₂ (Dictionary.HasTuple i.effectiveColumns) [first, second] tuples := by
  intro first second target i sql tuples
  have htarget : target.Reached := Lifecycle.reached_of_made ⟨"silver", "orders", rfl⟩
  have hi : Insert.lifecycle.Reached i :=
    ⟨_, [.columns ["price", "id", "note", "id"], .mode .overwrite],
      ⟨target, .rows [first, second], htarget, rfl⟩, rfl⟩
  have hkeys : ∀ row ∈ [first, second], row.keys ≠ [] := by decide +kernel
  have hconstants : ∀ row ∈ [first, second], ∀ v ∈ row.values, v.constant?.isSome := by
    decide +kernel
  have hdata : ∀ row ∈ [first, second], row.IsData := fun row hrow v hv =>
    SqlValue.constant?_isSome_iff.mp (hconstants row hrow v hv)
  have hsql : (renderer .standard).render (.insert i) = .ok sql := by decide +kernel
  have hread : Insertion.ofText? sql =
      some ⟨.overwrite, "silver", "orders", i.effectiveColumns, tuples⟩ := by
    decide +kernel
  obtain ⟨others, hothers, hhas⟩ := inserted_rows_read_back hi rfl hkeys hdata hsql
  cases hread.symm.trans hothers
  exact ⟨hi, hkeys, hdata, hsql, hread, hhas⟩

end Fabric

end LakehouseSql
