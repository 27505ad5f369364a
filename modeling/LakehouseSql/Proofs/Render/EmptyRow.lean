import LakehouseSql.Proofs.Draft.Route
import LakehouseSql.Proofs.Render.Fragment.Common
import LakehouseSql.Render.Fabric
/-! # Inserted rows without columns

Rows that are written out are compared with the first of them, and nothing asks the first row for a
column. So either all rows have columns, and the statement lists columns and values, or none has
any, and the statement lists neither.
-/
namespace LakehouseSql
open Render
open Identifier (Conforms)

namespace Fabric

/-- The words in front of the target. -/
def insertKeyword : InsertMode → String
  | .append => "INSERT INTO "
  | .overwrite => "INSERT OVERWRITE "

section
variable {settings : Settings} {i : Insert} {first : Dictionary SqlValue}
  {rows others : List (Dictionary SqlValue)} {columns : List String} {name : String}

theorem insert_eq_ok (hname : targetName settings i.target = .ok name) {text : String}
    (hcolumns : parenthesizedColumns i.effectiveColumns = .ok text) :
    insert settings i = .ok (insertKeyword i.mode ++ name ++ text ++
      sourceText i.effectiveColumns i.source) := by
  rw [insert, hname, hcolumns]
  cases i.mode <;> rfl

/-- The rows of an insert agree on whether they have columns. -/
theorem keys_eq_nil_iff (hi : i.Consistent) (hrows : i.source = .rows (first :: others)) :
    ∀ row ∈ first :: others, row.keys = [] ↔ first.keys = [] := by
  have hsound := hi.source
  rw [hrows] at hsound
  obtain ⟨_, hfirst, -, hkeys⟩ := hsound
  cases hfirst
  intro row hrow
  simp only [List.eq_nil_iff_forall_not_mem, hkeys row hrow]

/-- An insert lists columns exactly if its first row has some. -/
theorem effectiveColumns_eq_nil_iff (hi : i.Consistent)
    (hrows : i.source = .rows (first :: others)) :
    i.effectiveColumns = [] ↔ first.keys = [] := by
  constructor
  · intro h
    by_contra hfirst
    have hkeys : ∀ row ∈ first :: others, row.keys ≠ [] :=
      fun row hrow hempty => hfirst ((keys_eq_nil_iff hi hrows row hrow).mp hempty)
    exact Insert.effectiveColumns_ne_nil hrows (by simp) hkeys h
  · intro h
    rw [List.eq_nil_iff_forall_not_mem]
    intro c hc
    have hpresent := hi.effectiveColumns_present hrows first List.mem_cons_self c hc
    simp [h] at hpresent

end

/-- The first row of an insert decides. If it has a column, then all rows have, and the statement
lists columns that all rows have, with one value for each in every tuple. If it has none, then no
row has, and the statement is written with empty tuples and without columns. -/
theorem first_row_decides (settings : Settings) {i : Insert} {rows : List (Dictionary SqlValue)}
    {name : String} (hi : (Statement.insert i).Obtained) (hrows : i.source = .rows rows)
    (hname : targetName settings i.target = .ok name) :
    ∃ first others, rows = first :: others ∧
    (first.keys ≠ [] →
      (∀ row ∈ rows, row.keys ≠ []) ∧
      i.effectiveColumns ≠ [] ∧ (∀ row ∈ rows, ∀ c ∈ i.effectiveColumns, c ∈ row.keys) ∧
      (renderer settings).render (.insert i) =
        .ok (insertKeyword i.mode ++ name ++ listedColumns i.effectiveColumns ++ "\nVALUES " ++
          String.intercalate ",\n" (rows.map (rowText i.effectiveColumns)))) ∧
    (first.keys = [] →
      (∀ row ∈ rows, row.keys = []) ∧ i.effectiveColumns = [] ∧
      (renderer settings).render (.insert i) =
        .ok (insertKeyword i.mode ++ name ++ "\nVALUES " ++
          String.intercalate ",\n" (rows.map fun _ => "()"))) := by
  have hconsistent := Insert.reached_consistent hi.insert_reached
  have hsound := hconsistent.source
  rw [hrows] at hsound
  obtain ⟨first, others, rfl⟩ := List.exists_cons_of_ne_nil hsound.rows_ne_nil
  have hsame := keys_eq_nil_iff hconsistent hrows
  have hlisted := effectiveColumns_eq_nil_iff hconsistent hrows
  refine ⟨first, others, rfl, ?_, ?_⟩
  · intro hfirst
    have hcolumns : i.effectiveColumns ≠ [] := mt hlisted.mp hfirst
    have hsql : ∀ c ∈ i.effectiveColumns, Conforms .sql c :=
      fun c hc => (hconsistent.effectiveColumns c hc).sql_of_column
    have hlist := (parenthesizedColumns_eq_ok_iff hcolumns).mpr ⟨hsql, rfl⟩
    refine ⟨fun row hrow => mt (hsame row hrow).mp hfirst, hcolumns,
      hconsistent.effectiveColumns_present hrows, ?_⟩
    refine (insert_eq_ok hname hlist).trans ?_
    rw [hrows, sourceText, ← String.append_assoc]
  · intro hfirst
    have hcolumns : i.effectiveColumns = [] := hlisted.mpr hfirst
    have hnone : parenthesizedColumns i.effectiveColumns = .ok "" := by rw [hcolumns]; rfl
    refine ⟨fun row hrow => (hsame row hrow).mpr hfirst, hcolumns, ?_⟩
    refine (insert_eq_ok hname hnone).trans ?_
    rw [hrows, hcolumns, sourceText, String.append_empty, ← String.append_assoc]
    rfl

/-- Rows that have columns in different orders, and rows that have none. -/
theorem rows_with_and_without_columns :
    let target : Target := ⟨"gold", "orders", none, none, none⟩
    let rows : List (Dictionary SqlValue) :=
      [.ofList [("id", .integer 1), ("open", .bool true)],
        .ofList [("open", .null), ("id", .integer 2)]]
    let filled : Insert := ⟨target, .rows rows, [], .append⟩
    let empty : Insert := ⟨target, .rows [.empty, .empty], [], .overwrite⟩
    (Statement.insert filled).Obtained ∧ (Statement.insert empty).Obtained ∧
    filled.effectiveColumns ≠ [] ∧
    (renderer .standard).render (.insert filled) =
      .ok "INSERT INTO [gold].[orders] ([id], [open])\nVALUES (1, 1),\n(2, NULL)" ∧
    (renderer .standard).render (.insert empty) =
      .ok "INSERT OVERWRITE [gold].[orders]\nVALUES (),\n()" := by
  intro target rows filled empty
  have htarget : target.Reached := Lifecycle.reached_of_made ⟨"gold", "orders", rfl⟩
  have hfilled : (Statement.insert filled).Obtained :=
    .constructed (Lifecycle.reached_of_made ⟨target, .rows rows, htarget, rfl⟩)
  have hmade : Insert.lifecycle.Reached ⟨target, .rows [.empty, .empty], [], .append⟩ :=
    Lifecycle.reached_of_made ⟨target, .rows [.empty, .empty], htarget, rfl⟩
  have hempty : (Statement.insert empty).Obtained :=
    .constructed (hmade.set (Insert.Setter.mode .overwrite) rfl)
  have hname : qualifiedName .standard "gold" "orders" = .ok "[gold].[orders]" := by
    have hphysical : Settings.standard.physicalName "gold" "orders" = "orders" := rfl
    rw [qualifiedName, hphysical]
    rfl
  obtain ⟨_, _, heq, hvalues, -⟩ := first_row_decides .standard hfilled rfl hname
  obtain ⟨_, _, heq', -, hnothing⟩ := first_row_decides .standard hempty rfl hname
  obtain ⟨rfl, rfl⟩ := List.cons.inj heq
  obtain ⟨rfl, rfl⟩ := List.cons.inj heq'
  obtain ⟨-, hcolumns, -, hsql⟩ := hvalues (by decide)
  obtain ⟨-, -, hsql'⟩ := hnothing (by decide)
  exact ⟨hfilled, hempty, hcolumns, hsql.trans rfl, hsql'.trans rfl⟩

/-- A row without columns is accepted. -/
theorem row_without_columns_accepted :
    ¬∀ (i : Insert) (rows : List (Dictionary SqlValue)), (Statement.insert i).Obtained →
      i.source = .rows rows → ∀ row ∈ rows, row.keys ≠ [] := by
  intro h
  let target : Target := ⟨"gold", "orders", none, none, none⟩
  let i : Insert := ⟨target, .rows [.empty], [], .append⟩
  have htarget : target.Reached := Lifecycle.reached_of_made ⟨"gold", "orders", rfl⟩
  have hi : (Statement.insert i).Obtained :=
    .constructed (Lifecycle.reached_of_made ⟨target, .rows [.empty], htarget, rfl⟩)
  exact h i [.empty] hi rfl .empty List.mem_cons_self rfl

end Fabric

end LakehouseSql
