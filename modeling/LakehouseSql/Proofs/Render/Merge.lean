import LakehouseSql.Proofs.Render.Fragment.Common
import LakehouseSql.Proofs.Sql.Value
import LakehouseSql.Render.Fabric
/-! # Clauses of a merge

What a merge asks for is written below three lines about what is merged into what: one line for each
action and no other, in the order that T-SQL wants. Columns stand in their order, each with its own
value.
-/
namespace LakehouseSql
open Identifier (Conforms)
open Text (Unbroken below)

/-- The text that a value is made of has no line break. -/
def SqlValue.Unbroken : SqlValue → Prop
  | .text s | .expression s => Text.Unbroken s
  | _ => True

instance : (v : SqlValue) → Decidable v.Unbroken
  | .text s | .expression s => inferInstanceAs (Decidable (Text.Unbroken s))
  | .null | .bool _ | .integer _ | .float _ => inferInstanceAs (Decidable True)

/-- An action of a merge, with what it needs. -/
inductive MergeClause where
  | deleteMatched (condition : String)
  | updateMatched (changes : Dictionary SqlValue)
  | insertUnmatched (row : Dictionary SqlValue)
  | updateBySource (changes : Dictionary SqlValue)
  | deleteBySource

namespace MergeClause

/-- The text assigns to a column of the target its own value. -/
def Assigns (changes : Dictionary SqlValue) (column text : String) : Prop :=
  ∃ v, changes.get? column = some v ∧ text = "target.[" ++ column ++ "] = " ++ v.sql

/-- The cell is the name of a column with its own value. -/
def Fills (row : Dictionary SqlValue) (column : String) (cell : String × String) : Prop :=
  ∃ v, row.get? column = some v ∧ cell = ("[" ++ column ++ "]", v.sql)

/-- The line on which an action is asked for. -/
inductive Line : MergeClause → String → Prop where
  | deleteMatched (condition : String) :
    Line (.deleteMatched condition) ("WHEN MATCHED AND " ++ condition ++ " THEN DELETE")
  | updateMatched {changes : Dictionary SqlValue} {parts : List String}
    (h : List.Forall₂ (Assigns changes) changes.keys parts) :
    Line (.updateMatched changes)
      ("WHEN MATCHED THEN UPDATE SET " ++ String.intercalate ", " parts)
  | insertUnmatched {row : Dictionary SqlValue} {cells : List (String × String)}
    (h : List.Forall₂ (Fills row) row.keys cells) :
    Line (.insertUnmatched row)
      ("WHEN NOT MATCHED THEN INSERT (" ++ String.intercalate ", " (cells.map (·.1)) ++
        ") VALUES (" ++ String.intercalate ", " (cells.map (·.2)) ++ ")")
  | updateBySource {changes : Dictionary SqlValue} {parts : List String}
    (h : List.Forall₂ (Assigns changes) changes.keys parts) :
    Line (.updateBySource changes)
      ("WHEN NOT MATCHED BY SOURCE THEN UPDATE SET " ++ String.intercalate ", " parts)
  | deleteBySource : Line .deleteBySource "WHEN NOT MATCHED BY SOURCE THEN DELETE"

end MergeClause

/-- The actions that are asked for. Matched rows are deleted under a condition, so this comes before
they are all changed. -/
def MergeActions.requested (a : MergeActions) : List MergeClause :=
  (a.matchedDelete.map .deleteMatched).toList ++ (a.matchedUpdate.map .updateMatched).toList ++
    (a.notMatchedInsert.map .insertUnmatched).toList ++
    ((a.bySourceUpdate.map .updateBySource).toList ++
      if a.bySourceDelete then [.deleteBySource] else [])

/-- No text of the merge has a line break. -/
structure Merge.Unbroken (m : Merge) : Prop where
  sourceQuery : Text.Unbroken m.sourceQuery
  condition : Text.Unbroken m.condition
  matchedDelete : ∀ t ∈ m.actions.matchedDelete, Text.Unbroken t
  matchedUpdate : ∀ d ∈ m.actions.matchedUpdate, ∀ v ∈ d.values, v.Unbroken
  notMatchedInsert : ∀ d ∈ m.actions.notMatchedInsert, ∀ v ∈ d.values, v.Unbroken
  bySourceUpdate : ∀ d ∈ m.actions.bySourceUpdate, ∀ v ∈ d.values, v.Unbroken

theorem SqlValue.Unbroken.sql {v : SqlValue} (h : v.Unbroken) : Text.Unbroken v.sql := by
  cases v with
  | null => decide
  | bool b => cases b <;> decide
  | integer n => exact Sql.unbroken_integer n.toInt
  | float x =>
    simp only [SqlValue.sql]
    split
    · exact Sql.unbroken_number x
    · decide
  | text s => exact Text.Unbroken.quote h
  | expression sql => exact h

namespace Fabric
open Render
open MergeClause (Assigns Fills Line)

variable {settings : Settings} {a b sql : String} {d : Dictionary SqlValue}

private def Written (clauses : List MergeClause) (a : String) : Prop :=
  ∃ ls, a = below ls ∧ (∀ l ∈ ls, Unbroken l) ∧ List.Forall₂ Line clauses ls

private theorem Written.nil : Written [] "" :=
  ⟨[], rfl, nofun, .nil⟩

private theorem Written.line {clause : MergeClause} (h : Line clause b) (hb : Unbroken b)
    (ha : a = "\n" ++ b) : Written [clause] a :=
  ⟨[b], by simpa [Text.below_cons] using ha, by simpa using hb, .cons h .nil⟩

private theorem Written.append {clauses others : List MergeClause} (ha : Written clauses a)
    (hb : Written others b) : Written (clauses ++ others) (a ++ b) := by
  obtain ⟨ls, rfl, hls, hlines⟩ := ha
  obtain ⟨ms, rfl, hms, hmore⟩ := hb
  refine ⟨ls ++ ms, (Text.below_append ls ms).symm, fun l hl => ?_, List.rel_append hlines hmore⟩
  exact (List.mem_append.mp hl).elim (hls l) (hms l)

private theorem assignment_eq_ok_iff {qualifier : String} {entry : String × SqlValue} :
    assignment qualifier entry = .ok a ↔ Conforms .sql entry.1 ∧
      qualifier ++ ("[" ++ entry.1 ++ "]") ++ " = " ++ entry.2.sql = a := by
  simp [assignment, quoteName_eq_ok_iff, and_assoc]

private theorem exists_parts (hd : ∀ v ∈ d.values, v.Unbroken)
    (h : assignments d "target." = .ok a) :
    ∃ parts, a = String.intercalate ", " parts ∧ (∀ p ∈ parts, Unbroken p) ∧
      List.Forall₂ (Assigns d) d.keys parts := by
  simp only [assignments, bind_eq_ok_iff, pure_eq_ok_iff] at h
  obtain ⟨parts, hparts, rfl⟩ := h
  obtain ⟨hnames, rfl⟩ := (mapM_eq_ok_iff fun _ _ => assignment_eq_ok_iff).mp hparts
  refine ⟨_, rfl, List.forall_mem_map.mpr fun entry hentry => ?_, ?_⟩
  · have hname := Sql.unbroken_of_conforms (hnames entry hentry)
    have hvalue := (hd entry.2 (List.mem_map_of_mem hentry)).sql
    simp +decide [hname, hvalue]
  · refine Dictionary.forall₂_keys fun c v hv => ⟨v, hv, ?_⟩
    ext
    simp

private theorem written_update {assigned : Option (Dictionary SqlValue)}
    {clause : Dictionary SqlValue → MergeClause} {head words : String}
    (hclause : ∀ d parts, List.Forall₂ (Assigns d) d.keys parts →
      Line (clause d) (words ++ String.intercalate ", " parts))
    (hwords : Unbroken words) (hhead : head ++ " THEN UPDATE SET " = "\n" ++ words)
    (hvalues : ∀ d ∈ assigned, ∀ v ∈ d.values, v.Unbroken) (h : updateText head assigned = .ok a) :
    Written (assigned.map clause).toList a := by
  cases assigned with
  | none =>
    cases h
    exact .nil
  | some d =>
    simp only [updateText, bind_eq_ok_iff, pure_eq_ok_iff] at h
    obtain ⟨list, hlist, rfl⟩ := h
    obtain ⟨parts, rfl, hunbroken, hparts⟩ := exists_parts (hvalues d rfl) hlist
    refine .line (hclause d parts hparts) ?_ (by rw [hhead, String.append_assoc])
    exact Text.unbroken_append.mpr ⟨hwords, .intercalate (by decide) hunbroken⟩

private theorem written_insert {inserted : Option (Dictionary SqlValue)}
    (hvalues : ∀ d ∈ inserted, ∀ v ∈ d.values, v.Unbroken) (h : insertText inserted = .ok a) :
    Written (inserted.map MergeClause.insertUnmatched).toList a := by
  cases inserted with
  | none =>
    cases h
    exact .nil
  | some d =>
    simp only [insertText, bind_eq_ok_iff, pure_eq_ok_iff, columnList_eq_ok_iff] at h
    obtain ⟨_, ⟨hcolumns, rfl⟩, rfl⟩ := h
    let cells := d.entries.map fun entry => ("[" ++ entry.1 ++ "]", entry.2.sql)
    have hcells : List.Forall₂ (Fills d) d.keys cells :=
      Dictionary.forall₂_keys fun c v hv => ⟨v, hv, rfl⟩
    have hnames : d.keys.map (fun c => "[" ++ c ++ "]") = cells.map (·.1) := by
      simp [cells, Dictionary.keys, Function.comp_def]
    have hsqls : d.values.map SqlValue.sql = cells.map (·.2) := by
      simp [cells, Dictionary.values, Function.comp_def]
    have hname : ∀ n ∈ cells.map (·.1), Unbroken n := by
      rw [← hnames]
      refine List.forall_mem_map.mpr fun c hc => ?_
      simpa +decide using Sql.unbroken_of_conforms (hcolumns c hc)
    have hsql : ∀ v ∈ cells.map (·.2), Unbroken v := by
      rw [← hsqls]
      exact List.forall_mem_map.mpr fun v hv => (hvalues d rfl v hv).sql
    have hlists : Unbroken (String.intercalate ", " (cells.map (·.1))) ∧
        Unbroken (String.intercalate ", " (cells.map (·.2))) :=
      ⟨.intercalate (by decide) hname, .intercalate (by decide) hsql⟩
    refine .line (.insertUnmatched hcells) ?_ ?_
    · simp +decide only [Text.unbroken_append, hlists, and_true]
    · rw [hnames, hsqls]
      ext
      simp [commaSeparated]

private theorem written_delete {condition : Option String} (h : ∀ t ∈ condition, Unbroken t) :
    Written (condition.map MergeClause.deleteMatched).toList
      (whenGiven ("\nWHEN MATCHED AND " ++ · ++ " THEN DELETE") condition) := by
  cases condition with
  | none => exact .nil
  | some t =>
    have ht : Unbroken t := h t rfl
    refine .line (.deleteMatched t) (by simp +decide [ht]) ?_
    ext
    simp [whenGiven]

private theorem written_bySource {m : MergeActions}
    (hone : ¬(m.bySourceUpdate.isSome ∧ m.bySourceDelete))
    (hvalues : ∀ d ∈ m.bySourceUpdate, ∀ v ∈ d.values, v.Unbroken) (h : bySourceText m = .ok a) :
    Written ((m.bySourceUpdate.map MergeClause.updateBySource).toList ++
      if m.bySourceDelete then [.deleteBySource] else []) a := by
  have hupdate (h : updateText "\nWHEN NOT MATCHED BY SOURCE" m.bySourceUpdate = .ok a) :=
    written_update (fun _ _ hparts => Line.updateBySource hparts) (by decide) (by decide) hvalues h
  unfold bySourceText at h
  cases hdelete : m.bySourceDelete with
  | false =>
    simp only [hdelete, Bool.and_false, Bool.false_eq_true, if_false] at h ⊢
    simpa using hupdate h
  | true =>
    -- not both are asked for, so neither hides the other
    have hnone : m.bySourceUpdate = none := by simpa [hdelete] using hone
    simp only [hdelete, hnone, Option.isNone_none, Bool.and_true, if_true] at h
    cases h
    simpa [hnone] using Written.line .deleteBySource (by decide) (by decide)

private theorem requested_ne_nil {a : MergeActions} (h : a.isEmpty = false) : a.requested ≠ [] := by
  intro hnone
  have hempty : a.isEmpty = true := by
    simpa [MergeActions.requested, MergeActions.isEmpty, and_assoc, and_left_comm] using hnone
  cases h.symm.trans hempty

private theorem merge_eq {m : Merge} (hm : m.actions.Sound) (hu : m.Unbroken)
    (h : merge settings m = .ok sql) :
    Conforms .sql m.target.schema ∧
      Conforms .sql (settings.physicalName m.target.schema m.target.object) ∧
      ∃ clauses, Written m.actions.requested clauses ∧
        sql = "MERGE INTO [" ++ m.target.schema ++ "].[" ++
          settings.physicalName m.target.schema m.target.object ++ "] AS target" ++
          (below ["USING (" ++ m.sourceQuery ++ ") AS source", "ON " ++ m.condition] ++ clauses) ++
          ";" := by
  simp only [merge, bind_eq_ok_iff, pure_eq_ok_iff, named_eq_ok_iff] at h
  obtain ⟨name, hname, matched, hmatched, inserted, hinserted, bySource, hbySource, rfl⟩ := h
  obtain ⟨⟨hschema, hobject⟩, rfl⟩ := qualifiedName_eq_ok_iff.mp hname
  have hdeleted := written_delete hu.matchedDelete
  have hchanged := written_update (fun _ _ hparts => Line.updateMatched hparts) (by decide)
    (by decide) hu.matchedUpdate hmatched
  have hfilled := written_insert hu.notMatchedInsert hinserted
  have hleft := written_bySource hm.bySource hu.bySourceUpdate hbySource
  refine ⟨hschema, hobject, _, ((hdeleted.append hchanged).append hfilled).append hleft, ?_⟩
  ext
  simp [below]

/-- A merge whose texts have no line breaks is written as three lines about what is merged into
what, and below them one line for each action that is asked for, of which the last ends with a
semicolon. -/
theorem merge_on_lines {target : Target} {sourceQuery condition : String} {actions : MergeActions}
    {m : Merge} (hm : Merge.create target sourceQuery condition actions = .ok m)
    (hu : m.Unbroken) (h : (renderer settings).render (.merge m) = .ok sql) :
    ∃ front last, Text.lines sql =
        ["MERGE INTO [" ++ target.schema ++ "].[" ++
            settings.physicalName target.schema target.object ++ "] AS target",
          "USING (" ++ sourceQuery ++ ") AS source", "ON " ++ condition] ++
          front ++ [last ++ ";"] ∧
      List.Forall₂ Line actions.requested (front ++ [last]) := by
  obtain ⟨⟨-, -, hactions⟩, rfl⟩ := Merge.create_eq_ok_iff.mp hm
  obtain ⟨hschema, hobject, _, ⟨ls, rfl, hls, hlines⟩, rfl⟩ := merge_eq hactions hu h
  have hne : ls ≠ [] := by
    rintro rfl
    exact requested_ne_nil hactions.given (List.forall₂_nil_right_iff.mp hlines)
  obtain ⟨front, last, rfl⟩ := (List.eq_nil_or_concat' ls).resolve_left hne
  have hheader : ∀ l ∈ ["USING (" ++ sourceQuery ++ ") AS source", "ON " ++ condition],
      Unbroken l := by
    have hquery : Unbroken sourceQuery := hu.sourceQuery
    have hcondition : Unbroken condition := hu.condition
    simp +decide [hquery, hcondition]
  refine ⟨front, last, ?_, hlines⟩
  rw [← Text.below_append, ← List.append_assoc, Text.lines_append_below_append]
  · rfl
  · simp +decide [Sql.unbroken_of_conforms hschema, Sql.unbroken_of_conforms hobject]
  · rw [List.append_assoc]
    exact List.forall_mem_append.mpr ⟨hheader, hls⟩
  · decide

/-- Rows are deleted, changed, added and, without a source row, deleted. -/
theorem full_merge_on_lines :
    let target : Target := ⟨"silver", "orders", none, none, none⟩
    let changes : Dictionary SqlValue :=
      .ofList [("note", .text "it's"), ("price", .expression "source.price")]
    let row : Dictionary SqlValue := .ofList [("price", .null), ("id", .integer (-7))]
    let actions : MergeActions := ⟨some changes, some "source.gone = 1", some row, none, true⟩
    let query := "SELECT * FROM bronze.orders"
    let m : Merge := ⟨target, query, "target.id = source.id", actions⟩
    let front := ["WHEN MATCHED AND source.gone = 1 THEN DELETE",
      "WHEN MATCHED THEN UPDATE SET target.[note] = 'it''s', target.[price] = source.price",
      "WHEN NOT MATCHED THEN INSERT ([price], [id]) VALUES (NULL, -7)"]
    let last := "WHEN NOT MATCHED BY SOURCE THEN DELETE"
    let sql := "MERGE INTO [silver].[orders] AS target" ++
      below (["USING (SELECT * FROM bronze.orders) AS source", "ON target.id = source.id"] ++
        front ++ [last ++ ";"])
    Merge.create target query "target.id = source.id" actions = .ok m ∧ m.Unbroken ∧
      (renderer .standard).render (.merge m) = .ok sql ∧
      List.Forall₂ Line
        [.deleteMatched "source.gone = 1", .updateMatched changes, .insertUnmatched row,
          .deleteBySource]
        (front ++ [last]) := by
  intro target changes row actions query m front last sql
  have hm : Merge.create target query "target.id = source.id" actions = .ok m := by decide +kernel
  have hu : m.Unbroken := by constructor <;> decide +kernel
  have hsql : (renderer .standard).render (.merge m) = .ok sql := by decide +kernel
  obtain ⟨front', last', hlines, hclauses⟩ := merge_on_lines hm hu hsql
  rw [Text.lines_append_below (by decide +kernel) (by decide +kernel), ← List.cons_append,
    ← List.cons_append] at hlines
  obtain ⟨hfront, hlast⟩ := List.append_inj' hlines rfl
  have hfront : front' = front := (List.append_cancel_left hfront).symm
  have hlast : last' = last := (String.append_left_inj ";").mp (List.singleton_inj.mp hlast).symm
  exact ⟨hm, hu, hsql, hfront ▸ hlast ▸ hclauses⟩

end Fabric

end LakehouseSql
