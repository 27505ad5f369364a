import LakehouseSql.Proofs.Decimal.Value
import LakehouseSql.Proofs.Dictionary
import LakehouseSql.Proofs.Statement.Setter
import LakehouseSql.Proofs.Statement.Success
/-! # Consistency of statements

What holds of every value that constructors and setters lead to, in whatever order and however
often the setters are called: its names are identifiers, its texts are not blank, and fields that
exclude or ask for each other agree. The constructors establish it and no setter breaks it.
-/
namespace LakehouseSql
open Identifier (Conforms)

structure Target.Consistent (t : Target) : Prop where
  schema : Conforms .object t.schema
  object : Conforms .object t.object

namespace Target

theorem create_consistent {schema object : String} {t : Target}
    (h : create schema object = .ok t) : t.Consistent := by
  obtain ⟨hs, ho, rfl⟩ := create_eq_ok_iff.mp h
  exact ⟨hs, ho⟩

theorem set_consistent (t : Target) (setter : Setter) (u : Target) (ht : t.Consistent)
    (h : t.set setter = .ok u) : u.Consistent := by
  cases setter with
  | engineHint engine => cases h; exact ⟨ht.schema, ht.object⟩
  | loggingContext context => cases h; exact ⟨ht.schema, ht.object⟩
  | metadata metadata => cases h; exact ⟨ht.schema, ht.object⟩

theorem Reached.consistent {t : Target} (h : t.Reached) : t.Consistent := by
  refine Lifecycle.Reached.keeps ?_ set_consistent h
  intro a hmade
  obtain ⟨_, _, h⟩ := hmade
  exact create_consistent h

end Target

structure ColumnDefinition.Consistent (c : ColumnDefinition) : Prop where
  name : Conforms .column c.name
  dataType : Text.isBlankText c.dataType = false
  exclusive : ¬(c.computedExpression.isSome ∧ c.defaultValue.isSome)
  computed : ∀ e ∈ c.computedExpression, Text.isBlankText e = false
  collation : ∀ n ∈ c.collation, Conforms .object n

namespace ColumnDefinition

theorem create_consistent {name dataType : String} {c : ColumnDefinition}
    (h : create name dataType = .ok c) : c.Consistent := by
  obtain ⟨hn, ht, rfl⟩ := create_eq_ok_iff.mp h
  exact ⟨hn, ht, by simp, by simp, by simp⟩

theorem set_consistent (c : ColumnDefinition) (setter : Setter) (d : ColumnDefinition)
    (hc : c.Consistent) (h : c.set setter = .ok d) : d.Consistent := by
  cases setter with
  | nullable nullable => cases h; exact { hc with }
  | notNull => cases h; exact { hc with }
  | primaryKey => cases h; exact { hc with }
  | unique => cases h; exact { hc with }
  | checkConstraint check => cases h; exact { hc with }
  | collation collation =>
    obtain ⟨hn, rfl⟩ := withCollation_eq_ok_iff.mp h
    exact { hc with collation := by simpa using hn }
  | defaultValue value =>
    obtain ⟨hnone, rfl⟩ := withDefaultValue_eq_ok_iff.mp h
    exact { hc with exclusive := by simp [hnone] }
  | computedExpression expression =>
    obtain ⟨⟨ht, hnone⟩, rfl⟩ := withComputedExpression_eq_ok_iff.mp h
    exact { hc with exclusive := by simp [hnone], computed := by simpa using ht }

theorem Reached.consistent {c : ColumnDefinition} (h : c.Reached) : c.Consistent := by
  refine Lifecycle.Reached.keeps ?_ set_consistent h
  intro a hmade
  obtain ⟨_, _, h⟩ := hmade
  exact create_consistent h

theorem Consistent.isExclusive {c : ColumnDefinition} (h : c.Consistent) : c.Exclusive := by
  have he := h.exclusive
  unfold Exclusive
  cases hc : c.computedExpression <;> simp_all

end ColumnDefinition

structure CreateTable.Consistent (t : CreateTable) : Prop where
  target : t.target.Consistent
  given : t.columns ≠ [] ∨ t.selectQuery.isSome ∨ t.sourceTable.isSome ∨ t.location.isSome
  columns : ∀ c ∈ t.columns, c.Consistent
  selectQuery : ∀ s ∈ t.selectQuery, Text.isBlankText s = false
  sourceTable : ∀ s ∈ t.sourceTable, Text.isBlankText s = false
  parts : ∀ s ∈ t.sourceTable, ∀ part ∈ dottedParts s, Conforms .object part
  location : ∀ s ∈ t.location, Text.isBlankText s = false
  placed : t.selectQuery.isSome → t.location.isSome
  partitions : ∀ c ∈ t.partitions, Conforms .column c

namespace CreateTable

theorem defaultLocation_not_blank {target : Target} {d : TableDefinition}
    (h : ∀ s ∈ d.location, Text.isBlankText s = false) :
    ∀ s ∈ defaultLocation target d, Text.isBlankText s = false := by
  intro s hs
  unfold defaultLocation at hs
  cases hl : d.location with
  | some location =>
    rw [hl] at hs
    exact h s (by rw [hl]; exact hs)
  | none =>
    -- the slash between schema and object is no blank
    have hslash : Text.isBlankText (target.schema ++ "/" ++ target.object) = false := by
      simp [Text.isBlankText, Text.isBlank]
    by_cases hq : d.selectQuery.isSome <;> simp [hl, hq] at hs
    exact hs ▸ hslash

theorem defaultLocation_isSome {target : Target} {d : TableDefinition}
    (h : d.selectQuery.isSome ∨ d.location.isSome) : (defaultLocation target d).isSome := by
  unfold defaultLocation
  cases hl : d.location with
  | some location => rfl
  | none => simpa [hl] using h

theorem create_consistent {target : Target} {d : TableDefinition} {t : CreateTable}
    (htarget : target.Consistent) (hcolumns : ∀ c ∈ d.columns, c.Consistent)
    (h : create target d = .ok t) : t.Consistent := by
  obtain ⟨hd, rfl⟩ := create_eq_ok_iff.mp h
  refine ⟨htarget, ?_, hcolumns, hd.selectQuery, hd.sourceTable, hd.parts,
    defaultLocation_not_blank hd.location, fun hq => defaultLocation_isSome (.inl hq), by simp⟩
  exact hd.given.imp_right fun h => h.imp_right fun h => h.imp_right fun hl =>
    defaultLocation_isSome (.inr hl)

theorem set_consistent (t : CreateTable) (setter : Setter) (u : CreateTable) (ht : t.Consistent)
    (h : t.set setter = .ok u) : u.Consistent := by
  cases setter with
  | fileFormat fileFormat => cases h; exact { ht with }
  | partitions partitions =>
    obtain ⟨hp, rfl⟩ := withPartitions_eq_ok_iff.mp h
    exact { ht with partitions := hp }
  | distribution distribution => cases h; exact { ht with }
  | property key value => cases h; exact { ht with }
  | recreate recreate => cases h; exact { ht with }

theorem reached_consistent {t : CreateTable} (h : lifecycle.Reached t) : t.Consistent := by
  refine h.keeps ?_ set_consistent
  intro a hmade
  obtain ⟨_, _, htarget, hcolumns, h⟩ := hmade
  exact create_consistent htarget.consistent (fun c hc => (hcolumns c hc).consistent) h

end CreateTable

namespace DropTable

theorem set_consistent (t : DropTable) (setter : Setter) (u : DropTable)
    (ht : t.target.Consistent) (h : t.set setter = .ok u) : u.target.Consistent := by
  cases setter with
  | ifExists ifExists => cases h; exact ht
  | cascade cascade => cases h; exact ht

theorem reached_consistent {t : DropTable} (h : lifecycle.Reached t) : t.target.Consistent := by
  refine h.keeps ?_ set_consistent
  intro a hmade
  obtain ⟨_, htarget, h⟩ := hmade
  exact h ▸ htarget.consistent

end DropTable

structure CreateSchema.Consistent (s : CreateSchema) : Prop where
  target : s.target.Consistent
  authorization : ∀ owner ∈ s.authorization, Conforms .object owner

namespace CreateSchema

theorem made_consistent (s : CreateSchema) (h : lifecycle.Made s) : s.Consistent := by
  rcases h with ⟨target, htarget, rfl⟩ | ⟨schema, h⟩
  · exact ⟨htarget.consistent, by simp [create]⟩
  · obtain ⟨target, htarget, rfl⟩ : ∃ target, Target.create schema schema = .ok target ∧
        create target = s := by simpa [named] using h
    exact ⟨Target.create_consistent htarget, by simp [create]⟩

theorem set_consistent (s : CreateSchema) (setter : Setter) (r : CreateSchema)
    (hs : s.Consistent) (h : s.set setter = .ok r) : r.Consistent := by
  cases setter with
  | ifNotExists ifNotExists => cases h; exact { hs with }
  | authorization owner =>
    obtain ⟨ho, rfl⟩ := withAuthorization_eq_ok_iff.mp h
    exact { hs with authorization := by simpa using ho }

theorem reached_consistent {s : CreateSchema} (h : lifecycle.Reached s) : s.Consistent :=
  h.keeps made_consistent set_consistent

end CreateSchema

structure DropSchema.Consistent (s : DropSchema) : Prop where
  target : s.target.Consistent
  exclusive : ¬(s.cascade ∧ s.restrict)

namespace DropSchema

theorem made_consistent (s : DropSchema) (h : lifecycle.Made s) : s.Consistent := by
  rcases h with ⟨target, htarget, rfl⟩ | ⟨schema, h⟩
  · exact ⟨htarget.consistent, by simp [create]⟩
  · obtain ⟨target, htarget, rfl⟩ : ∃ target, Target.create schema schema = .ok target ∧
        create target = s := by simpa [named] using h
    exact ⟨Target.create_consistent htarget, by simp [create]⟩

theorem set_consistent (s : DropSchema) (setter : Setter) (r : DropSchema) (hs : s.Consistent)
    (h : s.set setter = .ok r) : r.Consistent := by
  cases setter with
  | ifExists ifExists => cases h; exact { hs with }
  | cascade cascade =>
    obtain ⟨he, rfl⟩ := withCascade_eq_ok_iff.mp h
    exact { hs with exclusive := he }
  | restrict restrict =>
    obtain ⟨he, rfl⟩ := withRestrict_eq_ok_iff.mp h
    exact { hs with exclusive := he }

theorem reached_consistent {s : DropSchema} (h : lifecycle.Reached s) : s.Consistent :=
  h.keeps made_consistent set_consistent

end DropSchema

/-- Nothing is said about `having`: groups may be taken away after it was set. -/
structure Select.Consistent (s : Select) : Prop where
  target : s.target.Consistent
  columns : ∀ c ∈ s.columns, Conforms .column c
  groupBy : ∀ c ∈ s.groupBy, Conforms .column c
  limit : s.limit ≠ some 0

namespace Select

theorem create_consistent {target : Target} (h : target.Consistent) :
    (create target).Consistent :=
  ⟨h, by simp [create], by simp [create], by simp [create]⟩

theorem set_consistent (s : Select) (setter : Setter) (r : Select) (hs : s.Consistent)
    (h : s.set setter = .ok r) : r.Consistent := by
  cases setter with
  | columns columns =>
    obtain ⟨hc, rfl⟩ := withColumns_eq_ok_iff.mp h
    exact { hs with columns := hc }
  | distinct => cases h; exact { hs with }
  | whereClause condition => cases h; exact { hs with }
  | joinClause join => cases h; exact { hs with }
  | groupBy columns =>
    obtain ⟨hc, rfl⟩ := withGroupBy_eq_ok_iff.mp h
    exact { hs with groupBy := hc }
  | having condition =>
    obtain ⟨-, rfl⟩ := withHaving_eq_ok_iff.mp h
    exact { hs with }
  | orderBy expressions => cases h; exact { hs with }
  | limit limit =>
    obtain ⟨hl, rfl⟩ := withLimit_eq_ok_iff.mp h
    exact { hs with limit := by simpa using hl }
  | offset offset => cases h; exact { hs with }

theorem reached_consistent {s : Select} (h : lifecycle.Reached s) : s.Consistent := by
  refine h.keeps ?_ set_consistent
  intro a hmade
  obtain ⟨_, htarget, h⟩ := hmade
  exact h ▸ create_consistent htarget.consistent

end Select

structure Insert.Consistent (i : Insert) : Prop where
  target : i.target.Consistent
  source : i.source.Sound
  columns : ∀ c ∈ i.columns, Conforms .column c
  present : ∀ rs, i.source = .rows rs → ∀ row ∈ rs, ∀ c ∈ i.columns, c ∈ row.keys

namespace Insert

theorem create_consistent {target : Target} {source : InsertSource} {i : Insert}
    (htarget : target.Consistent) (h : create target source = .ok i) : i.Consistent := by
  obtain ⟨hs, rfl⟩ := create_eq_ok_iff.mp h
  exact ⟨htarget, hs, by simp, by simp⟩

/-- Columns of the first row are columns of every row. -/
theorem present_of_ofSource {columns : List String} {rs : List (Dictionary SqlValue)}
    (hs : (InsertSource.rows rs).Sound) (hc : OfSource columns (.rows rs)) :
    ∀ row ∈ rs, ∀ c ∈ columns, c ∈ row.keys := by
  intro row hrow c hmem
  obtain ⟨first, hfirst, -, hkeys⟩ := hs
  exact (hkeys row hrow c).mpr (hc first hfirst c hmem)

theorem set_consistent (i : Insert) (setter : Setter) (j : Insert) (hi : i.Consistent)
    (h : i.set setter = .ok j) : j.Consistent := by
  cases setter with
  | columns columns =>
    obtain ⟨⟨hc, ho⟩, rfl⟩ := withColumns_eq_ok_iff.mp h
    refine { hi with columns := hc, present := ?_ }
    intro rs hrs
    have hsource := hi.source
    rw [hrs] at ho hsource
    exact present_of_ofSource hsource ho
  | mode mode => cases h; exact { hi with }

theorem Consistent.effectiveColumns {i : Insert} (h : i.Consistent) :
    ∀ c ∈ i.effectiveColumns, Conforms .column c := by
  have hs := h.source
  unfold Insert.effectiveColumns
  split
  · exact h.columns
  · cases hsource : i.source with
    | query sql => simp
    | rows rs =>
      rw [hsource] at hs
      obtain ⟨first, hfirst, hkeys, -⟩ := hs
      cases rs with
      | nil => simp
      | cons row rows =>
        obtain rfl : row = first := by simpa using hfirst
        exact hkeys

/-- The listed columns are columns of every row. -/
theorem Consistent.effectiveColumns_present {i : Insert} {rows : List (Dictionary SqlValue)}
    (hi : i.Consistent) (hrows : i.source = .rows rows) :
    ∀ row ∈ rows, ∀ c ∈ i.effectiveColumns, c ∈ row.keys := by
  unfold Insert.effectiveColumns
  split
  · exact hi.present rows hrows
  · have hsound := hi.source
    rw [hrows] at hsound ⊢
    obtain ⟨first, hfirst, -, hkeys⟩ := hsound
    obtain ⟨others, rfl⟩ := List.head?_eq_some_iff.mp hfirst
    exact fun row hrow c hc => (hkeys row hrow c).mpr hc

theorem effectiveColumns_ne_nil {i : Insert} {rows : List (Dictionary SqlValue)}
    (hrows : i.source = .rows rows) (hne : rows ≠ []) (hkeys : ∀ row ∈ rows, row.keys ≠ []) :
    i.effectiveColumns ≠ [] := by
  unfold Insert.effectiveColumns
  split
  · rename_i hcolumns
    simpa using hcolumns
  · rw [hrows]
    cases rows with
    | nil => exact absurd rfl hne
    | cons first others => exact hkeys first (by simp)

theorem reached_consistent {i : Insert} (h : lifecycle.Reached i) : i.Consistent := by
  refine h.keeps ?_ set_consistent
  intro a hmade
  obtain ⟨_, _, htarget, h⟩ := hmade
  exact create_consistent htarget.consistent h

end Insert

structure Update.Consistent (u : Update) : Prop where
  target : u.target.Consistent
  assignments : u.assignments.Assigns

namespace Update

theorem create_consistent {target : Target} {assignments : Dictionary SqlValue} {u : Update}
    (htarget : target.Consistent) (h : create target assignments = .ok u) : u.Consistent := by
  obtain ⟨ha, rfl⟩ := create_eq_ok_iff.mp h
  exact ⟨htarget, ha⟩

theorem set_consistent (u : Update) (setter : Setter) (r : Update) (hu : u.Consistent)
    (h : u.set setter = .ok r) : r.Consistent := by
  cases setter with
  | whereClause condition => cases h; exact { hu with }
  | fromClause source => cases h; exact { hu with }

theorem reached_consistent {u : Update} (h : lifecycle.Reached u) : u.Consistent := by
  refine h.keeps ?_ set_consistent
  intro a hmade
  obtain ⟨_, _, htarget, h⟩ := hmade
  exact create_consistent htarget.consistent h

end Update

namespace Delete

theorem set_consistent (d : Delete) (setter : Setter) (r : Delete) (hd : d.target.Consistent)
    (h : d.set setter = .ok r) : r.target.Consistent := by
  cases setter with
  | whereClause condition => cases h; exact hd

theorem reached_consistent {d : Delete} (h : lifecycle.Reached d) : d.target.Consistent := by
  refine h.keeps ?_ set_consistent
  intro a hmade
  obtain ⟨_, htarget, h⟩ := hmade
  exact h ▸ htarget.consistent

end Delete

structure Merge.Consistent (m : Merge) : Prop where
  target : m.target.Consistent
  sourceQuery : Text.isBlankText m.sourceQuery = false
  condition : Text.isBlankText m.condition = false
  actions : m.actions.Sound

namespace Merge

theorem create_consistent {target : Target} {sourceQuery condition : String}
    {actions : MergeActions} {m : Merge} (htarget : target.Consistent)
    (h : create target sourceQuery condition actions = .ok m) : m.Consistent := by
  obtain ⟨⟨hq, hc, ha⟩, rfl⟩ := create_eq_ok_iff.mp h
  exact ⟨htarget, hq, hc, ha⟩

theorem reached_consistent {m : Merge} (h : lifecycle.Reached m) : m.Consistent := by
  refine h.keeps ?_ (fun _ setter => Empty.elim setter)
  intro a hmade
  obtain ⟨_, _, _, _, htarget, h⟩ := hmade
  exact create_consistent htarget.consistent h

end Merge

structure CreateView.Consistent (v : CreateView) : Prop where
  target : v.target.Consistent
  selectQuery : Text.isBlankText v.selectQuery = false
  columns : ∀ c ∈ v.columns, Conforms .column c

namespace CreateView

theorem create_consistent {target : Target} {selectQuery : String} {v : CreateView}
    (htarget : target.Consistent) (h : create target selectQuery = .ok v) : v.Consistent := by
  obtain ⟨hq, rfl⟩ := create_eq_ok_iff.mp h
  exact ⟨htarget, hq, by simp⟩

theorem set_consistent (v : CreateView) (setter : Setter) (w : CreateView) (hv : v.Consistent)
    (h : v.set setter = .ok w) : w.Consistent := by
  cases setter with
  | columns columns =>
    obtain ⟨hc, rfl⟩ := withColumns_eq_ok_iff.mp h
    exact { hv with columns := hc }
  | schemaBinding schemaBinding => cases h; exact { hv with }
  | materialized materialized => cases h; exact { hv with }
  | orReplace orReplace => cases h; exact { hv with }

theorem reached_consistent {v : CreateView} (h : lifecycle.Reached v) : v.Consistent := by
  refine h.keeps ?_ set_consistent
  intro a hmade
  obtain ⟨_, _, htarget, h⟩ := hmade
  exact create_consistent htarget.consistent h

end CreateView

namespace DropView

theorem set_consistent (v : DropView) (setter : Setter) (w : DropView)
    (hv : v.target.Consistent) (h : v.set setter = .ok w) : w.target.Consistent := by
  cases setter with
  | ifExists ifExists => cases h; exact hv

theorem reached_consistent {v : DropView} (h : lifecycle.Reached v) : v.target.Consistent := by
  refine h.keeps ?_ set_consistent
  intro a hmade
  obtain ⟨_, htarget, h⟩ := hmade
  exact h ▸ htarget.consistent

end DropView

structure StatisticsRequest.Consistent (r : StatisticsRequest) : Prop where
  target : r.target.Consistent
  columns : ∀ c ∈ r.columns, Conforms .column c
  exclusive : ¬(r.samplePercent.isSome ∧ r.fullScan)
  sample : ∀ x ∈ r.samplePercent, x.isFinite ∧ 0 ≤ x.value ∧ x.value ≤ 100
  name : ∀ n ∈ r.name, Conforms .object n

namespace StatisticsRequest

theorem create_consistent {target : Target} (h : target.Consistent) :
    (create target).Consistent :=
  ⟨h, by simp [create], by simp [create], by simp [create], by simp [create]⟩

theorem set_consistent (r : StatisticsRequest) (setter : Setter) (q : StatisticsRequest)
    (hr : r.Consistent) (h : r.set setter = .ok q) : q.Consistent := by
  cases setter with
  | columns columns =>
    obtain ⟨hc, rfl⟩ := withColumns_eq_ok_iff.mp h
    exact { hr with columns := hc }
  | samplePercent percent =>
    obtain ⟨⟨hp, hf⟩, rfl⟩ := withSamplePercent_eq_ok_iff.mp h
    have hrange : percent.isFinite ∧ 0 ≤ percent.value ∧ percent.value ≤ 100 := by
      simpa using (Binary64.isBetweenZeroAnd_iff 100 percent).mp hp
    exact { hr with exclusive := by simp [hf], sample := by simpa using hrange }
  | fullScan fullScan =>
    obtain ⟨hf, rfl⟩ := withFullScan_eq_ok_iff.mp h
    refine { hr with exclusive := ?_ }
    intro h
    obtain ⟨hs, hscan⟩ := h
    rcases hf with hf | hf
    · simp [hf] at hs
    · simp [hf] at hscan
  | name name =>
    obtain ⟨hn, rfl⟩ := withName_eq_ok_iff.mp h
    exact { hr with name := by simpa using hn }
  | autoDiscover autoDiscover => cases h; exact { hr with }

theorem Reached.consistent {r : StatisticsRequest} (h : r.Reached) : r.Consistent := by
  refine Lifecycle.Reached.keeps ?_ set_consistent h
  intro a hmade
  obtain ⟨_, htarget, h⟩ := hmade
  exact h ▸ create_consistent htarget.consistent

end StatisticsRequest

/-- The request that already has the columns of the statistics. -/
def CreateStatistics.request (s : CreateStatistics) : StatisticsRequest :=
  ⟨s.target, s.columns, s.samplePercent, s.fullScan, s.name, s.autoDiscover⟩

structure CreateStatistics.Consistent (s : CreateStatistics) : Prop where
  request : s.request.Consistent
  given : s.columns ≠ []

namespace CreateStatistics

theorem resolve_consistent {r : StatisticsRequest} {provider : Option StatsProvider}
    {s : CreateStatistics} (hr : r.Consistent) (h : (r.resolve provider).result = .ok s) :
    s.Consistent := by
  obtain ⟨⟨-, hne, hc⟩, rfl⟩ := StatisticsRequest.resolve_eq_ok_iff.mp h
  exact ⟨⟨hr.target, hc, hr.exclusive, hr.sample, hr.name⟩, hne⟩

theorem reached_consistent {s : CreateStatistics} (h : lifecycle.Reached s) : s.Consistent := by
  refine h.keeps ?_ (fun _ setter => Empty.elim setter)
  intro a hmade
  obtain ⟨_, _, hr, h⟩ := hmade
  exact resolve_consistent hr.consistent h

end CreateStatistics

structure Copy.Consistent (c : Copy) : Prop where
  target : c.target.Consistent
  sourcePath : Text.isBlankText c.sourcePath = false
  options : ∀ key ∈ c.options.keys, Conforms .sql key

namespace Copy

theorem create_consistent {target : Target} {sourcePath : String} {c : Copy}
    (htarget : target.Consistent) (h : create target sourcePath = .ok c) : c.Consistent := by
  obtain ⟨hp, rfl⟩ := create_eq_ok_iff.mp h
  exact ⟨htarget, hp, by simp [Dictionary.keys, Dictionary.empty]⟩

theorem set_consistent (c : Copy) (setter : Setter) (d : Copy) (hc : c.Consistent)
    (h : c.set setter = .ok d) : d.Consistent := by
  cases setter with
  | fileFormat fileFormat => cases h; exact { hc with }
  | option key value =>
    obtain ⟨hk, rfl⟩ := withOption_eq_ok_iff.mp h
    refine { hc with options := ?_ }
    intro k hmem
    rcases Dictionary.mem_keys_insert.mp hmem with rfl | hmem
    · exact hk
    · exact hc.options k hmem
  | credential credential => cases h; exact { hc with }

theorem reached_consistent {c : Copy} (h : lifecycle.Reached c) : c.Consistent := by
  refine h.keeps ?_ set_consistent
  intro a hmade
  obtain ⟨_, _, htarget, h⟩ := hmade
  exact create_consistent htarget.consistent h

end Copy

structure RawSql.Consistent (r : RawSql) : Prop where
  target : r.target.Consistent
  sql : Text.isBlankText r.sql = false
  format : r.returnsResults = false → r.resultFormat = default
  limit : r.limit ≠ some 0

namespace RawSql

theorem create_consistent {target : Target} {sql : String} {r : RawSql}
    (htarget : target.Consistent) (h : create target sql = .ok r) : r.Consistent := by
  obtain ⟨hs, rfl⟩ := create_eq_ok_iff.mp h
  exact ⟨htarget, hs, by simp, by simp⟩

theorem set_consistent (r : RawSql) (setter : Setter) (q : RawSql) (hr : r.Consistent)
    (h : r.set setter = .ok q) : q.Consistent := by
  cases setter with
  | returning resultFormat => cases h; exact { hr with format := by simp [returning] }
  | returnsResults returnsResults =>
    obtain ⟨hf, rfl⟩ := withReturnsResults_eq_ok_iff.mp h
    exact { hr with format := fun hn => hf.resolve_left (ne_true_of_eq_false hn) }
  | resultFormat resultFormat =>
    obtain ⟨hf, rfl⟩ := withResultFormat_eq_ok_iff.mp h
    exact { hr with format := fun hn => hf.resolve_left (ne_true_of_eq_false hn) }
  | limit limit =>
    obtain ⟨hl, rfl⟩ := withLimit_eq_ok_iff.mp h
    exact { hr with limit := by simpa using hl }

theorem reached_consistent {r : RawSql} (h : lifecycle.Reached r) : r.Consistent := by
  refine h.keeps ?_ set_consistent
  intro a hmade
  obtain ⟨_, _, htarget, h⟩ := hmade
  exact create_consistent htarget.consistent h

end RawSql

namespace Statement

def Consistent : Statement → Prop
  | createTable s => s.Consistent
  | dropTable s => s.target.Consistent
  | createSchema s => s.Consistent
  | dropSchema s => s.Consistent
  | select s => s.Consistent
  | insert s => s.Consistent
  | update s => s.Consistent
  | delete s => s.target.Consistent
  | merge s => s.Consistent
  | createView s => s.Consistent
  | dropView s => s.target.Consistent
  | createStatistics s => s.Consistent
  | copy s => s.Consistent
  | rawSql s => s.Consistent

/-- The targets of all statements that can be constructed, and whatever else they hold, are
consistent. -/
theorem Constructible.consistent {s : Statement} (h : s.Constructible) : s.Consistent := by
  cases s with
  | createTable s => exact CreateTable.reached_consistent h
  | dropTable s => exact DropTable.reached_consistent h
  | createSchema s => exact CreateSchema.reached_consistent h
  | dropSchema s => exact DropSchema.reached_consistent h
  | select s => exact Select.reached_consistent h
  | insert s => exact Insert.reached_consistent h
  | update s => exact Update.reached_consistent h
  | delete s => exact Delete.reached_consistent h
  | merge s => exact Merge.reached_consistent h
  | createView s => exact CreateView.reached_consistent h
  | dropView s => exact DropView.reached_consistent h
  | createStatistics s => exact CreateStatistics.reached_consistent h
  | copy s => exact Copy.reached_consistent h
  | rawSql s => exact RawSql.reached_consistent h

theorem Consistent.target {s : Statement} (h : s.Consistent) : s.target.Consistent := by
  cases s with
  | createTable s => exact CreateTable.Consistent.target h
  | dropTable s => exact h
  | createSchema s => exact CreateSchema.Consistent.target h
  | dropSchema s => exact DropSchema.Consistent.target h
  | select s => exact Select.Consistent.target h
  | insert s => exact Insert.Consistent.target h
  | update s => exact Update.Consistent.target h
  | delete s => exact h
  | merge s => exact Merge.Consistent.target h
  | createView s => exact CreateView.Consistent.target h
  | dropView s => exact h
  | createStatistics s => exact (CreateStatistics.Consistent.request h).target
  | copy s => exact Copy.Consistent.target h
  | rawSql s => exact RawSql.Consistent.target h

end Statement

/-- Everything that constructors and setters lead to is consistent. -/
theorem reached_values_consistent :
    (∀ t : Target, t.Reached → t.Consistent) ∧
    (∀ c : ColumnDefinition, c.Reached → c.Consistent) ∧
    (∀ r : StatisticsRequest, r.Reached → r.Consistent) ∧
    ∀ s : Statement, s.Constructible → s.Consistent :=
  ⟨fun _ h => h.consistent, fun _ h => h.consistent, fun _ h => h.consistent,
    fun _ h => h.consistent⟩

/-- A schema that is dropped with its dependants refuses to restrict the drop later. -/
theorem cascading_drop_consistent :
    let target : Target := ⟨"sales", "orders", none, none, none⟩
    (DropSchema.lifecycle.run (.create target) [.cascade true, .restrict true] =
      ⟨target, true, true, false⟩) ∧
    (Statement.dropSchema ⟨target, true, true, false⟩).Consistent := by
  intro target
  have hrun : DropSchema.lifecycle.run (.create target) [.cascade true, .restrict true] =
      ⟨target, true, true, false⟩ := rfl
  have htarget : target.Reached :=
    Lifecycle.reached_of_made ⟨"sales", "orders", rfl⟩
  refine ⟨hrun, reached_values_consistent.2.2.2 _ ?_⟩
  exact ⟨.create target, [.cascade true, .restrict true], .inl ⟨target, htarget, rfl⟩, hrun⟩

end LakehouseSql
