import LakehouseSql.Proofs.Draft.Fit
/-! # When drafts build

A draft builds exactly if its names are identifiers and its fields fit its kind, and then into the
statement that its fields spell: no field of the kind is lost on the way through the setters.
-/
namespace LakehouseSql.Draft
open Identifier (Conforms)

section
variable {α β : Type} {a r : α}

/-- A field that may be given, set by a function that accepts what satisfies `P`. -/
theorem given_eq_ok_iff {P : β → Prop} (set : Option β → α) {field : Option β}
    {change : α → β → Checked α} (hnone : set none = a)
    (hsome : ∀ b, change a b = .ok r ↔ P b ∧ set (some b) = r) :
    given field change a = .ok r ↔ (∀ b ∈ field, P b) ∧ set field = r := by
  cases field with
  | none => simp [given, hnone]
  | some b => simp [given, hsome]

private theorem listed_eq_ok_iff (P : List β → Prop) (set : List β → α) {items : List β}
    {change : α → List β → Checked α} (hnil : set [] = a) (hp : P [])
    (hcons : change a items = .ok r ↔ P items ∧ set items = r) :
    listed items change a = .ok r ↔ P items ∧ set items = r := by
  cases items with
  | nil => simp [listed, hnil, hp]
  | cons b bs => simpa [listed] using hcons

end

variable {d : Draft}

theorem target_eq_ok_iff {target : Target} :
    d.target = .ok target ↔
      Conforms .object d.schema ∧ Conforms .object d.object ∧ d.plainTarget = target := by
  simp only [Draft.target, bind_eq_ok_iff, Target.create_eq_ok_iff, pure_eq_ok_iff]
  constructor
  · intro h
    obtain ⟨_, ⟨hs, ho, rfl⟩, rfl⟩ := h
    exact ⟨hs, ho, rfl⟩
  · intro h
    obtain ⟨hs, ho, rfl⟩ := h
    exact ⟨_, ⟨hs, ho, rfl⟩, rfl⟩

theorem createTable_eq_ok_iff {t : CreateTable} (hd : ∀ c ∈ d.columnDefinitions, c.Exclusive) :
    d.createTable d.plainTarget = .ok t ↔ d.FitsCreateTable ∧ d.plainCreateTable = t := by
  have hlist (table r : CreateTable) (h : table.partitions = []) :
      listed d.partitions CreateTable.withPartitions table = .ok r ↔
        (∀ c ∈ d.partitions, Conforms .column c) ∧
          { table with partitions := d.partitions } = r :=
    listed_eq_ok_iff (fun partitions => ∀ c ∈ partitions, Conforms .column c)
      (fun partitions => { table with partitions }) (by rw [← h]) (by simp)
      CreateTable.withPartitions_eq_ok_iff
  simp only [createTable, bind_eq_ok_iff, CreateTable.create_eq_ok_iff, pure_eq_ok_iff]
  constructor
  · intro h
    obtain ⟨_, ⟨h, rfl⟩, _, hl, rfl⟩ := h
    obtain ⟨hp, rfl⟩ := (hlist _ _ (by rfl)).mp hl
    exact ⟨⟨h.given, h.selectQuery, h.sourceTable, h.parts, h.location, hp⟩, rfl⟩
  · intro h
    obtain ⟨h, rfl⟩ := h
    exact ⟨_, ⟨⟨h.given, hd, h.selectQuery, h.sourceTable, h.parts, h.location⟩, rfl⟩, _,
      (hlist _ _ (by rfl)).mpr ⟨h.partitions, rfl⟩, rfl⟩

theorem createSchema_eq_ok_iff {s : CreateSchema} :
    d.createSchema d.plainTarget = .ok s ↔ d.FitsCreateSchema ∧ d.plainCreateSchema = s := by
  let schema := (CreateSchema.create d.plainTarget).withIfNotExists (d.ifNotExists.getD true)
  exact given_eq_ok_iff (a := schema) (fun authorization => { schema with authorization }) rfl
    fun _ => CreateSchema.withAuthorization_eq_ok_iff

theorem dropSchema_eq_ok_iff {s : DropSchema} :
    d.dropSchema d.plainTarget = .ok s ↔ d.FitsDropSchema ∧ d.plainDropSchema = s := by
  have hboth : ¬(d.cascade.getD false ∧ d.restrict.getD false) ↔ d.FitsDropSchema := by
    simp only [FitsDropSchema]
    cases d.cascade <;> cases d.restrict <;> simp
  rw [← hboth]
  simp only [dropSchema, bind_eq_ok_iff, DropSchema.withCascade_eq_ok_iff,
    DropSchema.withRestrict_eq_ok_iff]
  constructor
  · intro h
    obtain ⟨_, ⟨-, rfl⟩, h, rfl⟩ := h
    exact ⟨h, rfl⟩
  · intro h
    obtain ⟨h, rfl⟩ := h
    exact ⟨_, ⟨by simp [DropSchema.create, DropSchema.withIfExists], rfl⟩, h, rfl⟩

theorem select_eq_ok_iff {s : Select} :
    d.select d.plainTarget = .ok s ↔ d.FitsSelect ∧ d.plainSelect = s := by
  have hgroups (q r : Select) (h : q.groupBy = []) :
      listed d.groupBy Select.withGroupBy q = .ok r ↔
        (∀ c ∈ d.groupBy, Conforms .column c) ∧ { q with groupBy := d.groupBy } = r :=
    listed_eq_ok_iff (fun groupBy => ∀ c ∈ groupBy, Conforms .column c)
      (fun groupBy => { q with groupBy }) (by rw [← h]) (by simp)
      Select.withGroupBy_eq_ok_iff
  have hhaving (q r : Select) (h : q.having = none) :
      given d.having Select.withHaving q = .ok r ↔
        (∀ _c ∈ d.having, q.groupBy ≠ []) ∧ { q with having := d.having } = r :=
    given_eq_ok_iff (fun having => { q with having }) (by rw [← h])
      fun _ => Select.withHaving_eq_ok_iff
  have hlimit (q r : Select) (h : q.limit = none) :
      given d.limit Select.withLimit q = .ok r ↔
        (∀ n ∈ d.limit, n ≠ 0) ∧ { q with limit := d.limit } = r :=
    given_eq_ok_iff (fun limit => { q with limit }) (by rw [← h])
      fun _ => Select.withLimit_eq_ok_iff
  simp only [select, bind_eq_ok_iff, Select.withColumns_eq_ok_iff]
  constructor
  · intro h
    obtain ⟨_, ⟨hc, rfl⟩, _, h₁, _, h₂, h₃⟩ := h
    obtain ⟨hg, rfl⟩ := (hgroups _ _ (by rfl)).mp h₁
    obtain ⟨hh, rfl⟩ := (hhaving _ _ (by rfl)).mp h₂
    obtain ⟨hl, rfl⟩ := (hlimit _ _ (by rfl)).mp h₃
    refine ⟨⟨hc, hg, fun h => ?_, fun h => hl 0 h rfl⟩, rfl⟩
    exact hh _ (Option.get_mem h)
  · intro h
    obtain ⟨h, rfl⟩ := h
    refine ⟨_, ⟨h.columns, rfl⟩, _, (hgroups _ _ (by rfl)).mpr ⟨h.groupBy, rfl⟩, _,
      (hhaving _ _ (by rfl)).mpr ⟨?_, rfl⟩, (hlimit _ _ (by rfl)).mpr ⟨?_, rfl⟩⟩
    · intro c hc
      exact h.having (Option.isSome_of_mem hc)
    · rintro n hn rfl
      exact h.limit hn

private theorem insertSource_eq_ok_iff {source : InsertSource} :
    d.insertSource = .ok source ↔ (d.selectQuery.isSome ↔ d.rows = []) ∧
      d.selectQuery.elim (.rows d.rows) .query = source := by
  unfold insertSource
  cases d.selectQuery <;> cases d.rows <;> simp

private theorem source_sound_iff (h : d.selectQuery.isSome ↔ d.rows = []) :
    (d.selectQuery.elim (.rows d.rows) .query : InsertSource).Sound ↔
      (∀ s ∈ d.selectQuery, Text.isBlankText s = false) ∧
      (∀ first ∈ d.rows.head?, ∀ key ∈ first.keys, Conforms .column key) ∧
      ∀ first ∈ d.rows.head?, ∀ row ∈ d.rows, ∀ key, key ∈ row.keys ↔ key ∈ first.keys := by
  cases hq : d.selectQuery with
  | some q =>
    have hr : d.rows = [] := h.mp (by simp [hq])
    simp [InsertSource.Sound, hr]
  | none =>
    have hr : d.rows ≠ [] := fun hr => by simpa [hq] using h.mpr hr
    obtain ⟨row, rows, hrows⟩ := List.exists_cons_of_ne_nil hr
    simp [InsertSource.Sound, hrows]

private theorem ofSource_iff (h : d.selectQuery.isSome ↔ d.rows = [])
    (heven : ∀ first ∈ d.rows.head?, ∀ row ∈ d.rows, ∀ key, key ∈ row.keys ↔ key ∈ first.keys) :
    Insert.OfSource d.columns (d.selectQuery.elim (.rows d.rows) .query) ↔
      ∀ row ∈ d.rows, ∀ c ∈ d.columns, c ∈ row.keys := by
  cases hq : d.selectQuery with
  | some q =>
    have hr : d.rows = [] := h.mp (by simp [hq])
    simp [Insert.OfSource, hr]
  | none =>
    constructor
    · intro ho row hrow c hc
      obtain ⟨first, hfirst⟩ : ∃ first, first ∈ d.rows.head? := by
        cases hrows : d.rows with
        | nil => simp [hrows] at hrow
        | cons first rows => exact ⟨first, by simp⟩
      exact (heven first hfirst row hrow c).mpr (ho first hfirst c hc)
    · intro hall first hfirst c hc
      exact hall first (List.mem_of_mem_head? hfirst) c hc

theorem insert_eq_ok_iff {i : Insert} :
    d.insert d.plainTarget = .ok i ↔ d.FitsInsert ∧ d.plainInsert = i := by
  have hlist (j r : Insert) (h : j.columns = []) :
      listed d.columns Insert.withColumns j = .ok r ↔
        ((∀ c ∈ d.columns, Conforms .column c) ∧ Insert.OfSource d.columns j.source) ∧
          { j with columns := d.columns } = r :=
    listed_eq_ok_iff
      (fun columns => (∀ c ∈ columns, Conforms .column c) ∧ Insert.OfSource columns j.source)
      (fun columns => { j with columns }) (by rw [← h])
      ⟨by simp, by cases j.source <;> simp [Insert.OfSource]⟩ Insert.withColumns_eq_ok_iff
  simp only [insert, bind_eq_ok_iff, insertSource_eq_ok_iff, Insert.create_eq_ok_iff]
  constructor
  · intro h
    obtain ⟨_, ⟨hone, rfl⟩, _, ⟨hs, rfl⟩, hl⟩ := h
    obtain ⟨⟨hc, ho⟩, rfl⟩ := (hlist _ _ (by rfl)).mp hl
    obtain ⟨hq, hk, he⟩ := (source_sound_iff hone).mp hs
    exact ⟨⟨hone, hq, hk, he, hc, (ofSource_iff hone he).mp ho⟩, rfl⟩
  · intro h
    obtain ⟨h, rfl⟩ := h
    exact ⟨_, ⟨h.source, rfl⟩, _,
      ⟨(source_sound_iff h.source).mpr ⟨h.query, h.keys, h.even⟩, rfl⟩,
      (hlist _ _ (by rfl)).mpr ⟨⟨h.columns, (ofSource_iff h.source h.even).mpr h.present⟩, rfl⟩⟩

theorem update_eq_ok_iff {u : Update} :
    d.update d.plainTarget = .ok u ↔ d.FitsUpdate ∧ d.plainUpdate = u := by
  simp only [update, bind_eq_ok_iff, Update.create_eq_ok_iff, pure_eq_ok_iff]
  constructor
  · intro h
    obtain ⟨_, ⟨h, rfl⟩, rfl⟩ := h
    exact ⟨h, rfl⟩
  · intro h
    obtain ⟨h, rfl⟩ := h
    exact ⟨_, ⟨h, rfl⟩, rfl⟩

private theorem getD_not_blank_iff {text : Option String} :
    Text.isBlankText (text.getD "") = false ↔ ∃ s ∈ text, Text.isBlankText s = false := by
  cases text with
  | none => simp [Text.isBlankText]
  | some s => simp

theorem merge_eq_ok_iff {m : Merge} :
    d.merge d.plainTarget = .ok m ↔ d.FitsMerge ∧ d.plainMerge = m := by
  simp only [merge, Merge.create_eq_ok_iff, getD_not_blank_iff]
  constructor
  · intro h
    obtain ⟨⟨hq, hc, ha⟩, rfl⟩ := h
    exact ⟨⟨hq, hc, ha⟩, rfl⟩
  · intro h
    obtain ⟨h, rfl⟩ := h
    exact ⟨⟨h.sourceQuery, h.condition, h.actions⟩, rfl⟩

theorem createView_eq_ok_iff {v : CreateView} :
    d.createView d.plainTarget = .ok v ↔ d.FitsCreateView ∧ d.plainCreateView = v := by
  have hlist (w r : CreateView) (h : w.columns = []) :
      listed d.columns CreateView.withColumns w = .ok r ↔
        (∀ c ∈ d.columns, Conforms .column c) ∧ { w with columns := d.columns } = r :=
    listed_eq_ok_iff (fun columns => ∀ c ∈ columns, Conforms .column c)
      (fun columns => { w with columns }) (by rw [← h]) (by simp)
      CreateView.withColumns_eq_ok_iff
  simp only [createView, bind_eq_ok_iff, CreateView.create_eq_ok_iff, getD_not_blank_iff]
  constructor
  · intro h
    obtain ⟨_, ⟨hq, rfl⟩, hl⟩ := h
    obtain ⟨hc, rfl⟩ := (hlist _ _ (by rfl)).mp hl
    exact ⟨⟨hq, hc⟩, rfl⟩
  · intro h
    obtain ⟨h, rfl⟩ := h
    exact ⟨_, ⟨h.selectQuery, rfl⟩, (hlist _ _ (by rfl)).mpr ⟨h.columns, rfl⟩⟩

theorem statisticsRequest_eq_ok_iff {r : StatisticsRequest} :
    d.statisticsRequest d.plainTarget = .ok r ↔
      ((∀ c ∈ d.columns, Conforms .column c) ∧
        (∀ x ∈ d.samplePercent, x.isBetweenZeroAnd 100 ∧ d.fullScan.getD true = false) ∧
        ∀ n ∈ d.statsName, Conforms .object n) ∧
        ⟨d.plainTarget, d.columns, d.samplePercent, d.fullScan.getD true, d.statsName,
          d.autoDiscover.getD true⟩ = r := by
  have hlist (q r : StatisticsRequest) (h : q.columns = []) :
      listed d.columns StatisticsRequest.withColumns q = .ok r ↔
        (∀ c ∈ d.columns, Conforms .column c) ∧ { q with columns := d.columns } = r :=
    listed_eq_ok_iff (fun columns => ∀ c ∈ columns, Conforms .column c)
      (fun columns => { q with columns }) (by rw [← h]) (by simp)
      StatisticsRequest.withColumns_eq_ok_iff
  have hscan (q r : StatisticsRequest) (hs : q.samplePercent = none) (h : q.fullScan = true) :
      given d.fullScan StatisticsRequest.withFullScan q = .ok r ↔
        { q with fullScan := d.fullScan.getD true } = r := by
    refine (given_eq_ok_iff (P := fun _ => True)
      (fun fullScan => { q with fullScan := fullScan.getD true }) (by simp [← h]) ?_).trans
      (by simp)
    simp [StatisticsRequest.withFullScan_eq_ok_iff, hs]
  have hsample (q r : StatisticsRequest) (h : q.samplePercent = none) :
      given d.samplePercent StatisticsRequest.withSamplePercent q = .ok r ↔
        (∀ x ∈ d.samplePercent, x.isBetweenZeroAnd 100 ∧ q.fullScan = false) ∧
          { q with samplePercent := d.samplePercent } = r :=
    given_eq_ok_iff (fun samplePercent => { q with samplePercent }) (by rw [← h])
      fun _ => StatisticsRequest.withSamplePercent_eq_ok_iff
  have hname (q r : StatisticsRequest) (h : q.name = none) :
      given d.statsName StatisticsRequest.withName q = .ok r ↔
        (∀ n ∈ d.statsName, Conforms .object n) ∧ { q with name := d.statsName } = r :=
    given_eq_ok_iff (fun name => { q with name }) (by rw [← h])
      fun _ => StatisticsRequest.withName_eq_ok_iff
  simp only [statisticsRequest, bind_eq_ok_iff, pure_eq_ok_iff]
  constructor
  · intro h
    obtain ⟨_, h₁, _, h₂, _, h₃, _, h₄, rfl⟩ := h
    obtain ⟨hc, rfl⟩ := (hlist _ _ (by rfl)).mp h₁
    obtain rfl := (hscan _ _ (by rfl) (by rfl)).mp h₂
    obtain ⟨hs, rfl⟩ := (hsample _ _ (by rfl)).mp h₃
    obtain ⟨hn, rfl⟩ := (hname _ _ (by rfl)).mp h₄
    exact ⟨⟨hc, hs, hn⟩, rfl⟩
  · intro h
    obtain ⟨⟨hc, hs, hn⟩, rfl⟩ := h
    exact ⟨_, (hlist _ _ (by rfl)).mpr ⟨hc, rfl⟩, _, (hscan _ _ (by rfl) (by rfl)).mpr rfl, _,
      (hsample _ _ (by rfl)).mpr ⟨hs, rfl⟩, _, (hname _ _ (by rfl)).mpr ⟨hn, rfl⟩, rfl⟩

private theorem askProvider_result (target : Target) (provider : StatsProvider) :
    (Statistics.askProvider target provider).result =
      (provider target.object target.schema).toOption.getD [] := by
  unfold Statistics.askProvider
  split <;> simp [*, Except.toOption]

private theorem discover_result (provider : Option StatsProvider) :
    (Statistics.discover d.plainTarget provider).result = d.discoveredColumns provider := by
  simp only [Statistics.discover, discoveredColumns, plainTarget]
  cases d.metadata.bind (·.statsColumns) with
  | none =>
    cases provider with
    | none => rfl
    | some provider => exact askProvider_result _ provider
  | some columns =>
    cases columns with
    | nil =>
      cases provider with
      | none => rfl
      | some provider => exact askProvider_result _ provider
    | cons c cs => rfl

private theorem findColumns_eq (provider : Option StatsProvider) :
    (StatisticsRequest.findColumns ⟨d.plainTarget, d.columns, d.samplePercent,
      d.fullScan.getD true, d.statsName, d.autoDiscover.getD true⟩ provider).result =
      d.statisticsColumns provider := by
  have hwanted : d.autoDiscover.getD true = true ↔ d.autoDiscover ≠ some false := by
    cases d.autoDiscover <;> simp
  unfold StatisticsRequest.findColumns statisticsColumns
  by_cases hc : d.columns = []
  · by_cases ha : d.autoDiscover = some false
    · simp [hc, ha]
    · simp [hc, hwanted.mpr ha, ha, discover_result]
  · simp [hc]

theorem createStatistics_eq_ok_iff {provider : Option StatsProvider} {s : CreateStatistics} :
    d.createStatistics d.plainTarget provider = .ok s ↔
      d.FitsCreateStatistics provider ∧ d.plainCreateStatistics provider = s := by
  have hscan : d.fullScan.getD true = false ↔ d.fullScan = some false := by
    cases d.fullScan <;> simp
  simp only [createStatistics, bind_eq_ok_iff, statisticsRequest_eq_ok_iff,
    StatisticsRequest.resolve_eq_ok_iff, Binary64.isBetweenZeroAnd_iff, hscan]
  constructor
  · intro h
    obtain ⟨_, ⟨⟨-, hs, hn⟩, rfl⟩, ⟨-, hne, hf⟩, rfl⟩ := h
    simp only [findColumns_eq] at hne hf ⊢
    exact ⟨⟨hne, hf, fun x hx => (hs x hx).1, fun h => (hs _ (Option.get_mem h)).2, hn⟩, rfl⟩
  · intro h
    obtain ⟨h, rfl⟩ := h
    have hcolumns : ∀ c ∈ d.columns, Conforms .column c := by
      intro c hc
      have hne : d.columns ≠ [] := List.ne_nil_of_mem hc
      exact h.columns c (by simpa [statisticsColumns, hne] using hc)
    refine ⟨_, ⟨⟨hcolumns, ?_, h.name⟩, rfl⟩, ⟨?_, ?_, ?_⟩, ?_⟩
    · intro x hx
      exact ⟨h.range x hx, h.sampled (Option.isSome_of_mem hx)⟩
    · cases hs : d.samplePercent with
      | none => exact .inl rfl
      | some x => exact .inr (hscan.mpr (h.sampled (by simp [hs])))
    · rw [findColumns_eq]
      exact h.given
    · rw [findColumns_eq]
      exact h.columns
    · simp only [findColumns_eq]
      rfl

private theorem withOptions_eq_ok_iff {entries : List (String × SqlValue)} {c r : Copy} :
    withOptions entries c = .ok r ↔ (∀ entry ∈ entries, Conforms .sql entry.1) ∧
      { c with options := entries.foldl (fun d (k, v) => d.insert k v) c.options } = r := by
  induction entries generalizing c with
  | nil => simp [withOptions]
  | cons entry entries ih => simp [withOptions, Copy.withOption_eq_ok_iff, ih, and_assoc]

theorem copy_eq_ok_iff {c : Copy} :
    d.copy d.plainTarget = .ok c ↔ d.FitsCopy ∧ d.plainCopy = c := by
  have hkeys : (∀ entry ∈ d.options.entries, Conforms .sql entry.1) ↔
      ∀ key ∈ d.options.keys, Conforms .sql key := by
    simp [Dictionary.keys]
  simp only [copy, bind_eq_ok_iff, Copy.create_eq_ok_iff, withOptions_eq_ok_iff, hkeys,
    getD_not_blank_iff, pure_eq_ok_iff]
  have hoptions := Dictionary.ofList_entries d.options
  constructor
  · intro h
    obtain ⟨_, ⟨hp, rfl⟩, _, ⟨ho, rfl⟩, rfl⟩ := h
    exact ⟨⟨hp, ho⟩, congrArg (fun options => { d.plainCopy with options }) hoptions.symm⟩
  · intro h
    obtain ⟨h, rfl⟩ := h
    exact ⟨_, ⟨h.sourcePath, rfl⟩, _, ⟨h.options, rfl⟩,
      congrArg (fun options => { d.plainCopy with options }) hoptions⟩

theorem rawSql_eq_ok_iff {r : RawSql} :
    d.rawSql d.plainTarget = .ok r ↔ d.FitsRawSql ∧ d.plainRawSql = r := by
  have hresults (q r : RawSql) (hf : q.resultFormat = default) (h : q.returnsResults = false) :
      given d.returnsResults RawSql.withReturnsResults q = .ok r ↔
        { q with returnsResults := d.returnsResults.getD false } = r := by
    refine (given_eq_ok_iff (P := fun _ => True)
      (fun results => { q with returnsResults := results.getD false }) (by simp [← h]) ?_).trans
      (by simp)
    simp [RawSql.withReturnsResults_eq_ok_iff, hf]
  have hformat (q r : RawSql) (h : q.resultFormat = default) :
      given d.resultFormat RawSql.withResultFormat q = .ok r ↔
        (∀ f ∈ d.resultFormat, q.returnsResults ∨ f = default) ∧
          { q with resultFormat := d.resultFormat.getD default } = r :=
    given_eq_ok_iff (fun format => { q with resultFormat := format.getD default })
      (by simp [← h]) fun _ => RawSql.withResultFormat_eq_ok_iff
  have hlimit (q r : RawSql) (h : q.limit = none) :
      given d.limit RawSql.withLimit q = .ok r ↔
        (∀ n ∈ d.limit, n ≠ 0) ∧ { q with limit := d.limit } = r :=
    given_eq_ok_iff (fun limit => { q with limit }) (by rw [← h])
      fun _ => RawSql.withLimit_eq_ok_iff
  have hwanted : d.returnsResults.getD false = true ↔ d.returnsResults = some true := by
    cases d.returnsResults <;> simp
  simp only [rawSql, bind_eq_ok_iff, RawSql.create_eq_ok_iff, getD_not_blank_iff]
  constructor
  · intro h
    obtain ⟨_, ⟨hs, rfl⟩, _, h₁, _, h₂, h₃⟩ := h
    obtain rfl := (hresults _ _ (by rfl) (by rfl)).mp h₁
    obtain ⟨hf, rfl⟩ := (hformat _ _ (by rfl)).mp h₂
    obtain ⟨hl, rfl⟩ := (hlimit _ _ (by rfl)).mp h₃
    refine ⟨⟨hs, fun f hmem hne => ?_, fun h => hl 0 h rfl⟩, rfl⟩
    exact hwanted.mp ((hf f hmem).resolve_right hne)
  · intro h
    obtain ⟨h, rfl⟩ := h
    refine ⟨_, ⟨h.sql, rfl⟩, _, (hresults _ _ (by rfl) (by rfl)).mpr rfl, _,
      (hformat _ _ (by rfl)).mpr ⟨?_, rfl⟩, (hlimit _ _ (by rfl)).mpr ⟨?_, rfl⟩⟩
    · intro f hf
      by_cases hd : f = default
      · exact .inr hd
      · exact .inl (hwanted.mpr (h.format f hf hd))
    · rintro n hn rfl
      exact h.limit hn

private theorem assemble?_eq_iff (provider : Option StatsProvider) (s : Statement)
    (hd : d.ColumnsReached) :
    (∃ c, d.assemble? provider d.plainTarget = some c ∧ c = .ok s) ↔
      d.Fits provider ∧ d.plainStatement? provider = some s := by
  have hexclusive : ∀ c ∈ d.columnDefinitions, c.Exclusive :=
    fun c hc => (hd c hc).consistent.isExclusive
  unfold assemble? Fits plainStatement?
  cases d.kind with
  | createTable => simp [createTable_eq_ok_iff hexclusive, and_assoc]
  | createSchema => simp [createSchema_eq_ok_iff, and_assoc]
  | dropSchema => simp [dropSchema_eq_ok_iff, and_assoc]
  | select => simp [select_eq_ok_iff, and_assoc]
  | insert => simp [insert_eq_ok_iff, and_assoc]
  | update => simp [update_eq_ok_iff, and_assoc]
  | merge => simp [merge_eq_ok_iff, and_assoc]
  | createOrAlterView => simp [createView_eq_ok_iff, and_assoc]
  | createStatistics => simp [createStatistics_eq_ok_iff, and_assoc]
  | copy => simp [copy_eq_ok_iff, and_assoc]
  | executeSql => simp [rawSql_eq_ok_iff, and_assoc]
  | dropTable | delete | dropView => simp [dropTable, delete, dropView]
  | truncate | alter | dropStatistics | unknown => simp

/-- A draft that builds gives the statement that its fields spell. -/
theorem buildWith_eq_ok_iff {provider : Option StatsProvider} {s : Statement}
    (hd : d.ColumnsReached) :
    d.buildWith provider = .ok s ↔
      (Conforms .object d.schema ∧ Conforms .object d.object ∧ d.Fits provider) ∧
        d.plainStatement? provider = some s := by
  have hassemble := assemble?_eq_iff provider s hd
  rw [and_assoc, and_assoc, ← hassemble]
  unfold buildWith
  cases ht : d.target with
  | error e =>
    refine iff_of_false (by simp) ?_
    intro h
    obtain ⟨hs, ho, -⟩ := h
    have hok : d.target = .ok d.plainTarget := target_eq_ok_iff.mpr ⟨hs, ho, rfl⟩
    rw [ht] at hok
    cases hok
  | ok target =>
    obtain ⟨hs, ho, rfl⟩ := target_eq_ok_iff.mp ht
    cases hc : d.assemble? provider d.plainTarget with
    | none => simp [hc]
    | some c => simp [hc, hs, ho]

private theorem plainStatement?_isSome {provider : Option StatsProvider} (h : d.Fits provider) :
    ∃ s, d.plainStatement? provider = some s := by
  unfold Fits at h
  unfold plainStatement?
  cases hk : d.kind <;> simp_all

/-- A draft builds exactly if its names are identifiers and its fields fit its kind, whatever was
set on it and in whatever order. -/
theorem builds_iff_fits {d : Draft} (h : d.Reached) (provider : Option StatsProvider) :
    (∃ s, d.buildWith provider = .ok s) ↔
      Conforms .object d.schema ∧ Conforms .object d.object ∧ d.Fits provider := by
  simp only [buildWith_eq_ok_iff h.columnsReached, exists_and_left]
  exact ⟨And.left, fun hfits => ⟨hfits, plainStatement?_isSome hfits.2.2⟩⟩

/-- Raw SQL with a format for results that are not asked for does not build. -/
theorem unasked_format_does_not_build :
    let start : Draft := { kind := .executeSql, schema := "sales", object := "report" }
    let d := lifecycle.run start [.sql "SELECT 1", .resultFormat .scalar]
    d.Reached ∧ ¬∃ s, d.buildWith none = .ok s := by
  intro start d
  have hreached : d.Reached :=
    ⟨start, [.sql "SELECT 1", .resultFormat .scalar], ⟨_, _, _, rfl⟩, rfl⟩
  refine ⟨hreached, fun h => ?_⟩
  have hfits : d.FitsRawSql := ((builds_iff_fits hreached none).mp h).2.2
  exact absurd (hfits.format .scalar rfl (by decide)) (by decide)

end LakehouseSql.Draft
