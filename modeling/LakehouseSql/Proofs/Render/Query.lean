import LakehouseSql.Proofs.Render.Fragment.Common
import LakehouseSql.Proofs.Sql.Query
import LakehouseSql.Render.Fabric
import LakehouseSql.Render.Synapse
/-! # Queries are read back

A query without SQL text of its own is read back from what both platforms write for it. A limit
stands at the front if there is no offset, and behind the offset if there is one.
-/
namespace LakehouseSql

namespace Select

/-- The number of rows that is asked for at the front. -/
def top (s : Select) : Option Nat :=
  if s.offset.isSome then none else s.limit.map (·.toNat)

/-- The page of the rows that is asked for at the end. -/
def page (s : Select) : Option Sql.Page :=
  s.offset.map fun offset => ⟨offset.toNat, s.limit.map (·.toNat)⟩

/-- The query that is written. -/
def query (settings : Settings) (s : Select) : Sql.Query :=
  ⟨s.distinct, s.top, s.columns, s.target.schema,
    settings.physicalName s.target.schema s.target.object, s.groupBy, s.page⟩

end Select

namespace Render
open Sql (Parts Query Reads Token Trails)

variable {settings : Settings} {s : Select} {a sql : String}

private def keywords : List (String × List Token) :=
  [("SELECT", [.word "SELECT"]), (" DISTINCT", [.word "DISTINCT"]), (" TOP ", [.word "TOP"]),
    (" ", []), ("*", [.sign '*']), (", ", [.sign ',']), (" FROM ", [.word "FROM"]),
    (" GROUP BY ", [.word "GROUP", .word "BY"]), (" ORDER BY (SELECT NULL)", Sql.orderTokens),
    (" OFFSET ", [.word "OFFSET"]), (" ROWS", [.word "ROWS"]),
    (" FETCH NEXT ", [.word "FETCH", .word "NEXT"]), (" ROWS ONLY", [.word "ROWS", .word "ONLY"])]

private theorem tokens_keyword {p : String} {toks : List Token} (h : (p, toks) ∈ keywords) :
    Sql.tokens p.toList = some toks := by
  have htable : ∀ k ∈ keywords, Sql.tokens k.1.toList = some k.2 := by decide +kernel
  exact htable _ h

private theorem parts_keyword {p : String} {toks : List Token} (hp : Sql.isParting p = true)
    (h : (p, toks) ∈ keywords) : Parts p toks :=
  .words hp (tokens_keyword h)

theorem reads_columnList {columns : List String} (h : columnList columns = .ok a) :
    Reads a (Sql.nameTokens columns) := by
  obtain ⟨hcolumns, rfl⟩ := columnList_eq_ok_iff.mp h
  have hcomma : Parts ", " [.sign ','] := parts_keyword rfl (by simp [keywords])
  refine .intercalate hcomma (List.forall₂_map_left_iff.mpr (List.forall₂_map_right_iff.mpr ?_))
  exact List.forall₂_same.mpr fun c hc => .name (Sql.not_mem_of_conforms (hcolumns c hc)).1

private theorem reads_selectedColumns {columns : List String}
    (h : selectedColumns columns = .ok a) : Reads a (Sql.selectedTokens columns) := by
  cases columns with
  | nil =>
    cases h
    exact .words rfl (tokens_keyword (by simp [keywords, Sql.selectedTokens]))
  | cons c columns => exact reads_columnList h

private theorem trails_distinct (distinct : Bool) :
    Trails (if distinct then " DISTINCT" else "") (Sql.distinctTokens distinct) := by
  cases distinct with
  | false => exact .empty
  | true => exact .words rfl (tokens_keyword (by simp [keywords, Sql.distinctTokens]))

private theorem trails_topText (s : Select) : Trails (topText s) (Sql.topTokens s.top) := by
  unfold topText Select.top
  cases s.limit with
  | none => simpa [Sql.topTokens] using Trails.empty
  | some limit =>
    cases s.offset with
    | none =>
      have htop : Parts " TOP " [.word "TOP"] := parts_keyword rfl (by simp [keywords])
      exact htop.before (Sql.reads_whole limit.toNat).1
    | some offset => exact .empty

private theorem trails_groupText (hhaving : s.having = none) (h : groupText s = .ok a) :
    Trails a (Sql.groupTokens s.groupBy) := by
  unfold groupText at h
  cases hgroups : s.groupBy with
  | nil =>
    rw [hgroups] at h
    cases h
    exact .empty
  | cons c groups =>
    simp only [hgroups, List.isEmpty_cons, Bool.false_eq_true, if_false, hhaving, whenGiven,
      String.append_empty, bind_eq_ok_iff, pure_eq_ok_iff] at h
    obtain ⟨list, hlist, rfl⟩ := h
    have hwords : Parts " GROUP BY " [.word "GROUP", .word "BY"] :=
      parts_keyword rfl (by simp [keywords])
    exact hwords.before (reads_columnList hlist)

private theorem trails_fetch (limit : Option UInt64) :
    Trails (whenGiven (fun limit => " FETCH NEXT " ++ toString limit.toNat ++ " ROWS ONLY") limit)
      (Sql.fetchTokens (limit.map (·.toNat))) := by
  cases limit with
  | none => exact .empty
  | some limit =>
    have hfetch : Parts " FETCH NEXT " [.word "FETCH", .word "NEXT"] :=
      parts_keyword rfl (by simp [keywords])
    have honly : Trails " ROWS ONLY" [.word "ROWS", .word "ONLY"] :=
      .words rfl (tokens_keyword (by simp [keywords]))
    exact (hfetch.before (Sql.reads_whole limit.toNat).1).append honly

private theorem trails_page (horder : s.orderBy = []) :
    Trails (orderText s ++ offsetText s) (Sql.pageTokens s.page) := by
  simp only [orderText, offsetText, horder, List.isEmpty_nil, Bool.not_true, Bool.false_eq_true,
    if_false, Select.page]
  cases s.offset with
  | none => exact .empty
  | some offset =>
    -- an offset stands behind an order, also if the query asks for none
    have horder : Parts " ORDER BY (SELECT NULL)" Sql.orderTokens :=
      parts_keyword rfl (by simp [keywords])
    have hoffset : Parts " OFFSET " [.word "OFFSET"] := parts_keyword rfl (by simp [keywords])
    have hrows : Trails " ROWS" [.word "ROWS"] := .words rfl (tokens_keyword (by simp [keywords]))
    have hnumber := (hoffset.before (Sql.reads_whole offset.toNat).1).append hrows
    have hpage := horder.trails.append (hnumber.append (trails_fetch s.limit))
    simpa [Sql.pageTokens] using hpage

/-- A query without SQL text of its own reads as what is written for it. -/
theorem reads_select (hs : (Statement.select s).WithoutRawSql) (h : select settings s = .ok sql) :
    Reads sql (s.query settings).tokens := by
  obtain ⟨hwhere, hjoin, hhaving, horder⟩ := hs
  simp only [select, hwhere, hjoin, whenGiven, String.append_empty, bind_eq_ok_iff, pure_eq_ok_iff,
    named_eq_ok_iff] at h
  obtain ⟨columns, hcolumns, name, hname, groups, hgroups, rfl⟩ := h
  have hword : Reads "SELECT" [.word "SELECT"] := .words rfl (tokens_keyword (by simp [keywords]))
  have hblank : Parts " " [] := parts_keyword rfl (by simp [keywords])
  have hfrom : Parts " FROM " [.word "FROM"] := parts_keyword rfl (by simp [keywords])
  have hhead := (hword.behind (trails_distinct s.distinct)).behind (trails_topText s)
  have hselected := (hhead.close hblank).append (reads_selectedColumns hcolumns)
  have htable := (hselected.close hfrom).append (reads_qualifiedName hname)
  have hall := (htable.behind (trails_groupText hhaving hgroups)).behind (trails_page horder)
  rw [← String.append_assoc] at hall
  simpa [Query.tokens, Select.query] using hall

/-- What both platforms write for a query without SQL text of its own is read back as the query.
The first rows are asked for only without an offset, so many rows are fetched only behind one, and
an offset stands only behind an order. -/
theorem rendered_query_read_back (hs : (Statement.select s).WithoutRawSql)
    (h : (Fabric.renderer settings).render (.select s) = .ok sql ∨
      (Synapse.renderer settings).render (.select s) = .ok sql) :
    ∃ toks q, Sql.tokens sql.toList = some toks ∧ Sql.readQuery toks = some q ∧
      q.distinct = s.distinct ∧ q.columns = s.columns ∧ q.schema = s.target.schema ∧
      q.object = settings.physicalName s.target.schema s.target.object ∧
      q.groupBy = s.groupBy ∧ q.limit = s.limit.map (·.toNat) ∧
      q.offset = s.offset.map (·.toNat) ∧
      (.word "TOP" ∈ toks ↔ s.limit.isSome ∧ s.offset = none) ∧
      (.word "FETCH" ∈ toks ↔ s.limit.isSome ∧ s.offset.isSome) ∧
      (.word "OFFSET" ∈ toks →
        ∃ front back, toks = front ++ Sql.orderTokens ++ .word "OFFSET" :: back) := by
  have hsql : select settings s = .ok sql := h.elim id id
  have hlimit : (s.query settings).limit = s.limit.map (·.toNat) := by
    cases hoffset : s.offset <;> simp [Select.query, Query.limit, Select.top, Select.page, hoffset]
  have hoffset : (s.query settings).offset = s.offset.map (·.toNat) := by
    cases hoffset : s.offset <;> simp [Select.query, Query.offset, Select.page, hoffset]
  refine ⟨(s.query settings).tokens, s.query settings, (reads_select hs hsql).tokens_eq,
    Sql.readQuery_tokens _, rfl, rfl, rfl, rfl, rfl, hlimit, hoffset, ?_, ?_,
    Query.order_before_offset⟩
  · rw [Query.word_mem_tokens (by decide) (by decide),
      Sql.word_mem_pageTokens_iff (by decide)]
    cases hoffset : s.offset <;> simp [Select.query, Select.top, hoffset]
  · rw [Query.word_mem_tokens (by decide) (by decide),
      Sql.word_mem_pageTokens_iff (by decide)]
    cases hoffset : s.offset <;> simp [Select.query, Select.page, hoffset]

/-- The second page of distinct rows, on a table with a prefix. -/
theorem paged_query_read_back :
    let settings : Settings := { Settings.standard with tablePrefix := some "dev_" }
    let target : Target := ⟨"bronze", "orders", none, none, none⟩
    let columns := ["region", "year"]
    let s : Select :=
      ⟨target, columns, true, none, none, columns, none, [], some 10, some 20⟩
    let sql := "SELECT DISTINCT [region], [year] FROM [bronze].[dev_orders] " ++
      "GROUP BY [region], [year] ORDER BY (SELECT NULL) OFFSET 20 ROWS FETCH NEXT 10 ROWS ONLY"
    (Statement.select s).WithoutRawSql ∧ (Fabric.renderer settings).render (.select s) = .ok sql ∧
      ∃ toks q, Sql.tokens sql.toList = some toks ∧ Sql.readQuery toks = some q ∧
        q.distinct = true ∧ q.columns = columns ∧ q.schema = "bronze" ∧ q.object = "dev_orders" ∧
        q.groupBy = columns ∧ q.limit = some 10 ∧ q.offset = some 20 ∧ .word "TOP" ∉ toks ∧
        .word "FETCH" ∈ toks := by
  intro settings target columns s sql
  have hs : (Statement.select s).WithoutRawSql := ⟨rfl, rfl, rfl, rfl⟩
  have hsql : (Fabric.renderer settings).render (.select s) = .ok sql := by decide +kernel
  obtain ⟨toks, q, htoks, hq, hdistinct, hcolumns, hschema, hobject, hgroups, hlimit, hoffset,
    htop, hfetch, -⟩ := rendered_query_read_back hs (.inl hsql)
  have hphysical : settings.physicalName "bronze" "orders" = "dev_orders" := by rfl
  have htop' : .word "TOP" ∉ toks := by simp [htop, s]
  exact ⟨hs, hsql, toks, q, htoks, hq, hdistinct, hcolumns, hschema, hobject.trans hphysical,
    hgroups, hlimit, hoffset, htop', hfetch.mpr ⟨rfl, rfl⟩⟩

end Render

end LakehouseSql
