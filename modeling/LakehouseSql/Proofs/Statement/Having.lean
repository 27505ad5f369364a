import LakehouseSql.Proofs.Render.Common
import LakehouseSql.Proofs.Statement.RoundTrip
import LakehouseSql.Render.Fabric
import LakehouseSql.Render.Synapse
/-! # Conditions on groups

A condition on groups is set only where there are columns to group by, but these can be taken away
after it. That is the one way in which a query loses its condition: as long as nothing takes them
away, the condition stands in the SQL text and the JSON text is read back.
-/
namespace LakehouseSql.Select
open Identifier (Conforms)

/-- A condition on groups comes with columns to group by. -/
def Grouped (s : Select) : Prop :=
  s.having.isSome → s.groupBy ≠ []

/-- The call that takes all groups away. -/
def ungroup : lifecycle.Setter :=
  Setter.groupBy []

theorem set_grouped (s : Select) (setter : Setter) (r : Select) (hs : s.Grouped)
    (h : s.set setter = .ok r) :
    r.Grouped ↔ ¬(setter = .groupBy [] ∧ s.having.isSome) := by
  cases setter with
  | columns columns =>
    obtain ⟨-, rfl⟩ := withColumns_eq_ok_iff.mp h
    exact iff_of_true hs (by simp)
  | distinct => cases h; exact iff_of_true hs (by simp)
  | whereClause condition => cases h; exact iff_of_true hs (by simp)
  | joinClause join => cases h; exact iff_of_true hs (by simp)
  | groupBy columns =>
    obtain ⟨-, rfl⟩ := withGroupBy_eq_ok_iff.mp h
    simp [Grouped, imp_not_comm]
  | having condition =>
    obtain ⟨hgroups, rfl⟩ := withHaving_eq_ok_iff.mp h
    exact iff_of_true (fun _ => hgroups) (by simp)
  | orderBy expressions => cases h; exact iff_of_true hs (by simp)
  | limit limit =>
    obtain ⟨-, rfl⟩ := withLimit_eq_ok_iff.mp h
    exact iff_of_true hs (by simp)
  | offset offset => cases h; exact iff_of_true hs (by simp)

theorem attempt_grouped_iff {s : Select} (hs : s.Grouped) (setter : lifecycle.Setter) :
    (lifecycle.attempt s setter).Grouped ↔ ¬(setter = ungroup ∧ s.having.isSome) := by
  unfold Lifecycle.attempt
  cases h : lifecycle.set s setter with
  | ok r => exact set_grouped s setter r hs h
  | error e =>
    -- taking all groups away is never refused
    refine iff_of_true hs ?_
    rintro ⟨rfl, -⟩
    cases h

/-- Every query of a run has its groups exactly if they are taken away from none that has a
condition on them. -/
theorem run_grouped_iff {s : Select} (hs : s.Grouped) (setters : List lifecycle.Setter) :
    (∀ front back, setters = front ++ back → (lifecycle.run s front).Grouped) ↔
      ∀ front back, setters = front ++ ungroup :: back →
        (lifecycle.run s front).having = none := by
  constructor
  · rintro hall front back rfl
    have hbefore := hall front _ rfl
    have hafter := hall (front ++ [ungroup]) back (List.append_cons front ungroup back)
    rw [lifecycle.run_concat, attempt_grouped_iff hbefore] at hafter
    simpa using hafter
  · intro hkept front
    induction front using List.reverseRecOn with
    | nil => exact fun _ _ => hs
    | append_singleton front setter ih =>
      intro back heq
      rw [List.append_assoc, List.singleton_append] at heq
      rw [lifecycle.run_concat, attempt_grouped_iff (ih _ heq)]
      rintro ⟨rfl, hhaving⟩
      rw [hkept front back heq] at hhaving
      cases hhaving

variable {s : Select} {settings : Settings}

/-- The groups and the condition on them are written together. -/
theorem select_having {condition text : String} (hs : s.Grouped)
    (hhaving : s.having = some condition) (htext : Render.select settings s = .ok text) :
    ∃ front groups back, Render.columnList s.groupBy = .ok groups ∧
      text = front ++ " GROUP BY " ++ groups ++ " HAVING " ++ condition ++ back := by
  have hgroups : s.groupBy.isEmpty = false := by
    simpa using hs (by simp [hhaving])
  simp only [Render.select, Render.groupText, hgroups, Bool.false_eq_true, if_false, hhaving,
    Render.named_eq_ok_iff, bind_eq_ok_iff, pure_eq_ok_iff] at htext
  obtain ⟨columns, -, name, -, _, ⟨groups, hcolumns, rfl⟩, rfl⟩ := htext
  refine ⟨"SELECT" ++ (if s.distinct then " DISTINCT" else "") ++ Render.topText s ++ " " ++
    columns ++ " FROM " ++ name ++ Render.whenGiven (" " ++ ·) s.joinClause ++
    Render.whenGiven (" WHERE " ++ ·) s.whereClause, groups,
    Render.orderText s ++ Render.offsetText s, hcolumns, ?_⟩
  simp only [Render.whenGiven, String.append_assoc]

theorem select_ungrouped (hs : ¬s.Grouped) (settings : Settings) :
    Render.select settings s = Render.select settings { s with having := none } := by
  have hgroups : s.groupBy = [] := by
    by_contra hne
    exact hs fun _ => hne
  simp [Render.select, Render.groupText, hgroups, Render.orderText, Render.offsetText,
    Render.topText]

/-- A query is read back from its JSON text exactly if its condition has groups. -/
theorem read_back_iff (hs : s.Consistent) :
    (∃ t, Statement.ofJsonText (Statement.select s).jsonText = .ok t) ↔ s.Grouped := by
  have hfloats : Json.FloatsReadBack (Statement.select s).floats := nofun
  have hnone : (Statement.select s).draft.columnDefinitions = [] := rfl
  have hcolumns : ∀ c ∈ (Statement.select s).draft.columnDefinitions, c.Consistent := by
    simp [hnone]
  have hreached : (Statement.select s).draft.ColumnsReached := by
    simp [Draft.ColumnsReached, hnone]
  have hbuild (t : Statement) : (Statement.select s).draft.build = .ok t ↔
      (Conforms .object s.target.schema ∧ Conforms .object s.target.object ∧
        s.draft.FitsSelect) ∧ some (Statement.select s.draft.plainSelect) = some t :=
    Draft.buildWith_eq_ok_iff hreached
  simp only [Statement.ofJsonText_jsonText_iff hfloats hcolumns, hbuild]
  constructor
  · rintro ⟨t, ⟨-, -, hfits⟩, -⟩
    exact hfits.having
  · intro h
    exact ⟨_, ⟨hs.target.schema, hs.target.object, hs.columns, hs.groupBy, h, hs.limit⟩, rfl⟩

theorem made_grouped (h : lifecycle.Made s) : s.Grouped := by
  obtain ⟨target, -, rfl⟩ := h
  exact nofun

/-- However a query came about, its condition on groups always had groups exactly if they were
taken away from none that had one. With its groups a condition stands in the text of both
platforms, without them it leaves no trace, and exactly with them the JSON text is read back. -/
theorem condition_stays_iff_groups_stay (hmade : lifecycle.Made s)
    (setters : List lifecycle.Setter) :
    let r := lifecycle.run s setters
    ((∀ front back, setters = front ++ back → (lifecycle.run s front).Grouped) ↔
      ∀ front back, setters = front ++ ungroup :: back →
        (lifecycle.run s front).having = none) ∧
    (r.Grouped → ∀ settings condition text, r.having = some condition →
      (Fabric.renderer settings).render (.select r) = .ok text ∨
        (Synapse.renderer settings).render (.select r) = .ok text →
      ∃ front groups back, Render.columnList r.groupBy = .ok groups ∧
        text = front ++ " GROUP BY " ++ groups ++ " HAVING " ++ condition ++ back) ∧
    (¬r.Grouped → ∀ settings,
      (Fabric.renderer settings).render (.select r) =
        (Fabric.renderer settings).render (.select { r with having := none }) ∧
      (Synapse.renderer settings).render (.select r) =
        (Synapse.renderer settings).render (.select { r with having := none })) ∧
    ((∃ t, Statement.ofJsonText (Statement.select r).jsonText = .ok t) ↔ r.Grouped) := by
  intro r
  have hreached : lifecycle.Reached r := ⟨s, setters, hmade, rfl⟩
  refine ⟨run_grouped_iff (made_grouped hmade) setters, ?_, ?_,
    read_back_iff (reached_consistent hreached)⟩
  · rintro hr settings condition text hhaving (htext | htext)
    · exact select_having hr hhaving htext
    · exact select_having hr hhaving htext
  · exact fun hr settings => ⟨select_ungrouped hr settings, select_ungrouped hr settings⟩

/-- Groups and a condition on them, in their order. -/
theorem grouped_condition_stays :
    let target : Target := ⟨"silver", "orders", none, none, none⟩
    let s := lifecycle.run (create target)
      [Setter.groupBy ["region"], Setter.having "COUNT(*) > 1"]
    lifecycle.Made (create target) ∧ s.having = some "COUNT(*) > 1" ∧ s.Grouped ∧
      ∃ t, Statement.ofJsonText (Statement.select s).jsonText = .ok t := by
  intro target s
  have hmade : lifecycle.Made (create target) :=
    ⟨target, ⟨target, [], ⟨"silver", "orders", by decide +kernel⟩, rfl⟩, rfl⟩
  have hgrouped : s.Grouped := fun _ => by decide +kernel
  exact ⟨hmade, by decide +kernel, hgrouped,
    (condition_stays_iff_groups_stay hmade _).2.2.2.mpr hgrouped⟩

/-- Once the groups are taken away, the condition is still set, but no text has it, and the JSON
text is refused. -/
theorem condition_lost_with_groups :
    let target : Target := ⟨"silver", "orders", none, none, none⟩
    let s := lifecycle.run (create target)
      [Setter.groupBy ["region"], Setter.having "COUNT(*) > 1", ungroup]
    lifecycle.Reached s ∧ s.having = some "COUNT(*) > 1" ∧ s.groupBy = [] ∧
      (Fabric.renderer .standard).render (.select s) = .ok "SELECT * FROM [silver].[orders]" ∧
      (Synapse.renderer .standard).render (.select s) = .ok "SELECT * FROM [silver].[orders]" ∧
      ¬∃ t, Statement.ofJsonText (Statement.select s).jsonText = .ok t := by
  intro target s
  have hreached : lifecycle.Reached s :=
    ⟨create target, [Setter.groupBy ["region"], Setter.having "COUNT(*) > 1", ungroup],
      ⟨target, ⟨target, [], ⟨"silver", "orders", by decide +kernel⟩, rfl⟩, rfl⟩, rfl⟩
  refine ⟨hreached, by decide +kernel, by decide +kernel, by decide +kernel, by decide +kernel, ?_⟩
  rw [read_back_iff (reached_consistent hreached)]
  exact fun h => h (by decide +kernel) (by decide +kernel)

end LakehouseSql.Select
