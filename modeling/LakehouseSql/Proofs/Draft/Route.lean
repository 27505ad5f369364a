import LakehouseSql.Proofs.Draft.Build
import LakehouseSql.Statement.Record
/-! # Ways to a statement

A statement is constructed with setters, built from a draft or read from JSON text. Drafts, and
through them JSON text, call the same constructors and setters. So an insert or statistics from any
of these ways could have been constructed.
-/
namespace LakehouseSql

namespace Lifecycle

variable {α : Type} {l : Lifecycle α} {a b : α}

theorem Reached.set (h : l.Reached a) (setter : l.Setter) (hset : l.set a setter = .ok b) :
    l.Reached b := by
  obtain ⟨made, setters, hmade, rfl⟩ := h
  refine ⟨made, setters ++ [setter], hmade, ?_⟩
  rw [run_concat, attempt, hset]

theorem Reached.given {β : Type} {field : Option β} {change : α → β → Checked α}
    (h : l.Reached a) (hchange : ∀ b, ∃ setter, l.set a setter = change a b)
    (hb : Draft.given field change a = .ok b) : l.Reached b := by
  cases field with
  | none =>
    cases hb
    exact h
  | some value =>
    obtain ⟨setter, hsetter⟩ := hchange value
    exact h.set setter (hsetter.trans hb)

theorem Reached.listed {β : Type} {items : List β} {change : α → List β → Checked α}
    (h : l.Reached a) (hchange : ∀ items, ∃ setter, l.set a setter = change a items)
    (hb : Draft.listed items change a = .ok b) : l.Reached b := by
  unfold Draft.listed at hb
  split at hb
  · cases hb
    exact h
  · obtain ⟨setter, hsetter⟩ := hchange items
    exact h.set setter (hsetter.trans hb)

end Lifecycle

namespace Draft

variable {d : Draft} {t : Target} {provider : Option StatsProvider}

theorem target_reached (h : d.target = .ok t) : t.Reached := by
  simp only [target, bind_eq_ok_iff, pure_eq_ok_iff] at h
  obtain ⟨plain, hplain, rfl⟩ := h
  refine ⟨plain, d.engineHint.toList.map .engineHint ++
    (d.loggingContext.toList.map .loggingContext ++ d.metadata.toList.map .metadata),
    ⟨d.schema, d.object, hplain⟩, ?_⟩
  obtain ⟨-, -, rfl⟩ := Target.create_eq_ok_iff.mp hplain
  cases d.engineHint <;> cases d.loggingContext <;> cases d.metadata <;> rfl

theorem insert_reached {i : Insert} (ht : t.Reached) (h : d.insert t = .ok i) :
    Insert.lifecycle.Reached i := by
  simp only [insert, bind_eq_ok_iff] at h
  obtain ⟨source, -, made, hmade, hcolumns⟩ := h
  have hreached : Insert.lifecycle.Reached made :=
    Lifecycle.reached_of_made ⟨t, source, ht, hmade⟩
  have hmode : Insert.lifecycle.Reached (made.withMode (d.insertMode.getD default)) :=
    hreached.set (Insert.Setter.mode _) rfl
  exact hmode.listed (fun columns => ⟨Insert.Setter.columns columns, rfl⟩) hcolumns

theorem statisticsRequest_reached {r : StatisticsRequest} (ht : t.Reached)
    (h : d.statisticsRequest t = .ok r) : r.Reached := by
  simp only [statisticsRequest, bind_eq_ok_iff, pure_eq_ok_iff] at h
  obtain ⟨_, hcolumns, _, hscan, _, hsample, _, hname, rfl⟩ := h
  have hmade : (StatisticsRequest.create t).Reached := Lifecycle.reached_of_made ⟨t, ht, rfl⟩
  replace hcolumns := hmade.listed (fun columns => ⟨.columns columns, rfl⟩) hcolumns
  replace hscan := hcolumns.given (fun fullScan => ⟨.fullScan fullScan, rfl⟩) hscan
  replace hsample := hscan.given (fun percent => ⟨.samplePercent percent, rfl⟩) hsample
  replace hname := hsample.given (fun name => ⟨.name name, rfl⟩) hname
  exact hname.set (.autoDiscover _) rfl

theorem createStatistics_reached {s : CreateStatistics} (ht : t.Reached)
    (h : d.createStatistics t provider = .ok s) : CreateStatistics.lifecycle.Reached s := by
  simp only [createStatistics, bind_eq_ok_iff] at h
  obtain ⟨request, hrequest, hresolve⟩ := h
  exact Lifecycle.reached_of_made
    ⟨request, provider, statisticsRequest_reached ht hrequest, hresolve⟩

end Draft

namespace Statement

/-- The statement is constructed, built from a draft or read from JSON text. -/
inductive Obtained (s : Statement) : Prop where
  | constructed (h : s.Constructible)
  | built {d : Draft} {provider : Option StatsProvider} (h : d.buildWith provider = .ok s)
  | read {text : String} (h : ofJsonText text = .ok s)

variable {d : Draft} {provider : Option StatsProvider} {s : Statement}

theorem buildWith_eq_ok (h : d.buildWith provider = .ok s) :
    ∃ t, d.target = .ok t ∧ d.assemble? provider t = some (.ok s) := by
  unfold Draft.buildWith at h
  cases ht : d.target with
  | error e => simp [ht] at h
  | ok t =>
    cases ha : d.assemble? provider t with
    | none => simp [ht, ha] at h
    | some assembled => simp_all

/-- JSON text becomes a draft first. -/
theorem built_of_read {text : String} (h : ofJsonText text = .ok s) :
    ∃ d : Draft, d.build = .ok s := by
  simp only [ofJsonText, bind_eq_ok_iff, mapError_eq_ok_iff, guard_eq_ok_iff,
    pure_eq_ok_iff] at h
  obtain ⟨record, -, -, d, -, _, hbuild, -, rfl⟩ := h
  exact ⟨d, hbuild⟩

theorem insert_of_built {i : Insert} (h : d.buildWith provider = .ok (insert i)) :
    Insert.lifecycle.Reached i := by
  obtain ⟨t, ht, hassembled⟩ := buildWith_eq_ok h
  unfold Draft.assemble? at hassembled
  split at hassembled
  case h_6 =>
    obtain ⟨_, hinsert, heq⟩ := map_eq_ok_iff.mp (Option.some.inj hassembled)
    cases heq
    exact Draft.insert_reached (Draft.target_reached ht) hinsert
  all_goals simp at hassembled

theorem statistics_of_built {stats : CreateStatistics}
    (h : d.buildWith provider = .ok (createStatistics stats)) :
    CreateStatistics.lifecycle.Reached stats := by
  obtain ⟨t, ht, hassembled⟩ := buildWith_eq_ok h
  unfold Draft.assemble? at hassembled
  split at hassembled
  case h_12 =>
    obtain ⟨_, hstatistics, heq⟩ := map_eq_ok_iff.mp (Option.some.inj hassembled)
    cases heq
    exact Draft.createStatistics_reached (Draft.target_reached ht) hstatistics
  all_goals simp at hassembled

/-- An insert from any way could have been constructed. -/
theorem Obtained.insert_reached {i : Insert} (h : (insert i).Obtained) :
    Insert.lifecycle.Reached i := by
  cases h with
  | constructed h => exact h
  | built h => exact insert_of_built h
  | read h =>
    obtain ⟨d, hbuild⟩ := built_of_read h
    exact insert_of_built hbuild

/-- Statistics from any way could have been constructed. -/
theorem Obtained.statistics_reached {stats : CreateStatistics}
    (h : (createStatistics stats).Obtained) : CreateStatistics.lifecycle.Reached stats := by
  cases h with
  | constructed h => exact h
  | built h => exact statistics_of_built h
  | read h =>
    obtain ⟨d, hbuild⟩ := built_of_read h
    exact statistics_of_built hbuild

end Statement

end LakehouseSql
