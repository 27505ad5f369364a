import LakehouseSql.Proofs.Render.Common
import LakehouseSql.Render.Fabric
import LakehouseSql.Render.Synapse
/-! # Flags that are written

Whether a drop takes dependants along and whether a view replaces another is said by flags. With
another flag Fabric writes another text, except for a dropped table, and Synapse always the same.
-/
namespace LakehouseSql

/-- The statements differ in one flag, which a setter turns. -/
inductive Statement.Flipped : Statement → Statement → Prop where
  | dropTable (t : DropTable) : Flipped (.dropTable t) (.dropTable (t.withCascade !t.cascade))
  | cascade {s r : DropSchema} (h : s.withCascade (!s.cascade) = .ok r) :
    Flipped (.dropSchema s) (.dropSchema r)
  | restrict {s r : DropSchema} (h : s.withRestrict (!s.restrict) = .ok r) :
    Flipped (.dropSchema s) (.dropSchema r)
  | createView (v : CreateView) :
    Flipped (.createView v) (.createView (v.withOrReplace !v.orReplace))

variable {settings : Settings} {s s' : Statement} {sql : String}

theorem Synapse.render_flipped (h : s.Flipped s') :
    (renderer settings).render s' = (renderer settings).render s := by
  cases h with
  | dropTable t => rfl
  | cascade h =>
    obtain ⟨-, rfl⟩ := DropSchema.withCascade_eq_ok_iff.mp h
    rfl
  | restrict h =>
    obtain ⟨-, rfl⟩ := DropSchema.withRestrict_eq_ok_iff.mp h
    rfl
  | createView v => rfl

namespace Fabric
open Render

/-- What is written at the end tells the two flags, of which at most one is set. -/
theorem dropSchema_flags {d : DropSchema} {cascade restrict : Bool}
    (hd : ¬(d.cascade ∧ d.restrict)) (hflags : ¬(cascade ∧ restrict)) (h : dropSchema d = .ok sql)
    (h' : dropSchema { d with cascade, restrict } = .ok sql) :
    d.cascade = cascade ∧ d.restrict = restrict := by
  simp only [dropSchema, bind_eq_ok_iff, pure_eq_ok_iff, named_eq_ok_iff] at h h'
  obtain ⟨name, hname, rfl⟩ := h
  obtain ⟨name', hname', hsql⟩ := h'
  obtain rfl := result_unique hname hname'
  have htells : ∀ c r c' r' : Bool, ¬(c ∧ r) → ¬(c' ∧ r') →
      (if c then " CASCADE" else if r then " RESTRICT" else "") =
        (if c' then " CASCADE" else if r' then " RESTRICT" else "") → c = c' ∧ r = r' := by
    decide
  exact htells _ _ _ _ hd hflags ((String.append_right_inj _).mp hsql).symm

theorem createView_orReplace {v : CreateView} {orReplace : Bool}
    (h : createView settings v = .ok sql)
    (h' : createView settings { v with orReplace } = .ok sql) : v.orReplace = orReplace := by
  simp only [createView, guard_eq_ok_iff, bind_eq_ok_iff, pure_eq_ok_iff, named_eq_ok_iff] at h h'
  obtain ⟨-, name, hname, columns, hcolumns, rfl⟩ := h
  obtain ⟨-, name', hname', columns', hcolumns', hsql⟩ := h'
  obtain rfl := result_unique hname hname'
  obtain rfl := result_unique hcolumns hcolumns'
  have htells : ∀ b b' : Bool, (if b then "CREATE OR REPLACE VIEW " else "CREATE VIEW ") =
      (if b' then "CREATE OR REPLACE VIEW " else "CREATE VIEW ") → b = b' := by
    decide
  simp only [String.append_left_inj] at hsql
  exact htells _ _ hsql.symm

/-- With another flag another text is written, except for a dropped table. -/
theorem render_flipped_iff (hs : s.Constructible) (hflip : s.Flipped s')
    (h : (renderer settings).render s = .ok sql) :
    (renderer settings).render s' = .ok sql ↔ ∃ t, s = .dropTable t := by
  cases hflip with
  | dropTable t => exact iff_of_true h ⟨t, rfl⟩
  | cascade hset =>
    obtain ⟨hflags, rfl⟩ := DropSchema.withCascade_eq_ok_iff.mp hset
    refine iff_of_false (fun h' => ?_) (by simp)
    have hsame := dropSchema_flags (DropSchema.reached_consistent hs).exclusive hflags h h'
    simp at hsame
  | restrict hset =>
    obtain ⟨hflags, rfl⟩ := DropSchema.withRestrict_eq_ok_iff.mp hset
    refine iff_of_false (fun h' => ?_) (by simp)
    have hsame := dropSchema_flags (DropSchema.reached_consistent hs).exclusive hflags h h'
    simp at hsame
  | createView v =>
    refine iff_of_false (fun h' => ?_) (by simp)
    have hsame := createView_orReplace h h'
    simp at hsame

end Fabric

namespace Render

/-- Turning a flag of a statement is noticed, by another text or by none, exactly on Fabric and for
anything but a dropped table. -/
theorem flag_noticed_iff {r : Renderer}
    (hr : r = Fabric.renderer settings ∨ r = Synapse.renderer settings) (hs : s.Constructible)
    (hflip : s.Flipped s') (h : r.render s = .ok sql) :
    r.render s' ≠ .ok sql ↔ r.platform = .fabric ∧ ∀ t, s ≠ .dropTable t := by
  rcases hr with rfl | rfl
  · have hfabric : (Fabric.renderer settings).platform = .fabric := rfl
    rw [ne_eq, Fabric.render_flipped_iff hs hflip h, not_exists]
    exact (and_iff_right hfabric).symm
  · rw [Synapse.render_flipped hflip]
    exact iff_of_false (fun hne => hne h) nofun

/-- A schema that Fabric drops with what depends on it, or without. -/
theorem cascade_noticed :
    let target : Target := ⟨"staging", "staging", none, none, none⟩
    let d : DropSchema := ⟨target, true, false, false⟩
    let d' : DropSchema := ⟨target, true, true, false⟩
    Statement.Constructible (.dropSchema d) ∧ Statement.Flipped (.dropSchema d) (.dropSchema d') ∧
      (Fabric.renderer .standard).render (.dropSchema d) =
        .ok "DROP SCHEMA IF EXISTS [staging]" ∧
      (Fabric.renderer .standard).render (.dropSchema d') ≠
        .ok "DROP SCHEMA IF EXISTS [staging]" := by
  intro target d d'
  have hs : Statement.Constructible (.dropSchema d) :=
    Lifecycle.reached_of_made (.inr ⟨"staging", rfl⟩)
  have hflip : Statement.Flipped (.dropSchema d) (.dropSchema d') := .cascade rfl
  have hsql : (Fabric.renderer .standard).render (.dropSchema d) =
      .ok "DROP SCHEMA IF EXISTS [staging]" := by
    unfold d target
    rfl
  exact ⟨hs, hflip, hsql, (flag_noticed_iff (.inl rfl) hs hflip hsql).mpr ⟨rfl, by simp⟩⟩

/-- A view that is to replace no other, and a table that is dropped with what depends on it: both
are written as if nothing of this were asked for. -/
theorem flags_dropped_without_notice :
    let target : Target := ⟨"gold", "orders", none, none, none⟩
    let v : CreateView := ⟨target, "SELECT 1 AS id", [], false, false, true⟩
    let t : DropTable := ⟨target, true, false⟩
    let view := "CREATE OR ALTER VIEW [gold].[orders] AS\nSELECT 1 AS id"
    let drop := "DROP TABLE IF EXISTS [gold].[orders]"
    Statement.Constructible (.createView v) ∧
      Statement.Flipped (.createView v) (.createView { v with orReplace := false }) ∧
      (Synapse.renderer .standard).render (.createView v) = .ok view ∧
      (Synapse.renderer .standard).render (.createView { v with orReplace := false }) = .ok view ∧
      Statement.Constructible (.dropTable t) ∧
      Statement.Flipped (.dropTable t) (.dropTable { t with cascade := true }) ∧
      (Fabric.renderer .standard).render (.dropTable t) = .ok drop ∧
      (Fabric.renderer .standard).render (.dropTable { t with cascade := true }) = .ok drop := by
  intro target v t view drop
  have htarget : target.Reached := Lifecycle.reached_of_made ⟨"gold", "orders", rfl⟩
  have hv : CreateView.create target "SELECT 1 AS id" = .ok v := rfl
  have hview : (Synapse.renderer .standard).render (.createView v) = .ok view := by
    unfold view v target
    rfl
  have hdrop : (Fabric.renderer .standard).render (.dropTable t) = .ok drop := by
    unfold drop t target
    rfl
  exact ⟨Lifecycle.reached_of_made ⟨target, "SELECT 1 AS id", htarget, hv⟩, .createView v, hview,
    hview, Lifecycle.reached_of_made ⟨target, htarget, rfl⟩, .dropTable t, hdrop, hdrop⟩

end Render

end LakehouseSql
