import LakehouseSql.Proofs.Render.Fragment.Common
import LakehouseSql.Proofs.Render.Location
/-! # Targets that stay apart

Targets that differ in schema or object have different quoted names, and their tables are placed in
different folders if no place is asked for. A quoted name is read back as the schema and the
physical object, which tells the object within its schema. A place is told by its last two folders:
they are schema and object, whatever folder is configured and however the table is defined.
-/
namespace LakehouseSql.Synapse
open Render
open Identifier (Conforms)

/-- The parts of a place between its slashes. -/
def folders (place : String) : List String :=
  (place.toList.splitOn '/').map String.ofList

/-- A table that is made for a target without a place of its own and goes through any setters. -/
def Unplaced (target : Target) (t : CreateTable) : Prop :=
  ∃ d made setters, d.location = none ∧ CreateTable.create target d = .ok made ∧
    CreateTable.lifecycle.run made setters = t

section
variable {settings : Settings} {target target' : Target}

theorem physicalName_inj {schema object object' : String}
    (h : settings.physicalName schema object = settings.physicalName schema object') :
    object = object' := by
  unfold Settings.physicalName at h
  split at h
  · split at h
    · exact h
    · exact (String.append_right_inj _).mp h
  · exact h

theorem targetName_inj {name : String} (h : targetName settings target = .ok name)
    (h' : targetName settings target' = .ok name) :
    target.schema = target'.schema ∧ target.object = target'.object := by
  have htoks := (reads_qualifiedName h).tokens_eq.symm.trans (reads_qualifiedName h').tokens_eq
  simp only [Option.some.injEq, List.cons.injEq, Sql.Token.name.injEq, true_and, and_true] at htoks
  obtain ⟨hschema, hphysical⟩ := htoks
  rw [hschema] at hphysical
  exact ⟨hschema, physicalName_inj hphysical⟩

end

section
variable {name above below stem place : String} {target target' : Target}

theorem folders_append : folders (above ++ "/" ++ below) = folders above ++ folders below := by
  have hchars : (above ++ "/" ++ below).toList = above.toList ++ '/' :: below.toList := by simp
  rw [folders, hchars, List.splitOn_append_cons_self, List.map_append]
  rfl

theorem folders_eq_singleton (h : '/' ∉ name.toList) : folders name = [name] := by
  simp [folders, List.splitOn_eq_singleton h]

theorem slash_not_mem_of_conforms {rule : Identifier.Rule} (h : Conforms rule name) :
    '/' ∉ name.toList :=
  h.not_mem (by cases rule <;> rfl)

theorem IsStem.unique {stem' : String} (h : IsStem stem place) (h' : IsStem stem' place) :
    stem = stem' :=
  (isStem_iff.mp h).trans (isStem_iff.mp h').symm

theorem isStem_of_conforms {rule : Identifier.Rule} (h : Conforms rule name) (above : String) :
    IsStem (above ++ name) (above ++ name) ∧ IsStem (above ++ name) (above ++ name ++ "/") := by
  have hlast : (above ++ name).toList.getLast? ≠ some '/' := by
    obtain ⟨first, rest, hname, -⟩ := h.shape
    rw [String.toList_append, List.getLast?_append_of_ne_nil _ (by simp [hname])]
    exact fun hslash => slash_not_mem_of_conforms h (List.mem_of_getLast? hslash)
  exact ⟨⟨hlast, "", by simp, rfl⟩, ⟨hlast, "/", rfl, rfl⟩⟩

end

section
variable {settings : Settings} {target target' : Target} {t t' : CreateTable} {stem : String}

/-- Without a configured folder nothing stands before the folder of a target, with one a slash. -/
theorem exists_generatedLocation (settings : Settings) (target : Target) :
    ∃ above, (above = "" ∨ ∃ root, above = root ++ "/") ∧ generatedLocation settings target =
      above ++ target.schema ++ "/" ++ target.object ++ "/" := by
  unfold generatedLocation
  cases settings.synapse.locationPrefix with
  | none => exact ⟨"", .inl rfl, by simp⟩
  | some root =>
    by_cases hempty : root.isEmpty
    · exact ⟨"", .inl rfl, by simp [hempty]⟩
    · refine ⟨withoutTrailingSlashes root ++ "/", .inr ⟨_, rfl⟩, ?_⟩
      simp only [hempty, Bool.false_eq_true, if_false, String.append_assoc]

/-- A table without a place of its own is placed in the folder of its target, which is below
another one at most if no query fills the table. -/
theorem Unplaced.location_eq (h : Unplaced target t) (settings : Settings) :
    location settings t = target.schema ++ "/" ++ target.object ∨
      location settings t = generatedLocation settings target := by
  obtain ⟨d, made, setters, hplace, hmade, rfl⟩ := h
  obtain ⟨htarget, hlocation⟩ := run_keeps_location made setters
  obtain ⟨-, rfl⟩ := CreateTable.create_eq_ok_iff.mp hmade
  rw [location, htarget, hlocation]
  by_cases hquery : d.selectQuery.isSome
  · exact .inl (by simp [CreateTable.defaultLocation, hplace, hquery])
  · exact .inr (by simp [CreateTable.defaultLocation, hplace, hquery])

/-- The last two folders of the place are schema and object. -/
theorem Unplaced.folders_stem (htarget : target.Consistent) (h : Unplaced target t)
    (hstem : IsStem stem (location settings t)) :
    ∃ front, folders stem = front ++ [target.schema, target.object] := by
  have hschema := folders_eq_singleton (slash_not_mem_of_conforms htarget.schema)
  have hobject := folders_eq_singleton (slash_not_mem_of_conforms htarget.object)
  rcases h.location_eq settings with hplace | hplace
  · obtain ⟨hself, -⟩ := isStem_of_conforms htarget.object (target.schema ++ "/")
    obtain rfl := (hplace ▸ hstem).unique hself
    exact ⟨[], by rw [folders_append, hschema, hobject]; rfl⟩
  · obtain ⟨above, habove, hbelow⟩ := exists_generatedLocation settings target
    obtain ⟨-, hslash⟩ := isStem_of_conforms htarget.object (above ++ target.schema ++ "/")
    obtain rfl := ((hplace.trans hbelow) ▸ hstem).unique hslash
    rw [folders_append, hobject]
    rcases habove with rfl | ⟨root, rfl⟩
    · exact ⟨[], by rw [String.empty_append, hschema]; rfl⟩
    · exact ⟨folders root, by rw [folders_append, hschema, List.append_assoc]; rfl⟩

/-- Different targets have different quoted names, and their tables different places even without
the slashes at the end, if no place is asked for. -/
theorem targets_stay_apart (htarget : target.Reached) (htarget' : target'.Reached)
    (hne : (target.schema, target.object) ≠ (target'.schema, target'.object)) :
    (∀ name name', targetName settings target = .ok name → targetName settings target' = .ok name' →
      name ≠ name') ∧
    ∀ t t' sql sql', Unplaced target t → Unplaced target' t' →
      (renderer settings).render (.createTable t) = .ok sql →
      (renderer settings).render (.createTable t') = .ok sql' →
      ∃ place place', Places settings t sql place ∧ Places settings t' sql' place' ∧
        ∀ stem, IsStem stem place → ¬IsStem stem place' := by
  refine ⟨fun name name' h h' hsame => ?_, fun t t' sql sql' ht ht' h h' => ?_⟩
  · subst hsame
    obtain ⟨hschema, hobject⟩ := targetName_inj h h'
    exact hne (Prod.ext hschema hobject)
  · refine ⟨_, _, places_location h, places_location h', fun stem hstem hstem' => hne ?_⟩
    obtain ⟨front, hfolders⟩ := ht.folders_stem htarget.consistent hstem
    obtain ⟨front', hfolders'⟩ := ht'.folders_stem htarget'.consistent hstem'
    obtain ⟨-, hlast⟩ := List.append_inj' (hfolders.symm.trans hfolders') rfl
    simp only [List.cons.injEq, and_true] at hlast
    exact Prod.ext hlast.1 hlast.2

/-- A table that a query fills and a copy of another, below a folder that is named like a schema. -/
theorem filled_and_copied_tables_apart :
    let settings : Settings :=
      { Settings.standard with
        synapse := { Settings.standard.synapse with locationPrefix := some "silver/" } }
    let target : Target := ⟨"silver", "orders", none, none, none⟩
    let target' : Target := ⟨"orders", "orders", none, none, none⟩
    let t : CreateTable := ⟨target, [], some "SELECT 1 AS id", none, some "silver/orders", default,
      [], none, .empty, true⟩
    let t' : CreateTable :=
      ⟨target', [], none, some "bronze.orders", none, default, [], none, .empty, true⟩
    target.Reached ∧ target'.Reached ∧ Unplaced target t ∧ Unplaced target' t' ∧
      targetName settings target = .ok "[silver].[orders]" ∧
      targetName settings target' = .ok "[orders].[orders]" ∧
      "[silver].[orders]" ≠ "[orders].[orders]" ∧
      ∃ sql sql', (renderer settings).render (.createTable t) = .ok sql ∧
        (renderer settings).render (.createTable t') = .ok sql' ∧
        ∃ place place', Places settings t sql place ∧ Places settings t' sql' place' ∧
          ∀ stem, IsStem stem place → ¬IsStem stem place' := by
  intro settings target target' t t'
  have htarget : target.Reached := Lifecycle.reached_of_made ⟨"silver", "orders", rfl⟩
  have htarget' : target'.Reached := Lifecycle.reached_of_made ⟨"orders", "orders", rfl⟩
  have ht : Unplaced target t := ⟨.ofSelect "SELECT 1 AS id", t, [], rfl, rfl, rfl⟩
  have ht' : Unplaced target' t' := ⟨.ofSourceTable "bronze.orders", t', [], rfl, rfl, rfl⟩
  have hname : targetName settings target = .ok "[silver].[orders]" := by
    unfold settings target
    rfl
  have hname' : targetName settings target' = .ok "[orders].[orders]" := by
    unfold settings target'
    rfl
  obtain ⟨sql, hsql⟩ : ∃ sql, (renderer settings).render (.createTable t) = .ok sql := by
    unfold settings t target
    exact ⟨_, rfl⟩
  obtain ⟨sql', hsql'⟩ : ∃ sql, (renderer settings).render (.createTable t') = .ok sql := by
    unfold settings t' target'
    exact ⟨_, rfl⟩
  have hne : ("silver", "orders") ≠ ("orders", "orders") := by decide
  obtain ⟨hnames, hplaces⟩ := @targets_stay_apart settings target target' htarget htarget' hne
  exact ⟨htarget, htarget', ht, ht', hname, hname', hnames _ _ hname hname', sql, sql', hsql, hsql',
    hplaces t t' sql sql' ht ht' hsql hsql'⟩

end

end LakehouseSql.Synapse
