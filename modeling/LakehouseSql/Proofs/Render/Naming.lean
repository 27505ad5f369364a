import LakehouseSql.Proofs.Identifier.Grammar
import LakehouseSql.Render.Renderer
/-! # When names can be written

A name can be written if it conforms to the rule for SQL text, a list of names if all of them do.
The object of a target is written with the prefix of the settings, so the prefixed name counts.
-/
namespace LakehouseSql.Render
open Identifier (Conforms)

/-- Schema and physical object conform to the rule for SQL text. -/
def Writable (settings : Settings) (schema object : String) : Prop :=
  Conforms .sql schema ∧ Conforms .sql (settings.physicalName schema object)

abbrev WritableTarget (settings : Settings) (target : Target) : Prop :=
  Writable settings target.schema target.object

/-- A name with a dot is written as a schema and an object, one without as it stands. -/
def WritableDotted (settings : Settings) (name : String) : Prop :=
  match splitAtDot name with
  | some (schema, object) => Writable settings schema object
  | none => Conforms .sql name

theorem named_eq_ok_iff {α : Type} {x : Except IdentifierError α} {a : α} :
    Rendered.named x = .ok a ↔ x = .ok a :=
  mapError_eq_ok_iff

@[simp] theorem succeeds_named {α : Type} {x : Except IdentifierError α} :
    Succeeds (Rendered.named x) ↔ Succeeds x := by
  simp [Rendered.named]

@[simp] theorem succeeds_validate {rule : Identifier.Rule} {role name : String} :
    Succeeds (Identifier.validate rule role name) ↔ Conforms rule name := by
  rw [← Identifier.validate_eq_ok_iff rule role name, Succeeds]
  constructor
  · rintro ⟨_, h⟩
    exact h
  · exact fun h => ⟨_, h⟩

@[simp] theorem succeeds_quoteName {role name : String} :
    Succeeds (quoteName role name) ↔ Conforms .sql name := by
  simp [quoteName]

@[simp] theorem succeeds_plainName {role name : String} :
    Succeeds (plainName role name) ↔ Conforms .sql name := by
  simp [plainName]

@[simp] theorem succeeds_qualifiedName {settings : Settings} {schema object : String} :
    Succeeds (qualifiedName settings schema object) ↔ Writable settings schema object := by
  simp [qualifiedName, Writable]

@[simp] theorem succeeds_targetName {settings : Settings} {target : Target} :
    Succeeds (targetName settings target) ↔ WritableTarget settings target :=
  succeeds_qualifiedName

@[simp] theorem succeeds_qualifyDotted {settings : Settings} {name : String} :
    Succeeds (qualifyDotted settings name) ↔ WritableDotted settings name := by
  unfold qualifyDotted WritableDotted
  cases splitAtDot name with
  | none => simp
  | some parts => simp

@[simp] theorem succeeds_columnList {columns : List String} :
    Succeeds (columnList columns) ↔ ∀ c ∈ columns, Conforms .sql c := by
  simp [columnList, Succeeds.mapM_iff]

@[simp] theorem succeeds_assignments {entries : Dictionary SqlValue} {qualifier : String} :
    Succeeds (assignments entries qualifier) ↔ ∀ key ∈ entries.keys, Conforms .sql key := by
  simp [assignments, assignment, Succeeds.mapM_iff, Dictionary.keys]

@[simp] theorem succeeds_parenthesizedColumns {columns : List String} :
    Succeeds (parenthesizedColumns columns) ↔ ∀ c ∈ columns, Conforms .sql c := by
  unfold parenthesizedColumns
  split <;> simp_all

@[simp] theorem succeeds_selectedColumns {columns : List String} :
    Succeeds (selectedColumns columns) ↔ ∀ c ∈ columns, Conforms .sql c := by
  unfold selectedColumns
  split <;> simp_all

@[simp] theorem succeeds_groupText {s : Select} :
    Succeeds (groupText s) ↔ ∀ c ∈ s.groupBy, Conforms .sql c := by
  unfold groupText
  split <;> simp_all

@[simp] theorem succeeds_statisticsName {s : CreateStatistics} :
    Succeeds (statisticsName s) ↔ Conforms .sql (s.name.getD (generatedStatisticsName s)) := by
  simp [statisticsName]

end LakehouseSql.Render
