import Mathlib.Data.List.Forall2
import LakehouseSql.Proofs.Dictionary
import LakehouseSql.Statement
/-! # Untrusted texts

The texts of a statement that come from anywhere: text values, properties, locations and paths of
files. Statements are alike if they differ in the contents of such texts and in nothing else. All
other texts are either names, which are checked, or SQL text, which is trusted.
-/
namespace LakehouseSql

namespace SqlValue

/-- The same value, or another text. -/
inductive Alike : SqlValue → SqlValue → Prop where
  | same (v : SqlValue) : Alike v v
  | text (s s' : String) : Alike (.text s) (.text s')

/-- The texts that a value brings into SQL text. -/
def texts : SqlValue → List String
  | .text s => [s]
  | _ => []

/-- The value is not SQL text itself. -/
def IsData (v : SqlValue) : Prop :=
  ∀ sql, v ≠ .expression sql

end SqlValue

namespace Dictionary

/-- The same keys in the same order, with values that are alike. -/
def Alike (d d' : Dictionary SqlValue) : Prop :=
  List.Forall₂ (fun e e' => e.1 = e'.1 ∧ e.2.Alike e'.2) d.entries d'.entries

/-- No value is SQL text itself. -/
def IsData (d : Dictionary SqlValue) : Prop :=
  ∀ v ∈ d.values, v.IsData

end Dictionary

namespace ColumnDefinition

/-- The same column with a default value that is alike, if there is one. -/
inductive Alike (c : ColumnDefinition) : ColumnDefinition → Prop where
  | intro {defaultValue : Option SqlValue}
    (hdefault : Option.Rel SqlValue.Alike c.defaultValue defaultValue) :
    Alike c { c with defaultValue }

/-- The characters of data types that hold no trusted text: letters and digits of all scripts,
spaces, commas and parentheses. -/
def isTypeChar (c : Char) : Bool :=
  c.isAlphanum || c == ' ' || c == ',' || c == '(' || c == ')' || 0x80 ≤ c.toNat

structure WithoutRawSql (c : ColumnDefinition) : Prop where
  dataType : ∀ char ∈ c.dataType.toList, isTypeChar char = true
  defaultValue : ∀ v ∈ c.defaultValue, v.IsData
  checkConstraint : c.checkConstraint = none
  computedExpression : c.computedExpression = none

end ColumnDefinition

/-- As many properties, whatever their keys and values, and a location if there is one. -/
inductive CreateTable.Alike (t : CreateTable) : CreateTable → Prop where
  | intro {columns : List ColumnDefinition} {location : Option String}
    {properties : Dictionary String}
    (hcolumns : List.Forall₂ ColumnDefinition.Alike t.columns columns)
    (hlocation : Option.Rel (fun _ _ => True) t.location location)
    (hproperties : t.properties.size = properties.size) :
    Alike t { t with columns, location, properties }

inductive InsertSource.Alike : InsertSource → InsertSource → Prop where
  | query (sql : String) : Alike (.query sql) (.query sql)
  | rows {rows rows' : List (Dictionary SqlValue)} (h : List.Forall₂ Dictionary.Alike rows rows') :
    Alike (.rows rows) (.rows rows')

inductive Insert.Alike (i : Insert) : Insert → Prop where
  | intro {source : InsertSource} (hsource : i.source.Alike source) : Alike i { i with source }

inductive Update.Alike (u : Update) : Update → Prop where
  | intro {assignments : Dictionary SqlValue} (hassignments : u.assignments.Alike assignments) :
    Alike u { u with assignments }

inductive Copy.Alike (c : Copy) : Copy → Prop where
  | intro {sourcePath : String} {options : Dictionary SqlValue}
    (hoptions : c.options.Alike options) : Alike c { c with sourcePath, options }

namespace Statement

/-- Statements of one kind that differ in the contents of untrusted texts only. -/
inductive Alike : Statement → Statement → Prop where
  | same (s : Statement) : Alike s s
  | createTable {t t' : CreateTable} (h : t.Alike t') : Alike (.createTable t) (.createTable t')
  | insert {i i' : Insert} (h : i.Alike i') : Alike (.insert i) (.insert i')
  | update {u u' : Update} (h : u.Alike u') : Alike (.update u) (.update u')
  | copy {c c' : Copy} (h : c.Alike c') : Alike (.copy c) (.copy c')

/-- The statement holds no SQL text of its own. Merges, views and raw SQL cannot do without. -/
def WithoutRawSql : Statement → Prop
  | .createTable t => t.selectQuery = none ∧ ∀ c ∈ t.columns, c.WithoutRawSql
  | .select s =>
    s.whereClause = none ∧ s.joinClause = none ∧ s.having = none ∧ s.orderBy = []
  | .insert i => ∃ rows, i.source = .rows rows ∧ ∀ row ∈ rows, row.IsData
  | .update u => u.assignments.IsData ∧ u.whereClause = none ∧ u.fromClause = none
  | .delete d => d.whereClause = none
  | .copy c => c.options.IsData ∧ c.credential = none
  | .merge _ | .createView _ | .rawSql _ => False
  | .dropTable _ | .createSchema _ | .dropSchema _ | .dropView _ | .createStatistics _ => True

end Statement

section
variable {d d' : Dictionary SqlValue}

namespace Dictionary.Alike

theorem refl (d : Dictionary SqlValue) : d.Alike d :=
  List.forall₂_same.mpr fun e _ => ⟨rfl, .same e.2⟩

theorem keys_eq (h : d.Alike d') : d'.keys = d.keys := by
  unfold keys
  unfold Dictionary.Alike at h
  generalize d.entries = entries, d'.entries = entries' at h
  induction h with
  | nil => rfl
  | cons he _ ih => rw [List.map_cons, List.map_cons, ih, he.1]

theorem get? (h : d.Alike d') (key : String) :
    Option.Rel SqlValue.Alike (d.get? key) (d'.get? key) := by
  unfold Dictionary.get?
  unfold Dictionary.Alike at h
  generalize d.entries = entries, d'.entries = entries' at h
  induction h with
  | nil => exact .none
  | @cons e e' _ _ he _ ih =>
    obtain ⟨k, v⟩ := e
    obtain ⟨k', v'⟩ := e'
    obtain ⟨rfl, hv⟩ := he
    rw [lookup_cons, lookup_cons]
    split
    · exact .some hv
    · exact ih

theorem getD (h : d.Alike d') (key : String) (default : SqlValue) :
    ((d.get? key).getD default).Alike ((d'.get? key).getD default) := by
  have hget := h.get? key
  generalize d.get? key = v, d'.get? key = v' at hget
  cases hget with
  | none => exact .same default
  | some hv => exact hv

end Dictionary.Alike

theorem Dictionary.IsData.getD (h : d.IsData) (key : String) {default : SqlValue}
    (hdefault : default.IsData) : ((d.get? key).getD default).IsData := by
  cases hv : d.get? key with
  | none => exact hdefault
  | some v =>
    have hmem : (key, v) ∈ d.entries := (lookup_eq_some_iff_mem d.distinct).mp hv
    exact h v (List.mem_map.mpr ⟨_, hmem, rfl⟩)

theorem ColumnDefinition.Alike.refl (c : ColumnDefinition) : c.Alike c := by
  have hdefault : Option.Rel SqlValue.Alike c.defaultValue c.defaultValue := by
    cases c.defaultValue with
    | none => exact .none
    | some v => exact .some (.same v)
  exact .intro hdefault

theorem CreateTable.Alike.refl (t : CreateTable) : t.Alike t := by
  have hlocation : Option.Rel (fun _ _ => True) t.location t.location := by
    cases t.location with
    | none => exact .none
    | some location => exact .some trivial
  exact .intro (List.forall₂_same.mpr fun c _ => .refl c) hlocation rfl

theorem InsertSource.Alike.refl (source : InsertSource) : source.Alike source := by
  cases source with
  | query sql => exact .query sql
  | rows rows => exact .rows (List.forall₂_same.mpr fun row _ => .refl row)

theorem Insert.Alike.refl (i : Insert) : i.Alike i :=
  .intro (.refl i.source)

theorem Update.Alike.refl (u : Update) : u.Alike u :=
  .intro (.refl u.assignments)

theorem Copy.Alike.refl (c : Copy) : c.Alike c :=
  .intro (.refl c.options)

end

end LakehouseSql
