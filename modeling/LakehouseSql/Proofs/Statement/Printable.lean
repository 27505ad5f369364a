import LakehouseSql.Proofs.Draft.Rebuild
import LakehouseSql.Proofs.Json.Field
import LakehouseSql.Proofs.Json.RoundTrip
/-! # Statements that can be printed

What is written of a statement is read back as a value tree, if the floating point numbers among
its values are.
-/
namespace LakehouseSql
open Json

def SqlValue.floats : SqlValue → List Binary64
  | float x => [x]
  | _ => []

def Dictionary.floats (d : Dictionary SqlValue) : List Binary64 :=
  d.entries.flatMap fun entry => entry.2.floats

def ColumnDefinition.floats (c : ColumnDefinition) : List Binary64 :=
  c.defaultValue.toList.flatMap (·.floats)

def MergeActions.floats (a : MergeActions) : List Binary64 :=
  a.matchedUpdate.toList.flatMap (·.floats) ++ a.notMatchedInsert.toList.flatMap (·.floats) ++
    a.bySourceUpdate.toList.flatMap (·.floats)

/-- The floating point numbers among the values of a statement. -/
def Statement.floats : Statement → List Binary64
  | createTable s => s.columns.flatMap (·.floats)
  | insert s => s.source.rowList.flatMap (·.floats)
  | update s => s.assignments.floats
  | merge s => s.actions.floats
  | createStatistics s => s.samplePercent.toList
  | copy s => s.options.floats
  | _ => []

/-- The reader of numbers gives all of the numbers back. -/
def Json.FloatsReadBack (xs : List Binary64) : Prop :=
  ∀ x ∈ xs, ReadsBack (.real x)

namespace Json

theorem ifSome_printable {α : Type} {name : String} {write : α → Json} {o : Option α}
    (h : ∀ a ∈ o, (write a).Printable) : MembersPrintable (ifSome name write o) :=
  membersPrintable_iff.mpr (forall_mem_ifSome h)

theorem ifSome_string_printable (name : String) (s : Option String) :
    MembersPrintable (ifSome name .string s) :=
  ifSome_printable fun _ _ => trivial

theorem leftOut_printable {absent : Bool} {name : String} {j : Json} (h : j.Printable) :
    MembersPrintable (if absent then [] else [(name, j)]) := by
  cases absent with
  | true => trivial
  | false => exact ⟨h, trivial⟩

theorem optional_printable {α : Type} {write : α → Json} {o : Option α}
    (h : ∀ a ∈ o, (write a).Printable) : (Json.optional write o).Printable := by
  cases o with
  | none => trivial
  | some a => exact h a rfl

theorem strings_printable (items : List String) : (strings items).Printable := by
  apply itemsPrintable_iff.mpr
  intro item hitem
  obtain ⟨s, -, rfl⟩ := List.mem_map.mp hitem
  trivial

theorem optionalString_printable (s : Option String) : (optionalString s).Printable :=
  optional_printable fun _ _ => trivial

theorem optionalCount_printable (n : Option UInt64) : (optionalCount n).Printable := by
  refine optional_printable fun n _ => whole_readsBack ?_ ?_
  · omega
  · have hbound := n.toNat_lt
    omega

theorem value_printable {v : SqlValue} (h : FloatsReadBack v.floats) : v.toJson.Printable := by
  cases v with
  | integer n =>
    have hlow : -9223372036854775808 ≤ n.toInt := n.le_toInt
    have hhigh : n.toInt < 9223372036854775808 := n.toInt_lt
    exact ⟨trivial, whole_readsBack hlow (by omega), trivial⟩
  | float x => exact ⟨trivial, h x List.mem_cons_self, trivial⟩
  | null => exact ⟨trivial, trivial⟩
  | bool b | text s | expression s => exact ⟨trivial, trivial, trivial⟩

theorem dictionary_printable {α : Type} {write : α → Json} {d : Dictionary α}
    (h : ∀ entry ∈ d.entries, (write entry.2).Printable) : (ofDictionary write d).Printable := by
  apply membersPrintable_iff.mpr
  intro m hm
  obtain ⟨entry, hentry, rfl⟩ := List.mem_map.mp hm
  exact h entry hentry

theorem values_printable {d : Dictionary SqlValue} (h : FloatsReadBack d.floats) :
    (ofDictionary SqlValue.toJson d).Printable :=
  dictionary_printable fun entry hentry =>
    value_printable (List.forall_mem_flatMap.mp h entry hentry)

theorem optionalValues_printable {o : Option (Dictionary SqlValue)}
    (h : FloatsReadBack (o.toList.flatMap (·.floats))) :
    (Json.optional (ofDictionary SqlValue.toJson) o).Printable :=
  optional_printable fun d hd =>
    values_printable (List.forall_mem_flatMap.mp h d (Option.mem_toList.mpr hd))

theorem definition_printable {c : ColumnDefinition} (h : FloatsReadBack c.floats) :
    c.toJson.Printable := by
  have hdefault : MembersPrintable (ifSome "default_value" SqlValue.toJson c.defaultValue) :=
    ifSome_printable fun v hv =>
      value_printable (List.forall_mem_flatMap.mp h v (Option.mem_toList.mpr hv))
  have hnamed : MembersPrintable [("name", .string c.name), ("data_type", .string c.dataType),
      ("nullable", .bool c.nullable)] := ⟨trivial, trivial, trivial, trivial⟩
  have hkeyed : MembersPrintable [("primary_key", .bool c.primaryKey),
      ("unique", .bool c.unique)] := ⟨trivial, trivial, trivial⟩
  exact ((((hnamed.append hdefault).append hkeyed).append (ifSome_string_printable _ _)).append
    (ifSome_string_printable _ _)).append (ifSome_string_printable _ _)

end Json

theorem Target.members_printable (t : Target) : MembersPrintable t.members := by
  have hnamed : MembersPrintable [("schema_name", .string t.schema),
      ("object_name", .string t.object)] := ⟨trivial, trivial, trivial⟩
  have hengine : MembersPrintable (ifSome "engine_hint" word t.engineHint) :=
    ifSome_printable fun _ _ => trivial
  exact (hnamed.append hengine).append (ifSome_string_printable _ _)

theorem CreateTable.members_printable {t : CreateTable}
    (h : FloatsReadBack (t.columns.flatMap (·.floats))) : MembersPrintable t.members := by
  have hcolumns : (Json.array (t.columns.map (·.toJson))).Printable := by
    apply itemsPrintable_iff.mpr
    intro item hitem
    obtain ⟨c, hc, rfl⟩ := List.mem_map.mp hitem
    exact definition_printable (List.forall_mem_flatMap.mp h c hc)
  have htexts : MembersPrintable [("select_query", .optionalString t.selectQuery),
      ("source_table", .optionalString t.sourceTable), ("location", .optionalString t.location),
      ("file_format", .word t.fileFormat)] :=
    ⟨optionalString_printable _, optionalString_printable _, optionalString_printable _, trivial,
      trivial⟩
  have hdistribution : MembersPrintable [("distribution", .optionalString t.distribution)] :=
    ⟨optionalString_printable _, trivial⟩
  have hproperties : (ofDictionary .string t.properties).Printable :=
    dictionary_printable fun _ _ => trivial
  have hrecreate : MembersPrintable [("recreate", .bool t.recreate)] := ⟨trivial, trivial⟩
  exact (((((t.target.members_printable.append (leftOut_printable hcolumns)).append htexts).append
    (leftOut_printable (strings_printable _))).append hdistribution).append
    (leftOut_printable hproperties)).append hrecreate

theorem InsertSource.toJson_printable {source : InsertSource}
    (h : FloatsReadBack (source.rowList.flatMap (·.floats))) : source.toJson.Printable := by
  cases source with
  | query sql => exact ⟨trivial, trivial⟩
  | rows rows =>
    refine ⟨itemsPrintable_iff.mpr fun item hitem => ?_, trivial⟩
    obtain ⟨row, hrow, rfl⟩ := List.mem_map.mp hitem
    exact values_printable (List.forall_mem_flatMap.mp h row hrow)

theorem MergeActions.members_printable {a : MergeActions} (h : FloatsReadBack a.floats) :
    MembersPrintable a.members := by
  obtain ⟨hfirst, hsource⟩ := List.forall_mem_append.mp h
  obtain ⟨hmatched, hnew⟩ := List.forall_mem_append.mp hfirst
  exact ⟨optionalValues_printable hmatched, optionalString_printable _,
    optionalValues_printable hnew, optionalValues_printable hsource, trivial, trivial⟩

theorem Statement.fields_printable {s : Statement} (h : FloatsReadBack s.floats) :
    MembersPrintable s.fields := by
  have htarget := s.target.members_printable
  cases s with
  | createTable t => exact CreateTable.members_printable h
  | dropTable t => exact htarget.append ⟨trivial, trivial, trivial⟩
  | createSchema s => exact htarget.append ⟨trivial, optionalString_printable _, trivial⟩
  | dropSchema s => exact htarget.append ⟨trivial, trivial, trivial, trivial⟩
  | select s =>
    exact htarget.append ⟨strings_printable _, trivial, optionalString_printable _,
      optionalString_printable _, strings_printable _, optionalString_printable _,
      strings_printable _, optionalCount_printable _, optionalCount_printable _, trivial⟩
  | insert i =>
    exact htarget.append ⟨InsertSource.toJson_printable h, strings_printable _, trivial, trivial⟩
  | update u =>
    exact htarget.append ⟨values_printable h, optionalString_printable _,
      optionalString_printable _, trivial⟩
  | delete d => exact htarget.append ⟨optionalString_printable _, trivial⟩
  | merge m =>
    have hquery : MembersPrintable [("source_query", .string m.sourceQuery),
        ("merge_condition", .string m.condition)] := ⟨trivial, trivial, trivial⟩
    exact (htarget.append hquery).append (MergeActions.members_printable h)
  | createView v =>
    exact htarget.append ⟨trivial, strings_printable _, trivial, trivial, trivial, trivial⟩
  | dropView v => exact htarget.append ⟨trivial, trivial⟩
  | createStatistics s =>
    have hsample : (Json.optional (fun x => .number (.real x)) s.samplePercent).Printable :=
      optional_printable fun x hx => h x (Option.mem_toList.mpr hx)
    exact htarget.append ⟨strings_printable _, hsample, trivial, optionalString_printable _,
      trivial, trivial⟩
  | copy c =>
    have hpath : MembersPrintable [("source_path", .string c.sourcePath),
        ("file_format", .word c.fileFormat)] := ⟨trivial, trivial, trivial⟩
    exact (htarget.append hpath).append (leftOut_printable (values_printable h))
  | rawSql r =>
    exact htarget.append ⟨trivial, trivial, trivial, optionalCount_printable _, trivial⟩

end LakehouseSql
