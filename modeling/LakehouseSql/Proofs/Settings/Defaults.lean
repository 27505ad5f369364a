import LakehouseSql.Proofs.Json.Member
import LakehouseSql.Proofs.Settings.Order
import LakehouseSql.Proofs.Settings.Source
/-! # The standard values as a source

Standard values are written twice: as a source that lies below all others, and as what settings
have where no member says otherwise. Both agree at every level, so the source can be left out.
-/
namespace LakehouseSql

open Json

namespace SynapseSettings

def fields : List (RecordField SynapseSettings) :=
  [⟨"csv_file_format", stringField, (·.csvFileFormat), fun s v => { s with csvFileFormat := v }⟩,
    ⟨"parquet_file_format", stringField, (·.parquetFileFormat),
      fun s v => { s with parquetFileFormat := v }⟩,
    ⟨"raw_external_data_source", stringField, (·.rawExternalDataSource),
      fun s v => { s with rawExternalDataSource := v }⟩,
    ⟨"processed_external_data_source", stringField, (·.processedExternalDataSource),
      fun s v => { s with processedExternalDataSource := v }⟩,
    ⟨"location_prefix", optionalField stringField, (·.locationPrefix),
      fun s v => { s with locationPrefix := v }⟩]

theorem describes_synapseMembers : Describes fields synapseMembers where
  members_eq := rfl
  distinct := by simp [fields]
  get_set := by simp [fields]
  get_set_other := by simp [fields]
  ext := by
    rintro ⟨⟩ ⟨⟩
    simp [fields]

end SynapseSettings

namespace FabricSettings

def fields : List (RecordField FabricSettings) :=
  [⟨"warehouse_name", optionalField stringField, (·.warehouseName),
      fun s v => { s with warehouseName := v }⟩,
    ⟨"lakehouse_name", optionalField stringField, (·.lakehouseName),
      fun s v => { s with lakehouseName := v }⟩,
    ⟨"default_retention_hours", uint32Field, (·.defaultRetentionHours),
      fun s v => { s with defaultRetentionHours := v }⟩]

theorem describes_fabricMembers : Describes fields fabricMembers where
  members_eq := rfl
  distinct := by simp [fields]
  get_set := by simp [fields]
  get_set_other := by simp [fields]
  ext := by
    rintro ⟨⟩ ⟨⟩
    simp [fields]

end FabricSettings

namespace Settings

def fields : List (RecordField Settings) :=
  [⟨"compute_type", wordField Platform, (·.platform), fun s v => { s with platform := v }⟩,
    ⟨"dialect", stringField, (·.dialect), fun s v => { s with dialect := v }⟩,
    ⟨"table_prefix", optionalField stringField, (·.tablePrefix),
      fun s v => { s with tablePrefix := v }⟩,
    ⟨"skip_prefix_on_schema", listField stringField, (·.unprefixedSchemas),
      fun s v => { s with unprefixedSchemas := v }⟩,
    ⟨"synapse", synapseField, (·.synapse), fun s v => { s with synapse := v }⟩,
    ⟨"fabric", fabricField, (·.fabric), fun s v => { s with fabric := v }⟩]

theorem describes_settingsMembers : Describes fields settingsMembers where
  members_eq := rfl
  distinct := by simp [fields]
  get_set := by simp [fields]
  get_set_other := by simp [fields]
  ext := by
    rintro ⟨⟩ ⟨⟩
    simp [fields]

end Settings

/-- What is found where a standard value lies below, and where it does not: the same, or the
standard value where nothing else is given, or tables of which this holds key by key. -/
inductive Filled : Option Json → Option Json → Option Json → Prop where
  | same (standard j : Option Json) : Filled standard j j
  | missing (standard : Option Json) : Filled standard standard none
  | table {standard filled given : List (String × Json)}
      (h : ∀ key, Filled (standard.lookup key) (filled.lookup key) (given.lookup key)) :
      Filled (some (.object standard)) (some (.object filled)) (some (.object given))

/-- A table with the standard values below it, and the same table without them. -/
def FilledIn (standard filled given : List (String × Json)) : Prop :=
  ∀ key, Filled (standard.lookup key) (filled.lookup key) (given.lookup key)

namespace SettingsSource

variable {standard filled given ms : List (String × Json)}

private theorem filled_overlay (hkeys : (ms.map (·.1)).Nodup)
    (hstep : ∀ {standard filled given}, FilledIn standard filled given →
      FilledIn standard (mergeMembers filled ms) (mergeMembers given ms))
    {standard filled given : Option Json} (h : Filled standard filled given) :
    Filled standard (overlay filled (some (.object ms))) (overlay given (some (.object ms))) := by
  cases h with
  | same => exact .same _ _
  | missing =>
    rw [overlay_none]
    by_cases hstandard : ∃ existing, standard = some (.object existing)
    · obtain ⟨existing, rfl⟩ := hstandard
      have hbase : FilledIn existing existing [] := fun key => .missing _
      refine .table fun key => ?_
      have h := hstep hbase key
      rwa [lookup_mergeMembers hkeys [] key, List.lookup_nil, overlay_none] at h
    · rw [overlay_table ms (not_exists.mp hstandard)]
      exact .same _ _
  | table h => exact .table (hstep h)

/-- One more layer keeps the two tables related. -/
theorem filledIn_mergeMembers (h : DistinctKeys ms) : ∀ {standard filled given},
    FilledIn standard filled given →
      FilledIn standard (mergeMembers filled ms) (mergeMembers given ms) := by
  induction h with
  | @intro ms hkeys hinner ih =>
    intro standard filled given hfilled key
    rw [lookup_mergeMembers hkeys, lookup_mergeMembers hkeys]
    cases hupper : ms.lookup key with
    | none => exact hfilled key
    | some upper =>
      by_cases hshape : ∃ incoming, upper = .object incoming
      · obtain ⟨incoming, rfl⟩ := hshape
        exact filled_overlay (hinner key incoming hupper).keys (ih key incoming hupper)
          (hfilled key)
      · rw [overlay_scalar _ (not_exists.mp hshape), overlay_scalar _ (not_exists.mp hshape)]
        exact .same _ _

/-- All layers keep the two tables related, unless one of the layers fails. -/
theorem mergeOver_filledIn {layers : List SettingsSource}
    (hload : ∀ s ∈ layers, ∀ values, s.load = .ok values → DistinctKeys values)
    (hfilled : DistinctKeys filled) (hgiven : DistinctKeys given)
    (h : FilledIn standard filled given) :
    (∃ e, (mergeOver filled layers).result = .error e ∧
      (mergeOver given layers).result = .error e) ∨
    ∃ filled' given', (mergeOver filled layers).result = .ok filled' ∧
      (mergeOver given layers).result = .ok given' ∧ DistinctKeys filled' ∧
      DistinctKeys given' ∧ FilledIn standard filled' given' := by
  induction layers generalizing filled given with
  | nil => exact .inr ⟨filled, given, rfl, rfl, hfilled, hgiven, h⟩
  | cons s layers ih =>
    obtain ⟨hs, hlayers⟩ := List.forall_mem_cons.mp hload
    simp only [mergeOver]
    cases hvalues : s.load with
    | error e => exact .inl ⟨e, rfl, rfl⟩
    | ok values =>
      have hdistinct := hs values hvalues
      exact ih hlayers (distinctKeys_mergeMembers hdistinct hfilled)
        (distinctKeys_mergeMembers hdistinct hgiven) (filledIn_mergeMembers hdistinct h)

end SettingsSource

theorem takeMembers_filledIn {α : Type} {fields : List (RecordField α)}
    {members : RecordMembers α} (hmembers : Describes fields members) {start : α}
    {standard filled given : List (String × Json)}
    (hstandard : ∀ f ∈ fields, ∃ j, standard.lookup f.name = some j ∧ f.read j = .ok (f.get start))
    (htables : ∀ f ∈ fields, ∀ ms, standard.lookup f.name = some (.object ms) →
      ∀ filled given, DistinctKeys filled → DistinctKeys given → FilledIn ms filled given →
        ∀ v, f.read (.object filled) = .ok v ↔ f.read (.object given) = .ok v)
    (hfilled : DistinctKeys filled) (hgiven : DistinctKeys given)
    (h : FilledIn standard filled given) (a : α) :
    takeMembers members [] start filled = .ok a ↔ takeMembers members [] start given = .ok a := by
  refine hmembers.takeMembers_congr hfilled.keys hgiven.keys ?_ a
  intro f hf v
  obtain ⟨j, hj, hvalue⟩ := hstandard f hf
  have hkey := h f.name
  rw [hj] at hkey
  generalize hx : filled.lookup f.name = x at hkey ⊢
  generalize hy : given.lookup f.name = y at hkey ⊢
  cases hkey with
  | same => exact Iff.rfl
  | missing =>
    rw [RecordField.Reads, RecordField.Reads, hvalue, Except.ok.injEq]
    exact eq_comm
  | table h => exact htables f hf _ hj _ _ (hfilled.inner hx) (hgiven.inner hy) h v

section
variable {standard filled given : List (String × Json)}

theorem synapseField_filledIn (hfilled : DistinctKeys filled) (hgiven : DistinctKeys given)
    (h : FilledIn SynapseSettings.standard.toJson.members filled given) (s : SynapseSettings) :
    synapseField (.object filled) = .ok s ↔ synapseField (.object given) = .ok s := by
  refine takeMembers_filledIn SynapseSettings.describes_synapseMembers ?_ ?_ hfilled hgiven h s
  · intro f hf
    simp only [SynapseSettings.fields, List.mem_cons, List.not_mem_nil, or_false] at hf
    rcases hf with rfl | rfl | rfl | rfl | rfl <;> exact ⟨_, rfl, rfl⟩
  · intro f hf ms hms
    simp only [SynapseSettings.fields, List.mem_cons, List.not_mem_nil, or_false] at hf
    rcases hf with rfl | rfl | rfl | rfl | rfl <;> cases hms

theorem fabricField_filledIn (hfilled : DistinctKeys filled) (hgiven : DistinctKeys given)
    (h : FilledIn FabricSettings.standard.toJson.members filled given) (s : FabricSettings) :
    fabricField (.object filled) = .ok s ↔ fabricField (.object given) = .ok s := by
  refine takeMembers_filledIn FabricSettings.describes_fabricMembers ?_ ?_ hfilled hgiven h s
  · intro f hf
    simp only [FabricSettings.fields, List.mem_cons, List.not_mem_nil, or_false] at hf
    rcases hf with rfl | rfl | rfl
    · exact ⟨_, rfl, rfl⟩
    · exact ⟨_, rfl, rfl⟩
    · exact ⟨_, rfl, by decide +kernel⟩
  · intro f hf ms hms
    simp only [FabricSettings.fields, List.mem_cons, List.not_mem_nil, or_false] at hf
    rcases hf with rfl | rfl | rfl <;> cases hms

theorem Settings.ofMembers_filledIn (hfilled : DistinctKeys filled) (hgiven : DistinctKeys given)
    (h : FilledIn Settings.standard.toMembers filled given) (s : Settings) :
    ofMembers filled = .ok s ↔ ofMembers given = .ok s := by
  refine takeMembers_filledIn Settings.describes_settingsMembers ?_ ?_ hfilled hgiven h s
  · intro f hf
    simp only [Settings.fields, List.mem_cons, List.not_mem_nil, or_false] at hf
    rcases hf with rfl | rfl | rfl | rfl | rfl | rfl
    · exact ⟨_, rfl, by decide +kernel⟩
    · exact ⟨_, rfl, rfl⟩
    · exact ⟨_, rfl, rfl⟩
    · exact ⟨_, rfl, rfl⟩
    · exact ⟨_, rfl, by decide +kernel⟩
    · exact ⟨_, rfl, by decide +kernel⟩
  · intro f hf ms hms x y hx hy hxy v
    simp only [Settings.fields, List.mem_cons, List.not_mem_nil, or_false] at hf
    rcases hf with rfl | rfl | rfl | rfl | rfl | rfl
    · cases hms
    · cases hms
    · cases hms
    · cases hms
    · cases hms
      exact synapseField_filledIn hx hy hxy v
    · cases hms
      exact fabricField_filledIn hx hy hxy v

theorem Settings.ofTable_filledIn (hfilled : DistinctKeys filled) (hgiven : DistinctKeys given)
    (h : FilledIn Settings.standard.toMembers filled given) (s : Settings) :
    ofTable filled = .ok s ↔ ofTable given = .ok s := by
  have hsorted (table : List (String × Json)) :
      table.Perm (table.mergeSort fun a b => a.1 ≤ b.1) :=
    (List.mergeSort_perm table _).symm
  refine ofMembers_filledIn (hfilled.of_perm (hsorted filled)) (hgiven.of_perm (hsorted given))
    (fun key => ?_) s
  rw [← Dictionary.lookup_of_perm hfilled.keys (hsorted filled),
    ← Dictionary.lookup_of_perm hgiven.keys (hsorted given)]
  exact h key

end

namespace SettingsSource

/-- The sources that settings come from: the standard values, files and variables. A file is any
that loads or fails to, as long as no key comes twice in the table it gives. -/
inductive Standard : SettingsSource → Prop where
  | defaults : Standard defaults
  | file (description : String) (load : Except SourceError (List (String × Json)))
      (hload : ∀ values, load = .ok values → DistinctKeys values) :
      Standard ⟨description, 50, load⟩
  | environment (start : String) (bindings : List (String × String)) :
      Standard (environment start bindings)

theorem standard_tomlFile (path : String) (content : FileContent) :
    Standard (tomlFile path content) :=
  .file _ _ fun _ => distinctKeys_loadToml

namespace Standard

variable {s : SettingsSource}

theorem distinctKeys (h : s.Standard) {values : List (String × Json)}
    (hload : s.load = .ok values) : DistinctKeys values := by
  cases h with
  | defaults =>
    cases hload
    exact Settings.distinctKeys_toMembers _
  | file description load hdistinct => exact hdistinct values hload
  | environment start bindings =>
    cases hload
    exact Environment.distinctKeys_load start bindings

theorem eq_defaults (h : s.Standard) (hpriority : s.priority ≤ 0) :
    s = SettingsSource.defaults := by
  cases h with
  | defaults => rfl
  | file =>
    have hle : (50 : UInt8) ≤ 0 := hpriority
    exact absurd hle (by decide)
  | environment =>
    have hle : (100 : UInt8) ≤ 0 := hpriority
    exact absurd hle (by decide)

end Standard

/-- One more source of standard values, added anywhere, comes before all others. -/
theorem ordered_insert_defaults {front back : List SettingsSource}
    (h : ∀ s ∈ front ++ back, s.Standard) :
    ordered (front ++ defaults :: back) = defaults :: ordered (front ++ back) := by
  obtain ⟨below, above, hbefore, hafter, hbelow⟩ := ordered_insert front back defaults
  have hall : ∀ s ∈ below, s = defaults := fun s hs =>
    (h s ((ordered_perm _).mem_iff.mp (hbefore ▸ List.mem_append_left _ hs))).eq_defaults
      (hbelow s hs)
  rw [hbefore, hafter, List.eq_replicate_of_mem hall, List.append_cons, ← List.replicate_succ',
    List.replicate_succ, List.cons_append]

/-- The standard values can be added as a source anywhere, or left out: either way settings cannot
be had, or they are the same. -/
theorem defaults_neutral {front back : List SettingsSource}
    (h : ∀ s ∈ front ++ back, s.Standard) :
    (∃ e e', settings (front ++ defaults :: back) = .error e ∧
      settings (front ++ back) = .error e') ∨
    ∃ s, settings (front ++ defaults :: back) = .ok s ∧ settings (front ++ back) = .ok s := by
  have hload : ∀ s ∈ ordered (front ++ back), ∀ values, s.load = .ok values →
      DistinctKeys values := fun s hs _ hvalues =>
    (h s ((ordered_perm _).mem_iff.mp hs)).distinctKeys hvalues
  have hstandard := Settings.distinctKeys_toMembers Settings.standard
  have hfilled : FilledIn Settings.standard.toMembers
      (mergeMembers [] Settings.standard.toMembers) [] := by
    intro key
    rw [lookup_mergeMembers hstandard.keys, List.lookup_nil, overlay_none]
    exact .missing _
  have hmerged : (merged (front ++ defaults :: back)).result = (mergeOver
      (mergeMembers [] Settings.standard.toMembers) (ordered (front ++ back))).result := by
    rw [merged, ordered_insert_defaults h]
    rfl
  rcases mergeOver_filledIn hload (distinctKeys_mergeMembers hstandard .nil) .nil hfilled with
    ⟨e, hwith, hwithout⟩ | ⟨x, y, hwith, hwithout, hx, hy, hxy⟩
  · refine .inl ⟨e, e, ?_, ?_⟩
    · rw [settings, hmerged, hwith]
      rfl
    · rw [settings, merged, hwithout]
      rfl
  · have hread := Settings.ofTable_filledIn hx hy hxy
    have hwith : settings (front ++ defaults :: back) = (Settings.ofTable x).mapError .json := by
      rw [settings, hmerged, hwith]
      rfl
    have hwithout : settings (front ++ back) = (Settings.ofTable y).mapError .json := by
      rw [settings, merged, hwithout]
      rfl
    rw [hwith, hwithout]
    cases hfirst : Settings.ofTable x with
    | ok s => exact .inr ⟨s, rfl, by rw [(hread s).mp hfirst]; rfl⟩
    | error e =>
      cases hsecond : Settings.ofTable y with
      | ok s => cases hfirst.symm.trans ((hread s).mpr hsecond)
      | error e' => exact .inl ⟨_, _, rfl, rfl⟩

/-- A file and a variable each set one value of a table, and whether or not the standard values lie
below, everything else is standard. -/
theorem defaults_neutral_between :
    let file : SettingsSource := ⟨"TOML file: medalflow.toml", 50,
      .ok [("synapse", .object [("csv_file_format", .string "csv")])]⟩
    let lake := environment Environment.standardStart
      [("MEDALFLOW_SYNAPSE__LOCATION_PREFIX", "abfss://lake")]
    let both : Settings := { Settings.standard with
      synapse := { SynapseSettings.standard with
        csvFileFormat := "csv", locationPrefix := some "abfss://lake" } }
    (∀ s ∈ [file] ++ [lake], s.Standard) ∧ settings [file, lake] = .ok both ∧
      settings [file, defaults, lake] = .ok both := by
  intro file lake both
  have hsources : ∀ s ∈ [file] ++ [lake], s.Standard := by
    refine List.forall_mem_cons.mpr ⟨.file _ _ ?_, by simp [lake, Standard.environment]⟩
    intro values hvalues
    cases hvalues
    refine .of_forall_mem (by simp) ?_
    intro key ms hmem
    cases (Prod.mk.inj (List.mem_singleton.mp hmem)).2
    exact .of_forall_mem (by simp) (by simp)
  have hordered : ordered [file, lake] = [file, lake] :=
    List.mergeSort_of_pairwise (by decide)
  have hlake : lake.load =
      .ok [("synapse", .object [("location_prefix", .string "abfss://lake")])] := by
    rfl
  have hmerged : (merged [file, lake]).result = .ok [("synapse", .object
      [("csv_file_format", .string "csv"), ("location_prefix", .string "abfss://lake")])] := by
    rw [merged, hordered]
    simp only [mergeOver, hlake]
    rfl
  have hwithout : settings [file, lake] = .ok both := by
    rw [settings, hmerged]
    dsimp only [bind, Except.bind]
    rw [Settings.ofTable, List.mergeSort_singleton]
    decide +kernel
  refine ⟨hsources, hwithout, ?_⟩
  rcases defaults_neutral hsources with ⟨e, e', -, herror⟩ | ⟨s, hwith, hsame⟩
  · cases hwithout.symm.trans herror
  · cases hwithout.symm.trans hsame
    exact hwith

end SettingsSource

end LakehouseSql
