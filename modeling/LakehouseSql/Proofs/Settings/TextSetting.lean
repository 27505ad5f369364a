import LakehouseSql.Proofs.Settings.Variable
/-! # Texts from variables

What a variable holds is typed by its spelling, before it is known which setting it is for. So a
setting that takes a text gets the text of its variable unless that spells a whole number or a
boolean; then there are no settings at all.
-/
namespace LakehouseSql

namespace Environment

/-- Digits, perhaps behind one sign, that spell a whole number. -/
inductive Spells : List Char → Int → Prop where
  | unsigned {ds : List Char} (hne : ds ≠ []) (h : ∀ d ∈ ds, d.isDigit = true) :
    Spells ds (Text.digitsValue ds)
  | positive {ds : List Char} (hne : ds ≠ []) (h : ∀ d ∈ ds, d.isDigit = true) :
    Spells ('+' :: ds) (Text.digitsValue ds)
  | negative {ds : List Char} (hne : ds ≠ []) (h : ∀ d ∈ ds, d.isDigit = true) :
    Spells ('-' :: ds) (-(Text.digitsValue ds : Int))

/-- The text spells a whole number in the signed 64-bit range, or a boolean. -/
def SpellsOther (s : String) : Prop :=
  (∃ n, Spells s.toList n ∧ Text.fitsInt64 n = true) ∨ s = "true" ∨ s = "false"

private theorem splitSign_digits {ds : List Char} (hne : ds ≠ [])
    (h : ∀ d ∈ ds, d.isDigit = true) : Text.splitSign ds = (false, ds) := by
  unfold Text.splitSign
  split
  · exact absurd (h '-' (by simp)) (by decide)
  · exact absurd (h '+' (by simp)) (by decide)
  · rfl

private theorem spells_iff {cs : List Char} {n : Int} :
    Spells cs n ↔ ∃ negative ds, Text.splitSign cs = (negative, ds) ∧ ds ≠ [] ∧
      (∀ d ∈ ds, d.isDigit = true) ∧
      n = if negative then -(Text.digitsValue ds : Int) else Text.digitsValue ds := by
  constructor
  · intro h
    cases h with
    | unsigned hne h => exact ⟨false, cs, splitSign_digits hne h, hne, h, rfl⟩
    | @positive ds hne h => exact ⟨false, ds, rfl, hne, h, rfl⟩
    | @negative ds hne h => exact ⟨true, ds, rfl, hne, h, rfl⟩
  · rintro ⟨negative, ds, hsplit, hne, h, rfl⟩
    unfold Text.splitSign at hsplit
    split at hsplit
    · cases hsplit
      exact .negative hne h
    · cases hsplit
      exact .positive hne h
    · cases hsplit
      exact .unsigned hne h

private theorem signedValue?_eq_some_iff {negative : Bool} {ds : List Char} {n : Int} :
    Text.signedValue? negative ds = some n ↔
      (n = if negative then -(Text.digitsValue ds : Int) else Text.digitsValue ds) ∧
        Text.fitsInt64 n = true := by
  unfold Text.signedValue?
  generalize (if negative then -(Text.digitsValue ds : Int) else Text.digitsValue ds) = m
  dsimp only
  constructor
  · intro h
    split at h
    · rename_i hfits
      cases h
      exact ⟨rfl, hfits⟩
    · cases h
  · rintro ⟨rfl, hfits⟩
    exact if_pos hfits

theorem integer?_eq_some_iff {s : String} {n : Int} :
    integer? s = some n ↔ Spells s.toList n ∧ Text.fitsInt64 n = true := by
  rw [spells_iff]
  unfold integer?
  obtain ⟨negative, ds⟩ := Text.splitSign s.toList
  dsimp only
  constructor
  · intro h
    split at h
    · cases h
    · rename_i hdigits
      simp only [Bool.or_eq_true, not_or, List.isEmpty_iff, Bool.not_eq_true', Bool.not_eq_false,
        List.all_eq_true] at hdigits
      obtain ⟨hn, hfits⟩ := signedValue?_eq_some_iff.mp h
      exact ⟨⟨negative, ds, rfl, hdigits.1, hdigits.2, hn⟩, hfits⟩
  · rintro ⟨⟨_, _, hsplit, hne, hdigits, hn⟩, hfits⟩
    cases hsplit
    rw [if_neg (by simpa [hne] using hdigits)]
    exact signedValue?_eq_some_iff.mpr ⟨hn, hfits⟩

/-- A whole number or a boolean. -/
inductive IsOther : Json → Prop where
  | number (n : JsonNumber) : IsOther (.number n)
  | bool (b : Bool) : IsOther (.bool b)

theorem parseValue_of_spellsOther {key s : String} (hkey : key ≠ "skip_prefix_on_schema")
    (h : SpellsOther s) : IsOther (parseValue key s) := by
  rw [parseValue, if_neg (by simpa using hkey)]
  cases hn : integer? s with
  | some n => exact .number _
  | none =>
    rcases h with ⟨n, h⟩ | rfl | rfl
    · cases hn.symm.trans (integer?_eq_some_iff.mpr h)
    · exact .bool true
    · exact .bool false

theorem parseValue_of_not_spellsOther {key s : String} (hkey : key ≠ "skip_prefix_on_schema")
    (h : ¬SpellsOther s) : parseValue key s = .string s := by
  obtain ⟨hnumber, htrue, hfalse⟩ : (¬∃ n, Spells s.toList n ∧ Text.fitsInt64 n = true) ∧
      s ≠ "true" ∧ s ≠ "false" := by simpa [SpellsOther, not_or] using h
  rw [parseValue, if_neg (by simpa using hkey)]
  cases hn : integer? s with
  | some n => exact absurd ⟨n, integer?_eq_some_iff.mp hn⟩ hnumber
  | none => simp [htrue, hfalse]

end Environment

/-- The settings that take a text. -/
inductive TextSetting where
  | dialect
  | tablePrefix
  | csvFileFormat
  | parquetFileFormat
  | rawExternalDataSource
  | processedExternalDataSource
  | locationPrefix
  | warehouseName
  | lakehouseName
  deriving DecidableEq

namespace TextSetting
open SettingsSource (environment merged settings)

/-- The keys that lead to the setting. -/
def path : TextSetting → List String
  | dialect => ["dialect"]
  | tablePrefix => ["table_prefix"]
  | csvFileFormat => ["synapse", "csv_file_format"]
  | parquetFileFormat => ["synapse", "parquet_file_format"]
  | rawExternalDataSource => ["synapse", "raw_external_data_source"]
  | processedExternalDataSource => ["synapse", "processed_external_data_source"]
  | locationPrefix => ["synapse", "location_prefix"]
  | warehouseName => ["fabric", "warehouse_name"]
  | lakehouseName => ["fabric", "lakehouse_name"]

def get (setting : TextSetting) (s : Settings) : Option String :=
  match setting with
  | dialect => s.dialect
  | tablePrefix => s.tablePrefix
  | csvFileFormat => s.synapse.csvFileFormat
  | parquetFileFormat => s.synapse.parquetFileFormat
  | rawExternalDataSource => s.synapse.rawExternalDataSource
  | processedExternalDataSource => s.synapse.processedExternalDataSource
  | locationPrefix => s.synapse.locationPrefix
  | warehouseName => s.fabric.warehouseName
  | lakehouseName => s.fabric.lakehouseName

def set (setting : TextSetting) (v : String) (s : Settings) : Settings :=
  match setting with
  | dialect => { s with dialect := v }
  | tablePrefix => { s with tablePrefix := some v }
  | csvFileFormat => { s with synapse := { s.synapse with csvFileFormat := v } }
  | parquetFileFormat => { s with synapse := { s.synapse with parquetFileFormat := v } }
  | rawExternalDataSource => { s with synapse := { s.synapse with rawExternalDataSource := v } }
  | processedExternalDataSource =>
    { s with synapse := { s.synapse with processedExternalDataSource := v } }
  | locationPrefix => { s with synapse := { s.synapse with locationPrefix := some v } }
  | warehouseName => { s with fabric := { s.fabric with warehouseName := some v } }
  | lakehouseName => { s with fabric := { s.fabric with lakehouseName := some v } }

theorem get_set (setting : TextSetting) (v : String) (s : Settings) :
    setting.get (setting.set v s) = some v := by
  cases setting <;> rfl

theorem getLast_path_ne (setting : TextSetting) :
    setting.path.getLast?.getD "" ≠ "skip_prefix_on_schema" := by
  cases setting <;> decide

private theorem insertPath_path (setting : TextSetting) (j : Json) :
    ∃ m, Environment.insertPath j setting.path [] = [m] := by
  cases setting <;> exact ⟨_, rfl⟩

theorem ofTable_text (setting : TextSetting) (v : String) :
    Settings.ofTable (Environment.insertPath (.string v) setting.path []) =
      .ok (setting.set v .standard) := by
  obtain ⟨m, hone⟩ := insertPath_path setting (.string v)
  have hsorted : Settings.ofTable [m] = Settings.ofMembers [m] := by
    rw [Settings.ofTable, List.mergeSort_singleton]
  rw [hone, hsorted, ← hone]
  cases setting <;> rfl

theorem ofTable_other (setting : TextSetting) {j : Json} (hj : Environment.IsOther j) :
    Settings.ofTable (Environment.insertPath j setting.path []) = .error .shape := by
  obtain ⟨m, hone⟩ := insertPath_path setting j
  have hsorted : Settings.ofTable [m] = Settings.ofMembers [m] := by
    rw [Settings.ofTable, List.mergeSort_singleton]
  rw [hone, hsorted, ← hone]
  cases hj with
  | number n => cases setting <;> rfl
  | bool b => cases setting <;> rfl

theorem settings_variable {setting : TextSetting} {start name : String}
    (h : Environment.path? start name = some setting.path) (v : String) :
    settings [environment start [(name, v)]] =
      (Settings.ofTable (Environment.insertPath
        (Environment.parseValue (setting.path.getLast?.getD "") v) setting.path [])).mapError
        .json := by
  have hload : Environment.load start [(name, v)] = Environment.insertPath
      (Environment.parseValue (setting.path.getLast?.getD "") v) setting.path [] := by
    rw [Environment.load, List.foldl_cons, List.foldl_nil, Environment.insertVariable, h]
  rw [settings, SettingsSource.merged_environment, hload]
  rfl

/-- The variable that sets the setting. -/
def variableName (setting : TextSetting) : String :=
  Environment.standardStart ++ Text.uppercase ("__".intercalate setting.path)

theorem path?_variableName (setting : TextSetting) :
    Environment.path? Environment.standardStart setting.variableName = some setting.path := by
  cases setting <;> decide +kernel

/-- A variable alone sets a text exactly if the text spells no whole number and no boolean, and
then nothing else is set. Otherwise there are no settings, because the value was typed before. -/
theorem text_kept_iff_not_spells_other {setting : TextSetting} {start name : String}
    (h : Environment.path? start name = some setting.path) (v : String) :
    ((∃ s, settings [environment start [(name, v)]] = .ok s ∧ setting.get s = some v) ↔
      ¬Environment.SpellsOther v) ∧
    (¬Environment.SpellsOther v →
      settings [environment start [(name, v)]] = .ok (setting.set v .standard)) ∧
    (Environment.SpellsOther v →
      settings [environment start [(name, v)]] = .error (.json .shape)) := by
  have hkept (hv : ¬Environment.SpellsOther v) :
      settings [environment start [(name, v)]] = .ok (setting.set v .standard) := by
    rw [settings_variable h, Environment.parseValue_of_not_spellsOther setting.getLast_path_ne hv,
      ofTable_text]
    rfl
  have hrefused (hv : Environment.SpellsOther v) :
      settings [environment start [(name, v)]] = .error (.json .shape) := by
    rw [settings_variable h,
      ofTable_other setting (Environment.parseValue_of_spellsOther setting.getLast_path_ne hv)]
    rfl
  refine ⟨⟨?_, ?_⟩, hkept, hrefused⟩
  · rintro ⟨s, hs, -⟩ hv
    cases hs.symm.trans (hrefused hv)
  · intro hv
    exact ⟨setting.set v .standard, hkept hv, setting.get_set v .standard⟩

/-- A number that is too large for a whole number stays the text that it is. -/
theorem large_number_kept :
    let v := "9223372036854775808"
    Environment.path? "MEDALFLOW_" "MEDALFLOW_Fabric__WAREHOUSE_NAME" = some warehouseName.path ∧
    ¬Environment.SpellsOther v ∧
    settings [environment "MEDALFLOW_" [("MEDALFLOW_Fabric__WAREHOUSE_NAME", v)]] =
      .ok { Settings.standard with
        fabric := { FabricSettings.standard with warehouseName := some v } } := by
  intro v
  have hpath : Environment.path? "MEDALFLOW_" "MEDALFLOW_Fabric__WAREHOUSE_NAME" =
      some warehouseName.path := by
    decide +kernel
  have hnone : Environment.integer? v = none := by decide +kernel
  have hv : ¬Environment.SpellsOther v := by
    rintro (⟨n, hn⟩ | htrue | hfalse)
    · cases hnone.symm.trans (Environment.integer?_eq_some_iff.mpr hn)
    · exact absurd htrue (by decide)
    · exact absurd hfalse (by decide)
  exact ⟨hpath, hv, (text_kept_iff_not_spells_other hpath v).2.1 hv⟩

/-- A prefix of digits, set by its variable alone, leaves no settings at all. -/
theorem numeric_prefix_refused :
    let prefixVariable := environment Environment.standardStart [("MEDALFLOW_TABLE_PREFIX", "2024")]
    Environment.path? Environment.standardStart "MEDALFLOW_TABLE_PREFIX" =
      some tablePrefix.path ∧
    settings [prefixVariable] = .error (.json .shape) ∧
    ¬∃ s, settings [prefixVariable] = .ok s ∧ tablePrefix.get s = some "2024" := by
  intro prefixVariable
  have hpath : Environment.path? Environment.standardStart "MEDALFLOW_TABLE_PREFIX" =
      some tablePrefix.path := by
    decide +kernel
  have hnumber : Environment.integer? "2024" = some 2024 := by decide +kernel
  have hother : Environment.SpellsOther "2024" :=
    .inl ⟨2024, Environment.integer?_eq_some_iff.mp hnumber⟩
  have hrefused : settings [prefixVariable] = .error (.json .shape) := by
    rw [settings_variable hpath,
      ofTable_other _ (Environment.parseValue_of_spellsOther tablePrefix.getLast_path_ne hother)]
    rfl
  refine ⟨hpath, hrefused, ?_⟩
  rintro ⟨s, hs, -⟩
  cases hs.symm.trans hrefused

end TextSetting
end LakehouseSql
