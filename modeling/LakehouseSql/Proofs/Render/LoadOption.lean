import LakehouseSql.Proofs.Render.Fragment.Common
import LakehouseSql.Proofs.Sql.Name
import LakehouseSql.Render.Fabric
/-! # Names of options

The options of a load are kept under their keys as these are given, but their names are written in
capitals, between two names of the platform's own. No name is written twice exactly as long as the
keys are none of these two and differ in more than the case of their letters.
-/
namespace LakehouseSql
open Identifier (Conforms)

namespace Copy

/-- The names of the options that are written, in their order. -/
def optionNames (c : Copy) : List String :=
  "FILE_TYPE" :: c.options.keys.map Text.uppercase ++
    (c.credential.map fun _ => "CREDENTIAL").toList

/-- The setters give the load an option with the key. One with another key is refused. -/
def Gives (setters : List Setter) (key : String) : Prop :=
  Conforms .sql key ∧ ∃ value, .option key value ∈ setters

variable {c : Copy}

theorem attempt_option (c : Copy) (key : String) (value : SqlValue) :
    (Conforms .sql key ∧ lifecycle.attempt c (.option key value) =
      { c with options := c.options.insert key value }) ∨
      (¬Conforms .sql key ∧ lifecycle.attempt c (.option key value) = c) := by
  unfold Lifecycle.attempt
  cases hset : lifecycle.set c (.option key value) with
  | ok d =>
    obtain ⟨hkey, rfl⟩ := withOption_eq_ok_iff.mp hset
    exact .inl ⟨hkey, rfl⟩
  | error e =>
    refine .inr ⟨fun hkey => ?_, rfl⟩
    cases hset.symm.trans (withOption_eq_ok_iff.mpr ⟨hkey, rfl⟩)

theorem mem_keys_attempt (c : Copy) (setter : Setter) (key : String) :
    key ∈ (lifecycle.attempt c setter).options.keys ↔
      key ∈ c.options.keys ∨ Gives [setter] key := by
  cases setter with
  | fileFormat fileFormat =>
    change key ∈ c.options.keys ↔ _
    simp [Gives]
  | credential credential =>
    change key ∈ c.options.keys ↔ _
    simp [Gives]
  | option k value =>
    have hgives : Gives [.option k value] key ↔ Conforms .sql k ∧ key = k := by
      simpa [Gives] using fun h : key = k => by rw [h]
    rcases attempt_option c k value with ⟨hk, hstep⟩ | ⟨hk, hstep⟩
    · rw [hstep, Dictionary.mem_keys_insert, hgives, and_iff_right hk, or_comm]
    · rw [hstep, hgives]
      simp [hk]

/-- The keys after a run are those of the setters that are not refused. -/
theorem mem_keys_run (c : Copy) (setters : List Setter) (key : String) :
    key ∈ (lifecycle.run c setters).options.keys ↔
      key ∈ c.options.keys ∨ Gives setters key := by
  induction setters generalizing c with
  | nil =>
    change key ∈ c.options.keys ↔ _
    simp [Gives]
  | cons setter setters ih =>
    have hgives : Gives (setter :: setters) key ↔ Gives [setter] key ∨ Gives setters key := by
      simp [Gives, exists_or, and_or_left]
    rw [hgives, ← or_assoc, ← mem_keys_attempt]
    exact ih (lifecycle.attempt c setter)

theorem credential_run (c : Copy) (setters : List Setter) :
    (lifecycle.run c setters).credential.isSome ↔
      c.credential.isSome ∨ ∃ credential, .credential credential ∈ setters := by
  induction setters generalizing c with
  | nil =>
    change c.credential.isSome ↔ _
    simp
  | cons setter setters ih =>
    refine (ih (lifecycle.attempt c setter)).trans ?_
    cases setter with
    | fileFormat fileFormat =>
      change c.credential.isSome ∨ _ ↔ _
      simp
    | credential credential =>
      change (some credential).isSome ∨ _ ↔ _
      simp
    | option key value =>
      rcases attempt_option c key value with ⟨-, hstep⟩ | ⟨-, hstep⟩ <;> simp [hstep]

theorem run_place (c : Copy) (setters : List Setter) :
    (lifecycle.run c setters).target = c.target ∧
      (lifecycle.run c setters).sourcePath = c.sourcePath := by
  have hset (d : Copy) (setter : lifecycle.Setter) (e : Copy)
      (hd : d.target = c.target ∧ d.sourcePath = c.sourcePath)
      (h : lifecycle.set d setter = .ok e) :
      e.target = c.target ∧ e.sourcePath = c.sourcePath := by
    cases setter with
    | fileFormat fileFormat => cases h; exact hd
    | credential credential => cases h; exact hd
    | option key value =>
      obtain ⟨-, rfl⟩ := withOption_eq_ok_iff.mp h
      exact hd
  exact Lifecycle.run_keeps hset setters ⟨rfl, rfl⟩

private theorem conforms_reserved :
    ∀ name ∈ ["FILE_TYPE", "CREDENTIAL"], Conforms .sql name ∧ Text.uppercase name = name := by
  have hvalid : ∀ name ∈ ["FILE_TYPE", "CREDENTIAL"],
      Identifier.validate .sql "option" name = .ok () ∧ Text.uppercase name = name := by
    simp only [List.forall_mem_cons, List.not_mem_nil, false_implies, implies_true, and_true]
    exact ⟨⟨rfl, rfl⟩, rfl, rfl⟩
  exact fun name hname =>
    ⟨(Identifier.validate_eq_ok_iff _ _ _).mp (hvalid name hname).1, (hvalid name hname).2⟩

theorem nodup_optionNames_iff (hkeys : ∀ key ∈ c.options.keys, Conforms .sql key) :
    c.optionNames.Nodup ↔
      (∀ key ∈ c.options.keys, ∀ other ∈ c.options.keys,
        Text.sameIgnoringAsciiCase key other = true → key = other) ∧
      (∀ key ∈ c.options.keys, Text.sameIgnoringAsciiCase key "FILE_TYPE" = false) ∧
      (c.credential.isSome → ∀ key ∈ c.options.keys,
        Text.sameIgnoringAsciiCase key "CREDENTIAL" = false) := by
  have hown (name : String) (hname : name ∈ ["FILE_TYPE", "CREDENTIAL"]) :
      name ∉ c.options.keys.map Text.uppercase ↔
        ∀ key ∈ c.options.keys, Text.sameIgnoringAsciiCase key name = false := by
    obtain ⟨hconforms, hcapitals⟩ := conforms_reserved name hname
    rw [List.mem_map, not_exists]
    refine forall_congr' fun key => not_and.trans (imp_congr_right fun hkey => ?_)
    rw [← Bool.not_eq_true, ← Sql.uppercase_eq_uppercase_iff (hkeys key hkey) hconforms, hcapitals]
  have hinjective : (c.options.keys.map Text.uppercase).Nodup ↔
      ∀ key ∈ c.options.keys, ∀ other ∈ c.options.keys,
        Text.sameIgnoringAsciiCase key other = true → key = other := by
    refine (List.nodup_map_iff_inj_on c.options.distinct).trans ?_
    refine forall₂_congr fun key hkey => forall₂_congr fun other hother => ?_
    rw [Sql.uppercase_eq_uppercase_iff (hkeys key hkey) (hkeys other hother)]
  rw [← hinjective, ← hown _ (by simp), ← hown _ (by simp), optionNames]
  cases c.credential with
  | none => simp [and_comm]
  | some credential => simp [List.nodup_append, and_comm, and_assoc]

end Copy

namespace Fabric
open Render

variable {settings : Settings} {sql : String}

/-- The option has the name. -/
def Names (name option : String) : Prop :=
  ∃ content, option = name ++ " = " ++ content

theorem copy_eq {c : Copy} (h : copy settings c = .ok sql) :
    ∃ options, List.Forall₂ Names c.optionNames options ∧
      sql = "COPY INTO [" ++ c.target.schema ++ "].[" ++
        settings.physicalName c.target.schema c.target.object ++ "]\nFROM " ++
        Literal.quote c.sourcePath ++ "\nWITH (\n    " ++ String.intercalate ",\n    " options ++
        "\n)" := by
  unfold copy at h
  split at h
  · cases h
  rename_i format hformat
  simp only [bind_eq_ok_iff, pure_eq_ok_iff, named_eq_ok_iff] at h
  obtain ⟨name, hname, rfl⟩ := h
  obtain ⟨-, rfl⟩ := qualifiedName_eq_ok_iff.mp hname
  have hfileType : Names "FILE_TYPE" ("FILE_TYPE = '" ++ format ++ "'") := by
    refine ⟨"'" ++ format ++ "'", ?_⟩
    ext
    simp
  have hoptions : List.Forall₂ Names (c.options.keys.map Text.uppercase)
      (c.options.entries.map optionText) :=
    List.forall₂_map_left_iff.mpr (Dictionary.forall₂_keys fun _ v _ => ⟨v.sql, rfl⟩)
  have hcredential : List.Forall₂ Names (c.credential.map fun _ => "CREDENTIAL").toList
      (c.credential.map fun credential => "CREDENTIAL = (" ++ credential ++ ")").toList := by
    cases c.credential with
    | none => exact .nil
    | some credential =>
      refine .cons ⟨"(" ++ credential ++ ")", ?_⟩ .nil
      ext
      simp
  refine ⟨_, List.rel_append (.cons hfileType hoptions) hcredential, ?_⟩
  ext
  simp

/-- However a load is made, its options are written under their names. No two of these are the same
exactly if no two keys that it is given differ in the case of letters alone, and no key is, in any
case of its letters, a name of the platform's own. -/
theorem option_names_distinct_iff {target : Target} {sourcePath : String} {made c : Copy}
    (hmade : Copy.create target sourcePath = .ok made) {setters : List Copy.Setter}
    (hc : Copy.lifecycle.run made setters = c)
    (h : (renderer settings).render (.copy c) = .ok sql) :
    ∃ options, List.Forall₂ Names c.optionNames options ∧
      sql = "COPY INTO [" ++ target.schema ++ "].[" ++
        settings.physicalName target.schema target.object ++ "]\nFROM " ++
        Literal.quote sourcePath ++ "\nWITH (\n    " ++ String.intercalate ",\n    " options ++
        "\n)" ∧
      (c.optionNames.Nodup ↔
        (∀ key other, Copy.Gives setters key → Copy.Gives setters other →
          Text.sameIgnoringAsciiCase key other = true → key = other) ∧
        (∀ key, Copy.Gives setters key → Text.sameIgnoringAsciiCase key "FILE_TYPE" = false) ∧
        ((∃ credential, .credential credential ∈ setters) → ∀ key, Copy.Gives setters key →
          Text.sameIgnoringAsciiCase key "CREDENTIAL" = false)) := by
  obtain ⟨-, rfl⟩ := Copy.create_eq_ok_iff.mp hmade
  have hkeys (key : String) : key ∈ c.options.keys ↔ Copy.Gives setters key := by
    rw [← hc, Copy.mem_keys_run]
    simp [Dictionary.keys, Dictionary.empty]
  have hcredential : c.credential.isSome ↔ ∃ credential, .credential credential ∈ setters := by
    rw [← hc, Copy.credential_run]
    simp
  obtain ⟨htarget, hpath⟩ : c.target = target ∧ c.sourcePath = sourcePath := by
    rw [← hc]
    exact Copy.run_place _ setters
  obtain ⟨options, hnames, hsql⟩ := copy_eq h
  have hnodup := Copy.nodup_optionNames_iff fun key hkey => ((hkeys key).mp hkey).1
  simp only [hkeys, hcredential] at hnodup
  rw [htarget, hpath] at hsql
  refine ⟨options, hnames, hsql, hnodup.trans (and_congr_left' ?_)⟩
  exact ⟨fun h key other hkey hother => h key hkey other hother,
    fun h key hkey other hother => h key other hkey hother⟩

/-- A load with an option, a credential and a key that is refused. -/
theorem credential_and_option_distinct :
    let target : Target := ⟨"silver", "orders", none, none, none⟩
    let made : Copy := ⟨target, "raw/orders/", .parquet, .empty, none⟩
    let setters : List Copy.Setter := [.option "firstrow" (.integer 2),
      .option "FIRSTROW = 1; --" .null, .credential "IDENTITY = 'Managed Identity'"]
    let c : Copy := { made with
      options := .ofList [("firstrow", .integer 2)]
      credential := some "IDENTITY = 'Managed Identity'" }
    let sql := "COPY INTO [silver].[orders]\nFROM 'raw/orders/'\nWITH (\n" ++
      "    FILE_TYPE = 'PARQUET',\n    FIRSTROW = 2,\n" ++
      "    CREDENTIAL = (IDENTITY = 'Managed Identity')\n)"
    Copy.create target "raw/orders/" = .ok made ∧ Copy.lifecycle.run made setters = c ∧
      (renderer .standard).render (.copy c) = .ok sql ∧
      c.optionNames = ["FILE_TYPE", "FIRSTROW", "CREDENTIAL"] ∧ c.optionNames.Nodup ∧
      ∀ key, Copy.Gives setters key → Text.sameIgnoringAsciiCase key "CREDENTIAL" = false := by
  intro target made setters c sql
  have hmade : Copy.create target "raw/orders/" = .ok made := rfl
  have hc : Copy.lifecycle.run made setters = c := rfl
  have hsql : (renderer .standard).render (.copy c) = .ok sql := by
    unfold sql c made target
    rfl
  have hnames : c.optionNames = ["FILE_TYPE", "FIRSTROW", "CREDENTIAL"] := rfl
  have hnodup : c.optionNames.Nodup := by
    rw [hnames]
    decide
  obtain ⟨options, -, -, hiff⟩ := option_names_distinct_iff hmade hc hsql
  obtain ⟨-, -, hcredential⟩ := hiff.mp hnodup
  exact ⟨hmade, hc, hsql, hnames, hnodup, hcredential ⟨_, List.mem_of_getElem? (i := 2) rfl⟩⟩

/-- A load with two keys that differ in the case of letters alone, of which both are written. -/
theorem option_written_twice :
    let target : Target := ⟨"silver", "orders", none, none, none⟩
    let c : Copy := ⟨target, "raw/orders/", .csv,
      .ofList [("firstrow", .integer 1), ("FIRSTROW", .integer 2)], none⟩
    let sql := "COPY INTO [silver].[orders]\nFROM 'raw/orders/'\nWITH (\n" ++
      "    FILE_TYPE = 'CSV',\n    FIRSTROW = 1,\n    FIRSTROW = 2\n)"
    Copy.lifecycle.Reached c ∧ (renderer .standard).render (.copy c) = .ok sql ∧
      c.optionNames = ["FILE_TYPE", "FIRSTROW", "FIRSTROW"] ∧ ¬c.optionNames.Nodup := by
  intro target c sql
  have htarget : target.Reached := Lifecycle.reached_of_made ⟨"silver", "orders", rfl⟩
  let made : Copy := ⟨target, "raw/orders/", .parquet, .empty, none⟩
  have hmade : Copy.create target "raw/orders/" = .ok made := rfl
  let setters : List Copy.Setter :=
    [.fileFormat .csv, .option "firstrow" (.integer 1), .option "FIRSTROW" (.integer 2)]
  have hc : Copy.lifecycle.run made setters = c := rfl
  have hsql : (renderer .standard).render (.copy c) = .ok sql := by
    unfold sql c target
    rfl
  have hnames : c.optionNames = ["FILE_TYPE", "FIRSTROW", "FIRSTROW"] := rfl
  refine ⟨⟨made, setters, ⟨target, "raw/orders/", htarget, hmade⟩, hc⟩, hsql, hnames, ?_⟩
  rw [hnames]
  decide

end Fabric

end LakehouseSql
