import LakehouseSql.Proofs.Draft.Route
import LakehouseSql.Proofs.Identifier.Exact
import LakehouseSql.Proofs.Render.Fragment.Common
import LakehouseSql.Render.Fabric
import LakehouseSql.Render.Synapse
/-! # Names for nameless statistics

Statistics without a name get one of their object and their column. What may stand in both may
stand in the name, but each can be as long as a name can be, and the name is longer than the two
together. Then there is no text at all, although nothing is wrong with what was asked for.
-/
namespace LakehouseSql.Render
open Identifier (Conforms Rule maxLength)

/-- What is written behind the column: a full scan, a sample or nothing. -/
def scanText (s : CreateStatistics) (full sample : String) : String :=
  if s.fullScan then full
  else whenGiven (fun p => sample ++ SqlValue.numberText p ++ " PERCENT") s.samplePercent

section
variable {settings : Settings} {s : CreateStatistics} {schema object column name : String}

/-- What an object can be called and a table written as has letters, digits and underscores. -/
theorem mem_object_of_written (hobject : Conforms .object object)
    (hwritten : Conforms .sql (settings.physicalName schema object)) :
    ∀ c ∈ object.toList, Rule.column.admits c = true := by
  intro c hc
  have hmem : c ∈ (settings.physicalName schema object).toList := by
    unfold Settings.physicalName
    split
    · split
      · exact hc
      · simp [String.toList_append, hc]
    · exact hc
  have hname := hwritten.isNameChar c hmem
  have hhyphen : c ≠ '-' := by
    rintro rfl
    exact hobject.not_mem (by decide) hc
  simpa [Identifier.isNameChar, Rule.admits, Rule.admitsSign, hhyphen] using hname

/-- A name that is made up begins with a letter and goes on with characters of columns. -/
theorem generatedStatisticsName_shape (hcolumns : s.columns = [column])
    (hobject : ∀ c ∈ s.target.object.toList, Rule.column.admits c = true)
    (hcolumn : ∀ c ∈ column.toList, Rule.column.admits c = true) :
    ∃ rest, (generatedStatisticsName s).toList = 's' :: rest ∧
      ∀ c ∈ rest, Rule.column.admits c = true := by
  have hprefix : "stat_".toList = 's' :: "tat_".toList := by decide
  have hstat : "tat_".toList.all Rule.column.admits = true := by decide
  have hunderscore : "_".toList.all Rule.column.admits = true := by decide
  refine ⟨"tat_".toList ++ (s.target.object.toList ++ ("_".toList ++ column.toList)), ?_, ?_⟩
  · simp [generatedStatisticsName, hcolumns, String.toList_append, hprefix]
  · simp only [List.forall_mem_append]
    exact ⟨List.all_eq_true.mp hstat, hobject, List.all_eq_true.mp hunderscore, hcolumn⟩

theorem length_generatedStatisticsName (hcolumns : s.columns = [column]) :
    (generatedStatisticsName s).length = s.target.object.length + column.length + 6 := by
  have hprefix : "stat_".length = 5 := by decide
  have hbetween : "_".length = 1 := by decide
  simp only [generatedStatisticsName, hcolumns, List.head?_cons, Option.getD_some,
    String.length_append, hprefix, hbetween]
  omega

/-- The name is in order exactly if it is not too long. -/
theorem conforms_generatedStatisticsName (hs : s.Consistent) (hcolumns : s.columns = [column])
    (hwritten : WritableTarget settings s.target)
    (hshort : s.target.object.length + column.length ≤ 122) :
    Conforms .sql (generatedStatisticsName s) := by
  have hmem : column ∈ s.columns := by simp [hcolumns]
  obtain ⟨rest, hname, hrest⟩ := generatedStatisticsName_shape hcolumns
    (mem_object_of_written hs.request.target.object hwritten.2) (hs.request.columns _ hmem).admits
  have hlength := length_generatedStatisticsName hcolumns
  have hcolumnName : Conforms .column (generatedStatisticsName s) := by
    refine ⟨⟨'s', rest, hname, by decide, hrest⟩, ?_, by simp [Rule.forbidden]⟩
    rw [String.length_toList, hlength, maxLength]
    omega
  exact hcolumnName.sql_of_column

theorem columnList_of_single (hs : s.Consistent) (hcolumns : s.columns = [column]) :
    columnList s.columns = .ok ("[" ++ column ++ "]") := by
  have hmem : column ∈ s.columns := by simp [hcolumns]
  have hconforms : ∀ c ∈ [column], Conforms .sql c := by
    simpa using (hs.request.columns _ hmem).sql_of_column
  rw [hcolumns]
  exact columnList_eq_ok_iff.mpr ⟨hconforms, String.intercalate_singleton⟩

theorem statisticsName_of_unnamed (hname : s.name = none)
    (h : Conforms .sql (generatedStatisticsName s)) :
    statisticsName s = .ok ("[" ++ generatedStatisticsName s ++ "]") := by
  rw [statisticsName, hname, Option.getD_none]
  exact quoteName_eq_ok_iff.mpr ⟨h, rfl⟩

theorem statisticsName_of_long (hname : s.name = none)
    (hlong : 128 < (generatedStatisticsName s).length) :
    statisticsName s = .error (.tooLong "statistics" (generatedStatisticsName s).length) := by
  have hvalidate : Identifier.validate .sql "statistics" (generatedStatisticsName s) = _ :=
    Identifier.validate_of_fault (.long (String.length_toList ▸ hlong))
  rw [statisticsName, hname, Option.getD_none, quoteName, hvalidate, String.length_toList]
  rfl

theorem render_createStatistics {r : Renderer} (hcolumns : s.columns = [column]) :
    r.render (.createStatistics s) = r.createStatistics s := by
  simp only [Renderer.render, checkStatisticsColumns, hcolumns]

/-- Statistics on one column of a table that can be written, without a name of their own, are
written under the name that is made up exactly if object and column have up to 122 characters
together. Otherwise the name is refused as too long. -/
theorem generated_name_written_iff_fits (settings : Settings) {s : CreateStatistics}
    {column name : String} (hs : (Statement.createStatistics s).Obtained) (hname : s.name = none)
    (hcolumns : s.columns = [column]) (htarget : targetName settings s.target = .ok name) :
    let length := s.target.object.length + column.length
    (length ≤ 122 →
      Conforms .sql (generatedStatisticsName s) ∧
      (Fabric.renderer settings).render (.createStatistics s) =
        .ok ("CREATE STATISTICS " ++ ("[" ++ generatedStatisticsName s ++ "]") ++ "\nON " ++ name ++
          " (" ++ ("[" ++ column ++ "]") ++ ")" ++
          scanText s "\nWITH FULLSCAN" "\nWITH SAMPLE ") ∧
      (Synapse.renderer settings).render (.createStatistics s) =
        .ok ("CREATE STATISTICS " ++ ("[" ++ generatedStatisticsName s ++ "]") ++ " ON " ++ name ++
          " (" ++ ("[" ++ column ++ "]") ++ ")" ++ scanText s " WITH FULLSCAN" " WITH SAMPLE ")) ∧
    (122 < length →
      (Fabric.renderer settings).render (.createStatistics s) =
        .error (.identifier (.tooLong "statistics" (length + 6))) ∧
      (Synapse.renderer settings).render (.createStatistics s) =
        .error (.identifier (.tooLong "statistics" (length + 6)))) := by
  intro length
  have hconsistent := CreateStatistics.reached_consistent hs.statistics_reached
  have hwritten : WritableTarget settings s.target := succeeds_targetName.mp ⟨name, htarget⟩
  have hlength := length_generatedStatisticsName hcolumns
  have hfabric : (Fabric.renderer settings).render (.createStatistics s) =
      Fabric.createStatistics settings s := render_createStatistics hcolumns
  have hsynapse : (Synapse.renderer settings).render (.createStatistics s) =
      Synapse.createStatistics settings s := render_createStatistics hcolumns
  rw [hfabric, hsynapse]
  constructor
  · intro hshort
    have hmade := conforms_generatedStatisticsName hconsistent hcolumns hwritten hshort
    have hstatistics := statisticsName_of_unnamed hname hmade
    have hcolumn := columnList_of_single hconsistent hcolumns
    refine ⟨hmade, ?_, ?_⟩
    · rw [Fabric.createStatistics, hstatistics, htarget, hcolumn]
      rfl
    · rw [Synapse.createStatistics, hstatistics, htarget, hcolumn]
      rfl
  · intro hlong
    have hstatistics := statisticsName_of_long hname (by omega)
    rw [hlength] at hstatistics
    constructor
    · rw [Fabric.createStatistics, hstatistics]
      rfl
    · rw [Synapse.createStatistics, hstatistics, htarget]
      rfl

end

/-- Any two names make up statistics that are left without one. -/
theorem nameless_statistics_obtained {schema object column : String}
    (hschema : Conforms .object schema) (hobject : Conforms .object object)
    (hcolumn : Conforms .column column) :
    (Statement.createStatistics
      ⟨⟨schema, object, none, none, none⟩, [column], none, true, none, true⟩).Obtained := by
  have htarget : Target.Reached ⟨schema, object, none, none, none⟩ :=
    Lifecycle.reached_of_made
      ⟨schema, object, Target.create_eq_ok_iff.mpr ⟨hschema, hobject, rfl⟩⟩
  have hcreated : (StatisticsRequest.create ⟨schema, object, none, none, none⟩).Reached :=
    Lifecycle.reached_of_made ⟨_, htarget, rfl⟩
  have hcolumns : ∀ c ∈ [column], Conforms .column c := by simpa using hcolumn
  have hrequest := hcreated.set (.columns [column])
    (StatisticsRequest.withColumns_eq_ok_iff.mpr ⟨hcolumns, rfl⟩)
  refine .constructed (Lifecycle.reached_of_made ⟨_, none, hrequest, ?_⟩)
  refine StatisticsRequest.resolve_eq_ok_iff.mpr ⟨⟨?_, ?_, hcolumns⟩, rfl⟩
  · simp [StatisticsRequest.Exclusive, StatisticsRequest.create]
  · simp [StatisticsRequest.findColumns]

theorem conforms_replicate {n : Nat} (hpos : 0 < n) (hshort : n ≤ maxLength) :
    Conforms .column (String.ofList (List.replicate n 'a')) := by
  obtain ⟨k, rfl⟩ := Nat.exists_eq_succ_of_ne_zero hpos.ne'
  refine ⟨⟨'a', List.replicate k 'a', ?_, rfl, ?_⟩, ?_, by simp [Rule.forbidden]⟩
  · rw [String.toList_ofList, List.replicate_succ]
  · intro c hc
    rw [List.eq_of_mem_replicate hc]
    rfl
  · rw [String.toList_ofList, List.length_replicate]
    exact hshort

/-- Object and column with 122 characters together, and with one more. -/
theorem made_up_name_of_letters :
    let letters (n : Nat) : String := String.ofList (List.replicate n 'a')
    let s (n : Nat) : CreateStatistics :=
      ⟨⟨"gold", letters n, none, none, none⟩, [letters 61], none, true, none, true⟩
    (Statement.createStatistics (s 61)).Obtained ∧ (Statement.createStatistics (s 62)).Obtained ∧
    Conforms .sql (generatedStatisticsName (s 61)) ∧
    (∃ text, (Synapse.renderer .standard).render (.createStatistics (s 61)) = .ok text) ∧
    (Synapse.renderer .standard).render (.createStatistics (s 62)) =
      .error (.identifier (.tooLong "statistics" 129)) := by
  intro letters s
  have hschema : Conforms .column "gold" := (Identifier.validate_eq_ok_iff _ "" _).mp rfl
  have hletters {n : Nat} (hpos : 0 < n) (hshort : n ≤ maxLength) : Conforms .column (letters n) :=
    conforms_replicate hpos hshort
  have hlength (n : Nat) : (letters n).length = n := by
    rw [String.length_ofList, List.length_replicate]
  have hobtained {n : Nat} (hpos : 0 < n) (hshort : n ≤ maxLength) :
      (Statement.createStatistics (s n)).Obtained :=
    nameless_statistics_obtained hschema.object_of_column (hletters hpos hshort).object_of_column
      (hletters (by decide) (by decide))
  have hname {n : Nat} (hpos : 0 < n) (hshort : n ≤ maxLength) :
      targetName .standard (s n).target = .ok _ :=
    qualifiedName_eq_ok_iff.mpr
      ⟨⟨hschema.sql_of_column, (hletters hpos hshort).sql_of_column⟩, rfl⟩
  have hs := hobtained (n := 61) (by decide) (by decide)
  have hs' := hobtained (n := 62) (by decide) (by decide)
  obtain ⟨hwritten, -⟩ :=
    generated_name_written_iff_fits .standard hs rfl rfl (hname (by decide) (by decide))
  obtain ⟨-, hrefused⟩ :=
    generated_name_written_iff_fits .standard hs' rfl rfl (hname (by decide) (by decide))
  simp only [s, hlength] at hwritten hrefused
  obtain ⟨hmade, -, hsql⟩ := hwritten (by decide)
  obtain ⟨-, herror⟩ := hrefused (by decide)
  exact ⟨hs, hs', hmade, ⟨_, hsql⟩, herror⟩

/-- Names that are in order make up one that is not. -/
theorem made_up_name_too_long :
    ¬∀ (settings : Settings) (s : CreateStatistics) (column name : String),
      (Statement.createStatistics s).Obtained → s.name = none → s.columns = [column] →
      targetName settings s.target = .ok name →
      ∃ text, (Fabric.renderer settings).render (.createStatistics s) = .ok text := by
  intro h
  let object := String.ofList (List.replicate 62 'a')
  let column := String.ofList (List.replicate 61 'a')
  let s : CreateStatistics :=
    ⟨⟨"gold", object, none, none, none⟩, [column], none, true, none, true⟩
  have hschema : Conforms .column "gold" := (Identifier.validate_eq_ok_iff _ "" _).mp rfl
  have hobject : Conforms .column object := conforms_replicate (by decide) (by decide)
  have hcolumn : Conforms .column column := conforms_replicate (by decide) (by decide)
  have hs : (Statement.createStatistics s).Obtained :=
    nameless_statistics_obtained hschema.object_of_column hobject.object_of_column hcolumn
  have hname : targetName .standard s.target = .ok _ :=
    qualifiedName_eq_ok_iff.mpr ⟨⟨hschema.sql_of_column, hobject.sql_of_column⟩, rfl⟩
  obtain ⟨text, htext⟩ := h .standard s column _ hs rfl rfl hname
  have hlong : 128 < (generatedStatisticsName s).length := by
    have hobject : object.length = 62 := by rw [String.length_ofList, List.length_replicate]
    have hcolumn : column.length = 61 := by rw [String.length_ofList, List.length_replicate]
    rw [length_generatedStatisticsName rfl, hobject, hcolumn]
    decide
  have hrefused : Fabric.createStatistics .standard s =
      .error (.identifier (.tooLong "statistics" (generatedStatisticsName s).length)) := by
    rw [Fabric.createStatistics, statisticsName_of_long rfl hlong]
    rfl
  rw [render_createStatistics rfl] at htext
  cases hrefused.symm.trans htext

end LakehouseSql.Render
