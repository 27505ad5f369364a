import LakehouseSql.Proofs.Settings.Order
import LakehouseSql.Proofs.Settings.Source
/-! # What merged sources hold

The value that all sources together have at the end of a path is the one of the last source that
gives a value there, unless a source laid over that one gives something on the way that lets
nothing through. A table lets through what it has no key for. Of two sources their priorities decide
which is laid over the other, then the places at which they were added.
-/
namespace LakehouseSql

namespace Json

/-- The value at the end of a path of keys. -/
def at? : Json → List String → Option Json
  | j, [] => some j
  | j, key :: path => (j.members.lookup key).bind fun inner => inner.at? path

def IsTable (j : Json) : Prop :=
  ∃ ms, j = .object ms

/-- Nothing of what lies below is found at the end of the path: there is a value that is no table
there or on the way, or a table there. -/
def Hides (upper : Json) (path : List String) : Prop :=
  (∃ start, start <+: path ∧ ∃ j, upper.at? start = some j ∧ ¬j.IsTable) ∨
    ∃ j, upper.at? path = some j ∧ j.IsTable

variable {j : Json} {key : String} {path : List String} {ms : List (String × Json)}

@[simp] theorem isTable_object : (object ms).IsTable :=
  ⟨ms, rfl⟩

theorem not_isTable_string (s : String) : ¬(string s).IsTable := by
  rintro ⟨ms, hms⟩
  cases hms

theorem at?_cons_object : (object ms).at? (key :: path) =
    (ms.lookup key).bind fun inner => inner.at? path :=
  rfl

theorem at?_append (j : Json) (path rest : List String) :
    j.at? (path ++ rest) = (j.at? path).bind fun inner => inner.at? rest := by
  induction path generalizing j with
  | nil => rfl
  | cons key path ih =>
    rw [List.cons_append, at?, at?]
    cases j.members.lookup key with
    | none => rfl
    | some inner => exact ih inner

/-- Below a value that is no table there is nothing. -/
theorem at?_cons_of_not_isTable (h : ¬j.IsTable) : j.at? (key :: path) = none := by
  cases j with
  | object ms => exact absurd isTable_object h
  | null | bool | number | string | array | unreadable => rfl

theorem hides_nil : j.Hides [] := by
  by_cases h : j.IsTable
  · exact .inr ⟨j, rfl, h⟩
  · exact .inl ⟨[], List.prefix_rfl, j, rfl, h⟩

theorem hides_of_not_isTable (h : ¬j.IsTable) : j.Hides path :=
  .inl ⟨[], List.nil_prefix, j, rfl, h⟩

/-- Whatever is laid over a value that is no table hides it. -/
theorem hides_of_at?_of_not_isTable {lower v : Json} (h : ¬lower.IsTable)
    (hv : lower.at? path = some v) (upper : Json) : upper.Hides path := by
  cases path with
  | nil => exact hides_nil
  | cons key path =>
    rw [at?_cons_of_not_isTable h] at hv
    cases hv

/-- A table hides what the value under the first key of the path hides. -/
theorem hides_cons_iff : (object ms).Hides (key :: path) ↔
    ∃ inner, ms.lookup key = some inner ∧ inner.Hides path := by
  constructor
  · rintro (⟨start, hstart, j, hj, htable⟩ | ⟨j, hj, htable⟩)
    · rcases List.prefix_cons_iff.mp hstart with rfl | ⟨start, rfl, hinit⟩
      · cases hj
        exact absurd isTable_object htable
      · obtain ⟨inner, hinner, hat⟩ := Option.bind_eq_some_iff.mp hj
        exact ⟨inner, hinner, .inl ⟨start, hinit, j, hat, htable⟩⟩
    · obtain ⟨inner, hinner, hat⟩ := Option.bind_eq_some_iff.mp hj
      exact ⟨inner, hinner, .inr ⟨j, hat, htable⟩⟩
  · rintro ⟨inner, hinner, ⟨start, hstart, j, hj, htable⟩ | ⟨j, hj, htable⟩⟩
    · have hstart' : key :: start <+: key :: path :=
        List.prefix_cons_iff.mpr (.inr ⟨start, rfl, hstart⟩)
      refine .inl ⟨key :: start, hstart', j, ?_, htable⟩
      exact Option.bind_eq_some_iff.mpr ⟨inner, hinner, hj⟩
    · exact .inr ⟨j, Option.bind_eq_some_iff.mpr ⟨inner, hinner, hj⟩, htable⟩

theorem not_hides_append {front : List String} {key : String} {rest : List String}
    {upper : Json} (htable : upper.at? front = some (.object ms)) (hkey : ms.lookup key = none) :
    ¬upper.Hides (front ++ key :: rest) := by
  induction front generalizing upper with
  | nil =>
    cases htable
    rw [List.nil_append, hides_cons_iff]
    rintro ⟨inner, hinner, -⟩
    cases hkey.symm.trans hinner
  | cons k front ih =>
    obtain ⟨inner, hinner, hinside⟩ := Option.bind_eq_some_iff.mp htable
    cases upper with
    | object upper =>
      rw [List.cons_append, hides_cons_iff]
      rintro ⟨inner', hinner', hhides⟩
      cases hinner.symm.trans hinner'
      exact ih hinside hhides
    | null | bool | number | string | array | unreadable => cases hinner

end Json

namespace SettingsSource

section
variable {sources : List SettingsSource}

/-- The source at one place is laid over the source at another. -/
def Later (sources : List SettingsSource) (upper lower : Fin sources.length) : Prop :=
  sources[lower].priority < sources[upper].priority ∨
    (sources[lower].priority = sources[upper].priority ∧ lower < upper)

private theorem not_later_self (i : Fin sources.length) : ¬Later sources i i := by
  rintro (h | ⟨-, h⟩)
  · exact UInt8.lt_irrefl _ h
  · exact lt_irrefl _ h

private theorem not_later_of_before {i j : Fin sources.length} (h : Later sources i j) :
    ¬Later sources j i := by
  rcases h with h | ⟨heq, h⟩
  · rintro (h' | ⟨heq', -⟩)
    · exact UInt8.lt_asymm h h'
    · exact UInt8.lt_irrefl _ (heq' ▸ h)
  · rintro (h' | ⟨-, h'⟩)
    · exact UInt8.lt_irrefl _ (heq ▸ h')
    · exact lt_asymm h h'

private theorem exists_placed (sources : List SettingsSource) :
    ∃ placed : List (SettingsSource × Nat), placed.map (·.1) = ordered sources ∧
      (∀ s i, (s, i) ∈ placed ↔ sources[i]? = some s) ∧
      placed.Pairwise fun a b =>
        a.1.priority < b.1.priority ∨ (a.1.priority = b.1.priority ∧ a.2 < b.2) := by
  let le : SettingsSource → SettingsSource → Bool := fun a b => a.priority ≤ b.priority
  -- sources are sorted along with their places, which decide between equal priorities
  let placed := sources.zipIdx.mergeSort (List.zipIdxLE le)
  have hperm : placed.Perm sources.zipIdx := List.mergeSort_perm _ _
  have hle : placed.Pairwise fun a b => List.zipIdxLE le a b = true :=
    List.pairwise_mergeSort (List.zipIdxLE_trans priority_trans)
      (List.zipIdxLE_total priority_total) _
  have hplaces : (placed.map (·.2)).Nodup := by
    rw [(hperm.map (·.2)).nodup_iff, List.zipIdx_map_snd]
    exact List.nodup_range'
  refine ⟨placed, List.mergeSort_zipIdx, ?_, ?_⟩
  · intro s i
    rw [hperm.mem_iff, List.mk_mem_zipIdx_iff_getElem?]
  · refine hle.imp₂ ?_ (List.pairwise_map.mp hplaces)
    rintro ⟨a, i⟩ ⟨b, j⟩ hab hij
    simp only [List.zipIdxLE, le, decide_eq_true_eq] at hab
    by_cases hba : b.priority ≤ a.priority
    · -- one priority: the places differ and are in their order
      rw [if_pos hba] at hab
      by_cases hab' : a.priority ≤ b.priority
      · rw [if_pos hab'] at hab
        exact .inr ⟨UInt8.le_antisymm hab' hba, lt_of_le_of_ne (of_decide_eq_true hab) hij⟩
      · rw [if_neg hab'] at hab
        exact absurd hab Bool.false_ne_true
    · exact .inl (UInt8.not_le.mp hba)

/-- What is asked of some source and of all that are laid over it, said of the places at which the
sources were added. -/
theorem exists_ordered_iff {P Q : SettingsSource → Prop} :
    (∃ front s back, ordered sources = front ++ s :: back ∧ P s ∧ ∀ t ∈ back, Q t) ↔
      ∃ i : Fin sources.length, P sources[i] ∧ ∀ j, Later sources j i → Q sources[j] := by
  obtain ⟨placed, hplaced, hmem, hplaces⟩ := exists_placed sources
  have hget (i : Fin sources.length) : (sources[i], i.val) ∈ placed := (hmem _ _).mpr (by simp)
  constructor
  · rintro ⟨front, s, back, hordered, hs, hback⟩
    rw [hordered, List.map_eq_append_iff] at hplaced
    obtain ⟨front', rest, rfl, -, hrest⟩ := hplaced
    obtain ⟨⟨s', i⟩, back', rfl, rfl, rfl⟩ := List.map_eq_cons_iff.mp hrest
    obtain ⟨hi, rfl⟩ := List.getElem?_eq_some_iff.mp ((hmem s' i).mp (by simp))
    refine ⟨⟨i, hi⟩, hs, ?_⟩
    intro j hj
    rcases List.mem_append.mp (hget j) with hfront | hrest
    · -- what comes in front is not laid over the source
      have hbefore := (List.pairwise_append.mp hplaces).2.2 _ hfront _ List.mem_cons_self
      exact absurd hj (not_later_of_before hbefore)
    · rcases List.mem_cons.mp hrest with hsame | hafter
      · have hplace : j = ⟨i, hi⟩ := Fin.ext (Prod.mk.inj hsame).2
        exact absurd hj (hplace ▸ not_later_self j)
      · exact hback _ (List.mem_map.mpr ⟨_, hafter, rfl⟩)
  · rintro ⟨i, hP, hQ⟩
    obtain ⟨front, back, rfl⟩ := List.append_of_mem (hget i)
    refine ⟨front.map (·.1), sources[i], back.map (·.1), by simp [← hplaced], hP, ?_⟩
    intro t ht
    obtain ⟨⟨t, j⟩, hj, rfl⟩ := List.mem_map.mp ht
    obtain ⟨hj', rfl⟩ := List.getElem?_eq_some_iff.mp ((hmem t j).mp (by simp [hj]))
    have hafter := List.rel_of_pairwise_cons (List.pairwise_append.mp hplaces).2.1 hj
    exact hQ ⟨j, hj'⟩ hafter

end

open Json

variable {path : List String} {v : Json} {ms : List (String × Json)}

/-- One table laid over another: a value at the end of a path is the upper one's, or the lower
one's if it is not hidden. -/
theorem at?_mergeMembers (h : DistinctKeys ms) (hv : ¬v.IsTable) (table : List (String × Json)) :
    (object (mergeMembers table ms)).at? path = some v ↔
      (object ms).at? path = some v ∨
        ((object table).at? path = some v ∧ ¬(object ms).Hides path) := by
  induction path generalizing table ms with
  | nil =>
    -- both are tables
    have hne (ms : List (String × Json)) : (object ms).at? [] ≠ some v := by
      rintro heq
      cases heq
      exact hv isTable_object
    simp [hne]
  | cons key path ih =>
    rw [at?_cons_object, lookup_mergeMembers h.keys, at?_cons_object, at?_cons_object,
      hides_cons_iff]
    cases hupper : ms.lookup key with
    | none => simp [overlay]
    | some upper =>
      by_cases hshape : upper.IsTable
      · obtain ⟨incoming, rfl⟩ := hshape
        by_cases hlower : ∃ existing, table.lookup key = some (.object existing)
        · obtain ⟨existing, hlower⟩ := hlower
          rw [hlower]
          simpa [overlay] using ih (h.inner hupper) existing
        · -- what lies below is no table, so it is replaced
          rw [overlay_table incoming (not_exists.mp hlower)]
          simp only [Option.bind_some, Option.some.injEq, exists_eq_left', iff_self_or, and_imp]
          intro hbelow hhides
          obtain ⟨lower, hlookup, hat⟩ := Option.bind_eq_some_iff.mp hbelow
          refine absurd (hides_of_at?_of_not_isTable ?_ hat (object incoming)) hhides
          rintro ⟨existing, rfl⟩
          exact hlower ⟨existing, hlookup⟩
      · rw [overlay_scalar _ fun ms hms => hshape ⟨ms, hms⟩]
        simp [hides_of_not_isTable hshape]

/-- The source gives a value at the end of a path. -/
def Gives (s : SettingsSource) (path : List String) (v : Json) : Prop :=
  ∃ values, s.load = .ok values ∧ (object values).at? path = some v

/-- The source hides what others give at the end of a path. -/
def Hides (s : SettingsSource) (path : List String) : Prop :=
  ∃ values, s.load = .ok values ∧ (object values).Hides path

/-- Of layers from the lowest to the topmost, one gives the value and none above it hides it. -/
def Resolves (path : List String) (v : Json) : List SettingsSource → Prop
  | [] => False
  | s :: above => (s.Gives path v ∧ ∀ t ∈ above, ¬t.Hides path) ∨ Resolves path v above

variable {layers below above sources : List SettingsSource}

theorem resolves_iff : Resolves path v layers ↔
    ∃ front s back, layers = front ++ s :: back ∧ s.Gives path v ∧ ∀ t ∈ back, ¬t.Hides path := by
  induction layers with
  | nil => simp [Resolves]
  | cons s layers ih =>
    rw [Resolves, ih]
    constructor
    · rintro (⟨hs, hlayers⟩ | ⟨front, t, back, rfl, ht, hback⟩)
      · exact ⟨[], s, layers, rfl, hs, hlayers⟩
      · exact ⟨s :: front, t, back, rfl, ht, hback⟩
    · rintro ⟨front, t, back, heq, ht, hback⟩
      rcases List.cons_eq_append_iff.mp heq with ⟨rfl, hsplit⟩ | ⟨front, rfl, hsplit⟩
      · cases hsplit
        exact .inl ⟨ht, hback⟩
      · exact .inr ⟨front, t, back, hsplit, ht, hback⟩

theorem resolves_append : Resolves path v (below ++ above) ↔
    (Resolves path v below ∧ ∀ t ∈ above, ¬t.Hides path) ∨ Resolves path v above := by
  induction below with
  | nil => simp [Resolves]
  | cons s below ih =>
    rw [List.cons_append, Resolves, ih, Resolves, List.forall_mem_append]
    tauto

/-- A layer that neither gives nor hides anything at the end of the path makes no difference. -/
theorem resolves_insert {s : SettingsSource} (hgives : ¬s.Gives path v) (hhides : ¬s.Hides path) :
    Resolves path v (below ++ s :: above) ↔ Resolves path v (below ++ above) := by
  rw [resolves_append, resolves_append, Resolves, List.forall_mem_cons]
  tauto

/-- Layers that can be asked are merged, and a value that is no table is then found where a layer
or, below them all, the table has it unhidden. -/
theorem mergeOver_result (hload : ∀ s ∈ layers, s.LoadsTable) (table : List (String × Json)) :
    ∃ result, (mergeOver table layers).result = .ok result ∧ ∀ path v, ¬v.IsTable →
      ((object result).at? path = some v ↔
        ((object table).at? path = some v ∧ ∀ s ∈ layers, ¬s.Hides path) ∨
          Resolves path v layers) := by
  induction layers generalizing table with
  | nil => exact ⟨table, rfl, by simp [Resolves]⟩
  | cons s layers ih =>
    obtain ⟨⟨values, hvalues, hdistinct⟩, hload⟩ := List.forall_mem_cons.mp hload
    obtain ⟨result, hresult, hat⟩ := ih hload (mergeMembers table values)
    have hgives (path : List String) (v : Json) :
        s.Gives path v ↔ (object values).at? path = some v := by
      simp [Gives, hvalues]
    have hhides (path : List String) : s.Hides path ↔ (object values).Hides path := by
      simp [Hides, hvalues]
    refine ⟨result, by rw [mergeOver, hvalues]; exact hresult, ?_⟩
    intro path v hv
    rw [hat path v hv, at?_mergeMembers hdistinct hv, Resolves, List.forall_mem_cons, hgives,
      hhides]
    tauto

/-- All sources together have the value at the end of the path. -/
def Holds (sources : List SettingsSource) (path : List String) (v : Json) : Prop :=
  ∃ table, (merged sources).result = .ok table ∧ (object table).at? path = some v

theorem holds_iff_resolves (hload : ∀ s ∈ sources, s.LoadsTable) (hv : ¬v.IsTable) :
    Holds sources path v ↔ Resolves path v (ordered sources) := by
  obtain ⟨result, hresult, hat⟩ := mergeOver_result
    (fun s hs => hload s ((ordered_perm sources).mem_iff.mp hs)) []
  have hempty : (object []).at? path ≠ some v := by
    cases path with
    | nil =>
      rintro heq
      cases heq
      exact hv isTable_object
    | cons key path => nofun
  have hholds : Holds sources path v ↔ (object result).at? path = some v := by
    constructor
    · rintro ⟨table, htable, hv⟩
      cases hresult.symm.trans htable
      exact hv
    · exact fun h => ⟨result, hresult, h⟩
  rw [hholds, hat path v hv]
  simp [hempty]

/-- Sources that can all be asked are merged. At the end of a path the merged table has exactly the
value of a source that no later source hides; a source that gives only some keys of a table leaves
all values below the others; and with pairwise different priorities the order in which sources
were added does not matter. -/
theorem merged_holds_unhidden (hload : ∀ s ∈ sources, s.LoadsTable) :
    (∃ table, (merged sources).result = .ok table) ∧
      (∀ path v, ¬v.IsTable → (Holds sources path v ↔
        ∃ i : Fin sources.length, sources[i].Gives path v ∧
          ∀ j, Later sources j i → ¬sources[j].Hides path)) ∧
      (∀ front upper back, sources = front ++ upper :: back →
        ∀ trunk ms key, upper.Gives trunk (.object ms) → ms.lookup key = none →
          ∀ rest v, ¬v.IsTable → (Holds sources (trunk ++ key :: rest) v ↔
            Holds (front ++ back) (trunk ++ key :: rest) v)) ∧
      ∀ others, sources.Perm others → (sources.map (·.priority)).Nodup →
        merged others = merged sources := by
  refine ⟨?_, ?_, ?_, ?_⟩
  · obtain ⟨result, hresult, -⟩ := mergeOver_result
      (fun s hs => hload s ((ordered_perm sources).mem_iff.mp hs)) []
    exact ⟨result, hresult⟩
  · intro path v hv
    rw [holds_iff_resolves hload hv, resolves_iff, exists_ordered_iff]
  · rintro front upper back rfl trunk ms key ⟨values, hvalues, htrunk⟩ hkey rest v hv
    have hothers : ∀ s ∈ front ++ back, s.LoadsTable := fun s hs =>
      hload s (by simp only [List.mem_append, List.mem_cons] at hs ⊢; tauto)
    obtain ⟨below, above, hbefore, hafter, -⟩ := ordered_insert front back upper
    rw [holds_iff_resolves hload hv, holds_iff_resolves hothers hv, hbefore, hafter]
    refine resolves_insert ?_ ?_
    · rintro ⟨values', hvalues', hat⟩
      cases hvalues.symm.trans hvalues'
      rw [at?_append, htrunk, Option.bind_some, at?_cons_object, hkey] at hat
      cases hat
    · rintro ⟨values', hvalues', hhides⟩
      cases hvalues.symm.trans hvalues'
      exact not_hides_append htrunk hkey hhides
  · intro others hperm hdistinct
    rw [merged, merged, ordered_of_perm hperm hdistinct]

/-- The prefix that a variable sets stands beside the standard formats, wherever the standard
values were added. -/
theorem location_prefix_beside_formats :
    let lake := environment Environment.standardStart
      [("MEDALFLOW_SYNAPSE__LOCATION_PREFIX", "abfss://lake")]
    lake.LoadsTable ∧ defaults.LoadsTable ∧
      Holds [lake, defaults] ["synapse", "location_prefix"] (.string "abfss://lake") ∧
      Holds [lake, defaults] ["synapse", "csv_file_format"] (.string "csv_file_format") ∧
      merged [defaults, lake] = merged [lake, defaults] := by
  intro lake
  have hlake : lake.LoadsTable := loadsTable_environment _ _
  have hload : ∀ s ∈ [lake, defaults], s.LoadsTable := by
    simp [hlake, loadsTable_defaults]
  have hset : lake.Gives ["synapse"] (.object [("location_prefix", .string "abfss://lake")]) :=
    ⟨_, rfl, by rfl⟩
  have hlakeTop : ∀ j, ¬Later [lake, defaults] j 0 := by
    unfold Later
    decide
  have hdefaultsTop : ∀ j, ¬Later [defaults] j 0 := by
    unfold Later
    decide
  obtain ⟨-, hholds, hbeside, horder⟩ := merged_holds_unhidden hload
  have hloadStandard : ∀ s ∈ [defaults], s.LoadsTable := by
    simp [loadsTable_defaults]
  obtain ⟨-, hstandard, -⟩ := merged_holds_unhidden hloadStandard
  refine ⟨hlake, loadsTable_defaults, ?_, ?_, ?_⟩
  · have hgives : lake.Gives ["synapse", "location_prefix"] (.string "abfss://lake") :=
      ⟨_, rfl, by rfl⟩
    exact (hholds _ _ (not_isTable_string _)).mpr
      ⟨0, hgives, fun j hj => absurd hj (hlakeTop j)⟩
  · have hgives : defaults.Gives ["synapse", "csv_file_format"] (.string "csv_file_format") :=
      ⟨_, rfl, by rfl⟩
    have hbelow := (hstandard _ _ (not_isTable_string _)).mpr
      ⟨0, hgives, fun j hj => absurd hj (hdefaultsTop j)⟩
    exact (hbeside [] lake [defaults] rfl _ _ "csv_file_format" hset rfl [] _
      (not_isTable_string _)).mpr hbelow
  · exact horder [defaults, lake] (List.Perm.swap _ _ _) (by decide)

end SettingsSource

end LakehouseSql
