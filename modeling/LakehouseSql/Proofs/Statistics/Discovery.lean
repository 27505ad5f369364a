import LakehouseSql.Proofs.Statement.Consistency
/-! # Where the columns of statistics come from

A request consults lists of columns one after the other: its own and, if columns are to be
discovered, those of the metadata and those that a provider answers. The first list that is filled
is taken. A provider that fails counts as one that answers no columns; only what is reported tells
the difference.
-/
namespace LakehouseSql
open Identifier (Conforms)

namespace Statistics

/-- The columns that the metadata of a target names. -/
def knownColumns (target : Target) : List String :=
  (target.metadata.bind (·.statsColumns)).getD []

/-- The columns that a provider answers for a target; a missing one and one that fails answer
none. -/
def answeredColumns (target : Target) (provider : Option StatsProvider) : List String :=
  (provider.bind fun ask => (ask target.object target.schema).toOption).getD []

/-- A provider has to be asked, and its lookup fails. -/
def LookupFails (target : Target) (provider : Option StatsProvider) : Prop :=
  knownColumns target = [] ∧ ∃ ask table cause, provider = some ask ∧
    ask target.object target.schema = .error (.lookup table cause)

/-- The first list that is not empty. -/
def firstFilled? (lists : List (List String)) : Option (List String) :=
  lists.find? (!·.isEmpty)

theorem firstFilled?_eq_none_iff {lists : List (List String)} :
    firstFilled? lists = none ↔ ∀ l ∈ lists, l = [] := by
  simp [firstFilled?]

section
variable {target : Target} {provider : Option StatsProvider}

private theorem discover_of_known (h : knownColumns target ≠ [])
    (provider : Option StatsProvider) :
    discover target provider = ⟨[.statsFromMetadata], knownColumns target⟩ := by
  unfold knownColumns at h ⊢
  unfold discover
  cases hcolumns : target.metadata.bind (·.statsColumns) with
  | none => simp [hcolumns] at h
  | some columns =>
    cases columns with
    | nil => simp [hcolumns] at h
    | cons c cs => rfl

private theorem discover_of_unknown (h : knownColumns target = [])
    (provider : Option StatsProvider) : discover target provider =
      provider.elim ⟨[.noStatsProvider], []⟩ (askProvider target) := by
  unfold knownColumns at h
  unfold discover
  cases hcolumns : target.metadata.bind (·.statsColumns) with
  | none => cases provider <;> rfl
  | some columns =>
    cases columns with
    | nil => cases provider <;> rfl
    | cons c cs => simp [hcolumns] at h

/-- Columns of the metadata come before those of a provider. -/
theorem discover_result :
    (discover target provider).result =
      (firstFilled? [knownColumns target, answeredColumns target provider]).getD [] := by
  by_cases hknown : knownColumns target = []
  · rw [discover_of_unknown hknown]
    cases provider with
    | none => simp [firstFilled?, hknown, answeredColumns]
    | some ask =>
      simp only [Option.elim_some, askProvider, answeredColumns, Option.bind_some]
      split <;> simp [*, firstFilled?, Except.toOption]
  · rw [discover_of_known hknown]
    simp [firstFilled?, hknown]

/-- What one event tells about a discovery. -/
structure Tells (target : Target) (provider : Option StatsProvider) (event : Event) : Prop where
  info : event.level = .info ↔ (discover target provider).result ≠ []
  warn : event.level = .warn ↔ LookupFails target provider
  debug : event.level = .debug ↔
    (discover target provider).result = [] ∧ ¬LookupFails target provider

/-- A discovery reports one event, and its level tells how the discovery went. -/
theorem discover_tells (target : Target) (provider : Option StatsProvider) :
    ∃ event, (discover target provider).events = [event] ∧ Tells target provider event := by
  by_cases hknown : knownColumns target = []
  · have hfails : LookupFails target provider ↔ ∃ ask table cause, provider = some ask ∧
        ask target.object target.schema = .error (.lookup table cause) := by
      simp [LookupFails, hknown]
    have hdiscover := discover_of_unknown hknown provider
    cases provider with
    | none =>
      refine ⟨.noStatsProvider, by rw [hdiscover]; rfl, ?_⟩
      constructor <;> simp [hdiscover, hfails, Event.level]
    | some ask =>
      simp only [Option.elim_some, askProvider] at hdiscover
      split at hdiscover
      all_goals
        rename_i hanswer
        refine ⟨_, by rw [hdiscover], ?_⟩
        constructor <;> simp [hdiscover, hfails, hanswer, Event.level]
  · have hfails : ¬LookupFails target provider := fun h => hknown h.1
    have hdiscover := discover_of_known hknown provider
    refine ⟨.statsFromMetadata, by rw [hdiscover], ?_⟩
    constructor <;> simp [hdiscover, hfails, hknown, Event.level]

end

end Statistics

namespace StatisticsRequest
open Statistics

variable {r : StatisticsRequest} {provider : Option StatsProvider}

/-- The lists of columns that are consulted, the first one first. -/
def consulted (r : StatisticsRequest) (provider : Option StatsProvider) : List (List String) :=
  r.columns ::
    if r.autoDiscover then [knownColumns r.target, answeredColumns r.target provider] else []

/-- No columns are given, and they are to be discovered. -/
def Discovers (r : StatisticsRequest) : Prop :=
  r.columns = [] ∧ r.autoDiscover = true

theorem findColumns_of_discovers (h : r.Discovers) :
    r.findColumns provider = discover r.target provider := by
  simp [findColumns, h.1, h.2]

theorem findColumns_of_not_discovers (h : ¬r.Discovers) :
    r.findColumns provider = ⟨[], r.columns⟩ := by
  have hfixed : r.columns ≠ [] ∨ r.autoDiscover = false := by
    simpa [Discovers, imp_iff_not_or] using h
  unfold findColumns
  by_cases hcolumns : r.columns = []
  · have hoff := hfixed.resolve_left (absurd hcolumns)
    simp [hcolumns, hoff]
  · simp [hcolumns]

/-- The first list that is filled is taken. -/
theorem findColumns_result :
    (r.findColumns provider).result = (firstFilled? (r.consulted provider)).getD [] := by
  unfold consulted
  by_cases hcolumns : r.columns = []
  · by_cases hwanted : r.autoDiscover = true
    · rw [findColumns_of_discovers ⟨hcolumns, hwanted⟩, discover_result]
      simp [firstFilled?, hcolumns, hwanted]
    · rw [findColumns_of_not_discovers fun h => hwanted h.2]
      simp [firstFilled?, hcolumns, hwanted]
  · rw [findColumns_of_not_discovers fun h => hcolumns h.1]
    simp [firstFilled?, hcolumns]

theorem resolve_of_exclusive (h : r.Exclusive) :
    r.resolve provider = ⟨(r.findColumns provider).events,
      r.withFoundColumns (r.findColumns provider).result⟩ := by
  have hvalid : r.validate = .ok () := validate_eq_ok_iff.mpr h
  simp [resolve, hvalid]

theorem Reached.exclusive (h : r.Reached) : r.Exclusive := by
  have hexclusive := h.consistent.exclusive
  unfold Exclusive
  cases hsample : r.samplePercent with
  | none => exact .inl rfl
  | some percent => exact .inr (by simpa [hsample] using hexclusive)

/-- What becomes of a request, by the first list that is filled. -/
structure Settles (r : StatisticsRequest) (provider : Option StatsProvider)
    (result : Checked CreateStatistics) : Prop where
  missing : ∀ name, result = .error (.noStatisticsColumns name) ↔
    (∀ l ∈ r.consulted provider, l = []) ∧ name = r.target.schema ++ "." ++ r.target.object
  invalid : (∃ e, result = .error (.identifier "columns" e)) ↔
    ∃ columns, firstFilled? (r.consulted provider) = some columns ∧
      ∃ c ∈ columns, ¬Conforms .column c
  found : ∀ s, result = .ok s ↔
    ∃ columns, firstFilled? (r.consulted provider) = some columns ∧
      (∀ c ∈ columns, Conforms .column c) ∧
      s = ⟨r.target, columns, r.samplePercent, r.fullScan, r.name, r.autoDiscover⟩

theorem resolve_settles (h : r.Exclusive) :
    r.Settles provider (r.resolve provider).result := by
  rw [resolve_of_exclusive h, findColumns_result]
  cases hfirst : firstFilled? (r.consulted provider) with
  | none =>
    have hempty := iff_true_intro (firstFilled?_eq_none_iff.mp hfirst)
    have hresult : r.withFoundColumns [] = .error (.noStatisticsColumns r.target.fullName) := rfl
    constructor <;> simp [hfirst, hresult, hempty, Target.fullName, eq_comm]
  | some columns =>
    have hfilled : columns ≠ [] := by simpa using List.find?_some hfirst
    have hlisted : ¬∀ l ∈ r.consulted provider, l = [] := by
      rw [← firstFilled?_eq_none_iff, hfirst]
      simp
    by_cases hvalid : ∀ c ∈ columns, Conforms .column c
    · have hchecked : Checked.columns "columns" columns = .ok () :=
        Checked.columns_eq_ok_iff.mpr hvalid
      have hresult : r.withFoundColumns columns = .ok ⟨r.target, columns, r.samplePercent,
          r.fullScan, r.name, r.autoDiscover⟩ := by
        simp only [withFoundColumns, hchecked, List.isEmpty_eq_false_iff.mpr hfilled]
        rfl
      have hall := iff_true_intro hvalid
      constructor <;> simp [hfirst, hresult, hlisted, hall, eq_comm]
    · have hbad : ∃ c ∈ columns, ¬Conforms .column c := by simpa using hvalid
      obtain ⟨e, he⟩ : ∃ e, Checked.columns "columns" columns = .error (.identifier "columns" e) :=
        Checked.columns_eq_error hvalid
      have hresult : r.withFoundColumns columns = .error (.identifier "columns" e) := by
        simp only [withFoundColumns, he, List.isEmpty_eq_false_iff.mpr hfilled]
        rfl
      have hsome := iff_true_intro hbad
      constructor <;> simp [hfirst, hresult, hlisted, hvalid, hsome]

/-- What a resolution reports: nothing unless columns are discovered, and then one event that tells
whether any were found and, if none were, whether a lookup failed. -/
structure Reports (r : StatisticsRequest) (provider : Option StatsProvider)
    (events : List Event) : Prop where
  silent : ¬r.Discovers → events = []
  single : r.Discovers → ∃ event, events = [event] ∧
    (event.level = .info ↔ ∃ l ∈ r.consulted provider, l ≠ []) ∧
    (event.level = .warn ↔ LookupFails r.target provider) ∧
    (event.level = .debug ↔
      (∀ l ∈ r.consulted provider, l = []) ∧ ¬LookupFails r.target provider)

theorem resolve_reports (h : r.Exclusive) : r.Reports provider (r.resolve provider).events := by
  rw [resolve_of_exclusive h]
  constructor
  · intro hdiscovers
    rw [findColumns_of_not_discovers hdiscovers]
  · intro hdiscovers
    have hresult : (r.findColumns provider).result = _ := findColumns_result
    rw [findColumns_of_discovers hdiscovers] at hresult ⊢
    obtain ⟨event, hevents, htells⟩ := discover_tells r.target provider
    have hnone : (discover r.target provider).result = [] ↔
        ∀ l ∈ r.consulted provider, l = [] := by
      rw [hresult, ← firstFilled?_eq_none_iff]
      cases hfirst : firstFilled? (r.consulted provider) with
      | none => simp
      | some columns =>
        have hfilled : columns ≠ [] := by simpa using List.find?_some hfirst
        simp [hfilled]
    have hsome : (discover r.target provider).result ≠ [] ↔
        ∃ l ∈ r.consulted provider, l ≠ [] := by
      rw [ne_eq, hnone]
      push Not
      rfl
    exact ⟨event, hevents, htells.info.trans hsome, htells.warn,
      htells.debug.trans (and_congr_left' hnone)⟩

/-- A list in front of the provider's is filled, or the provider is not to be asked. -/
def AheadOfProvider (r : StatisticsRequest) : Prop :=
  ¬r.Discovers ∨ knownColumns r.target ≠ []

theorem resolve_of_aheadOfProvider (h : r.Exclusive) (hahead : r.AheadOfProvider)
    (provider other : Option StatsProvider) : r.resolve provider = r.resolve other := by
  have hfind : r.findColumns provider = r.findColumns other := by
    by_cases hdiscovers : r.Discovers
    · have hknown := hahead.resolve_left (not_not_intro hdiscovers)
      rw [findColumns_of_discovers hdiscovers, findColumns_of_discovers hdiscovers,
        discover_of_known hknown, discover_of_known hknown]
    · rw [findColumns_of_not_discovers hdiscovers, findColumns_of_not_discovers hdiscovers]
  rw [resolve_of_exclusive h, resolve_of_exclusive h, hfind]

/-- The result depends on what a provider answers and not on how it comes to answer nothing. -/
theorem resolve_result_congr (h : r.Exclusive) {provider other : Option StatsProvider}
    (hanswer : answeredColumns r.target provider = answeredColumns r.target other) :
    (r.resolve provider).result = (r.resolve other).result := by
  have hconsulted : r.consulted provider = r.consulted other := by
    rw [consulted, consulted, hanswer]
  rw [resolve_of_exclusive h, resolve_of_exclusive h]
  simp only [findColumns_result, hconsulted]

/-- However a request was made, its columns are those of the first list that is filled: its own
list, then, if columns are to be discovered, that of the metadata and that of the provider. With
none there are no statistics, and with a name in it that no column can have, the columns are
refused. A provider that fails is one that answers nothing, and behind a list that is filled no
provider makes a difference. One event tells how a discovery went. -/
theorem first_filled_list_is_taken (h : r.Reached) :
    (∀ provider, r.Settles provider (r.resolve provider).result) ∧
    (∀ ask e, ask r.target.object r.target.schema = .error e →
      (r.resolve (some ask)).result = (r.resolve (some fun _ _ => .ok [])).result) ∧
    (r.AheadOfProvider → ∀ provider other, r.resolve provider = r.resolve other) ∧
    ∀ provider, r.Reports provider (r.resolve provider).events := by
  have hexclusive := h.exclusive
  refine ⟨fun _ => resolve_settles hexclusive, ?_, resolve_of_aheadOfProvider hexclusive,
    fun _ => resolve_reports hexclusive⟩
  intro ask e hfailed
  apply resolve_result_congr hexclusive
  simp [answeredColumns, hfailed, Except.toOption]

/-- The metadata names no columns, and the lookup for the target fails. -/
theorem failed_lookup_finds_nothing :
    let target : Target := ⟨"silver", "orders", none, none, some ⟨some [], none, none⟩⟩
    let r := create target
    let ask : StatsProvider := fun table _ => .error (.lookup table "timeout")
    r.Reached ∧ (r.resolve (some ask)).result = .error (.noStatisticsColumns "silver.orders") ∧
      ∃ event, (r.resolve (some ask)).events = [event] ∧ event.level = .warn := by
  intro target r ask
  have htarget : target.Reached :=
    ⟨⟨"silver", "orders", none, none, none⟩, [.metadata ⟨some [], none, none⟩],
      ⟨"silver", "orders", rfl⟩, rfl⟩
  have hr : r.Reached := Lifecycle.reached_of_made ⟨target, htarget, rfl⟩
  have hempty : ∀ l ∈ r.consulted (some ask), l = [] := by decide +kernel
  obtain ⟨hsettles, -, -, hreports⟩ := first_filled_list_is_taken hr
  have hdiscovers : r.Discovers := ⟨rfl, rfl⟩
  obtain ⟨event, hevents, -, hwarn, -⟩ := (hreports (some ask)).single hdiscovers
  have hfails : LookupFails r.target (some ask) := ⟨rfl, ask, "orders", "timeout", rfl, rfl⟩
  exact ⟨hr, ((hsettles (some ask)).missing _).mpr ⟨hempty, by decide +kernel⟩,
    event, hevents, hwarn.mpr hfails⟩

end StatisticsRequest

end LakehouseSql
