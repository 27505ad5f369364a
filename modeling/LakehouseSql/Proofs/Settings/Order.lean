import Mathlib.Data.List.Sort
import LakehouseSql.Settings.Source
/-! # The order of sources

Sources are taken by ascending priority, and those of one priority in the order in which they were
added. A list of sources in the right order that keeps those of each priority as they were is the
only one.
-/
namespace LakehouseSql.SettingsSource

variable {sources : List SettingsSource}

theorem priority_trans (a b c : SettingsSource)
    (hab : decide (a.priority ≤ b.priority) = true)
    (hbc : decide (b.priority ≤ c.priority) = true) : decide (a.priority ≤ c.priority) = true :=
  decide_eq_true (UInt8.le_trans (of_decide_eq_true hab) (of_decide_eq_true hbc))

theorem priority_total (a b : SettingsSource) :
    (decide (a.priority ≤ b.priority) || decide (b.priority ≤ a.priority)) = true := by
  simpa using UInt8.le_total a.priority b.priority

theorem ordered_perm (sources : List SettingsSource) : (ordered sources).Perm sources :=
  List.mergeSort_perm sources _

theorem ordered_sorted (sources : List SettingsSource) :
    (ordered sources).Pairwise fun a b => a.priority ≤ b.priority := by
  have h := List.pairwise_mergeSort priority_trans priority_total sources
  exact h.imp of_decide_eq_true

theorem ordered_of_perm {others : List SettingsSource} (hperm : sources.Perm others)
    (hdistinct : (sources.map (·.priority)).Nodup) : ordered sources = ordered others := by
  have hall : (ordered sources).Perm (ordered others) :=
    (ordered_perm sources).trans (hperm.trans (ordered_perm others).symm)
  refine List.Perm.eq_of_pairwise ?_ (ordered_sorted sources) (ordered_sorted others) hall
  intro a b ha hb hab hba
  have ha' : a ∈ sources := (ordered_perm sources).mem_iff.mp ha
  have hb' : b ∈ sources := hperm.mem_iff.mpr ((ordered_perm others).mem_iff.mp hb)
  exact List.inj_on_of_nodup_map hdistinct ha' hb' (UInt8.le_antisymm hab hba)

theorem filter_ordered (sources : List SettingsSource) (priority : UInt8) :
    (ordered sources).filter (·.priority == priority) =
      sources.filter (·.priority == priority) := by
  have hsorted : (sources.filter (·.priority == priority)).Pairwise
      fun a b => decide (a.priority ≤ b.priority) = true := by
    refine List.pairwise_filter.mpr (List.pairwise_of_forall_mem_list ?_)
    intro a _ b _ ha hb
    rw [beq_iff_eq] at ha hb
    exact decide_eq_true (ha.trans hb.symm ▸ UInt8.le_refl _)
  have hsub := List.sublist_mergeSort priority_trans priority_total hsorted List.filter_sublist
  have hsub' := hsub.filter (·.priority == priority)
  rw [List.filter_filter] at hsub'
  simp only [Bool.and_self] at hsub'
  refine (hsub'.eq_of_length ?_).symm
  exact ((ordered_perm sources).filter _).length_eq.symm

private theorem priority_le_of_filter_eq {a b : SettingsSource} {as bs : List SettingsSource}
    (hsorted : (a :: as).Pairwise fun a b => a.priority ≤ b.priority)
    (hfilter : (a :: as).filter (·.priority == b.priority) =
      (b :: bs).filter (·.priority == b.priority)) : a.priority ≤ b.priority := by
  have hb : b ∈ (a :: as).filter (·.priority == b.priority) := by
    rw [hfilter]
    simp
  rcases List.mem_cons.mp (List.mem_of_mem_filter hb) with rfl | hb
  · exact UInt8.le_refl _
  · exact List.rel_of_pairwise_cons hsorted hb

private theorem eq_of_sorted {as bs : List SettingsSource}
    (has : as.Pairwise fun a b => a.priority ≤ b.priority)
    (hbs : bs.Pairwise fun a b => a.priority ≤ b.priority)
    (hfilter : ∀ priority, as.filter (·.priority == priority) =
      bs.filter (·.priority == priority)) : as = bs := by
  induction as generalizing bs with
  | nil =>
    cases bs with
    | nil => rfl
    | cons b bs => simpa using hfilter b.priority
  | cons a as ih =>
    cases bs with
    | nil => simpa using hfilter a.priority
    | cons b bs =>
      have hpriority : a.priority = b.priority :=
        UInt8.le_antisymm (priority_le_of_filter_eq has (hfilter b.priority))
          (priority_le_of_filter_eq hbs (hfilter a.priority).symm)
      have hhead := hfilter a.priority
      rw [List.filter_cons_of_pos (by simp), List.filter_cons_of_pos (by simp [hpriority])] at hhead
      obtain ⟨rfl, -⟩ := List.cons.inj hhead
      rw [ih has.of_cons hbs.of_cons]
      intro priority
      have h := hfilter priority
      rw [List.filter_cons, List.filter_cons] at h
      split at h
      · exact (List.cons.inj h).2
      · exact h

/-- Sources in ascending order, those of each priority as they were added, are in the order that
is taken. -/
theorem eq_ordered {others : List SettingsSource}
    (hsorted : others.Pairwise fun a b => a.priority ≤ b.priority)
    (hfilter : ∀ priority, others.filter (·.priority == priority) =
      sources.filter (·.priority == priority)) : others = ordered sources :=
  eq_of_sorted hsorted (ordered_sorted sources) fun priority =>
    (hfilter priority).trans (filter_ordered sources priority).symm

private theorem priority_trichotomy (p q : UInt8) : p < q ∨ p = q ∨ q < p := by
  by_cases hpq : p < q
  · exact .inl hpq
  · by_cases hqp : q < p
    · exact .inr (.inr hqp)
    · exact .inr (.inl (UInt8.le_antisymm (UInt8.not_lt.mp hqp) (UInt8.not_lt.mp hpq)))

private theorem filter_picked (sources : List SettingsSource) (pick : UInt8 → Bool)
    (priority : UInt8) :
    (sources.filter fun s => pick s.priority).filter (·.priority == priority) =
      if pick priority then sources.filter (·.priority == priority) else [] := by
  rw [List.filter_filter]
  by_cases hpick : pick priority = true
  · rw [if_pos hpick]
    refine List.filter_congr fun s _ => ?_
    by_cases hs : s.priority = priority
    · simp [hs, hpick]
    · simp [hs]
  · rw [if_neg hpick, List.filter_eq_nil_iff]
    intro s _ hs
    rw [Bool.and_eq_true, beq_iff_eq] at hs
    exact hpick (hs.1 ▸ hs.2)

/-- One more source comes between others and leaves their order as it is. -/
theorem ordered_insert (front back : List SettingsSource) (s : SettingsSource) :
    ∃ below above, ordered (front ++ back) = below ++ above ∧
      ordered (front ++ s :: back) = below ++ s :: above ∧
      ∀ t ∈ below, t.priority ≤ s.priority := by
  let below := ordered (front.filter (fun t => decide (t.priority ≤ s.priority)) ++
    back.filter fun t => decide (t.priority < s.priority))
  let above := ordered (front.filter (fun t => decide (s.priority < t.priority)) ++
    back.filter fun t => decide (s.priority ≤ t.priority))
  have hbelow : ∀ t ∈ below, t.priority ≤ s.priority := by
    intro t ht
    rw [(ordered_perm _).mem_iff, List.mem_append, List.mem_filter, List.mem_filter] at ht
    rcases ht with ⟨-, ht⟩ | ⟨-, ht⟩
    · exact of_decide_eq_true ht
    · exact UInt8.le_of_lt (of_decide_eq_true ht)
  have habove : ∀ t ∈ above, s.priority ≤ t.priority := by
    intro t ht
    rw [(ordered_perm _).mem_iff, List.mem_append, List.mem_filter, List.mem_filter] at ht
    rcases ht with ⟨-, ht⟩ | ⟨-, ht⟩
    · exact UInt8.le_of_lt (of_decide_eq_true ht)
    · exact of_decide_eq_true ht
  have hfilter (priority : UInt8) :
      below.filter (·.priority == priority) =
        (if priority ≤ s.priority then front.filter (·.priority == priority) else []) ++
          (if priority < s.priority then back.filter (·.priority == priority) else []) ∧
      above.filter (·.priority == priority) =
        (if s.priority < priority then front.filter (·.priority == priority) else []) ++
          (if s.priority ≤ priority then back.filter (·.priority == priority) else []) := by
    constructor
    · rw [filter_ordered, List.filter_append,
        filter_picked front (fun p => decide (p ≤ s.priority)),
        filter_picked back (fun p => decide (p < s.priority))]
      simp only [decide_eq_true_eq]
    · rw [filter_ordered, List.filter_append,
        filter_picked front (fun p => decide (s.priority < p)),
        filter_picked back (fun p => decide (s.priority ≤ p))]
      simp only [decide_eq_true_eq]
  refine ⟨below, above, (eq_ordered ?_ ?_).symm, (eq_ordered ?_ ?_).symm, hbelow⟩
  · exact List.pairwise_append.mpr ⟨ordered_sorted _, ordered_sorted _,
      fun a ha b hb => UInt8.le_trans (hbelow a ha) (habove b hb)⟩
  · intro priority
    rw [List.filter_append, (hfilter priority).1, (hfilter priority).2, List.filter_append]
    rcases priority_trichotomy priority s.priority with h | rfl | h
    · simp [h, UInt8.le_of_lt h, UInt8.not_le.mpr h, UInt8.lt_asymm h]
    · simp [UInt8.lt_irrefl]
    · simp [h, UInt8.le_of_lt h, UInt8.not_le.mpr h, UInt8.lt_asymm h]
  · refine List.pairwise_append.mpr ⟨ordered_sorted _, ?_, ?_⟩
    · exact List.pairwise_cons.mpr ⟨habove, ordered_sorted _⟩
    · intro a ha b hb
      rcases List.mem_cons.mp hb with rfl | hb
      · exact hbelow a ha
      · exact UInt8.le_trans (hbelow a ha) (habove b hb)
  · intro priority
    rw [List.filter_append, List.filter_cons, (hfilter priority).1, (hfilter priority).2,
      List.filter_append, List.filter_cons]
    rcases priority_trichotomy priority s.priority with h | rfl | h
    · simp [h, UInt8.le_of_lt h, UInt8.not_le.mpr h, UInt8.lt_asymm h, (UInt8.ne_of_lt h).symm]
    · simp [UInt8.lt_irrefl]
    · simp [h, UInt8.le_of_lt h, UInt8.not_le.mpr h, UInt8.lt_asymm h, UInt8.ne_of_lt h]

end LakehouseSql.SettingsSource
