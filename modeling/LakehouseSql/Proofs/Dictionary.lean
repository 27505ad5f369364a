import Mathlib.Data.List.Forall2
import LakehouseSql.Dictionary
/-! # Dictionaries and their entries

The keys after an insertion, what is found under a key, what is made of the entries in their order,
and that a dictionary is made anew by inserting its entries.
-/
namespace LakehouseSql.Dictionary

section
variable {α : Type*}

theorem lookup_cons (key k : String) (value : α) (entries : List (String × α)) :
    ((k, value) :: entries).lookup key = if key = k then some value else entries.lookup key := by
  by_cases hk : key = k
  · rw [if_pos hk, hk, List.lookup_cons_self]
  · rw [if_neg hk, List.lookup_cons, beq_eq_false_iff_ne.mpr hk]

theorem lookup_eq_none_iff {key : String} {entries : List (String × α)} :
    entries.lookup key = none ↔ key ∉ entries.map (·.1) := by
  induction entries with
  | nil => simp
  | cons entry entries ih =>
    rw [lookup_cons, List.map_cons, List.mem_cons, not_or, ← ih]
    by_cases hk : key = entry.1
    · simp [hk]
    · simp [hk]

theorem lookup_eq_some_iff_mem {entries : List (String × α)} (h : (entries.map (·.1)).Nodup)
    {key : String} {value : α} : entries.lookup key = some value ↔ (key, value) ∈ entries := by
  induction entries with
  | nil => simp
  | cons entry entries ih =>
    obtain ⟨k, v⟩ := entry
    rw [List.map_cons, List.nodup_cons] at h
    by_cases hk : key = k
    · subst hk
      have habsent : (key, value) ∉ entries := fun hmem =>
        h.1 (List.mem_map.mpr ⟨_, hmem, rfl⟩)
      simp [habsent, eq_comm]
    · simp [lookup_cons, hk, ih h.2]

theorem lookup_of_perm {entries others : List (String × α)} (h : (entries.map (·.1)).Nodup)
    (hperm : entries.Perm others) (key : String) : entries.lookup key = others.lookup key := by
  have hothers : (others.map (·.1)).Nodup := (hperm.map (·.1)).nodup_iff.mp h
  ext value
  rw [lookup_eq_some_iff_mem h, lookup_eq_some_iff_mem hothers, hperm.mem_iff]

end

variable {α : Type}

@[ext] theorem ext {d e : Dictionary α} (h : d.entries = e.entries) : d = e := by
  cases d
  cases e
  simpa using h

theorem lookup_insertEntry (key k : String) (value : α) (entries : List (String × α)) :
    (insertEntry key value entries).lookup k =
      if k = key then some value else entries.lookup k := by
  induction entries with
  | nil => rw [insertEntry, lookup_cons]
  | cons entry entries ih =>
    obtain ⟨first, v⟩ := entry
    by_cases hfirst : first = key
    · rw [insertEntry, if_pos hfirst, lookup_cons, lookup_cons, hfirst]
      split <;> rfl
    · rw [insertEntry, if_neg hfirst, lookup_cons, lookup_cons, ih]
      by_cases hk : k = first
      · rw [if_pos hk, if_pos hk, if_neg (hk ▸ hfirst)]
      · rw [if_neg hk, if_neg hk]

/-- What is made of the entries, one by one, belongs to the keys in their order. -/
theorem forall₂_keys {β : Type} {d : Dictionary α} {R : String → β → Prop} {f : String × α → β}
    (h : ∀ key value, d.get? key = some value → R key (f (key, value))) :
    List.Forall₂ R d.keys (d.entries.map f) := by
  refine List.forall₂_map_left_iff.mpr (List.forall₂_map_right_iff.mpr ?_)
  exact List.forall₂_same.mpr fun entry hentry =>
    h entry.1 entry.2 ((lookup_eq_some_iff_mem d.distinct).mpr hentry)

theorem mem_keys_insert {d : Dictionary α} {key k : String} {value : α} :
    k ∈ (d.insert key value).keys ↔ k = key ∨ k ∈ d.keys := by
  simp only [keys, insert]
  by_cases hk : key ∈ d.entries.map (·.1)
  · rw [keys_insertEntry_of_mem key value d.entries hk]
    exact ⟨.inr, fun h => h.elim (fun he => he ▸ hk) id⟩
  · rw [insertEntry_eq_append key value d.entries hk]
    simp [or_comm]

private theorem foldl_insert_entries (entries : List (String × α)) (d : Dictionary α)
    (h : ((d.entries ++ entries).map (·.1)).Nodup) :
    (entries.foldl (fun d (key, value) => d.insert key value) d).entries =
      d.entries ++ entries := by
  induction entries generalizing d with
  | nil => simp
  | cons entry entries ih =>
    have hnew : entry.1 ∉ d.entries.map (·.1) := by
      rw [List.map_append, List.nodup_append] at h
      intro hmem
      exact h.2.2 _ hmem _ (by simp) rfl
    have hentries : (d.insert entry.1 entry.2).entries = d.entries ++ [entry] :=
      insertEntry_eq_append entry.1 entry.2 d.entries hnew
    rw [List.foldl_cons, ih, hentries, List.append_assoc, List.singleton_append]
    rw [hentries, List.append_assoc, List.singleton_append]
    exact h

/-- No key comes twice, so insertion keeps the entries as they are and in their order. -/
@[simp] theorem ofList_entries (d : Dictionary α) : ofList d.entries = d :=
  ext (foldl_insert_entries d.entries empty (by simpa [empty] using d.distinct))

theorem eq_empty_of_isEmpty {d : Dictionary α} (h : d.isEmpty = true) : d = empty :=
  ext (List.isEmpty_iff.mp h)

end LakehouseSql.Dictionary
