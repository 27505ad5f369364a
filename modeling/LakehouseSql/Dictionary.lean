/-! # Dictionaries

Maps from texts that keep the order in which their keys first came. A later value for a key
replaces the earlier one in its place, so no key comes twice.
-/
namespace LakehouseSql

structure Dictionary (α : Type) where
  entries : List (String × α)
  distinct : (entries.map (·.1)).Nodup
  deriving DecidableEq

namespace Dictionary

variable {α : Type}

def empty : Dictionary α := ⟨[], .nil⟩

instance : Inhabited (Dictionary α) := ⟨empty⟩

/-- Set the value of a key in a list of entries. -/
def insertEntry (key : String) (value : α) : List (String × α) → List (String × α)
  | [] => [(key, value)]
  | (k, v) :: entries =>
    if k = key then (k, value) :: entries else (k, v) :: insertEntry key value entries

theorem insertEntry_eq_append (key : String) (value : α) (entries : List (String × α))
    (h : key ∉ entries.map (·.1)) :
    insertEntry key value entries = entries ++ [(key, value)] := by
  induction entries with
  | nil => rfl
  | cons entry entries ih =>
    simp only [List.map_cons, List.mem_cons, not_or] at h
    simp only [insertEntry, Ne.symm h.1, if_false, ih h.2, List.cons_append]

theorem keys_insertEntry_of_mem (key : String) (value : α) (entries : List (String × α))
    (h : key ∈ entries.map (·.1)) :
    (insertEntry key value entries).map (·.1) = entries.map (·.1) := by
  induction entries with
  | nil => simp at h
  | cons entry entries ih =>
    by_cases hk : entry.1 = key
    · simp only [insertEntry, hk, if_true, List.map_cons]
    · have ht : key ∈ entries.map (·.1) := by simpa [Ne.symm hk] using h
      simp only [insertEntry, hk, if_false, List.map_cons, ih ht]

theorem distinct_insertEntry (key : String) (value : α) (entries : List (String × α))
    (h : (entries.map (·.1)).Nodup) :
    ((insertEntry key value entries).map (·.1)).Nodup := by
  by_cases hk : key ∈ entries.map (·.1)
  · rw [keys_insertEntry_of_mem key value entries hk]
    exact h
  · rw [insertEntry_eq_append key value entries hk, List.map_append]
    refine List.nodup_append.mpr ⟨h, by simp, ?_⟩
    intro a ha b hb
    simp only [List.map_cons, List.map_nil, List.mem_singleton] at hb
    rintro rfl
    exact hk (hb ▸ ha)

def insert (d : Dictionary α) (key : String) (value : α) : Dictionary α :=
  ⟨insertEntry key value d.entries, distinct_insertEntry key value d.entries d.distinct⟩

def ofList (entries : List (String × α)) : Dictionary α :=
  entries.foldl (fun d (key, value) => d.insert key value) empty

def get? (d : Dictionary α) (key : String) : Option α :=
  d.entries.lookup key

def keys (d : Dictionary α) : List String :=
  d.entries.map (·.1)

def values (d : Dictionary α) : List α :=
  d.entries.map (·.2)

def contains (d : Dictionary α) (key : String) : Bool :=
  (d.get? key).isSome

def isEmpty (d : Dictionary α) : Bool :=
  d.entries.isEmpty

def size (d : Dictionary α) : Nat :=
  d.entries.length

/-- The same entries in the order of their keys. -/
def sortedByKey (d : Dictionary α) : Dictionary α :=
  ⟨d.entries.mergeSort fun a b => a.1 ≤ b.1,
    ((List.mergeSort_perm d.entries _).map (·.1)).nodup_iff.mpr d.distinct⟩

end Dictionary

end LakehouseSql
