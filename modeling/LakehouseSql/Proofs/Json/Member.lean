import Mathlib.Data.List.Nodup
import LakehouseSql.Json.Field
import LakehouseSql.Proofs.Dictionary
import LakehouseSql.Proofs.Outcome
/-! # Members read into the fields of a record

Members are taken one by one, and none that the record has may come twice. A record whose fields
are read from members of their names, each on its own, does not depend on the order of the members:
every field has what its member spells, or what it had if there is no such member. In an array the
places of the fields stand for their names.
-/
namespace LakehouseSql.Json

/-- The names of those members that the record has. -/
def knownNames {α : Type} (members : RecordMembers α) (ms : List (String × Json)) : List String :=
  (ms.map (·.1)).filter fun name => (members.lookup name).isSome

section
variable {α : Type} {members : RecordMembers α} {ms : List (String × Json)} {given : List String}
  {a b : α}

private theorem takeMembers_given_eq_ok_iff : takeMembers members given a ms = .ok b ↔
    ((knownNames members ms).Nodup ∧ ∀ name ∈ knownNames members ms, name ∉ given) ∧
      ms.foldlM (fun a m => takeMember members a m.1 m.2) a = .ok b := by
  induction ms generalizing given a with
  | nil => simp [takeMembers, knownNames, pure, Except.pure]
  | cons m ms ih =>
    obtain ⟨name, j⟩ := m
    rw [takeMembers, List.foldlM_cons]
    by_cases hknown : (members.lookup name).isSome
    · have hnames : knownNames members ((name, j) :: ms) = name :: knownNames members ms :=
        List.filter_cons_of_pos hknown
      rw [hnames, List.nodup_cons, List.forall_mem_cons]
      by_cases hgiven : name ∈ given
      · simp [hgiven, hknown]
      · simp only [hgiven, false_and, if_false, bind_eq_ok_iff, ih, List.mem_cons, not_or]
        grind
    · -- What the record does not have is none of the later names either.
      have hnames : knownNames members ((name, j) :: ms) = knownNames members ms :=
        List.filter_cons_of_neg hknown
      have hother : ∀ n ∈ knownNames members ms, n ≠ name := by
        rintro n hn rfl
        exact hknown (List.mem_filter.mp hn).2
      rw [hnames, if_neg fun h => hknown h.2]
      simp only [bind_eq_ok_iff, ih, List.mem_cons, not_or]
      grind

/-- Members are read one by one as long as none that the record has comes twice. -/
theorem takeMembers_eq_ok_iff : takeMembers members [] a ms = .ok b ↔
    (knownNames members ms).Nodup ∧
      ms.foldlM (fun a m => takeMember members a m.1 m.2) a = .ok b := by
  rw [takeMembers_given_eq_ok_iff, and_iff_left fun _ _ => List.not_mem_nil]

theorem nodup_knownNames (hkeys : (ms.map (·.1)).Nodup) : (knownNames members ms).Nodup :=
  hkeys.filter _

end

/-- A field of a record and how its member is read. -/
structure RecordField (α : Type) where
  name : String
  {Value : Type}
  read : Json → Decoded Value
  get : α → Value
  set : α → Value → α

namespace RecordField

variable {α : Type}

def member (f : RecordField α) : String × Member α :=
  (f.name, ⟨f.read, f.set⟩)

/-- What a field has after its member, if there is one, was read. -/
def Reads (f : RecordField α) (a : α) : Option Json → f.Value → Prop
  | none, v => v = f.get a
  | some j, v => f.read j = .ok v

theorem reads_congr {f : RecordField α} {a a' : α} (h : f.get a = f.get a') (j : Option Json)
    (v : f.Value) : f.Reads a j v ↔ f.Reads a' j v := by
  cases j with
  | none => rw [Reads, Reads, h]
  | some j => rfl

end RecordField

/-- The members of a record are those of its fields, and each sets its own. -/
structure Describes {α : Type} (fields : List (RecordField α)) (members : RecordMembers α) :
    Prop where
  members_eq : members = fields.map (·.member)
  distinct : (fields.map (·.name)).Nodup
  get_set : ∀ f ∈ fields, ∀ a v, f.get (f.set a v) = v
  get_set_other : ∀ f ∈ fields, ∀ g ∈ fields, g.name ≠ f.name → ∀ a v, g.get (f.set a v) = g.get a
  ext : ∀ a b, (∀ f ∈ fields, f.get a = f.get b) → a = b

namespace Describes

variable {α : Type} {fields : List (RecordField α)} {members : RecordMembers α}
  {ms : List (String × Json)}

theorem eq_of_name (h : Describes fields members) {f g : RecordField α} (hf : f ∈ fields)
    (hg : g ∈ fields) (hname : f.name = g.name) : f = g :=
  List.inj_on_of_nodup_map h.distinct hf hg hname

private theorem map_fst_eq (h : Describes fields members) :
    members.map (·.1) = fields.map (·.name) := by
  rw [h.members_eq, List.map_map]
  rfl

theorem takeMember_known (h : Describes fields members) {f : RecordField α} (hf : f ∈ fields)
    (a : α) (j : Json) : takeMember members a f.name j = (f.read j).map (f.set a) := by
  have hlookup : members.lookup f.name = some ⟨f.read, f.set⟩ := by
    apply (Dictionary.lookup_eq_some_iff_mem (h.map_fst_eq ▸ h.distinct)).mpr
    rw [h.members_eq]
    exact List.mem_map.mpr ⟨f, hf, rfl⟩
  rw [takeMember, hlookup]

theorem takeMember_unknown (h : Describes fields members) {name : String}
    (hname : name ∉ fields.map (·.name)) (a : α) (j : Json) :
    takeMember members a name j = .ok a := by
  rw [takeMember, Dictionary.lookup_eq_none_iff.mpr (h.map_fst_eq ▸ hname)]

/-- What holds of every field, told of one field and of those with other names. -/
theorem forall_fields_iff (h : Describes fields members) {f : RecordField α} (hf : f ∈ fields)
    {P : RecordField α → Prop} :
    (∀ g ∈ fields, P g) ↔ P f ∧ ∀ g ∈ fields, g.name ≠ f.name → P g := by
  constructor
  · intro hall
    exact ⟨hall f hf, fun g hg _ => hall g hg⟩
  · rintro ⟨hsame, hothers⟩ g hg
    by_cases hname : g.name = f.name
    · exact h.eq_of_name hg hf hname ▸ hsame
    · exact hothers g hg hname

private theorem reads_set_iff (h : Describes fields members) {f : RecordField α} (hf : f ∈ fields)
    (habsent : ms.lookup f.name = none) (a b : α) (v : f.Value) :
    (∀ g ∈ fields, g.Reads (f.set a v) (ms.lookup g.name) (g.get b)) ↔
      f.get b = v ∧
        ∀ g ∈ fields, g.name ≠ f.name → g.Reads a (ms.lookup g.name) (g.get b) := by
  rw [h.forall_fields_iff hf, habsent, RecordField.Reads, h.get_set f hf]
  refine and_congr_right fun _ => forall₂_congr fun g hg => forall_congr' fun hne => ?_
  exact RecordField.reads_congr (h.get_set_other f hf g hg hne a v) _ _

private theorem reads_cons_iff (h : Describes fields members) {f : RecordField α} (hf : f ∈ fields)
    (a b : α) (j : Json) :
    (∀ g ∈ fields, g.Reads a (((f.name, j) :: ms).lookup g.name) (g.get b)) ↔
      f.read j = .ok (f.get b) ∧
        ∀ g ∈ fields, g.name ≠ f.name → g.Reads a (ms.lookup g.name) (g.get b) := by
  rw [h.forall_fields_iff hf, Dictionary.lookup_cons, if_pos rfl, RecordField.Reads]
  refine and_congr_right fun _ => forall₂_congr fun g _ => forall_congr' fun hne => ?_
  rw [Dictionary.lookup_cons, if_neg hne]

/-- Taking members settles every field by itself. -/
theorem takeMembers_eq_ok_iff (h : Describes fields members) (hkeys : (ms.map (·.1)).Nodup)
    (a b : α) : takeMembers members [] a ms = .ok b ↔
      ∀ f ∈ fields, f.Reads a (ms.lookup f.name) (f.get b) := by
  rw [Json.takeMembers_eq_ok_iff, and_iff_right (nodup_knownNames hkeys)]
  induction ms generalizing a with
  | nil =>
    rw [List.foldlM_nil, pure_eq_ok_iff]
    constructor
    · rintro rfl f -
      rfl
    · intro hfields
      exact (h.ext b a hfields).symm
  | cons m ms ih =>
    obtain ⟨name, j⟩ := m
    obtain ⟨hnew, hrest⟩ := List.nodup_cons.mp hkeys
    rw [List.foldlM_cons, bind_eq_ok_iff]
    by_cases hknown : name ∈ fields.map (·.name)
    · obtain ⟨f, hf, rfl⟩ := List.mem_map.mp hknown
      have habsent : ms.lookup f.name = none := Dictionary.lookup_eq_none_iff.mpr hnew
      simp only [h.takeMember_known hf, map_eq_ok_iff, ih hrest, h.reads_cons_iff hf]
      constructor
      · rintro ⟨_, ⟨v, hread, rfl⟩, hb⟩
        obtain ⟨rfl, hothers⟩ := (h.reads_set_iff hf habsent a b v).mp hb
        exact ⟨hread, hothers⟩
      · rintro ⟨hread, hothers⟩
        exact ⟨_, ⟨_, hread, rfl⟩, (h.reads_set_iff hf habsent a b _).mpr ⟨rfl, hothers⟩⟩
    · have hpass (f : RecordField α) (hf : f ∈ fields) :
          ((name, j) :: ms).lookup f.name = ms.lookup f.name := by
        rw [Dictionary.lookup_cons, if_neg]
        exact fun heq => hknown (List.mem_map.mpr ⟨f, hf, heq⟩)
      simp only [h.takeMember_unknown hknown, Except.ok.injEq, exists_eq_left', ih hrest]
      exact forall₂_congr fun f hf => by rw [hpass f hf]

private theorem lookup_zip {names : List String} (h : names.Nodup) (items : List Json) (i : Nat)
    (hi : i < names.length) : (names.zip items).lookup names[i] = items[i]? := by
  induction names generalizing items i with
  | nil => exact absurd hi (Nat.not_lt_zero i)
  | cons name names ih =>
    obtain ⟨hnew, hrest⟩ := List.nodup_cons.mp h
    cases items with
    | nil => rfl
    | cons item items =>
      rw [List.zip_cons_cons, Dictionary.lookup_cons]
      cases i with
      | zero => exact if_pos rfl
      | succ i =>
        have hi : i < names.length := Nat.lt_of_succ_lt_succ hi
        have hne : names[i] ≠ name := fun heq => hnew (heq ▸ List.getElem_mem hi)
        rw [List.getElem_cons_succ, if_neg hne, ih hrest items i hi]
        rfl

/-- An array fills as many fields as it has items, and has no more items than there are fields. -/
theorem recordField_array_eq_ok_iff (h : Describes fields members) (items : List Json) (a b : α) :
    recordField members a (.array items) = .ok b ↔ items.length ≤ fields.length ∧
      ∀ (i : Nat) (hi : i < fields.length), fields[i].Reads a items[i]? (fields[i].get b) := by
  have hlength : members.length = fields.length := by
    rw [h.members_eq, List.length_map]
  have hkeys : (((fields.map (·.name)).zip items).map (·.1)).Nodup := by
    rw [List.zip_eq_zip_take_min, List.map_fst_zip (by simp)]
    exact h.distinct.sublist (List.take_sublist _ _)
  have hfields : takeMembers members [] a ((fields.map (·.name)).zip items) = .ok b ↔
      ∀ (i : Nat) (hi : i < fields.length), fields[i].Reads a items[i]? (fields[i].get b) := by
    rw [h.takeMembers_eq_ok_iff hkeys, List.forall_mem_iff_forall_getElem]
    refine forall₂_congr fun i hi => ?_
    have hplace := lookup_zip h.distinct items i (by rwa [List.length_map])
    rw [List.getElem_map] at hplace
    rw [hplace]
  rw [recordField, h.map_fst_eq, hlength, ← hfields, bind_eq_ok_iff]
  by_cases hplaces : items.length ≤ fields.length
  · simp [hplaces]
  · simp [hplaces]

theorem takeMembers_congr (h : Describes fields members) (hkeys : (ms.map (·.1)).Nodup)
    {others : List (String × Json)} (hothers : (others.map (·.1)).Nodup) {a : α}
    (hfields : ∀ f ∈ fields, ∀ v,
      f.Reads a (ms.lookup f.name) v ↔ f.Reads a (others.lookup f.name) v) (b : α) :
    takeMembers members [] a ms = .ok b ↔ takeMembers members [] a others = .ok b := by
  rw [h.takeMembers_eq_ok_iff hkeys, h.takeMembers_eq_ok_iff hothers]
  exact forall₂_congr fun f hf => hfields f hf (f.get b)

end Describes

end LakehouseSql.Json
