import LakehouseSql.Proofs.Json.Member
import LakehouseSql.Statement.Encoding
import LakehouseSql.Statement.Record
/-! # Fields and back

Each reader of a field gives back what the writer of that field was given. Readers and writers of
lists, dictionaries and missing values are made of those of their parts, and so are the proofs.
Members of different names are taken one by one, whether or not some of them are left out.
-/
namespace LakehouseSql

/-- Every word of the vocabulary names its own member. -/
def Vocabulary.Faithful (α : Type) [Vocabulary α] : Prop :=
  ∀ a : α, parse α (word a) = .ok a

theorem StatementKind.faithful : Vocabulary.Faithful StatementKind :=
  fun a => by cases a <;> rfl

theorem Engine.faithful : Vocabulary.Faithful Engine :=
  fun a => by cases a <;> rfl

theorem FileFormat.faithful : Vocabulary.Faithful FileFormat :=
  fun a => by cases a <;> rfl

theorem InsertMode.faithful : Vocabulary.Faithful InsertMode :=
  fun a => by cases a <;> rfl

theorem ResultFormat.faithful : Vocabulary.Faithful ResultFormat :=
  fun a => by cases a <;> rfl

namespace Json

/-- The reader gives back every value from what is written for it. -/
def Inverts {α : Type} (read : Json → Decoded α) (write : α → Json) : Prop :=
  ∀ a, read (write a) = .ok a

section
variable {α : Type} {read : Json → Decoded α} {write : α → Json}

theorem optionalField_of_ok {j : Json} {a : α} (h : read j = .ok a) (hj : j ≠ .null) :
    optionalField read j = .ok (some a) := by
  unfold optionalField
  split
  · contradiction
  · rw [h]
    rfl

/-- Null is free to stand for a missing value if no value is written as null. -/
theorem Inverts.optional (h : Inverts read write) (hnull : ∀ a, write a ≠ .null) :
    Inverts (optionalField read) (Json.optional write) := by
  intro o
  cases o with
  | none => rfl
  | some a => exact optionalField_of_ok (h a) (hnull a)

theorem listField_map {β : Type} {write : β → Json} {view : β → α}
    (h : ∀ b, read (write b) = .ok (view b)) (bs : List β) :
    listField read (.array (bs.map write)) = .ok (bs.map view) := by
  rw [listField]
  induction bs with
  | nil => rfl
  | cons b bs ih =>
    simp only [List.map_cons, eachItem, h b, ih]
    rfl

theorem Inverts.list (h : Inverts read write) :
    Inverts (listField read) fun as => .array (as.map write) := by
  intro as
  have hlist := listField_map (fun a => h a) as
  rwa [List.map_id'] at hlist

private theorem eachMember_map (h : Inverts read write) (entries : List (String × α)) :
    eachMember read (entries.map fun (key, value) => (key, write value)) = .ok entries := by
  induction entries with
  | nil => rfl
  | cons entry entries ih =>
    simp only [List.map_cons, eachMember, h entry.2, ih]
    rfl

/-- No key comes twice, so the entries are the same ones in the same order. -/
theorem Inverts.dictionary (h : Inverts read write) :
    Inverts (dictionaryField read) (ofDictionary write) := by
  intro d
  simp only [ofDictionary, dictionaryField, eachMember_map h, Except.map,
    Dictionary.ofList_entries]

end

theorem stringField_inverts : Inverts stringField .string :=
  fun _ => rfl

theorem boolField_inverts : Inverts boolField .bool :=
  fun _ => rfl

theorem realField_inverts : Inverts realField fun x => .number (.real x) :=
  fun _ => rfl

private theorem wholeField_of_fits {fits : Int → Bool} {n : Int} (h : fits n = true) :
    wholeField fits (.whole n) = .ok n :=
  if_pos h

theorem int64Field_inverts : Inverts int64Field fun n => .whole n.toInt := by
  intro n
  have hlow : -9223372036854775808 ≤ n.toInt := n.le_toInt
  have hhigh : n.toInt < 9223372036854775808 := n.toInt_lt
  have hfits : Text.fitsInt64 n.toInt = true := by
    simp only [Text.fitsInt64, Bool.and_eq_true, decide_eq_true_eq]
    omega
  rw [int64Field, wholeField_of_fits hfits]
  exact congrArg Except.ok (Int64.ofInt_toInt n)

theorem uint64Field_inverts : Inverts uint64Field fun n => .natural n.toNat := by
  intro n
  have hbound : (n.toNat : Int) < UInt64.size := Int.ofNat_lt.mpr n.toNat_lt_size
  have hbelow : isBelow UInt64.size n.toNat = true := by
    simp only [isBelow, Bool.and_eq_true, decide_eq_true_eq]
    exact ⟨Int.natCast_nonneg _, hbound⟩
  have hwhole : wholeField (isBelow UInt64.size) (.natural n.toNat) = .ok (n.toNat : Int) :=
    wholeField_of_fits hbelow
  rw [uint64Field, hwhole]
  exact congrArg Except.ok UInt64.ofNat_toNat

theorem wordField_inverts {α : Type} [Vocabulary α] (h : Vocabulary.Faithful α) :
    Inverts (wordField α) word := by
  intro a
  simp only [word, wordField, h a]
  rfl

theorem optionalString_inverts : Inverts (optionalField stringField) optionalString :=
  stringField_inverts.optional nofun

theorem optionalCount_inverts : Inverts (optionalField uint64Field) optionalCount :=
  uint64Field_inverts.optional nofun

theorem strings_inverts : Inverts (listField stringField) strings :=
  stringField_inverts.list

theorem optionalField_bool (b : Bool) : optionalField boolField (.bool b) = .ok (some b) :=
  rfl

theorem optionalField_string (s : String) : optionalField stringField (.string s) = .ok (some s) :=
  rfl

theorem optionalField_word {α : Type} [Vocabulary α] (h : Vocabulary.Faithful α) (a : α) :
    optionalField (wordField α) (word a) = .ok (some a) :=
  optionalField_of_ok (wordField_inverts h a) nofun

theorem sqlValueField_inverts : Inverts sqlValueField SqlValue.toJson := by
  intro v
  cases v with
  | integer n => exact congrArg (Except.map SqlValue.integer) (int64Field_inverts n)
  | _ => rfl

theorem insertSourceField_inverts : Inverts insertSourceField InsertSource.toJson := by
  intro source
  cases source with
  | query sql => rfl
  | rows rows =>
    exact congrArg (Except.map InsertSource.rows) (sqlValueField_inverts.dictionary.list rows)

theorem forall_mem_ifSome {α : Type} {P : String × Json → Prop} {name : String}
    {write : α → Json} {o : Option α} (h : ∀ a ∈ o, P (name, write a)) :
    ∀ m ∈ ifSome name write o, P m := by
  cases o with
  | none => nofun
  | some a =>
    intro m hm
    rw [List.mem_singleton.mp hm]
    exact h a rfl

/-- The members have these names in this order, though some may be left out. -/
def NamedBy (names : List String) (ms : List (String × Json)) : Prop :=
  (ms.map (·.1)).Sublist names

namespace NamedBy

variable {names : List String} {ms : List (String × Json)} {name : String} {j : Json}

theorem all (h : ms.map (·.1) = names) : NamedBy names ms := by
  rw [NamedBy, h]

theorem cons (h : NamedBy names ms) : NamedBy (name :: names) ((name, j) :: ms) :=
  List.Sublist.cons_cons name h

theorem leftOut {absent : Bool} (h : NamedBy names ms) :
    NamedBy (name :: names) ((if absent then [] else [(name, j)]) ++ ms) := by
  cases absent with
  | true => exact List.Sublist.cons name h
  | false => exact h.cons

theorem ifSome {α : Type} {write : α → Json} {o : Option α} (h : NamedBy names ms) :
    NamedBy (name :: names) (Json.ifSome name write o ++ ms) := by
  cases o with
  | none => exact List.Sublist.cons name h
  | some a => exact h.cons

theorem nodup (h : NamedBy names ms) (hnames : names.Nodup) : (ms.map (·.1)).Nodup :=
  List.Sublist.nodup h hnames

end NamedBy

/-- Taking the members one after the other turns one record into another. -/
def Folds {ρ : Type} (members : RecordMembers ρ) (ms : List (String × Json)) (a b : ρ) : Prop :=
  ms.foldlM (fun a m => takeMember members a m.1 m.2) a = .ok b

namespace Folds

variable {ρ α : Type} {members : RecordMembers ρ} {ms ns : List (String × Json)} {name : String}
  {m : Member ρ} {j : Json} {v : m.Value} {a b c : ρ}

theorem nil : Folds members [] a a :=
  rfl

theorem takeMember_of_lookup (hm : members.lookup name = some m) (hv : m.read j = .ok v) :
    takeMember members a name j = .ok (m.put a v) := by
  rw [takeMember, hm]
  exact congrArg (Except.map (m.put a)) hv

theorem cons (hm : members.lookup name = some m) (hv : m.read j = .ok v)
    (hs : Folds members ms (m.put a v) b) : Folds members ((name, j) :: ms) a b := by
  rw [Folds, List.foldlM_cons, takeMember_of_lookup hm hv]
  exact hs

theorem append (h : Folds members ms a b) (hs : Folds members ns b c) :
    Folds members (ms ++ ns) a c := by
  rw [Folds, List.foldlM_append]
  exact bind_eq_ok_iff.mpr ⟨b, h, hs⟩

theorem ifSome {write : α → Json} (set : Option α → ρ)
    (h : ∀ v, takeMember members (set none) name (write v) = .ok (set (some v))) (o : Option α) :
    Folds members (Json.ifSome name write o) (set none) (set o) := by
  cases o with
  | none => exact nil
  | some v =>
    rw [Json.ifSome, Folds, List.foldlM_cons, h v]
    rfl

theorem leftOut {absent : Bool} (hm : members.lookup name = some m)
    (hv : absent = false → m.read j = .ok v) (habsent : absent = true → m.put a v = a)
    (hs : Folds members ms (m.put a v) b) :
    Folds members ((if absent then [] else [(name, j)]) ++ ms) a b := by
  cases absent with
  | true => exact habsent rfl ▸ hs
  | false => exact cons hm (hv rfl) hs

theorem takeMembers_eq (h : Folds members ms a b) (hkeys : (ms.map (·.1)).Nodup) :
    takeMembers members [] a ms = .ok b :=
  takeMembers_eq_ok_iff.mpr ⟨nodup_knownNames hkeys, h⟩

end Folds

end Json

end LakehouseSql
