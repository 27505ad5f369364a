import LakehouseSql.Proofs.Identifier.Grammar
/-! # When checks succeed -/
namespace LakehouseSql.Checked

variable {u : Unit}

@[simp] theorem name_eq_ok_iff {rule : Identifier.Rule} {field role name : String} :
    Checked.name rule field role name = .ok u ↔ Identifier.Conforms rule name := by
  rw [Checked.name, mapError_eq_ok_iff, Identifier.validate_eq_ok_iff]

@[simp] theorem columns_eq_ok_iff {field : String} {names : List String} :
    columns field names = .ok u ↔ ∀ name ∈ names, Identifier.Conforms .column name := by
  induction names with
  | nil => simp [columns]
  | cons name names ih => simp [columns, ih]

theorem name_eq_error {rule : Identifier.Rule} {field role name : String}
    (h : ¬Identifier.Conforms rule name) :
    ∃ e, Checked.name rule field role name = .error (.identifier field e) := by
  cases hvalid : Identifier.validate rule role name with
  | error e =>
    refine ⟨e, ?_⟩
    rw [Checked.name, hvalid]
    rfl
  | ok _ => exact absurd ((Identifier.validate_eq_ok_iff _ _ _).mp hvalid) h

theorem columns_eq_error {field : String} {names : List String}
    (h : ¬∀ name ∈ names, Identifier.Conforms .column name) :
    ∃ e, columns field names = .error (.identifier field e) := by
  induction names with
  | nil => simp at h
  | cons name names ih =>
    by_cases hname : Identifier.Conforms .column name
    · have hfirst : Checked.name .column field "column" name = .ok () := name_eq_ok_iff.mpr hname
      obtain ⟨e, he⟩ := ih fun hnames => h (List.forall_mem_cons.mpr ⟨hname, hnames⟩)
      refine ⟨e, ?_⟩
      rw [columns, hfirst]
      exact he
    · obtain ⟨e, he⟩ : ∃ e, Checked.name .column field "column" name =
          .error (.identifier field e) := name_eq_error hname
      refine ⟨e, ?_⟩
      rw [columns, he]
      rfl

@[simp] theorem notBlank_eq_ok_iff {field text : String} :
    notBlank field text = .ok u ↔ Text.isBlankText text = false := by
  unfold notBlank
  split <;> simp_all

@[simp] theorem notBlankIfGiven_eq_ok_iff {field : String} {text : Option String} :
    notBlankIfGiven field text = .ok u ↔ ∀ t ∈ text, Text.isBlankText t = false := by
  cases text <;> simp [notBlankIfGiven]

@[simp] theorem positiveLimit_eq_ok_iff {limit : UInt64} :
    positiveLimit limit = .ok u ↔ limit ≠ 0 := by
  unfold positiveLimit
  split <;> simp_all

end LakehouseSql.Checked
