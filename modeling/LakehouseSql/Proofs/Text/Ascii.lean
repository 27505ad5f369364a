import Mathlib.Data.List.Forall2
import LakehouseSql.Text.Basic
import LakehouseSql.Text.Case
/-! # ASCII letters and digits

Where they lie among all characters, that none is blank, what they are in upper and in lower case,
and that the digits of a number have its value.
-/
namespace LakehouseSql.Text

variable {c : Char}

theorem toNat_of_isAlphanum (h : c.isAlphanum = true) :
    (48 ≤ c.toNat ∧ c.toNat ≤ 57) ∨ (65 ≤ c.toNat ∧ c.toNat ≤ 90) ∨
      (97 ≤ c.toNat ∧ c.toNat ≤ 122) := by
  change ((decide (c.val ≥ 'A'.val ∧ c.val ≤ 'Z'.val) || (c.val ≥ 'a'.val && c.val ≤ 'z'.val)) ||
    (c.val ≥ '0'.val && c.val ≤ '9'.val)) = true at h
  simp only [Bool.or_eq_true, Bool.and_eq_true, decide_eq_true_eq, UInt32.le_iff_toNat_le,
    ge_iff_le] at h
  rcases h with (h | h) | h
  · exact .inr (.inl h)
  · exact .inr (.inr h)
  · exact .inl h

theorem not_isBlank_of_visible (h : 33 ≤ c.toNat) (h' : c.toNat ≤ 126) : isBlank c = false := by
  simp only [isBlank, Bool.or_eq_false_iff, Bool.and_eq_false_iff, decide_eq_false_iff_not,
    beq_eq_false_iff_ne]
  omega

theorem not_isBlank_of_isAlphanum (h : c.isAlphanum = true) : isBlank c = false := by
  have hc := toNat_of_isAlphanum h
  exact not_isBlank_of_visible (by omega) (by omega)

theorem uppercaseChar_ascii (h : c.toNat < 0x80) : uppercaseChar c = [c.toUpper] := by
  unfold uppercaseChar
  split <;> first | omega | rfl

theorem toNat_toUpper (c : Char) :
    (c.toUpper.toNat = c.toNat ∧ ¬(97 ≤ c.toNat ∧ c.toNat ≤ 122)) ∨
      (97 ≤ c.toNat ∧ c.toNat ≤ 122 ∧ c.toUpper.toNat + 32 = c.toNat) := by
  unfold Char.toUpper
  split
  · rename_i h
    simp only [UInt32.le_iff_toNat_le] at h
    change 97 ≤ c.val.toNat ∧ c.val.toNat ≤ 122 at h
    refine .inr ⟨h.1, h.2, ?_⟩
    change (c.val + 4294967264).toNat + 32 = c.val.toNat
    have hadd : (c.val + 4294967264).toNat = (c.val.toNat + 4294967264) % 4294967296 :=
      UInt32.toNat_add _ _
    omega
  · rename_i h
    simp only [UInt32.le_iff_toNat_le] at h
    exact .inl ⟨rfl, h⟩

theorem toNat_toLower (c : Char) :
    (c.toLower.toNat = c.toNat ∧ ¬(65 ≤ c.toNat ∧ c.toNat ≤ 90)) ∨
      (65 ≤ c.toNat ∧ c.toNat ≤ 90 ∧ c.toLower.toNat = c.toNat + 32) := by
  unfold Char.toLower
  split
  · rename_i h
    simp only [ge_iff_le, UInt32.le_iff_toNat_le] at h
    change 65 ≤ c.toNat ∧ c.toNat ≤ 90 at h
    refine .inr ⟨h.1, h.2, ?_⟩
    change (c.val + 32).toNat = c.val.toNat + 32
    rw [UInt32.toNat_add]
    exact Nat.mod_eq_of_lt (by change c.toNat + 32 < _; omega)
  · rename_i h
    simp only [ge_iff_le, UInt32.le_iff_toNat_le] at h
    exact .inl ⟨rfl, h⟩

/-- Letters agree in one case exactly if they agree in the other. -/
theorem toUpper_eq_toUpper_iff {c d : Char} : c.toUpper = d.toUpper ↔ c.toLower = d.toLower := by
  have hc := toNat_toUpper c
  have hd := toNat_toUpper d
  have hc' := toNat_toLower c
  have hd' := toNat_toLower d
  simp only [← Char.toNat_inj]
  omega

theorem map_toUpper_eq_iff {a b : String} :
    a.toList.map Char.toUpper = b.toList.map Char.toUpper ↔ sameIgnoringAsciiCase a b = true := by
  have hmap (f : Char → Char) (cs ds : List Char) :
      cs.map f = ds.map f ↔ List.Forall₂ (fun c d => f c = f d) cs ds := by
    rw [← List.forall₂_eq_eq_eq, List.forall₂_map_left_iff, List.forall₂_map_right_iff]
  simp only [sameIgnoringAsciiCase, beq_iff_eq, hmap, toUpper_eq_toUpper_iff]

theorem digitsValue_toDigits (n : Nat) : digitsValue (Nat.toDigits 10 n) = n := by
  have h := Nat.ofDigitChars_ten_toDigits (n := n)
  rw [Nat.ofDigitChars_eq_foldl] at h
  exact h

end LakehouseSql.Text
