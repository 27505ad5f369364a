import LakehouseSql.Proofs.Sql.Fragment
import LakehouseSql.Proofs.Statement.Untrusted
import LakehouseSql.Proofs.Text.Line
/-! # Values in SQL text

Numbers are pieces: digits and a point, perhaps behind one hyphen. A value that is no SQL text
itself is a piece, and it brings in its text if it is one.
-/
namespace LakehouseSql.Sql

section
variable {a a' : String} {ts ts' : List String}

private def isNumberChar (c : Char) : Bool :=
  c.isDigit || c == '.'

private theorem isPlain_of_isNumberChar {c : Char} (h : isNumberChar c = true) :
    isPlain c = true := by
  simp only [isNumberChar, Bool.or_eq_true, beq_iff_eq] at h
  rcases h with h | rfl
  · exact isPlain_of_isAlphanum (by simp [Char.isAlphanum, h])
  · decide

private theorem Fragment.number (h : ∀ c ∈ a.toList, isNumberChar c = true) : Fixed a :=
  .plain fun c hc => isPlain_of_isNumberChar (h c hc)

theorem Fragment.negative (ha : Fixed a) : Piece ("-" ++ a) ("-" ++ a) [] [] := by
  intro cs cs' us us' hcs hcs' h
  rw [String.toList_append, List.append_assoc]
  exact (ha.piece cs cs' us us' hcs hcs' h).hyphen (ha.calm.append hcs) (ha.calm'.append hcs')

theorem Fragment.natural (n : Nat) : Fixed (toString n) := by
  refine .number fun c hc => ?_
  have hdigits : (toString n).toList = Nat.toDigits 10 n := by simp
  rw [hdigits] at hc
  simp [isNumberChar, Nat.isDigit_of_mem_toDigits (by decide) (by decide) hc]

theorem Piece.integer (n : Int) : Piece (toString n) (toString n) [] [] := by
  cases n with
  | ofNat n => exact (Fragment.natural n).piece
  | negSucc n => exact (Fragment.natural (n + 1)).negative

/-- Decimal digits, at least one. -/
def IsDigits (ds : List Char) : Prop :=
  ds ≠ [] ∧ ∀ c ∈ ds, c.isDigit = true

/-- The text of a number without its sign: digits, perhaps with a point and further digits. -/
inductive Numeral : List Char → Prop where
  | whole {ds : List Char} (h : IsDigits ds) : Numeral ds
  | fraction {ds fs : List Char} (h : IsDigits ds) (hf : IsDigits fs) : Numeral (ds ++ '.' :: fs)

theorem isDigits_toDigits (n : Nat) : IsDigits (Nat.toDigits 10 n) :=
  ⟨Nat.toDigits_ne_nil, fun _ hc => Nat.isDigit_of_mem_toDigits (by decide) (by decide) hc⟩

private theorem isDigit_zeros {n : Nat} {c : Char} (h : c ∈ List.replicate n '0') :
    c.isDigit = true := by
  rw [List.eq_of_mem_replicate h]
  decide

private theorem numeral_positionalText (d : Decimal) : Numeral (d.positionalText false) := by
  obtain ⟨hne, hdigits⟩ : IsDigits (Decimal.digitChars d.digits) := isDigits_toDigits d.digits
  unfold Decimal.positionalText
  dsimp only
  split
  · simp only [Bool.false_eq_true, if_false, List.append_nil]
    refine .whole ⟨List.append_ne_nil_of_left_ne_nil hne _, fun c hc => ?_⟩
    rcases List.mem_append.mp hc with hc | hc
    · exact hdigits c hc
    · exact isDigit_zeros hc
  · rename_i hexponent
    split
    · rename_i hplaces
      refine .fraction ⟨?_, fun c hc => hdigits c (List.take_subset _ _ hc)⟩
        ⟨?_, fun c hc => hdigits c (List.drop_subset _ _ hc)⟩
      · simp only [ne_eq, List.take_eq_nil_iff, not_or]
        exact ⟨by omega, hne⟩
      · simp only [ne_eq, List.drop_eq_nil_iff]
        omega
    · have hleading : IsDigits ['0'] := ⟨by simp, by simp⟩
      have hpadded (n : Nat) : IsDigits (List.replicate n '0' ++ Decimal.digitChars d.digits) := by
        refine ⟨List.append_ne_nil_of_right_ne_nil _ hne, fun c hc => ?_⟩
        rcases List.mem_append.mp hc with hc | hc
        · exact isDigit_zeros hc
        · exact hdigits c hc
      exact Numeral.fraction hleading (hpadded _)

/-- A finite number is written as digits and a point, behind a hyphen if it is negative. -/
theorem exists_numeral (x : Binary64) :
    ∃ body, Numeral body ∧ SqlValue.numberLayout.text x =
      String.ofList (if x.isNegative then '-' :: body else body) := by
  refine ⟨_, ?_, rfl⟩
  by_cases hzero : x.isZero = true
  · rw [if_pos hzero]
    exact .whole ⟨by simp [SqlValue.numberLayout], by simp [SqlValue.numberLayout]⟩
  · rw [if_neg hzero]
    exact numeral_positionalText _

private theorem isNumberChar_of_numeral {body : List Char} (h : Numeral body) :
    ∀ c ∈ body, isNumberChar c = true := by
  cases h with
  | whole h => exact fun c hc => by simp [isNumberChar, h.2 c hc]
  | fraction h hf =>
    intro c hc
    rcases List.mem_append.mp hc with hc | hc
    · simp [isNumberChar, h.2 c hc]
    · rcases List.mem_cons.mp hc with rfl | hc
      · decide
      · simp [isNumberChar, hf.2 c hc]

private theorem Piece.finite (x : Binary64) :
    Piece (SqlValue.numberLayout.text x) (SqlValue.numberLayout.text x) [] [] := by
  obtain ⟨body, hnumeral, htext⟩ := exists_numeral x
  have hbody : Fixed (String.ofList body) :=
    .number (by simpa using isNumberChar_of_numeral hnumeral)
  rw [htext]
  split
  · rw [String.ofList_cons]
    exact hbody.negative
  · exact hbody.piece

theorem Piece.number (x : Binary64) :
    Piece (SqlValue.numberText x) (SqlValue.numberText x) [] [] := by
  unfold SqlValue.numberText
  split
  · exact .finite x
  · split
    · exact (Fragment.words rfl).piece
    · split
      · exact (Fragment.words (p := "inf") rfl).negative
      · exact (Fragment.words rfl).piece

theorem unbroken_natural (n : Nat) : Text.Unbroken (toString n) := by
  have hdigits : (toString n).toList = Nat.toDigits 10 n := by simp
  intro hmem
  rw [hdigits] at hmem
  exact absurd (Nat.isDigit_of_mem_toDigits (by decide) (by decide) hmem) (by decide)

theorem unbroken_integer (n : Int) : Text.Unbroken (toString n) := by
  cases n with
  | ofNat n => exact unbroken_natural n
  | negSucc n => exact Text.unbroken_append.mpr ⟨by decide, unbroken_natural (n + 1)⟩

theorem unbroken_number (x : Binary64) : Text.Unbroken (SqlValue.numberText x) := by
  obtain ⟨body, hnumeral, htext⟩ := exists_numeral x
  have hbody : '\n' ∉ body :=
    fun hmem => absurd (isNumberChar_of_numeral hnumeral _ hmem) (by decide)
  unfold SqlValue.numberText
  split
  · rw [htext, Text.Unbroken, String.toList_ofList]
    split
    · simpa using hbody
    · exact hbody
  · split
    · decide
    · split <;> decide

end

theorem Piece.value {v v' : SqlValue} (h : v.Alike v') (hv : v.IsData) :
    Piece v.sql v'.sql v.texts v'.texts := by
  cases h with
  | text s s' => exact .literal s s'
  | same v =>
    cases v with
    | null => exact (Fragment.words rfl).piece
    | bool b => cases b <;> exact (Fragment.words rfl).piece
    | integer n => exact .integer n.toInt
    | float x =>
      simp only [SqlValue.sql]
      split
      · exact .number x
      · exact (Fragment.words rfl).piece
    | text s => exact .literal s s
    | expression sql => exact absurd rfl (hv sql)

end LakehouseSql.Sql
