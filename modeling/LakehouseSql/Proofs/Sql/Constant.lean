import LakehouseSql.Proofs.Sql.Reading
import LakehouseSql.Proofs.Sql.Value
/-! # Constants read back

The constants that stand for values in SQL text, and their reading from tokens. A number is the text
that it is written with; its sign and its point are tokens of their own.
-/
namespace LakehouseSql

namespace Sql

inductive Constant where
  | null
  | number (text : String)
  | text (s : String)
  deriving DecidableEq

def isNumeralWord (w : String) : Bool :=
  w != "" && w.toList.all Char.isDigit

/-- A number without its sign. -/
def readNumeral : List Token → Option String
  | [.word w] => if isNumeralWord w then some w else none
  | [.word w, .sign '.', .word f] =>
    if isNumeralWord w && isNumeralWord f then some (w ++ "." ++ f) else none
  | _ => none

/-- The constant that the tokens are, all of them together. -/
def readConstant : List Token → Option Constant
  | [.literal s] => some (.text s)
  | .sign '-' :: toks => (readNumeral toks).map fun n => .number ("-" ++ n)
  | toks => if toks = [.word "NULL"] then some .null else (readNumeral toks).map .number

end Sql

/-- The constant of a value. Numbers that are not finite are null, and SQL text is no constant. -/
def SqlValue.constant? : SqlValue → Option Sql.Constant
  | .null => some .null
  | .bool b => some (.number (if b then "1" else "0"))
  | .integer n => some (.number (toString n.toInt))
  | .float x => some (if x.isFinite then .number (SqlValue.numberText x) else .null)
  | .text s => some (.text s)
  | .expression _ => none

theorem SqlValue.constant?_isSome_iff {v : SqlValue} : v.constant?.isSome ↔ v.IsData := by
  cases v <;> simp [constant?, IsData]

namespace Sql

section
variable {toks : List Token} {c : Constant} {n : String}

/-- The signs of a number are a hyphen and a point. -/
theorem sign_of_readNumeral (h : readNumeral toks = some n) :
    ∀ d, .sign d ∈ toks → d = '.' := by
  unfold readNumeral at h
  split at h
  · simp
  · simp
  · cases h

theorem readConstant_of_readNumeral (h : readNumeral toks = some n) :
    readConstant toks = some (.number n) := by
  have hnull : toks ≠ [.word "NULL"] := by
    rintro rfl
    cases h
  unfold readConstant
  split
  · cases h
  · cases h
  · rw [if_neg hnull, h, Option.map_some]

theorem sign_of_readConstant (h : readConstant toks = some c) :
    ∀ d, .sign d ∈ toks → d = '-' ∨ d = '.' := by
  unfold readConstant at h
  split at h
  · simp
  · obtain ⟨n, hn, -⟩ := Option.map_eq_some_iff.mp h
    have hsigns := sign_of_readNumeral hn
    intro d hd
    rcases List.mem_cons.mp hd with hd | hd
    · exact .inl (Token.sign.inj hd)
    · exact .inr (hsigns d hd)
  · split at h
    · rename_i hnull
      simp [hnull]
    · obtain ⟨n, hn, -⟩ := Option.map_eq_some_iff.mp h
      exact fun d hd => .inr (sign_of_readNumeral hn d hd)

end

section
variable {ds : List Char} {v : SqlValue} {c : Constant}

theorem reads_digits (h : IsDigits ds) :
    Reads (String.ofList ds) [.word (String.ofList ds)] ∧
      isNumeralWord (String.ofList ds) = true := by
  obtain ⟨hne, hdigits⟩ := h
  have hfilled : String.ofList ds ≠ "" := by simpa using hne
  constructor
  · refine .word hfilled fun c hc => ?_
    have hdigit := hdigits c (by simpa using hc)
    simp [isWordChar, Char.isAlphanum, hdigit]
  · simpa [isNumeralWord, hne] using hdigits

private theorem calm_digits (h : IsDigits ds) : Calm ds := by
  cases ds with
  | nil => exact calm_nil
  | cons d ds =>
    have hdigit := h.2 d (by simp)
    exact calm_plain (isPlain_of_isAlphanum (by simp [Char.isAlphanum, hdigit])) ds

private theorem calm_numeral (h : Numeral ds) : Calm ds := by
  cases h with
  | whole h => exact calm_digits h
  | fraction h hf => exact (calm_digits h).append (calm_plain (by decide) _)

private theorem reads_numeral (h : Numeral ds) :
    ∃ toks, Reads (String.ofList ds) toks ∧ readNumeral toks = some (String.ofList ds) := by
  cases h with
  | whole h =>
    obtain ⟨hreads, hword⟩ := reads_digits h
    exact ⟨_, hreads, if_pos hword⟩
  | @fraction ds fs h hf =>
    obtain ⟨hreads, hword⟩ := reads_digits h
    obtain ⟨hreads', hword'⟩ := reads_digits hf
    have hpoint : Parts "." [.sign '.'] := .words rfl (by decide +kernel)
    have htext : String.ofList (ds ++ '.' :: fs) =
        String.ofList ds ++ "." ++ String.ofList fs := by
      apply String.toList_inj.mp
      simp
    rw [htext]
    refine ⟨_, (hreads.close hpoint).append hreads', ?_⟩
    simp [readNumeral, hword, hword']

private theorem reads_signed {negative : Bool} (h : Numeral ds) :
    ∃ toks, Reads (String.ofList (if negative then '-' :: ds else ds)) toks ∧
      readConstant toks = some (.number (String.ofList (if negative then '-' :: ds else ds))) := by
  obtain ⟨toks, hreads, hread⟩ := reads_numeral h
  cases negative with
  | true =>
    have htext : String.ofList ('-' :: ds) = "-" ++ String.ofList ds := by
      rw [String.ofList_cons]
      rfl
    refine ⟨.sign '-' :: toks, ?_, ?_⟩
    · exact htext ▸ hreads.negative (by simpa using calm_numeral h)
    · simp [readConstant, hread, htext]
  | false => exact ⟨toks, hreads, readConstant_of_readNumeral hread⟩

private theorem exists_digits (n : Int) : ∃ (negative : Bool) (ds : List Char), IsDigits ds ∧
    toString n = String.ofList (if negative then '-' :: ds else ds) := by
  cases n with
  | ofNat k => exact ⟨false, _, isDigits_toDigits k, rfl⟩
  | negSucc k =>
    refine ⟨true, _, isDigits_toDigits (k + 1), ?_⟩
    rw [if_pos rfl, String.ofList_cons]
    rfl

theorem reads_value (h : v.constant? = some c) :
    ∃ toks, Reads v.sql toks ∧ readConstant toks = some c := by
  cases v with
  | null =>
    cases h
    exact ⟨[.word "NULL"], .words rfl (by decide +kernel), rfl⟩
  | bool b =>
    cases h
    cases b with
    | false => exact ⟨[.word "0"], .words rfl (by decide +kernel), rfl⟩
    | true => exact ⟨[.word "1"], .words rfl (by decide +kernel), rfl⟩
  | integer n =>
    cases h
    obtain ⟨negative, ds, hds, htext⟩ := exists_digits n.toInt
    rw [SqlValue.sql, htext]
    exact reads_signed (.whole hds)
  | float x =>
    cases h
    by_cases hfinite : x.isFinite = true
    · obtain ⟨body, hbody, htext⟩ := exists_numeral x
      rw [SqlValue.sql, if_pos hfinite, if_pos hfinite, SqlValue.numberText, if_pos hfinite, htext]
      exact reads_signed hbody
    · rw [SqlValue.sql, if_neg hfinite, if_neg hfinite]
      exact ⟨[.word "NULL"], .words rfl (by decide +kernel), rfl⟩
  | text s =>
    cases h
    exact ⟨_, .literal s, rfl⟩
  | expression sql => cases h

end

end Sql

end LakehouseSql
