import Mathlib.Data.List.TakeDrop
import LakehouseSql.Json.Printer
import LakehouseSql.Json.Reader
import LakehouseSql.Proofs.Text.Ascii
/-! # Numbers in JSON text

A number is read up to the first character that does not go on with it, so what is read from its
text alone is read in front of anything that stops it. Whole numbers in the range of the reader
are always read back.
-/
namespace LakehouseSql.Json
open Numeral (spanDigits)

/-- The text does not go on with a number in front of it. -/
def Stops (rest : List Char) : Prop :=
  ∀ c ∈ rest.head?, c.isDigit = false ∧ c ≠ '.' ∧ c ≠ 'e' ∧ c ≠ 'E'

/-- The reader of numbers gives a number back from its text. -/
def ReadsBack (n : JsonNumber) : Prop :=
  ∃ m, readNumeral (numberText n) = some (m, []) ∧ ofNumeral m = .number n

@[simp] theorem spanDigits_nil : spanDigits [] = ([], []) := rfl

@[simp] theorem spanDigits_cons (c : Char) (cs : List Char) :
    spanDigits (c :: cs) =
      if c.isDigit then (c :: (spanDigits cs).1, (spanDigits cs).2) else ([], c :: cs) := by
  simp only [spanDigits, List.span_eq_takeWhile_dropWhile, List.takeWhile_cons,
    List.dropWhile_cons]
  split <;> rfl

private theorem spanDigits_append {rest : List Char} (hs : Stops rest) (cs : List Char) :
    spanDigits (cs ++ rest) = ((spanDigits cs).1, (spanDigits cs).2 ++ rest) := by
  induction cs with
  | nil =>
    cases rest with
    | nil => rfl
    | cons c rest => simp [(hs c rfl).1]
  | cons c cs ih =>
    by_cases hc : c.isDigit
    · simp [hc, ih]
    · simp [hc]

private theorem readFraction_of_ne {c : Char} (cs : List Char) (h : c ≠ '.') :
    readFraction (c :: cs) = some (none, c :: cs) := by
  unfold readFraction
  split
  · rename_i heq
    cases heq
    exact absurd rfl h
  · rfl

private theorem readFraction_append {cs r rest : List Char} {fraction : Option (List Char)}
    (hs : Stops rest) (h : readFraction cs = some (fraction, r)) :
    readFraction (cs ++ rest) = some (fraction, r ++ rest) := by
  cases cs with
  | nil =>
    cases h
    cases rest with
    | nil => rfl
    | cons c rest => exact readFraction_of_ne rest (hs c rfl).2.1
  | cons c cs =>
    by_cases hc : c = '.'
    · subst hc
      simp only [readFraction, List.cons_append, spanDigits_append hs] at h ⊢
      split at h
      · cases h
      · rename_i hne
        cases h
        rw [if_neg hne]
    · rw [readFraction_of_ne cs hc] at h
      cases h
      exact readFraction_of_ne (cs ++ rest) hc

private theorem splitSign_append {cs : List Char} (h : cs ≠ []) (rest : List Char) :
    Text.splitSign (cs ++ rest) = ((Text.splitSign cs).1, (Text.splitSign cs).2 ++ rest) := by
  obtain ⟨c, cs, rfl⟩ := List.exists_cons_of_ne_nil h
  by_cases hm : c = '-'
  · subst hm
    rfl
  · by_cases hp : c = '+'
    · subst hp
      rfl
    · simp [Text.splitSign, hm, hp]

private theorem readExponent_append {cs r rest : List Char} {exponent : Option (Bool × List Char)}
    (hs : Stops rest) (h : readExponent cs = some (exponent, r)) :
    readExponent (cs ++ rest) = some (exponent, r ++ rest) := by
  cases cs with
  | nil =>
    cases h
    cases rest with
    | nil => rfl
    | cons c rest => simp [readExponent, (hs c rfl).2.2]
  | cons c cs =>
    simp only [readExponent, List.cons_append] at h ⊢
    split at h
    · rename_i hc
      -- an exponent without digits is refused, so a sign is not all that follows
      have hne : cs ≠ [] := by
        rintro rfl
        simp [Text.splitSign] at h
      rw [if_pos hc, splitSign_append hne, spanDigits_append hs]
      split at h
      · cases h
      · rename_i hds
        cases h
        simp only [hds]
        rfl
    · rename_i hc
      cases h
      rw [if_neg hc]
      rfl

private def readUnsigned (negative : Bool) (body : List Char) : Option (Numeral × List Char) :=
  if (spanDigits body).1.isEmpty ||
      (1 < (spanDigits body).1.length && (spanDigits body).1.head? == some '0') then none
  else
    (readFraction (spanDigits body).2).bind fun (fraction, rest) =>
      (readExponent rest).bind fun (exponent, rest) =>
        some (⟨negative, (spanDigits body).1, fraction, exponent⟩, rest)

private theorem readNumeral_minus (cs : List Char) :
    readNumeral ('-' :: cs) = readUnsigned true cs := by
  rfl

private theorem readNumeral_unsigned {cs : List Char} (h : cs.head? ≠ some '-') :
    readNumeral cs = readUnsigned false cs := by
  cases cs with
  | nil => rfl
  | cons c cs =>
    have hc : c ≠ '-' := by simpa using h
    unfold readNumeral
    split
    rename_i heq
    split at heq
    · rename_i hcs
      cases hcs
      exact absurd rfl hc
    · cases heq
      rfl

private theorem readUnsigned_append {negative : Bool} {body r rest : List Char} {n : Numeral}
    (hs : Stops rest) (h : readUnsigned negative body = some (n, r)) :
    readUnsigned negative (body ++ rest) = some (n, r ++ rest) := by
  unfold readUnsigned at h ⊢
  rw [spanDigits_append hs]
  split at h
  · cases h
  · rename_i hds
    obtain ⟨⟨fraction, r₁⟩, hf, h⟩ := Option.bind_eq_some_iff.mp h
    obtain ⟨⟨exponent, r₂⟩, he, h⟩ := Option.bind_eq_some_iff.mp h
    cases h
    rw [if_neg hds, readFraction_append hs hf]
    simp only [Option.bind_some, readExponent_append hs he]

theorem head_of_readNumeral {cs r : List Char} {n : Numeral} (h : readNumeral cs = some (n, r)) :
    ∃ c body, cs = c :: body ∧ (c = '-' ∨ c.isDigit) := by
  cases cs with
  | nil => cases h
  | cons c body =>
    refine ⟨c, body, rfl, ?_⟩
    by_cases hc : c = '-'
    · exact .inl hc
    · rw [readNumeral_unsigned (by simpa using hc)] at h
      by_cases hd : c.isDigit
      · exact .inr hd
      · simp [readUnsigned, hd] at h

theorem readNumeral_append {cs r rest : List Char} {n : Numeral} (hs : Stops rest)
    (h : readNumeral cs = some (n, r)) : readNumeral (cs ++ rest) = some (n, r ++ rest) := by
  obtain ⟨c, body, rfl, -⟩ := head_of_readNumeral h
  by_cases hc : c = '-'
  · subst hc
    rw [readNumeral_minus] at h
    exact readUnsigned_append hs h
  · rw [readNumeral_unsigned (by simpa using hc)] at h
    rw [readNumeral_unsigned (by simpa using hc)]
    exact readUnsigned_append hs h

private theorem head?_toDigits_ne {m : Nat} (hm : m ≠ 0) :
    (Nat.toDigits 10 m).head? ≠ some '0' := by
  induction m using Nat.strongRecOn with
  | ind m ih =>
    by_cases hlt : m < 10
    · rw [Nat.toDigits_of_lt_base hlt]
      simpa using hm
    · have hm' : m / 10 ≠ 0 := by omega
      have hne : Nat.toDigits 10 (m / 10) ≠ [] := Nat.toDigits_ne_nil
      obtain ⟨c, cs, hcs⟩ := List.exists_cons_of_ne_nil hne
      have hhead := ih (m / 10) (by omega) hm'
      rw [Nat.toDigits_of_base_le (by omega) (by omega), hcs]
      rw [hcs] at hhead
      exact hhead

private theorem spanDigits_of_all {ds : List Char} (h : ∀ c ∈ ds, c.isDigit) :
    spanDigits ds = (ds, []) := by
  induction ds with
  | nil => rfl
  | cons c cs ih =>
    simp [h c List.mem_cons_self, ih fun d hd => h d (List.mem_cons_of_mem c hd)]

private theorem readUnsigned_toDigits (negative : Bool) (m : Nat) :
    readUnsigned negative (Nat.toDigits 10 m) =
      some (⟨negative, Nat.toDigits 10 m, none, none⟩, []) := by
  have hdigits : ∀ c ∈ Nat.toDigits 10 m, c.isDigit :=
    fun c hc => Nat.isDigit_of_mem_toDigits (by decide) (by decide) hc
  have hplain :
      (1 < (Nat.toDigits 10 m).length && (Nat.toDigits 10 m).head? == some '0') = false := by
    by_cases hm : m = 0
    · subst hm
      rfl
    · simp [head?_toDigits_ne hm]
  unfold readUnsigned
  rw [spanDigits_of_all hdigits, hplain]
  simp [Nat.toDigits_ne_nil, readFraction, readExponent]

theorem whole_readsBack {n : Int} (hlow : -9223372036854775808 ≤ n)
    (hhigh : n < 18446744073709551616) : ReadsBack (.whole n) := by
  cases n with
  | ofNat m =>
    refine ⟨⟨false, Nat.toDigits 10 m, none, none⟩, ?_, ?_⟩
    · have htext : numberText (.whole (Int.ofNat m)) = Nat.toDigits 10 m := by
        have hpos : 0 ≤ Int.ofNat m := Int.natCast_nonneg m
        rw [numberText, Int.toString_eq_repr, Int.repr_eq_if, if_pos hpos]
        exact Nat.toList_repr
      have hminus : (Nat.toDigits 10 m).head? ≠ some '-' := by
        intro h
        have hd := Nat.isDigit_of_mem_toDigits (b := 10) (by decide) (by decide)
          (List.mem_of_mem_head? h)
        exact absurd hd (by decide)
      rw [htext, readNumeral_unsigned hminus, readUnsigned_toDigits]
    · have hm : m < Nat.pow 2 64 := by
        have hbelow : (m : Int) < 18446744073709551616 := hhigh
        change m < 2 ^ 64
        omega
      simp [ofNumeral, Numeral.integer?, Text.digitsValue_toDigits, hm]
  | negSucc m =>
    refine ⟨⟨true, Nat.toDigits 10 (m + 1), none, none⟩, ?_, ?_⟩
    · have htext : numberText (.whole (Int.negSucc m)) = '-' :: Nat.toDigits 10 (m + 1) := by
        rw [numberText, Int.toString_eq_repr, Int.repr_eq_if, if_neg (by omega)]
        simp [Nat.toList_repr, Int.neg_negSucc]
      rw [htext, readNumeral_minus, readUnsigned_toDigits]
    · have hm : m + 1 ≤ Nat.pow 2 63 := by
        change m + 1 ≤ 2 ^ 63
        omega
      simp [ofNumeral, Numeral.integer?, Text.digitsValue_toDigits, hm, Int.negSucc_eq]

/-- Only finite numbers are read back: the text of the others is no number. -/
theorem ReadsBack.isFinite {x : Binary64} (h : ReadsBack (.real x)) : x.isFinite := by
  obtain ⟨m, hread, -⟩ := h
  by_cases hx : x.isFinite
  · exact hx
  · simp only [numberText, hx, Bool.false_eq_true, if_false] at hread
    cases hread

end LakehouseSql.Json
