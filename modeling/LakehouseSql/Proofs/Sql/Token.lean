import LakehouseSql.Statement.Basic
import LakehouseSql.Text.Basic
/-! # Tokens of SQL text

The tokens that a warehouse takes SQL text apart into: words, names in brackets, literals in
quotes, comments, and all other signs one by one. In a name and in a literal the closing sign that
stands there twice stands for itself. Comments run from two hyphens to the end of the line, or are
enclosed and may hold further comments. A text that ends inside a name, a literal or an enclosed
comment has no tokens.
-/
namespace LakehouseSql.Sql

inductive Token where
  | word (s : String)
  | name (s : String)
  | literal (s : String)
  | comment
  | sign (c : Char)
  deriving DecidableEq

/-- What stands before a closing sign, and what follows it. -/
def scanQuoted (close : Char) : List Char → Option (List Char × List Char)
  | [] => none
  | [c] => if c = close then some ([], []) else none
  | c :: d :: cs =>
    if c = close then
      if d = close then (scanQuoted close cs).map fun (s, rest) => (close :: s, rest)
      else some ([], d :: cs)
    else (scanQuoted close (d :: cs)).map fun (s, rest) => (c :: s, rest)

/-- What follows an enclosed comment in which `depth` further comments are open. -/
def skipComment : Nat → List Char → Option (List Char)
  | _, [] => none
  | 0, '*' :: '/' :: cs => some cs
  | depth + 1, '*' :: '/' :: cs => skipComment depth cs
  | depth, '/' :: '*' :: cs => skipComment (depth + 1) cs
  | depth, _ :: cs => skipComment depth cs

/-- The characters of words: letters and digits of all scripts, and some signs. -/
def isWordChar (c : Char) : Bool :=
  c.isAlphanum || c == '_' || c == '@' || c == '#' || c == '$' ||
    (0x80 ≤ c.toNat && !Text.isBlank c)

/-- The token that begins with a character, and what follows it. -/
def firstToken (c : Char) (cs : List Char) : Option (Token × List Char) :=
  if c = '\'' then (scanQuoted '\'' cs).map fun (s, rest) => (.literal (String.ofList s), rest)
  else if c = '[' then (scanQuoted ']' cs).map fun (s, rest) => (.name (String.ofList s), rest)
  else if c = '-' ∧ cs.head? = some '-' then some (.comment, cs.dropWhile (· != '\n'))
  else if c = '/' ∧ cs.head? = some '*' then
    (skipComment 0 cs.tail).map fun rest => (.comment, rest)
  else if isWordChar c then
    some (.word (String.ofList (c :: cs.takeWhile isWordChar)), cs.dropWhile isWordChar)
  else some (.sign c, cs)

theorem length_scanQuoted {close : Char} {cs s rest : List Char}
    (h : scanQuoted close cs = some (s, rest)) : rest.length < cs.length := by
  fun_induction scanQuoted close cs generalizing s rest with
  | case1 => cases h
  | case2 => cases h; simp
  | case3 => cases h
  | case4 cs ih =>
    obtain ⟨⟨s', rest'⟩, hs, heq⟩ := Option.map_eq_some_iff.mp h
    cases heq
    have hlen := ih hs
    simp only [List.length_cons]
    omega
  | case5 => cases h; simp
  | case6 c d cs hc ih =>
    obtain ⟨⟨s', rest'⟩, hs, heq⟩ := Option.map_eq_some_iff.mp h
    cases heq
    have hlen := ih hs
    simp only [List.length_cons] at hlen ⊢
    omega

theorem length_skipComment {depth : Nat} {cs rest : List Char}
    (h : skipComment depth cs = some rest) : rest.length < cs.length := by
  fun_induction skipComment depth cs with
  | case1 => cases h
  | case2 cs => cases h; simp only [List.length_cons]; omega
  | case3 depth cs ih =>
    have hlen := ih h
    simp only [List.length_cons]
    omega
  | case4 depth cs ih =>
    have hlen := ih h
    simp only [List.length_cons]
    omega
  | case5 depth c cs _ _ _ ih =>
    have hlen := ih h
    simp only [List.length_cons]
    omega

theorem length_dropWhile_le (p : Char → Bool) (cs : List Char) :
    (cs.dropWhile p).length ≤ cs.length :=
  (List.dropWhile_sublist p).length_le

theorem length_firstToken {c : Char} {cs rest : List Char} {t : Token}
    (h : firstToken c cs = some (t, rest)) : rest.length ≤ cs.length := by
  unfold firstToken at h
  split at h
  · obtain ⟨⟨s, rest'⟩, hs, heq⟩ := Option.map_eq_some_iff.mp h
    cases heq
    exact Nat.le_of_lt (length_scanQuoted hs)
  · split at h
    · obtain ⟨⟨s, rest'⟩, hs, heq⟩ := Option.map_eq_some_iff.mp h
      cases heq
      exact Nat.le_of_lt (length_scanQuoted hs)
    · split at h
      · cases h
        exact length_dropWhile_le _ cs
      · split at h
        · obtain ⟨rest', hs, heq⟩ := Option.map_eq_some_iff.mp h
          cases heq
          exact Nat.le_trans (Nat.le_of_lt (length_skipComment hs)) (by simp)
        · split at h
          · cases h
            exact length_dropWhile_le _ cs
          · cases h
            exact Nat.le_refl _

/-- The tokens of a text, or none if it ends inside one. -/
def tokens : List Char → Option (List Token)
  | [] => some []
  | c :: cs =>
    if Text.isBlank c then tokens cs
    else
      match _h : firstToken c cs with
      | none => none
      | some (t, rest) => (tokens rest).map (t :: ·)
termination_by cs => cs.length
decreasing_by
  · simp
  · have hlen := length_firstToken _h
    simp only [List.length_cons]
    omega

@[simp] theorem tokens_nil : tokens [] = some [] := by
  rw [tokens.eq_def]

theorem tokens_blank {c : Char} (h : Text.isBlank c = true) (cs : List Char) :
    tokens (c :: cs) = tokens cs := by
  rw [tokens.eq_def]
  exact if_pos h

theorem tokens_cons {c : Char} {cs rest : List Char} {t : Token} (hblank : Text.isBlank c = false)
    (h : firstToken c cs = some (t, rest)) : tokens (c :: cs) = (tokens rest).map (t :: ·) := by
  rw [tokens.eq_def]
  refine (if_neg (by simp [hblank])).trans ?_
  split
  · rename_i hnone
    cases h.symm.trans hnone
  · rename_i hsome
    cases h.symm.trans hsome
    rfl

section
variable {close c : Char}

theorem scanQuoted_close {rest : List Char} (h : rest.head? ≠ some close) :
    scanQuoted close (close :: rest) = some ([], rest) := by
  cases rest with
  | nil => rw [scanQuoted, if_pos rfl]
  | cons d rest =>
    have hd : d ≠ close := fun hd => h (by rw [List.head?_cons, hd])
    rw [scanQuoted, if_pos rfl, if_neg hd]

theorem scanQuoted_doubled (cs : List Char) :
    scanQuoted close (close :: close :: cs) =
      (scanQuoted close cs).map fun (s, rest) => (close :: s, rest) := by
  rw [scanQuoted, if_pos rfl, if_pos rfl]

theorem scanQuoted_other (h : c ≠ close) (cs : List Char) :
    scanQuoted close (c :: cs) = (scanQuoted close cs).map fun (s, rest) => (c :: s, rest) := by
  cases cs with
  | nil => simp [scanQuoted, h]
  | cons d cs => rw [scanQuoted, if_neg h]

end

/-- Doubled quotes are passed over in pairs, so that none of them ends the literal. -/
theorem scanQuoted_doubleQuotes_append (s cs : List Char) :
    scanQuoted '\'' (Literal.doubleQuotes s ++ cs) =
      (scanQuoted '\'' cs).map fun (t, rest) => (s ++ t, rest) := by
  induction s with
  | nil => simp [Literal.doubleQuotes]
  | cons c s ih =>
    by_cases hc : c = '\''
    · rw [hc, Literal.doubleQuotes_quote, List.cons_append, List.cons_append, scanQuoted_doubled,
        ih, Option.map_map]
      rfl
    · rw [Literal.doubleQuotes_other hc, List.cons_append, scanQuoted_other hc, ih,
        Option.map_map]
      rfl

/-- A literal is read back as the text that it was written for. -/
theorem scanQuoted_doubleQuotes (s : List Char) {rest : List Char}
    (h : rest.head? ≠ some '\'') :
    scanQuoted '\'' (Literal.doubleQuotes s ++ '\'' :: rest) = some (s, rest) := by
  simp [scanQuoted_doubleQuotes_append, scanQuoted_close h]

theorem scanQuoted_name {s : List Char} (hs : ']' ∉ s) {rest : List Char}
    (h : rest.head? ≠ some ']') : scanQuoted ']' (s ++ ']' :: rest) = some (s, rest) := by
  induction s with
  | nil => exact scanQuoted_close h
  | cons c s ih =>
    obtain ⟨hc, hs⟩ := not_or.mp (mt List.mem_cons.mpr hs)
    rw [List.cons_append, scanQuoted_other (Ne.symm hc), ih hs, Option.map_some]

end LakehouseSql.Sql
