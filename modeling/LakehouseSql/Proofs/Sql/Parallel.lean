import LakehouseSql.Proofs.Sql.Token
import LakehouseSql.Proofs.Text.Ascii
/-! # Texts that differ in literals only

Two texts are parallel if they are made of the same pieces, apart from some literals, and no piece
runs into the one behind it: behind a name or a literal no closing sign follows that would go on
with it, and behind a hyphen no other hyphen. Parallel texts have the same tokens, apart from those
literals, and none of the tokens is a comment.
-/
namespace LakehouseSql.Sql

/-- Token by token the same, apart from literals that are the given texts in their order. -/
inductive DifferInLiterals : List String → List String → List Token → List Token → Prop where
  | nil : DifferInLiterals [] [] [] []
  | same {ts ts' : List String} {toks toks' : List Token} (t : Token)
      (h : DifferInLiterals ts ts' toks toks') :
      DifferInLiterals ts ts' (t :: toks) (t :: toks')
  | literal {ts ts' : List String} {toks toks' : List Token} (s s' : String)
      (h : DifferInLiterals ts ts' toks toks') :
      DifferInLiterals (s :: ts) (s' :: ts') (.literal s :: toks) (.literal s' :: toks')

/-- Signs that belong to no name, literal or comment, whatever stands around them. -/
def isPlain (c : Char) : Bool :=
  c != '\'' && c != '[' && c != ']' && c != '-' && c != '/'

/-- No character at the front goes on with a name, a literal or a hyphen that stands before. -/
def Calm (cs : List Char) : Prop :=
  cs.head? ≠ some '\'' ∧ cs.head? ≠ some ']' ∧ cs.head? ≠ some '-'

inductive Parallel : List Char → List Char → List String → List String → Prop where
  | nil : Parallel [] [] [] []
  | plain {cs cs' : List Char} {ts ts' : List String} {c : Char} (hc : isPlain c = true)
      (h : Parallel cs cs' ts ts') : Parallel (c :: cs) (c :: cs') ts ts'
  | hyphen {cs cs' : List Char} {ts ts' : List String} (hcalm : Calm cs) (hcalm' : Calm cs')
      (h : Parallel cs cs' ts ts') : Parallel ('-' :: cs) ('-' :: cs') ts ts'
  | name {cs cs' : List Char} {ts ts' : List String} {n : List Char} (hn : ']' ∉ n)
      (hcalm : Calm cs) (hcalm' : Calm cs') (h : Parallel cs cs' ts ts') :
      Parallel ('[' :: (n ++ ']' :: cs)) ('[' :: (n ++ ']' :: cs')) ts ts'
  | fixed {cs cs' : List Char} {ts ts' : List String} (s : String) (hcalm : Calm cs)
      (hcalm' : Calm cs') (h : Parallel cs cs' ts ts') :
      Parallel ('\'' :: (Literal.doubleQuotes s.toList ++ '\'' :: cs))
        ('\'' :: (Literal.doubleQuotes s.toList ++ '\'' :: cs')) ts ts'
  | literal {cs cs' : List Char} {ts ts' : List String} (s s' : String) (hcalm : Calm cs)
      (hcalm' : Calm cs') (h : Parallel cs cs' ts ts') :
      Parallel ('\'' :: (Literal.doubleQuotes s.toList ++ '\'' :: cs))
        ('\'' :: (Literal.doubleQuotes s'.toList ++ '\'' :: cs')) (s :: ts) (s' :: ts')

/-- Both texts have tokens, as many of them, which differ in literals only, and none of them is a
comment. -/
def Alike (cs cs' : List Char) (ts ts' : List String) : Prop :=
  ∃ toks toks', tokens cs = some toks ∧ tokens cs' = some toks' ∧ .comment ∉ toks ∧
    .comment ∉ toks' ∧ toks.length = toks'.length ∧ DifferInLiterals ts ts' toks toks'

section
variable {cs cs' : List Char} {ts ts' : List String}

private theorem Alike.same {c : Char} {rest rest' : List Char} {t : Token}
    (h : Alike rest rest' ts ts') (hblank : Text.isBlank c = false)
    (hfirst : firstToken c cs = some (t, rest)) (hfirst' : firstToken c cs' = some (t, rest'))
    (ht : t ≠ .comment) :
    Alike (c :: cs) (c :: cs') ts ts' := by
  obtain ⟨toks, toks', htoks, htoks', hnone, hnone', hlength, hdiffer⟩ := h
  refine ⟨t :: toks, t :: toks', ?_, ?_, ?_, ?_, congrArg (· + 1) hlength, .same t hdiffer⟩
  · rw [tokens_cons hblank hfirst, htoks, Option.map_some]
  · rw [tokens_cons hblank hfirst', htoks', Option.map_some]
  · simp [hnone, ht.symm]
  · simp [hnone', ht.symm]

private theorem Alike.literal {s s' : String} {rest rest' : List Char}
    (h : Alike rest rest' ts ts')
    (hfirst : firstToken '\'' cs = some (.literal s, rest))
    (hfirst' : firstToken '\'' cs' = some (.literal s', rest')) :
    Alike ('\'' :: cs) ('\'' :: cs') (s :: ts) (s' :: ts') := by
  obtain ⟨toks, toks', htoks, htoks', hnone, hnone', hlength, hdiffer⟩ := h
  refine ⟨.literal s :: toks, .literal s' :: toks', ?_, ?_, ?_, ?_, congrArg (· + 1) hlength,
    .literal s s' hdiffer⟩
  · rw [tokens_cons (by decide) hfirst, htoks, Option.map_some]
  · rw [tokens_cons (by decide) hfirst', htoks', Option.map_some]
  · simp [hnone]
  · simp [hnone']

theorem firstToken_literal (s : String) (hcs : Calm cs) :
    firstToken '\'' (Literal.doubleQuotes s.toList ++ '\'' :: cs) = some (.literal s, cs) := by
  rw [firstToken, if_pos rfl, scanQuoted_doubleQuotes s.toList hcs.1, Option.map_some]
  dsimp only
  rw [String.ofList_toList]

theorem firstToken_name {n : List Char} (hn : ']' ∉ n) (hcs : Calm cs) :
    firstToken '[' (n ++ ']' :: cs) = some (.name (String.ofList n), cs) := by
  rw [firstToken, if_neg (by decide), if_pos rfl, scanQuoted_name hn hcs.2.1, Option.map_some]

theorem firstToken_hyphen (hcs : Calm cs) : firstToken '-' cs = some (.sign '-', cs) := by
  simp [firstToken, hcs.2.2, isWordChar]

theorem firstToken_plain {c : Char} (hc : isPlain c = true) (cs : List Char) :
    firstToken c cs =
      if isWordChar c then
        some (.word (String.ofList (c :: cs.takeWhile isWordChar)), cs.dropWhile isWordChar)
      else some (.sign c, cs) := by
  simp only [isPlain, Bool.and_eq_true, bne_iff_ne] at hc
  obtain ⟨⟨⟨⟨hquote, hbracket⟩, -⟩, hhyphen⟩, hslash⟩ := hc
  rw [firstToken, if_neg hquote, if_neg hbracket, if_neg (fun h => hhyphen h.1),
    if_neg (fun h => hslash h.1)]

theorem not_blank_of_isWordChar {c : Char} (h : isWordChar c = true) :
    Text.isBlank c = false := by
  simp only [isWordChar, Bool.or_eq_true, Bool.and_eq_true, Bool.not_eq_true', beq_iff_eq] at h
  rcases h with ((((h | rfl) | rfl) | rfl) | rfl) | h
  · exact Text.not_isBlank_of_isAlphanum h
  · decide
  · decide
  · decide
  · decide
  · exact h.2

private theorem Alike.behind_sign {c : Char} (hc : isWordChar c = false)
    (h : Alike (c :: cs) (c :: cs') ts ts') :
    Alike (c :: cs) (c :: cs') ts ts' ∧
      (c :: cs).takeWhile isWordChar = (c :: cs').takeWhile isWordChar ∧
      Alike ((c :: cs).dropWhile isWordChar) ((c :: cs').dropWhile isWordChar) ts ts' := by
  rw [List.takeWhile_cons_of_neg (by simp [hc]), List.takeWhile_cons_of_neg (by simp [hc]),
    List.dropWhile_cons_of_neg (by simp [hc]), List.dropWhile_cons_of_neg (by simp [hc])]
  exact ⟨h, rfl, h⟩

private theorem Parallel.alike_behind_word (h : Parallel cs cs' ts ts') :
    Alike cs cs' ts ts' ∧ cs.takeWhile isWordChar = cs'.takeWhile isWordChar ∧
      Alike (cs.dropWhile isWordChar) (cs'.dropWhile isWordChar) ts ts' := by
  -- also for what follows a word at the front, because a word may go on in the next piece
  induction h with
  | nil =>
    have hnil : Alike [] [] [] [] := ⟨[], [], tokens_nil, tokens_nil, nofun, nofun, rfl, .nil⟩
    exact ⟨hnil, rfl, hnil⟩
  | @plain cs cs' ts ts' c hc h ih =>
    obtain ⟨hall, htake, hdrop⟩ := ih
    by_cases hword : isWordChar c = true
    · have hfirst := firstToken_plain hc cs
      have hfirst' := firstToken_plain hc cs'
      rw [if_pos hword] at hfirst hfirst'
      rw [← htake] at hfirst'
      rw [List.takeWhile_cons_of_pos hword, List.takeWhile_cons_of_pos hword,
        List.dropWhile_cons_of_pos hword, List.dropWhile_cons_of_pos hword, htake]
      exact ⟨hdrop.same (not_blank_of_isWordChar hword) hfirst hfirst' nofun, rfl, hdrop⟩
    · refine Alike.behind_sign (by simpa using hword) ?_
      by_cases hblank : Text.isBlank c = true
      · obtain ⟨toks, toks', htoks, htoks', hrest⟩ := hall
        exact ⟨toks, toks', (tokens_blank hblank cs).trans htoks,
          (tokens_blank hblank cs').trans htoks', hrest⟩
      · have hfirst := firstToken_plain hc cs
        have hfirst' := firstToken_plain hc cs'
        rw [if_neg hword] at hfirst hfirst'
        exact hall.same (by simpa using hblank) hfirst hfirst' nofun
  | hyphen hcalm hcalm' h ih =>
    exact (ih.1.same (by decide) (firstToken_hyphen hcalm)
      (firstToken_hyphen hcalm') nofun).behind_sign (by decide)
  | name hn hcalm hcalm' h ih =>
    exact (ih.1.same (by decide) (firstToken_name hn hcalm)
      (firstToken_name hn hcalm') nofun).behind_sign (by decide)
  | fixed s hcalm hcalm' h ih =>
    exact (ih.1.same (by decide) (firstToken_literal s hcalm)
      (firstToken_literal s hcalm') nofun).behind_sign (by decide)
  | literal s s' hcalm hcalm' h ih =>
    exact (ih.1.literal (firstToken_literal s hcalm)
      (firstToken_literal s' hcalm')).behind_sign (by decide)

/-- Parallel texts have tokens, and these are the same apart from the literals. -/
theorem Parallel.alike (h : Parallel cs cs' ts ts') : Alike cs cs' ts ts' :=
  h.alike_behind_word.1

end

end LakehouseSql.Sql
