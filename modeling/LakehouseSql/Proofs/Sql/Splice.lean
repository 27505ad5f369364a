import LakehouseSql.Proofs.Sql.Reading
/-! # Text put behind other text

What stands behind a text that has tokens is read on its own, unless the text ends in a comment
that runs to the end of its line: then what follows is part of the comment, up to the first line
break of its own.
-/
namespace LakehouseSql.Sql

/-- The text begins with the signs that open a comment. -/
def BeginsWithComment (cs : List Char) : Prop :=
  ['-', '-'] <+: cs ∨ ['/', '*'] <+: cs

instance (cs : List Char) : Decidable (BeginsWithComment cs) :=
  inferInstanceAs (Decidable (_ ∨ _))

/-- A token at the end of a text that goes on with what follows, up to a line break. -/
def isOpenLineComment (c : Char) (t : Token) (rest : List Char) : Bool :=
  c == '-' && t == .comment && rest.isEmpty

/-- The text ends in a comment that runs to the end of the line. -/
def endsInLineComment : List Char → Bool
  | [] => false
  | c :: cs =>
    if Text.isBlank c then endsInLineComment cs
    else
      match _h : firstToken c cs with
      | none => false
      | some (t, rest) => isOpenLineComment c t rest || endsInLineComment rest
termination_by cs => cs.length
decreasing_by
  · simp
  · have hlen := length_firstToken _h
    simp only [List.length_cons]
    omega

/-- What is left of a text for tokens of its own behind another one. -/
def leftBehind (cs ds : List Char) : List Char :=
  if endsInLineComment cs then ds.dropWhile (· != '\n') else ds

@[simp] theorem endsInLineComment_nil : endsInLineComment [] = false := by
  rw [endsInLineComment.eq_def]

section
variable {c : Char} {cs ds rest : List Char} {t : Token} {toks : List Token}

theorem beginsWithComment_cons_iff : BeginsWithComment (c :: cs) ↔
    c = '-' ∧ cs.head? = some '-' ∨ c = '/' ∧ cs.head? = some '*' := by
  cases cs <;> simp [BeginsWithComment, List.cons_prefix_cons, eq_comm]

/-- What cannot be the second sign of a comment opens none with what stands before. -/
theorem beginsWithComment_append_iff (hds : Parted ds) (hstar : ds.head? ≠ some '*') :
    BeginsWithComment (c :: (cs ++ ds)) ↔ BeginsWithComment (c :: cs) := by
  cases cs with
  | nil => simp [beginsWithComment_cons_iff, hds.calm.2.2, hstar]
  | cons d cs => simp [beginsWithComment_cons_iff]

theorem endsInLineComment_blank (h : Text.isBlank c = true) (cs : List Char) :
    endsInLineComment (c :: cs) = endsInLineComment cs := by
  rw [endsInLineComment.eq_def]
  exact if_pos h

theorem endsInLineComment_cons (hblank : Text.isBlank c = false)
    (h : firstToken c cs = some (t, rest)) :
    endsInLineComment (c :: cs) = (isOpenLineComment c t rest || endsInLineComment rest) := by
  rw [endsInLineComment.eq_def]
  refine (if_neg (by simp [hblank])).trans ?_
  split
  · rename_i hnone
    cases h.symm.trans hnone
  · rename_i hsome
    cases h.symm.trans hsome
    rfl

theorem scanQuoted_append {close : Char} {s : List Char} (hds : ds.head? ≠ some close)
    (h : scanQuoted close cs = some (s, rest)) :
    scanQuoted close (cs ++ ds) = some (s, rest ++ ds) := by
  fun_induction scanQuoted close cs generalizing s rest with
  | case1 => cases h
  | case2 =>
    cases h
    exact scanQuoted_close hds
  | case3 => cases h
  | case4 cs ih =>
    obtain ⟨⟨s', rest'⟩, hs, heq⟩ := Option.map_eq_some_iff.mp h
    cases heq
    rw [List.cons_append, List.cons_append, scanQuoted_doubled, ih hs, Option.map_some]
  | case5 d cs hd =>
    cases h
    exact scanQuoted_close (by simpa using hd)
  | case6 c d cs hc ih =>
    obtain ⟨⟨s', rest'⟩, hs, heq⟩ := Option.map_eq_some_iff.mp h
    cases heq
    rw [List.cons_append, scanQuoted_other hc, ih hs, Option.map_some]

private theorem skipComment_eq_none {depth : Nat} (h : '/' ∉ cs) : skipComment depth cs = none := by
  fun_induction skipComment depth cs with
  | case1 => rfl
  | case2 cs => simp at h
  | case3 depth cs ih => simp at h
  | case4 depth cs ih => simp at h
  | case5 depth c cs hclose hnested hopen ih => exact ih (mt (List.mem_cons_of_mem c) h)

/-- A comment ends where it did before, and what has none of the signs for it ends no comment. -/
theorem skipComment_append {depth : Nat}
    (h : (skipComment depth cs).isSome ∨ '/' ∉ ds ∧ '*' ∉ ds) :
    skipComment depth (cs ++ ds) = (skipComment depth cs).map (· ++ ds) := by
  fun_induction skipComment depth cs with
  | case1 =>
    obtain ⟨hslash, -⟩ := h.resolve_left (by simp)
    exact skipComment_eq_none hslash
  | case2 cs => rw [List.cons_append, List.cons_append, skipComment, Option.map_some]
  | case3 depth cs ih => rw [List.cons_append, List.cons_append, skipComment, ih h]
  | case4 depth cs ih => rw [List.cons_append, List.cons_append, skipComment, ih h]
  | case5 depth c cs hclose hnested hopen ih =>
    -- what opens or closes nothing before the end of the text does not with more behind it
    have hstep : skipComment depth (c :: (cs ++ ds)) = skipComment depth (cs ++ ds) := by
      cases cs with
      | nil =>
        obtain ⟨hslash, hstar⟩ := h.resolve_left (by simp [skipComment])
        rw [skipComment]
        · rintro rest - rfl
          simp at hstar
        · rintro rest - - rfl
          simp at hslash
        · rintro depth rest - - rfl
          simp at hslash
      | cons d cs =>
        have hbefore {e : Char} {es : List Char} (h : d :: (cs ++ ds) = e :: es) :
            d :: cs = e :: cs := (List.cons.inj h).1 ▸ rfl
        rw [skipComment]
        · exact fun _ hc hd => hopen _ hc (hbefore hd)
        · exact fun _ hdepth hc hd => hclose _ hdepth hc (hbefore hd)
        · exact fun _ _ hdepth hc hd => hnested _ _ hdepth hc (hbefore hd)
    rw [List.cons_append, hstep, ih h]

theorem firstToken_lineComment (cs : List Char) :
    firstToken '-' ('-' :: cs) = some (.comment, cs.dropWhile (· != '\n')) := by
  simp [firstToken]

theorem firstToken_enclosed (cs : List Char) :
    firstToken '/' ('*' :: cs) = (skipComment 0 cs).map fun rest => (.comment, rest) := by
  simp [firstToken]

theorem firstToken_other (hquote : c ≠ '\'') (hbracket : c ≠ '[')
    (hcomment : ¬BeginsWithComment (c :: cs)) :
    firstToken c cs =
      if isWordChar c then
        some (.word (String.ofList (c :: cs.takeWhile isWordChar)), cs.dropWhile isWordChar)
      else some (.sign c, cs) := by
  simp only [beginsWithComment_cons_iff, not_or] at hcomment
  rw [firstToken, if_neg hquote, if_neg hbracket, if_neg hcomment.1, if_neg hcomment.2]

private theorem firstToken_comment_append (hcomment : BeginsWithComment (c :: cs))
    (h : firstToken c cs = some (t, rest)) :
    firstToken c (cs ++ ds) = some (t,
      if isOpenLineComment c t rest then ds.dropWhile (· != '\n') else rest ++ ds) := by
  rcases beginsWithComment_cons_iff.mp hcomment with ⟨rfl, hhead⟩ | ⟨rfl, hhead⟩
  all_goals obtain ⟨cs, rfl⟩ := List.head?_eq_some_iff.mp hhead
  · rw [firstToken_lineComment] at h
    cases h
    rw [List.cons_append, firstToken_lineComment]
    simp [isOpenLineComment, List.dropWhile_append]
  · rw [firstToken_enclosed] at h
    obtain ⟨rest, hskip, heq⟩ := Option.map_eq_some_iff.mp h
    cases heq
    have happend : skipComment 0 (cs ++ ds) = some (rest ++ ds) := by
      rw [skipComment_append (.inl (by simp [hskip])), hskip, Option.map_some]
    rw [List.cons_append, firstToken_enclosed, happend]
    simp [isOpenLineComment]

private theorem firstToken_quoted_append (hds : Parted ds) (hquote : c = '\'' ∨ c = '[')
    (h : firstToken c cs = some (t, rest)) : firstToken c (cs ++ ds) = some (t, rest ++ ds) := by
  rcases hquote with rfl | rfl
  all_goals
    obtain ⟨⟨s, rest⟩, hs, heq⟩ := Option.map_eq_some_iff.mp h
    cases heq
  · simp [firstToken, scanQuoted_append hds.calm.1 hs]
  · simp [firstToken, scanQuoted_append hds.calm.2.1 hs]

private theorem firstToken_other_append (hds : Parted ds) (hstar : ds.head? ≠ some '*')
    (hquote : c ≠ '\'') (hbracket : c ≠ '[') (hcomment : ¬BeginsWithComment (c :: cs))
    (h : firstToken c cs = some (t, rest)) : firstToken c (cs ++ ds) = some (t, rest ++ ds) := by
  have hcomment' : ¬BeginsWithComment (c :: (cs ++ ds)) :=
    mt (beginsWithComment_append_iff hds hstar).mp hcomment
  rw [firstToken_other hquote hbracket hcomment] at h
  rw [firstToken_other hquote hbracket hcomment']
  by_cases hword : isWordChar c = true
  · rw [if_pos hword] at h ⊢
    cases h
    obtain ⟨htake, hdrop⟩ := hds.span cs
    rw [htake, hdrop]
  · rw [if_neg hword] at h ⊢
    cases h
    rfl

theorem beginsWithComment_of_isOpenLineComment (h : firstToken c cs = some (t, rest))
    (hopen : isOpenLineComment c t rest = true) : BeginsWithComment (c :: cs) := by
  simp only [isOpenLineComment, Bool.and_eq_true, beq_iff_eq] at hopen
  obtain ⟨⟨rfl, rfl⟩, -⟩ := hopen
  by_contra hcomment
  rw [firstToken_other (by decide) (by decide) hcomment] at h
  split at h
  all_goals cases h

/-- The first token stays, and what follows stands behind what it left, unless the token is a
comment that takes it as well. -/
theorem firstToken_spliced (hds : Parted ds) (hstar : ds.head? ≠ some '*')
    (h : firstToken c cs = some (t, rest)) :
    firstToken c (cs ++ ds) = some (t,
      if isOpenLineComment c t rest then ds.dropWhile (· != '\n') else rest ++ ds) := by
  by_cases hcomment : BeginsWithComment (c :: cs)
  · exact firstToken_comment_append hcomment h
  rw [if_neg (mt (beginsWithComment_of_isOpenLineComment h) hcomment)]
  by_cases hquote : c = '\'' ∨ c = '['
  · exact firstToken_quoted_append hds hquote h
  · obtain ⟨hquote, hbracket⟩ := not_or.mp hquote
    exact firstToken_other_append hds hstar hquote hbracket hcomment h

/-- The tokens of a text come first, whatever follows that does not run into the last of them. -/
theorem tokens_append (hds : Parted ds) (hstar : ds.head? ≠ some '*')
    (h : tokens cs = some toks) :
    tokens (cs ++ ds) = (tokens (leftBehind cs ds)).map (toks ++ ·) := by
  fun_induction tokens cs generalizing toks with
  | case1 =>
    cases h
    simp [leftBehind]
  | case2 c cs hblank ih =>
    rw [List.cons_append, tokens_blank hblank, ih h, leftBehind, leftBehind,
      endsInLineComment_blank hblank]
  | case3 c cs hblank hnone => cases h
  | case4 c cs hblank t rest hfirst ih =>
    obtain ⟨toks, htoks, rfl⟩ := Option.map_eq_some_iff.mp h
    have hblank : Text.isBlank c = false := by simpa using hblank
    rw [List.cons_append, tokens_cons hblank (firstToken_spliced hds hstar hfirst)]
    by_cases hopen : isOpenLineComment c t rest = true
    · -- nothing is left behind the comment, and it takes what follows with it
      have hrest : rest = [] := by
        simp only [isOpenLineComment, Bool.and_eq_true, List.isEmpty_iff] at hopen
        exact hopen.2
      subst hrest
      cases tokens_nil.symm.trans htoks
      rw [if_pos hopen, leftBehind, endsInLineComment_cons hblank hfirst, hopen, Bool.true_or,
        if_pos rfl]
      rfl
    · have hends : endsInLineComment (c :: cs) = endsInLineComment rest := by
        rw [endsInLineComment_cons hblank hfirst, Bool.eq_false_iff.mpr hopen, Bool.false_or]
      rw [if_neg hopen, ih htoks, leftBehind, leftBehind, hends, Option.map_map]
      rfl

end

end LakehouseSql.Sql
