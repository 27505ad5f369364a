import LakehouseSql.Proofs.Sql.Splice
import LakehouseSql.Proofs.Text.Trim
/-! # The first word of a text

The word that SQL text begins with behind blanks and comments. Blanks at the ends of the text do
not matter for it.
-/
namespace LakehouseSql.Sql

/-- The word at the front, behind blanks and comments. -/
def leadingWord? : List Char → Option String
  | [] => none
  | c :: cs =>
    if Text.isBlank c then leadingWord? cs
    else
      match _h : firstToken c cs with
      | some (.comment, rest) => leadingWord? rest
      | some (.word w, _) => some w
      | _ => none
termination_by cs => cs.length
decreasing_by
  · simp
  · have hlen := length_firstToken _h
    simp only [List.length_cons]
    omega

@[simp] theorem leadingWord?_nil : leadingWord? [] = none := by
  rw [leadingWord?.eq_def]

section
variable {c : Char} {cs ds rest : List Char} {w : String}

theorem leadingWord?_blank (h : Text.isBlank c = true) (cs : List Char) :
    leadingWord? (c :: cs) = leadingWord? cs := by
  rw [leadingWord?.eq_def]
  exact if_pos h

private theorem leadingWord?_cons (hblank : Text.isBlank c = false) (cs : List Char) :
    leadingWord? (c :: cs) = (firstToken c cs).bind fun (t, rest) =>
      match t with
      | .comment => leadingWord? rest
      | .word w => some w
      | _ => none := by
  rw [leadingWord?.eq_def]
  refine (if_neg (by simp [hblank])).trans ?_
  split
  · rename_i hfirst
    rw [hfirst, Option.bind_some]
  · rename_i hfirst
    rw [hfirst, Option.bind_some]
  · rename_i hcomment hword
    cases hfirst : firstToken c cs with
    | none => rfl
    | some first =>
      obtain ⟨t, rest⟩ := first
      cases t with
      | comment => exact absurd hfirst (hcomment rest)
      | word w => exact absurd hfirst (hword w rest)
      | name | literal | sign => rfl

theorem leadingWord?_lineComment (cs : List Char) :
    leadingWord? ('-' :: '-' :: cs) = leadingWord? (cs.dropWhile (· != '\n')) := by
  rw [leadingWord?_cons (by decide), firstToken_lineComment, Option.bind_some]

theorem leadingWord?_enclosed (cs : List Char) :
    leadingWord? ('/' :: '*' :: cs) = (skipComment 0 cs).bind leadingWord? := by
  rw [leadingWord?_cons (by decide), firstToken_enclosed, Option.bind_map]
  rfl

/-- A text without a comment in front begins with a word if its first character is one of words. -/
theorem leadingWord?_other (hblank : Text.isBlank c = false)
    (hcomment : ¬BeginsWithComment (c :: cs)) :
    leadingWord? (c :: cs) =
      if isWordChar c then some (String.ofList (c :: cs.takeWhile isWordChar)) else none := by
  rw [leadingWord?_cons hblank]
  by_cases hquote : c = '\'' ∨ c = '['
  · rcases hquote with rfl | rfl
    · cases hscan : scanQuoted '\'' cs <;> simp [firstToken, hscan, isWordChar]
    · cases hscan : scanQuoted ']' cs <;> simp [firstToken, hscan, isWordChar]
  obtain ⟨hquote, hbracket⟩ := not_or.mp hquote
  rw [firstToken_other hquote hbracket hcomment]
  split <;> rfl

theorem leadingWord?_blanks (h : ∀ d ∈ ds, Text.isBlank d = true) (cs : List Char) :
    leadingWord? (ds ++ cs) = leadingWord? cs := by
  induction ds with
  | nil => rfl
  | cons d ds ih =>
    obtain ⟨hd, hds⟩ := List.forall_mem_cons.mp h
    rw [List.cons_append, leadingWord?_blank hd, ih hds]

private theorem not_mem_blanks (hds : ∀ d ∈ ds, Text.isBlank d = true) {d : Char}
    (hd : Text.isBlank d = false) : d ∉ ds := by
  intro hmem
  cases hd.symm.trans (hds d hmem)

private theorem leadingWord?_append_other (hds : Parted ds) (hstar : ds.head? ≠ some '*')
    (hblank : Text.isBlank c = false) (hcomment : ¬BeginsWithComment (c :: cs)) :
    leadingWord? (c :: (cs ++ ds)) = leadingWord? (c :: cs) := by
  have hcomment' : ¬BeginsWithComment (c :: (cs ++ ds)) :=
    mt (beginsWithComment_append_iff hds hstar).mp hcomment
  obtain ⟨htake, -⟩ := hds.span cs
  rw [leadingWord?_other hblank hcomment, leadingWord?_other hblank hcomment', htake]

theorem leadingWord?_append_blanks (hds : ∀ d ∈ ds, Text.isBlank d = true) (cs : List Char) :
    leadingWord? (cs ++ ds) = leadingWord? cs := by
  have hslash : '/' ∉ ds := not_mem_blanks hds (by decide)
  have hstar : '*' ∉ ds := not_mem_blanks hds (by decide)
  induction hlen : cs.length using Nat.strong_induction_on generalizing cs with
  | _ n ih =>
    subst hlen
    cases cs with
    | nil => simpa using leadingWord?_blanks hds []
    | cons c cs =>
      rw [List.cons_append]
      by_cases hblank : Text.isBlank c = true
      · rw [leadingWord?_blank hblank, leadingWord?_blank hblank, ih cs.length (by simp) cs rfl]
      by_cases hcomment : BeginsWithComment (c :: cs)
      · rcases beginsWithComment_cons_iff.mp hcomment with ⟨rfl, hhead⟩ | ⟨rfl, hhead⟩
        all_goals
          obtain ⟨cs, rfl⟩ := List.head?_eq_some_iff.mp hhead
          rw [List.cons_append]
        · rw [leadingWord?_lineComment, leadingWord?_lineComment, List.dropWhile_append]
          split
          · -- the comment goes on to the end, so there is nothing but blanks behind it
            rename_i hempty
            have hrest : ∀ d ∈ ds.dropWhile (· != '\n'), Text.isBlank d = true :=
              fun d hd => hds d ((List.dropWhile_sublist _).mem hd)
            rw [List.isEmpty_iff.mp hempty]
            simpa using leadingWord?_blanks hrest []
          · have hlength := length_dropWhile_le (· != '\n') cs
            exact ih _ (by simp only [List.length_cons]; omega) _ rfl
        · rw [leadingWord?_enclosed, leadingWord?_enclosed,
            skipComment_append (.inr ⟨hslash, hstar⟩)]
          cases hrest : skipComment 0 cs with
          | none => rfl
          | some rest =>
            have hlength := length_skipComment hrest
            exact ih _ (by simp only [List.length_cons]; omega) rest rfl
      · have hhead : ds.head? ≠ some '*' := mt List.mem_of_head? hstar
        exact leadingWord?_append_other (parted_blanks hds) hhead (by simpa using hblank) hcomment

theorem leadingWord?_trim (s : String) :
    leadingWord? (Text.trim s).toList = leadingWord? s.toList := by
  obtain ⟨front, back, hs, hfront, hback, -⟩ := Text.exists_trim_eq s
  rw [hs, leadingWord?_blanks hfront, leadingWord?_append_blanks hback]

end

end LakehouseSql.Sql
