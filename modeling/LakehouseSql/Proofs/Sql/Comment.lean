import Mathlib.Data.List.Infix
import LakehouseSql.Proofs.Sql.Splice
/-! # Comments as blanks

A text is taken apart into the characters outside comments and the comments, each as a whole. With
one blank in the place of each comment it has the same tokens, apart from the comments themselves.
A literal, a name or an enclosed comment that is left open stays as it is.
-/
namespace LakehouseSql.Sql

/-- A character outside comments, or a whole comment. -/
inductive Cell where
  | char (c : Char)
  | comment (cs : List Char)
  deriving DecidableEq

namespace Cell

/-- What stands in the text. -/
def chars : Cell → List Char
  | char c => [c]
  | comment cs => cs

/-- What stands in the text once comments are blanked out. -/
def blanked : Cell → Char
  | char c => c
  | comment _ => ' '

end Cell

/-- The cells of the characters that a token takes. -/
def Token.cells (t : Token) (taken : List Char) : List Cell :=
  if t = .comment then [.comment taken] else taken.map .char

/-- The cells of a text. -/
def cells : List Char → List Cell
  | [] => []
  | c :: cs =>
    if Text.isBlank c then .char c :: cells cs
    else
      match _h : firstToken c cs with
      | none => (c :: cs).map .char
      | some (t, rest) => t.cells (c :: cs.take (cs.length - rest.length)) ++ cells rest
termination_by cs => cs.length
decreasing_by
  · simp
  · have hlen := length_firstToken _h
    simp only [List.length_cons]
    omega

/-- The text with one blank in the place of each comment. -/
def withoutComments (sql : String) : String :=
  String.ofList ((cells sql.toList).map Cell.blanked)

/-- A text in the place of another goes on in the same way, or with a blank. -/
def StandsIn (ds cs : List Char) : Prop :=
  ds.head? = cs.head? ∨ ds.head? = some ' '

section
variable {c : Char} {cs ds rest : List Char} {t : Token}

theorem StandsIn.head?_ne (h : StandsIn ds cs) {close : Char} (hclose : close ≠ ' ')
    (hcs : cs.head? ≠ some close) : ds.head? ≠ some close := by
  rcases h with h | h
  · rwa [h]
  · rw [h]
    exact fun heq => hclose (Option.some.inj heq).symm

/-- A word that ends before a text ends before what stands in for it. -/
theorem StandsIn.wordEnds (h : StandsIn ds (cs.dropWhile isWordChar)) :
    ds.takeWhile isWordChar = [] ∧ ds.dropWhile isWordChar = ds := by
  cases ds with
  | nil => exact ⟨rfl, rfl⟩
  | cons d ds =>
    have hd : isWordChar d = false := by
      rcases h with h | h
      · have hstops := List.head?_dropWhile_not isWordChar cs
        rw [← h] at hstops
        simpa using hstops
      · cases h
        decide
    simp [hd]

@[simp] theorem cells_nil : cells [] = [] := by
  rw [cells.eq_def]

theorem cells_blank (h : Text.isBlank c = true) (cs : List Char) :
    cells (c :: cs) = .char c :: cells cs := by
  rw [cells.eq_def]
  exact if_pos h

theorem cells_open (hblank : Text.isBlank c = false) (h : firstToken c cs = none) :
    cells (c :: cs) = (c :: cs).map .char := by
  rw [cells.eq_def]
  refine (if_neg (by simp [hblank])).trans ?_
  split
  · rfl
  · rename_i hsome
    cases h.symm.trans hsome

theorem cells_token {front : List Char} (hblank : Text.isBlank c = false)
    (h : firstToken c (front ++ rest) = some (t, rest)) :
    cells (c :: (front ++ rest)) = t.cells (c :: front) ++ cells rest := by
  have hfront : (front ++ rest).take ((front ++ rest).length - rest.length) = front := by simp
  rw [cells.eq_def]
  refine (if_neg (by simp [hblank])).trans ?_
  split
  · rename_i hnone
    cases h.symm.trans hnone
  · rename_i hsome
    cases h.symm.trans hsome
    rw [hfront]

@[simp] theorem flatMap_chars_map_char (cs : List Char) :
    (cs.map Cell.char).flatMap Cell.chars = cs := by
  rw [List.flatMap_map]
  exact List.flatMap_singleton' cs

@[simp] theorem map_blanked_map_char (cs : List Char) :
    (cs.map Cell.char).map Cell.blanked = cs := by
  rw [List.map_map]
  exact List.map_id cs

theorem tokens_open (hblank : Text.isBlank c = false) (h : firstToken c cs = none) :
    tokens (c :: cs) = none := by
  rw [tokens.eq_def]
  refine (if_neg (by simp [hblank])).trans ?_
  split
  · rfl
  · rename_i hsome
    cases h.symm.trans hsome

/-- What a quoted text ends with decides where it ends, not what follows. -/
theorem scanQuoted_split {close : Char} {s : List Char}
    (h : scanQuoted close cs = some (s, rest)) :
    ∃ front, cs = front ++ rest ∧ scanQuoted close front = some (s, []) ∧
      rest.head? ≠ some close := by
  fun_induction scanQuoted close cs generalizing s rest with
  | case1 => cases h
  | case2 =>
    cases h
    exact ⟨[close], rfl, scanQuoted_close (by simp), by simp⟩
  | case3 => cases h
  | case4 cs ih =>
    obtain ⟨⟨s', rest'⟩, hs, heq⟩ := Option.map_eq_some_iff.mp h
    cases heq
    obtain ⟨front, rfl, hfront, hrest⟩ := ih hs
    refine ⟨close :: close :: front, rfl, ?_, hrest⟩
    rw [scanQuoted_doubled, hfront, Option.map_some]
  | case5 d cs hd =>
    cases h
    exact ⟨[close], rfl, scanQuoted_close (by simp), by simpa using hd⟩
  | case6 c d cs hc ih =>
    obtain ⟨⟨s', rest'⟩, hs, heq⟩ := Option.map_eq_some_iff.mp h
    cases heq
    obtain ⟨front, hcs, hfront, hrest⟩ := ih hs
    refine ⟨c :: front, by rw [hcs, List.cons_append], ?_, hrest⟩
    rw [scanQuoted_other hc, hfront, Option.map_some]

theorem skipComment_suffix {depth : Nat} (h : skipComment depth cs = some rest) :
    rest <:+ cs := by
  fun_induction skipComment depth cs with
  | case1 => cases h
  | case2 cs => cases h; exact List.suffix_append ['*', '/'] rest
  | case3 depth cs ih => exact (ih h).trans (List.suffix_append ['*', '/'] cs)
  | case4 depth cs ih => exact (ih h).trans (List.suffix_append ['/', '*'] cs)
  | case5 depth c cs _ _ _ ih => exact (ih h).trans (List.suffix_cons c cs)

/-- A token is a front of the text. One that is no comment is the same in front of whatever stands
in for the rest. -/
theorem firstToken_front (h : firstToken c cs = some (t, rest)) :
    ∃ front, cs = front ++ rest ∧ (t ≠ .comment → ∀ ds, StandsIn ds rest →
      firstToken c (front ++ ds) = some (t, ds)) := by
  by_cases hquote : c = '\''
  · subst hquote
    obtain ⟨⟨s, rest'⟩, hs, heq⟩ := Option.map_eq_some_iff.mp h
    cases heq
    obtain ⟨front, hcs, hfront, hrest⟩ := scanQuoted_split hs
    refine ⟨front, hcs, fun _ ds hds => ?_⟩
    simp [firstToken, scanQuoted_append (hds.head?_ne (by decide) hrest) hfront]
  by_cases hbracket : c = '['
  · subst hbracket
    obtain ⟨⟨s, rest'⟩, hs, heq⟩ := Option.map_eq_some_iff.mp h
    cases heq
    obtain ⟨front, hcs, hfront, hrest⟩ := scanQuoted_split hs
    refine ⟨front, hcs, fun _ ds hds => ?_⟩
    simp [firstToken, scanQuoted_append (hds.head?_ne (by decide) hrest) hfront]
  by_cases hcomment : BeginsWithComment (c :: cs)
  · rcases beginsWithComment_cons_iff.mp hcomment with ⟨rfl, hhead⟩ | ⟨rfl, hhead⟩
    all_goals obtain ⟨cs, rfl⟩ := List.head?_eq_some_iff.mp hhead
    · rw [firstToken_lineComment] at h
      cases h
      obtain ⟨front, hfront⟩ := List.dropWhile_suffix (fun c => c != '\n') (l := cs)
      exact ⟨'-' :: front, by rw [List.cons_append, hfront], fun hne => absurd rfl hne⟩
    · rw [firstToken_enclosed] at h
      obtain ⟨rest, hskip, heq⟩ := Option.map_eq_some_iff.mp h
      cases heq
      obtain ⟨front, hfront⟩ := skipComment_suffix hskip
      exact ⟨'*' :: front, by rw [List.cons_append, hfront], fun hne => absurd rfl hne⟩
  rw [firstToken_other hquote hbracket hcomment] at h
  split at h
  · rename_i hword
    cases h
    refine ⟨cs.takeWhile isWordChar, List.takeWhile_append_dropWhile.symm, fun _ ds hds => ?_⟩
    have hall : ∀ d ∈ cs.takeWhile isWordChar, isWordChar d = true :=
      fun d hd => List.mem_takeWhile_imp hd
    obtain ⟨htake, hdrop⟩ := hds.wordEnds
    have hplain := isPlain_of_isWordChar hword
    rw [firstToken_plain hplain, if_pos hword, List.takeWhile_append_of_pos hall,
      List.dropWhile_append_of_pos hall, htake, hdrop, List.append_nil]
  · rename_i hsign
    cases h
    refine ⟨[], rfl, fun _ ds hds => ?_⟩
    have hcomment' : ¬BeginsWithComment (c :: ds) := by
      simp only [beginsWithComment_cons_iff, not_or, not_and] at hcomment ⊢
      exact ⟨fun hc => hds.head?_ne (by decide) (hcomment.1 hc),
        fun hc => hds.head?_ne (by decide) (hcomment.2 hc)⟩
    rw [List.nil_append, firstToken_other hquote hbracket hcomment', if_neg hsign]

theorem flatMap_chars_cells (cs : List Char) : (cells cs).flatMap Cell.chars = cs := by
  induction cs using cells.induct with
  | case1 => simp
  | case2 c cs hblank ih =>
    rw [cells_blank hblank, List.flatMap_cons, ih]
    rfl
  | case3 c cs hblank hnone => rw [cells_open (by simpa using hblank) hnone, flatMap_chars_map_char]
  | case4 c cs hblank t rest hfirst ih =>
    obtain ⟨front, rfl, -⟩ := firstToken_front hfirst
    have htoken : (t.cells (c :: front)).flatMap Cell.chars = c :: front := by
      unfold Token.cells
      split
      · simp [Cell.chars]
      · exact flatMap_chars_map_char _
    rw [cells_token (by simpa using hblank) hfirst, List.flatMap_append, htoken, ih,
      List.cons_append]

/-- What is left when comments are blanked out stands in for the text. -/
theorem standsIn_blanked (cs : List Char) : StandsIn ((cells cs).map Cell.blanked) cs := by
  induction cs using cells.induct with
  | case1 => exact .inl (by simp)
  | case2 c cs hblank => exact .inl (by rw [cells_blank hblank]; rfl)
  | case3 c cs hblank hnone =>
    exact .inl (by rw [cells_open (by simpa using hblank) hnone]; rfl)
  | case4 c cs hblank t rest hfirst =>
    obtain ⟨front, rfl, -⟩ := firstToken_front hfirst
    rw [cells_token (by simpa using hblank) hfirst, Token.cells]
    split
    · exact .inr rfl
    · exact .inl rfl

/-- With its comments blanked out a text has the same tokens, apart from them. -/
theorem tokens_blanked (cs : List Char) :
    tokens ((cells cs).map Cell.blanked) = (tokens cs).map (·.filter (· ≠ .comment)) := by
  induction cs using cells.induct with
  | case1 => simp
  | case2 c cs hblank ih =>
    rw [cells_blank hblank, List.map_cons, Cell.blanked, tokens_blank hblank, tokens_blank hblank,
      ih]
  | case3 c cs hblank hnone =>
    have hblank : Text.isBlank c = false := by simpa using hblank
    rw [cells_open hblank hnone, map_blanked_map_char, tokens_open hblank hnone, Option.map_none]
  | case4 c cs hblank t rest hfirst ih =>
    have hblank : Text.isBlank c = false := by simpa using hblank
    obtain ⟨front, rfl, hsame⟩ := firstToken_front hfirst
    rw [cells_token hblank hfirst, tokens_cons hblank hfirst, List.map_append, Token.cells]
    by_cases ht : t = .comment
    · subst ht
      rw [if_pos rfl, List.map_singleton, Cell.blanked, List.singleton_append,
        tokens_blank (by decide), ih, Option.map_map]
      rfl
    · rw [if_neg ht, map_blanked_map_char, List.cons_append,
        tokens_cons hblank (hsame ht _ (standsIn_blanked rest)), ih, Option.map_map,
        Option.map_map]
      have hfilter (toks : List Token) : (t :: toks).filter (· ≠ .comment) =
          t :: toks.filter (· ≠ .comment) :=
        List.filter_cons_of_pos (by simpa using ht)
      simp only [Function.comp_def, hfilter]

end

section
variable {cs found : List Char} {stretch : List Cell} {sql : String}

theorem toList_withoutComments :
    (withoutComments sql).toList = (cells sql.toList).map Cell.blanked :=
  String.toList_ofList

/-- What stands in a text without its comments is left of a stretch of cells. -/
theorem exists_stretch (h : found <:+: (cells cs).map Cell.blanked) :
    ∃ stretch, stretch <:+: cells cs ∧ stretch.map Cell.blanked = found := by
  obtain ⟨before, after, heq⟩ := h
  obtain ⟨front, back, hcells, hfront, rfl⟩ := List.map_eq_append_iff.mp heq.symm
  obtain ⟨first, stretch, rfl, rfl, rfl⟩ := List.map_eq_append_iff.mp hfront
  exact ⟨stretch, ⟨first, back, hcells.symm⟩, rfl⟩

theorem eq_map_char (h : ∀ cs, Cell.comment cs ∉ stretch) :
    stretch = (stretch.map Cell.blanked).map Cell.char := by
  induction stretch with
  | nil => rfl
  | cons cell stretch ih =>
    have hrest : ∀ cs, Cell.comment cs ∉ stretch := fun cs hcs => h cs (List.mem_cons_of_mem _ hcs)
    rw [List.map_cons, List.map_cons, ← ih hrest]
    cases cell with
    | char c => rfl
    | comment cs => exact absurd List.mem_cons_self (h cs)

theorem eq_map_char_of_visible (h : ∀ c ∈ stretch.map Cell.blanked, Text.isBlank c = false) :
    stretch = (stretch.map Cell.blanked).map Cell.char := by
  apply eq_map_char
  intro cs hcs
  cases h ' ' (List.mem_map_of_mem hcs)

theorem infix_of_stretch (h : stretch <:+: cells cs) : stretch.flatMap Cell.chars <:+: cs := by
  have hstands := List.IsInfix.flatMap h Cell.chars
  rwa [flatMap_chars_cells] at hstands

end

end LakehouseSql.Sql
