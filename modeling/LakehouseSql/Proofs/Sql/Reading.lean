import Mathlib.Data.List.TakeWhile
import LakehouseSql.Proofs.Sql.Fragment
/-! # Texts that read as tokens

A text reads as tokens if these come first, whatever follows, as long as it does not go on with the
last of them. A text that ends in a blank or in a sign of its own is closed: anything may follow it.
Words, names and literals are put together with such texts between them, and with texts behind them
that may be empty.
-/
namespace LakehouseSql.Sql

/-- No character at the front goes on with a token that stands before. -/
structure Parted (cs : List Char) : Prop where
  calm : Calm cs
  word : ∀ c ∈ cs.head?, isWordChar c = false

/-- In front of what does not run into it, the text has the tokens. -/
def Reads (a : String) (toks : List Token) : Prop :=
  ∀ cs, Parted cs → tokens (a.toList ++ cs) = (tokens cs).map (toks ++ ·)

/-- In front of anything, the text has the tokens. -/
def Closed (a : String) (toks : List Token) : Prop :=
  ∀ cs, tokens (a.toList ++ cs) = (tokens cs).map (toks ++ ·)

/-- Between any two texts, the text has the tokens. -/
structure Parts (p : String) (toks : List Token) : Prop where
  closed : Closed p toks
  parted : ∀ cs, Parted (p.toList ++ cs)

/-- The text reads as the tokens and does not run into what stands before it; it may be empty. -/
structure Trails (p : String) (toks : List Token) : Prop where
  reads : Reads p toks
  parted : ∀ cs, Parted cs → Parted (p.toList ++ cs)

/-- Words and signs of which the last is no word. -/
def isClosed (p : String) : Bool :=
  p.toList.all isPlain && p.toList.getLast?.all (!isWordChar ·)

/-- Words and signs of which neither the first nor the last is a word. -/
def isParting (p : String) : Bool :=
  p.toList.head?.any (!isWordChar ·) && isClosed p

section
variable {cs ds : List Char} {t : List Token}

theorem parted_nil : Parted [] :=
  ⟨calm_nil, nofun⟩

theorem parted_blanks (h : ∀ c ∈ cs, Text.isBlank c = true) : Parted cs := by
  cases cs with
  | nil => exact parted_nil
  | cons c cs =>
    have hblank := h c (by simp)
    have hword : isWordChar c = false := by
      rw [Bool.eq_false_iff]
      intro hword
      cases hblank.symm.trans (not_blank_of_isWordChar hword)
    have hne (sign : Char) (hsign : Text.isBlank sign = false) : c ≠ sign := by
      rintro rfl
      cases hblank.symm.trans hsign
    refine ⟨⟨?_, ?_, ?_⟩, by simpa using hword⟩
    all_goals simpa using hne _ (by decide)

private theorem span_append (hseam : (∀ d ∈ ds, isWordChar d = true) →
    ∀ c ∈ cs.head?, isWordChar c = false) :
    (ds ++ cs).takeWhile isWordChar = ds.takeWhile isWordChar ∧
      (ds ++ cs).dropWhile isWordChar = ds.dropWhile isWordChar ++ cs := by
  induction ds with
  | nil =>
    cases cs with
    | nil => simp
    | cons c cs => simp [hseam nofun c rfl]
  | cons d ds ih =>
    by_cases hd : isWordChar d = true
    · obtain ⟨htake, hdrop⟩ := ih fun hall => hseam (List.forall_mem_cons.mpr ⟨hd, hall⟩)
      simp [hd, htake, hdrop]
    · simp [hd]

/-- A word ends before what does not go on with it. -/
theorem Parted.span (hcs : Parted cs) (ds : List Char) :
    (ds ++ cs).takeWhile isWordChar = ds.takeWhile isWordChar ∧
      (ds ++ cs).dropWhile isWordChar = ds.dropWhile isWordChar ++ cs :=
  span_append fun _ => hcs.word

private theorem firstToken_append {c : Char} {rest : List Char} {tok : Token}
    (hc : isPlain c = true)
    (hseam : (∀ d ∈ c :: ds, isWordChar d = true) → ∀ d ∈ cs.head?, isWordChar d = false)
    (h : firstToken c ds = some (tok, rest)) :
    firstToken c (ds ++ cs) = some (tok, rest ++ cs) ∧ rest <:+ ds := by
  rw [firstToken_plain hc] at h ⊢
  by_cases hword : isWordChar c = true
  · rw [if_pos hword] at h ⊢
    cases h
    obtain ⟨htake, hdrop⟩ := span_append fun hall => hseam (List.forall_mem_cons.mpr ⟨hword, hall⟩)
    rw [htake, hdrop]
    exact ⟨rfl, List.dropWhile_suffix _⟩
  · rw [if_neg hword] at h ⊢
    cases h
    exact ⟨rfl, List.suffix_refl _⟩

/-- The tokens of words and signs come first, unless what follows goes on with the last word. -/
theorem tokens_plain_append (hplain : ∀ d ∈ ds, isPlain d = true)
    (hseam : ∀ d ∈ ds.getLast?, isWordChar d = true → ∀ c ∈ cs.head?, isWordChar c = false)
    (h : tokens ds = some t) : tokens (ds ++ cs) = (tokens cs).map (t ++ ·) := by
  fun_induction tokens ds generalizing t with
  | case1 =>
    cases h
    simp
  | case2 c ds hblank ih =>
    rw [List.cons_append, tokens_blank hblank]
    refine ih (List.forall_mem_cons.mp hplain).2 (fun d hd => hseam d ?_) h
    exact List.mem_getLast?_cons hd
  | case3 c ds hblank hnone => cases h
  | case4 c ds hblank tok rest hfirst ih =>
    -- the first token ends where it did, so what is left of the text ends at the same seam
    obtain ⟨toks, htoks, rfl⟩ := Option.map_eq_some_iff.mp h
    obtain ⟨hc, hplain⟩ := List.forall_mem_cons.mp hplain
    have hword (hall : ∀ d ∈ c :: ds, isWordChar d = true) :
        ∀ d ∈ cs.head?, isWordChar d = false :=
      hseam _ (List.getLast?_eq_some_getLast (by simp)) (hall _ (List.getLast_mem _))
    obtain ⟨hfirst', before, rfl⟩ := firstToken_append hc hword hfirst
    rw [List.cons_append, tokens_cons (by simpa using hblank) hfirst']
    have hrest := ih (fun d hd => hplain d (List.mem_append_right _ hd)) (fun d hd => hseam d ?_)
      htoks
    · rw [hrest, Option.map_map]
      rfl
    · rw [← List.cons_append]
      exact List.mem_getLast?_append_of_mem_getLast? hd

theorem isPlain_of_isWordChar {c : Char} (h : isWordChar c = true) : isPlain c = true := by
  have hne (sign : Char) (hsign : isWordChar sign = false) : c ≠ sign := by
    rintro rfl
    cases h.symm.trans hsign
  simp only [isPlain, Bool.and_eq_true, bne_iff_ne]
  exact ⟨⟨⟨⟨hne _ (by decide), hne _ (by decide)⟩, hne _ (by decide)⟩, hne _ (by decide)⟩,
    hne _ (by decide)⟩

private theorem tokens_word (hne : ds ≠ []) (hds : ∀ d ∈ ds, isWordChar d = true) :
    tokens ds = some [.word (String.ofList ds)] := by
  cases ds with
  | nil => exact absurd rfl hne
  | cons d ds =>
    obtain ⟨hd, hds⟩ := List.forall_mem_cons.mp hds
    have hfirst := firstToken_plain (isPlain_of_isWordChar hd) ds
    rw [if_pos hd, List.takeWhile_eq_self_iff.mpr hds, List.dropWhile_eq_nil_iff.mpr hds] at hfirst
    rw [tokens_cons (not_blank_of_isWordChar hd) hfirst, tokens_nil, Option.map_some]

/-- Words with single hyphens between them have words and hyphens for their tokens. -/
theorem tokens_hyphened (hwords : ∀ d ∈ ds, isWordChar d = true ∨ d = '-')
    (hchain : Unhyphened ds) : ∃ toks, (∀ c, .sign c ∈ toks → c = '-') ∧
      ∀ cs, Parted cs → tokens (ds ++ cs) = (tokens cs).map (toks ++ ·) := by
  induction hlen : ds.length using Nat.strong_induction_on generalizing ds with
  | _ n ih =>
    subst hlen
    cases ds with
    | nil => exact ⟨[], nofun, fun cs _ => by simp⟩
    | cons d ds =>
      obtain ⟨hd, hds⟩ := List.forall_mem_cons.mp hwords
      rcases hd with hword | rfl
      · -- the word ends at the first hyphen, or where what follows begins
        have hsuffix := List.dropWhile_suffix isWordChar (l := ds)
        have hshort := hsuffix.length_le
        obtain ⟨toks, hsigns, htoks⟩ := ih (ds.dropWhile isWordChar).length
          (by simp only [List.length_cons]; omega) (fun c hc => hds c (hsuffix.subset hc))
          (hchain.tail.suffix hsuffix) rfl
        refine ⟨.word (String.ofList (d :: ds.takeWhile isWordChar)) :: toks, ?_, ?_⟩
        · simpa using hsigns
        · intro cs hcs
          obtain ⟨htake, hdrop⟩ := hcs.span ds
          have hfirst := firstToken_plain (isPlain_of_isWordChar hword) (ds ++ cs)
          rw [if_pos hword, htake, hdrop] at hfirst
          rw [List.cons_append, tokens_cons (not_blank_of_isWordChar hword) hfirst, htoks cs hcs,
            Option.map_map]
          rfl
      · obtain ⟨toks, hsigns, htoks⟩ := ih ds.length (by simp) hds hchain.tail rfl
        refine ⟨.sign '-' :: toks, ?_, ?_⟩
        · simpa using hsigns
        · intro cs hcs
          have hcalm : Calm (ds ++ cs) := by
            cases ds with
            | nil => exact hcs.calm
            | cons c ds =>
              have hne : c ≠ '-' := fun hc => (List.isChain_cons_cons.mp hchain).1 ⟨rfl, hc⟩
              exact calm_plain (isPlain_of_isWordChar ((hds c (by simp)).resolve_right hne)) _
          rw [List.cons_append, tokens_cons (by decide) (firstToken_hyphen hcalm), htoks cs hcs,
            Option.map_map]
          rfl

end

section
variable {a b p q n : String} {s t u : List Token}

theorem Closed.reads (h : Closed a s) : Reads a s :=
  fun cs _ => h cs

theorem Reads.tokens_eq (h : Reads a s) : tokens a.toList = some s := by
  simpa using h [] parted_nil

theorem Reads.words (hp : p.toList.all isPlain = true) (h : tokens p.toList = some t) :
    Reads p t :=
  fun _ hcs => tokens_plain_append (List.all_eq_true.mp hp) (fun _ _ _ => hcs.word) h

theorem Closed.words (hp : isClosed p = true) (h : tokens p.toList = some t) : Closed p t := by
  simp only [isClosed, Bool.and_eq_true, Option.all_eq_true, Bool.not_eq_true'] at hp
  intro cs
  refine tokens_plain_append (List.all_eq_true.mp hp.1) (fun d hd hword => ?_) h
  cases (hp.2 d hd).symm.trans hword

private theorem parted_words (hp : p.toList.head?.any (!isWordChar ·) = true)
    (hplain : p.toList.all isPlain = true) (cs : List Char) : Parted (p.toList ++ cs) := by
  simp only [Option.any_eq_true, Bool.not_eq_true'] at hp
  obtain ⟨c, hc, hword⟩ := hp
  obtain ⟨rest, hp⟩ := List.head?_eq_some_iff.mp hc
  rw [hp] at hplain ⊢
  exact ⟨calm_plain (List.all_eq_true.mp hplain c (by simp)) _, by simpa using hword⟩

theorem Parts.words (hp : isParting p = true) (h : tokens p.toList = some t) : Parts p t := by
  obtain ⟨hfirst, hclosed⟩ := Bool.and_eq_true _ _ ▸ hp
  exact ⟨.words hclosed h, parted_words hfirst (Bool.and_eq_true _ _ ▸ hclosed).1⟩

theorem Trails.words (hp : (p.toList.head?.any (!isWordChar ·) && p.toList.all isPlain) = true)
    (h : tokens p.toList = some t) : Trails p t := by
  obtain ⟨hfirst, hplain⟩ := Bool.and_eq_true _ _ ▸ hp
  exact ⟨.words hplain h, fun cs _ => parted_words hfirst hplain cs⟩

theorem Trails.empty : Trails "" [] :=
  ⟨.words rfl tokens_nil, fun _ hcs => hcs⟩

theorem Reads.word (hne : n ≠ "") (hn : ∀ c ∈ n.toList, isWordChar c = true) :
    Reads n [.word n] := by
  have htokens := tokens_word (mt String.toList_eq_nil_iff.mp hne) hn
  rw [String.ofList_toList] at htokens
  exact .words (List.all_eq_true.mpr fun c hc => isPlain_of_isWordChar (hn c hc)) htokens

theorem Reads.name (hn : ']' ∉ n.toList) : Reads ("[" ++ n ++ "]") [.name n] := by
  intro cs hcs
  have hchars : ("[" ++ n ++ "]").toList ++ cs = '[' :: (n.toList ++ ']' :: cs) := by
    simp [String.toList_append]
  rw [hchars, tokens_cons (by decide) (firstToken_name hn hcs.calm), String.ofList_toList]
  rfl

theorem Reads.literal (s : String) : Reads (Literal.quote s) [.literal s] := by
  intro cs hcs
  rw [Literal.toList_quote_append, tokens_cons (by decide) (firstToken_literal s hcs.calm)]
  rfl

theorem Reads.negative (hcalm : Calm a.toList) (ha : Reads a s) :
    Reads ("-" ++ a) (.sign '-' :: s) := by
  intro cs hcs
  have hchars : ("-" ++ a).toList ++ cs = '-' :: (a.toList ++ cs) := by
    simp [String.toList_append]
  rw [hchars, tokens_cons (by decide) (firstToken_hyphen (hcalm.append hcs.calm)), ha cs hcs,
    Option.map_map]
  rfl

theorem Closed.append (ha : Closed a s) (hb : Reads b t) : Reads (a ++ b) (s ++ t) := by
  intro cs hcs
  rw [String.toList_append, List.append_assoc, ha, hb cs hcs, Option.map_map]
  simp only [Function.comp_def, List.append_assoc]

theorem Closed.join (ha : Closed a s) (hb : Closed b t) : Closed (a ++ b) (s ++ t) := by
  intro cs
  rw [String.toList_append, List.append_assoc, ha, hb, Option.map_map]
  simp only [Function.comp_def, List.append_assoc]

theorem Reads.close (ha : Reads a s) (hp : Parts p t) : Closed (a ++ p) (s ++ t) := by
  intro cs
  rw [String.toList_append, List.append_assoc, ha _ (hp.parted cs), hp.closed, Option.map_map]
  simp only [Function.comp_def, List.append_assoc]

theorem Parts.trails (hp : Parts p s) : Trails p s :=
  ⟨hp.closed.reads, fun cs _ => hp.parted cs⟩

theorem Reads.behind (ha : Reads a s) (hb : Trails b t) : Reads (a ++ b) (s ++ t) := by
  intro cs hcs
  rw [String.toList_append, List.append_assoc, ha _ (hb.parted cs hcs), hb.reads cs hcs,
    Option.map_map]
  simp only [Function.comp_def, List.append_assoc]

theorem Parts.before (hp : Parts p s) (ha : Reads a t) : Trails (p ++ a) (s ++ t) := by
  refine ⟨hp.closed.append ha, fun cs _ => ?_⟩
  rw [String.toList_append, List.append_assoc]
  exact hp.parted _

theorem Trails.append (ha : Trails a s) (hb : Trails b t) : Trails (a ++ b) (s ++ t) := by
  refine ⟨ha.reads.behind hb, fun cs hcs => ?_⟩
  rw [String.toList_append, List.append_assoc]
  exact ha.parted _ (hb.parted cs hcs)

theorem Reads.enclose (hp : Closed p s) (ha : Reads a t) (hq : Parts q u) :
    Closed (p ++ a ++ q) (s ++ t ++ u) :=
  (hp.append ha).close hq

theorem Parts.enclose (hp : Parts p s) (ha : Reads a t) (hq : Parts q u) :
    Parts (p ++ a ++ q) (s ++ t ++ u) := by
  refine ⟨ha.enclose hp.closed hq, fun cs => ?_⟩
  simp only [String.toList_append, List.append_assoc]
  exact hp.parted _

theorem Reads.intercalate {as : List String} {ss : List (List Token)} (hp : Parts p t)
    (h : List.Forall₂ Reads as ss) : Reads (String.intercalate p as) (t.intercalate ss) := by
  induction h with
  | nil => exact .words rfl tokens_nil
  | @cons a s as ss ha has ih =>
    cases has with
    | nil => simpa using ha
    | cons hb has =>
      rw [String.intercalate_cons_cons, List.intercalate_cons_cons]
      exact (ha.close hp).append ih

end

end LakehouseSql.Sql
