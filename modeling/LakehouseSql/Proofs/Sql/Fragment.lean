import Mathlib.Data.List.Chain
import LakehouseSql.Proofs.Sql.Parallel
/-! # Pieces of SQL text

Parallel texts are put together from pieces. A piece may end in a name, a literal or a hyphen, so
what follows must not run into it; a fragment is a piece that runs into nothing before it either,
so fragments can be put behind one another freely. Words and signs between two pieces part them.
-/
namespace LakehouseSql.Sql

/-- In front of parallel texts that do not run into them, the pieces make parallel texts. -/
def Piece (a a' : String) (ts ts' : List String) : Prop :=
  ∀ cs cs' us us', Calm cs → Calm cs' → Parallel cs cs' us us' →
    Parallel (a.toList ++ cs) (a'.toList ++ cs') (ts ++ us) (ts' ++ us')

structure Fragment (a a' : String) (ts ts' : List String) : Prop where
  piece : Piece a a' ts ts'
  calm : Calm a.toList
  calm' : Calm a'.toList

/-- A fragment that is the same in both texts. -/
abbrev Fixed (a : String) : Prop :=
  Fragment a a [] []

/-- Words and signs that can stand between any two pieces. -/
def isLead (p : String) : Bool :=
  p != "" && p.toList.all isPlain

section
variable {a a' b b' p : String} {ts ts' us us' : List String} {cs cs' : List Char}

theorem calm_nil : Calm [] :=
  ⟨nofun, nofun, nofun⟩

theorem calm_plain {c : Char} (hc : isPlain c = true) (cs : List Char) : Calm (c :: cs) := by
  simp only [isPlain, Bool.and_eq_true, bne_iff_ne] at hc
  obtain ⟨⟨⟨⟨hquote, -⟩, hbracket⟩, hhyphen⟩, -⟩ := hc
  simp [Calm, hquote, hbracket, hhyphen]

theorem Calm.append (h : Calm cs) (h' : Calm cs') : Calm (cs ++ cs') := by
  cases cs with
  | nil => exact h'
  | cons c cs => exact h

private theorem parallel_plain {p : List Char} (hp : ∀ c ∈ p, isPlain c = true)
    (h : Parallel cs cs' us us') : Parallel (p ++ cs) (p ++ cs') us us' := by
  induction p with
  | nil => exact h
  | cons c p ih =>
    obtain ⟨hc, hp⟩ := List.forall_mem_cons.mp hp
    exact (ih hp).plain hc

theorem Fragment.plain (hp : ∀ c ∈ p.toList, isPlain c = true) : Fixed p := by
  have hcalm : Calm p.toList := by
    cases hcs : p.toList with
    | nil => exact calm_nil
    | cons c cs => exact calm_plain (hp c (by simp [hcs])) cs
  exact ⟨fun _ _ _ _ _ _ h => parallel_plain hp h, hcalm, hcalm⟩

theorem Fragment.words (hp : p.toList.all isPlain = true) : Fixed p :=
  .plain (List.all_eq_true.mp hp)

theorem Piece.append (ha : Piece a a' ts ts') (hb : Fragment b b' us us') :
    Piece (a ++ b) (a' ++ b') (ts ++ us) (ts' ++ us') := by
  intro cs cs' vs vs' hcalm hcalm' h
  simp only [String.toList_append, List.append_assoc]
  exact ha _ _ _ _ (hb.calm.append hcalm) (hb.calm'.append hcalm') (hb.piece _ _ _ _ hcalm hcalm' h)

theorem Fragment.append (ha : Fragment a a' ts ts') (hb : Fragment b b' us us') :
    Fragment (a ++ b) (a' ++ b') (ts ++ us) (ts' ++ us') := by
  refine ⟨ha.piece.append hb, ?_, ?_⟩
  · rw [String.toList_append]
    exact ha.calm.append hb.calm
  · rw [String.toList_append]
    exact ha.calm'.append hb.calm'

theorem Fragment.append_fixed (ha : Fragment a a' ts ts') (hb : Fixed b) :
    Fragment (a ++ b) (a' ++ b) ts ts' := by
  simpa using ha.append hb

theorem Piece.behind (hb : Piece b b' us us') (hp : isLead p = true) :
    Fragment (p ++ b) (p ++ b') us us' := by
  simp only [isLead, Bool.and_eq_true, bne_iff_ne, List.all_eq_true] at hp
  obtain ⟨hne, hp⟩ := hp
  have hcalm (s : String) : Calm (p ++ s).toList := by
    rw [String.toList_append]
    cases hcs : p.toList with
    | nil => exact absurd (String.toList_eq_nil_iff.mp hcs) hne
    | cons c cs => exact calm_plain (hp c (by simp [hcs])) _
  refine ⟨?_, hcalm b, hcalm b'⟩
  intro cs cs' vs vs' hcs hcs' h
  simp only [String.toList_append, List.append_assoc]
  exact parallel_plain hp (hb _ _ _ _ hcs hcs' h)

theorem Piece.link (ha : Piece a a' ts ts') (hp : isLead p = true) (hb : Piece b b' us us') :
    Piece (a ++ p ++ b) (a' ++ p ++ b') (ts ++ us) (ts' ++ us') := by
  rw [String.append_assoc, String.append_assoc]
  exact ha.append (hb.behind hp)

theorem Fragment.link (ha : Fragment a a' ts ts') (hp : isLead p = true)
    (hb : Piece b b' us us') : Fragment (a ++ p ++ b) (a' ++ p ++ b') (ts ++ us) (ts' ++ us') := by
  rw [String.append_assoc, String.append_assoc]
  exact ha.append (hb.behind hp)

/-- What is put together from pieces has the same tokens apart from the literals. -/
theorem Fragment.alike (h : Fragment a a' ts ts') : Alike a.toList a'.toList ts ts' := by
  have hparallel := h.piece [] [] [] [] calm_nil calm_nil .nil
  simp only [List.append_nil] at hparallel
  exact hparallel.alike

end

/-- Pieces of two texts, one by one. -/
inductive Pieces : List String → List String → List String → List String → Prop where
  | nil : Pieces [] [] [] []
  | cons {a a' : String} {as as' ts ts' us us' : List String} (ha : Piece a a' ts ts')
      (has : Pieces as as' us us') : Pieces (a :: as) (a' :: as') (ts ++ us) (ts' ++ us')

theorem Pieces.intercalate {as as' ts ts' : List String} {p : String} (hp : isLead p = true)
    (h : Pieces as as' ts ts') :
    Piece (String.intercalate p as) (String.intercalate p as') ts ts' := by
  induction h with
  | nil => exact (Fragment.words rfl).piece
  | @cons a a' as as' ts ts' us us' ha has ih =>
    cases has with
    | nil => simpa using ha
    | cons hb has =>
      rw [String.intercalate_cons_cons, String.intercalate_cons_cons]
      exact ha.link hp ih

theorem Pieces.map {α β : Type} {R : α → β → Prop} {f : α → String} {f' : β → String}
    {texts : α → List String} {texts' : β → List String} {l : List α} {l' : List β}
    (h : List.Forall₂ R l l')
    (hf : ∀ a ∈ l, ∀ a', R a a' → Piece (f a) (f' a') (texts a) (texts' a')) :
    Pieces (l.map f) (l'.map f') (l.flatMap texts) (l'.flatMap texts') := by
  induction h with
  | nil => exact .nil
  | cons ha _ ih =>
    obtain ⟨hfirst, hrest⟩ := List.forall_mem_cons.mp hf
    exact .cons (hfirst _ ha) (ih hrest)

theorem Piece.literal (s s' : String) : Piece (Literal.quote s) (Literal.quote s') [s] [s'] := by
  intro cs cs' us us' hcalm hcalm' h
  rw [Literal.toList_quote_append, Literal.toList_quote_append]
  exact h.literal s s' hcalm hcalm'

theorem Piece.fixedLiteral (s : String) : Piece (Literal.quote s) (Literal.quote s) [] [] := by
  intro cs cs' us us' hcalm hcalm' h
  rw [Literal.toList_quote_append, Literal.toList_quote_append]
  exact h.fixed s hcalm hcalm'

private theorem doubleQuotes_of_not_mem {cs : List Char} (h : '\'' ∉ cs) :
    Literal.doubleQuotes cs = cs := by
  induction cs with
  | nil => rfl
  | cons c cs ih =>
    obtain ⟨hc, hcs⟩ := not_or.mp (mt List.mem_cons.mpr h)
    rw [Literal.doubleQuotes_other (Ne.symm hc), ih hcs]

private theorem quote_eq_of_not_mem {s : String} (h : '\'' ∉ s.toList) :
    Literal.quote s = "'" ++ s ++ "'" := by
  apply String.toList_inj.mp
  simp [Literal.quote, doubleQuotes_of_not_mem h]

theorem Piece.quoted {s : String} (h : '\'' ∉ s.toList) :
    Piece ("'" ++ s ++ "'") ("'" ++ s ++ "'") [] [] :=
  quote_eq_of_not_mem h ▸ .fixedLiteral s

/-- Quotes that stand at the end of one text and at the front of the next make a literal of what is
between them. -/
theorem quote_between {p q s opening closing : String} (hopening : opening = p ++ "'")
    (h : '\'' ∉ s.toList) (hclosing : closing = "'" ++ q) :
    opening ++ s ++ closing = p ++ Literal.quote s ++ q := by
  subst hopening hclosing
  rw [quote_eq_of_not_mem h]
  simp only [String.append_assoc]

theorem Fragment.name {n : String} (hn : ']' ∉ n.toList) : Fixed ("[" ++ n ++ "]") := by
  have hchars : ("[" ++ n ++ "]").toList = '[' :: (n.toList ++ [']']) := by
    simp [String.toList_append]
  have hcalm : Calm ("[" ++ n ++ "]").toList := by
    rw [hchars]
    simp [Calm]
  refine ⟨?_, hcalm, hcalm⟩
  intro cs cs' us us' hcs hcs' h
  simp only [hchars, List.cons_append, List.append_assoc, List.nil_append]
  exact h.name hn hcs hcs'

/-- No two hyphens stand side by side. -/
def Unhyphened (cs : List Char) : Prop :=
  cs.IsChain fun c d => ¬(c = '-' ∧ d = '-')

private theorem parallel_hyphened {n : List Char} {cs cs' : List Char} {us us' : List String}
    (hn : ∀ c ∈ n, isPlain c = true ∨ c = '-') (hchain : Unhyphened n)
    (hcs : Calm cs) (hcs' : Calm cs') (h : Parallel cs cs' us us') :
    Parallel (n ++ cs) (n ++ cs') us us' := by
  induction n with
  | nil => exact h
  | cons c n ih =>
    obtain ⟨hc, hn⟩ := List.forall_mem_cons.mp hn
    have hrest := ih hn hchain.tail
    rcases hc with hc | rfl
    · exact hrest.plain hc
    · have hcalm : Calm n := by
        cases n with
        | nil => exact calm_nil
        | cons d n =>
          have hd : d ≠ '-' := fun hd => (List.isChain_cons_cons.mp hchain).1 ⟨rfl, hd⟩
          exact calm_plain ((hn d (by simp)).resolve_right hd) n
      exact hrest.hyphen (hcalm.append hcs) (hcalm.append hcs')

/-- Words in which no two hyphens stand side by side, and none at the front. -/
theorem Fragment.hyphened {n : String} (hn : ∀ c ∈ n.toList, isPlain c = true ∨ c = '-')
    (hchain : Unhyphened n.toList) (hfirst : n.toList.head? ≠ some '-') : Fixed n := by
  have hcalm : Calm n.toList := by
    cases hcs : n.toList with
    | nil => exact calm_nil
    | cons c cs =>
      have hc : c ≠ '-' := by simpa [hcs] using hfirst
      exact calm_plain ((hn c (by simp [hcs])).resolve_right hc) cs
  exact ⟨fun _ _ _ _ hcs hcs' h => parallel_hyphened hn hchain hcs hcs' h, hcalm, hcalm⟩

theorem isPlain_of_toNat {c : Char} (h : c.toNat ≠ 39 ∧ c.toNat ≠ 91 ∧ c.toNat ≠ 93 ∧
    c.toNat ≠ 45 ∧ c.toNat ≠ 47) : isPlain c = true := by
  have hne (sign : Char) (hsign : c.toNat ≠ sign.toNat) : c ≠ sign := fun heq => hsign (heq ▸ rfl)
  simp only [isPlain, Bool.and_eq_true, bne_iff_ne]
  exact ⟨⟨⟨⟨hne _ h.1, hne _ h.2.1⟩, hne _ h.2.2.1⟩, hne _ h.2.2.2.1⟩, hne _ h.2.2.2.2⟩

theorem isPlain_of_isAlphanum {c : Char} (h : c.isAlphanum = true) : isPlain c = true := by
  have hc := Text.toNat_of_isAlphanum h
  exact isPlain_of_toNat (by omega)

end LakehouseSql.Sql
