import LakehouseSql.Proofs.Outcome
import LakehouseSql.Proofs.Text.Span
/-! # The grammars of identifiers

What a rule asks of a name, said without the order of the checks: a check succeeds exactly for the
names that conform to its rule. Names of columns conform to the rule for SQL text as well, because
the dangerous fragments are made of signs that no column has.
-/
namespace LakehouseSql.Identifier
open Text

/-- The name has the length, the characters and none of the fragments that the rule speaks of. -/
structure Conforms (rule : Rule) (name : String) : Prop where
  shape : ∃ first rest, name.toList = first :: rest ∧ isFirst first ∧ ∀ c ∈ rest, rule.admits c
  short : name.toList.length ≤ maxLength
  harmless : ∀ pattern ∈ rule.forbidden, pattern.occursIn name = false

theorem validate_eq_ok_iff (rule : Rule) (role name : String) :
    validate rule role name = .ok () ↔ Conforms rule name := by
  unfold validate
  cases hn : name.toList with
  | nil =>
    simp only [reduceCtorEq, false_iff]
    intro h
    obtain ⟨⟨first, rest, h, -⟩, -, -⟩ := h
    simp [hn] at h
  | cons first rest =>
    have hshort : ¬maxLength < (first :: rest).length ↔ name.toList.length ≤ maxLength := by
      rw [hn, Nat.not_lt]
    have hadmits : (rest.find? fun c => !rule.admits c) = none ↔ ∀ c ∈ rest, rule.admits c := by
      simp
    have hharmless : ¬(rule.forbidden.any fun pattern => pattern.occursIn name) = true ↔
        ∀ pattern ∈ rule.forbidden, pattern.occursIn name = false := by
      simp
    dsimp only
    constructor
    · intro h
      split at h
      · cases h
      · rename_i hlen
        split at h
        · cases h
        · rename_i hfirst
          split at h
          · cases h
          · rename_i hrest
            split at h
            · cases h
            · rename_i hfrag
              exact ⟨⟨first, rest, hn, by simpa using hfirst, hadmits.mp hrest⟩, hshort.mp hlen,
                hharmless.mp hfrag⟩
    · intro h
      obtain ⟨⟨first', rest', h, hfirst, hrest⟩, hlen, hfrag⟩ := h
      obtain ⟨rfl, rfl⟩ := List.cons.inj (hn.symm.trans h)
      rw [if_neg (hshort.mpr hlen), hadmits.mpr hrest]
      simp only [hfirst, Bool.not_true, Bool.false_eq_true, if_false]
      exact if_neg (hharmless.mpr hfrag)

theorem admits_of_isFirst {rule : Rule} {c : Char} (h : isFirst c = true) :
    rule.admits c = true := by
  simp only [isFirst, Bool.or_eq_true] at h
  rcases h with h | h <;> cases rule <;> simp [Rule.admits, Rule.admitsSign, Char.isAlphanum, h]

theorem Conforms.admits {rule : Rule} {name : String} (h : Conforms rule name) :
    ∀ c ∈ name.toList, rule.admits c = true := by
  obtain ⟨first, rest, hname, hfirst, hrest⟩ := h.shape
  rw [hname]
  exact List.forall_mem_cons.mpr ⟨admits_of_isFirst hfirst, hrest⟩

/-- What a rule does not admit occurs in no name that conforms to it. -/
theorem Conforms.not_mem {rule : Rule} {name : String} {c : Char} (h : Conforms rule name)
    (hc : rule.admits c = false) : c ∉ name.toList := by
  intro hmem
  cases hc.symm.trans (h.admits c hmem)

/-- A character of a name in SQL text. -/
def isNameChar (c : Char) : Bool :=
  c.isAlphanum || c == '_' || c == '-'

theorem toNat_of_isNameChar {c : Char} (h : isNameChar c = true) :
    (48 ≤ c.toNat ∧ c.toNat ≤ 57) ∨ (65 ≤ c.toNat ∧ c.toNat ≤ 90) ∨ c.toNat = 95 ∨
      (97 ≤ c.toNat ∧ c.toNat ≤ 122) ∨ c.toNat = 45 := by
  simp only [isNameChar, Bool.or_eq_true, beq_iff_eq] at h
  rcases h with (h | rfl) | rfl
  · have hc := toNat_of_isAlphanum h
    omega
  · decide
  · decide

theorem isNameChar_of_admits {c : Char} (h : Rule.sql.admits c = true) : isNameChar c = true := by
  rwa [isNameChar, Bool.or_assoc]

theorem Conforms.isNameChar {name : String} (h : Conforms .sql name) :
    ∀ c ∈ name.toList, isNameChar c = true :=
  fun c hc => isNameChar_of_admits (h.admits c hc)

private theorem nameChar_not_blank {c : Char} (h : isNameChar c = true) : isBlank c = false := by
  have hc := toNat_of_isNameChar h
  simp only [isBlank, Bool.or_eq_false_iff, Bool.and_eq_false_iff, decide_eq_false_iff_not,
    beq_eq_false_iff_ne]
  omega

private theorem dangerous_needs_sign : ∀ pattern ∈ dangerousPatterns, pattern = .word "--" ∨
    .char ';' ∈ pattern ∨ .char '/' ∈ pattern ∨ .someBlanks ∈ pattern := by
  decide

/-- Two hyphens are the only dangerous fragment that is put together from characters of names. -/
theorem eq_hyphens_of_occursIn {name : String} (h : ∀ c ∈ name.toList, isNameChar c = true)
    {pattern : Pattern} (hp : pattern ∈ dangerousPatterns) (hocc : pattern.occursIn name = true) :
    pattern = .word "--" := by
  have hfound := Pattern.foundIn_of_occursIn hocc
  have habsent {sign : Char} (hsign : sign.toNat < 65) (hne : isNameChar sign = false) :
      .char sign ∉ pattern := by
    intro hmem
    obtain ⟨c, hc, hfolds⟩ := hfound _ hmem
    rw [foldsTo_sign_iff hsign] at hfolds
    cases (hfolds ▸ hne).symm.trans (h c hc)
  rcases dangerous_needs_sign pattern hp with heq | hm | hm | hm
  · exact heq
  · exact absurd hm (habsent (by decide) (by decide))
  · exact absurd hm (habsent (by decide) (by decide))
  · obtain ⟨c, hc, hblank⟩ := hfound _ hm
    cases hblank.symm.trans (nameChar_not_blank (h c hc))

theorem hyphens_occurIn_iff {name : String} :
    (Pattern.word "--").occursIn name = true ↔ ['-', '-'] <:+: name.toList := by
  have hspells (cs : List Char) : Spells "--".toList cs ↔ cs = ['-', '-'] := by
    simp [Spells, List.forall₂_cons_left_iff, foldsTo_sign_iff]
  simp only [Pattern.occursIn_iff_spans, Pattern.spans_word_iff, hspells, exists_eq_right]

theorem admits_of_column {rule : Rule} {c : Char} (h : Rule.column.admits c = true) :
    rule.admits c = true := by
  simp only [Rule.admits, Rule.admitsSign, Bool.or_eq_true] at h
  rcases h with h | h <;> cases rule <;> simp [Rule.admits, Rule.admitsSign, h]

theorem Conforms.object_of_column {name : String} (h : Conforms .column name) :
    Conforms .object name := by
  obtain ⟨first, rest, hn, hfirst, hrest⟩ := h.shape
  exact ⟨⟨first, rest, hn, hfirst, fun c hc => admits_of_column (hrest c hc)⟩, h.short,
    by simp [Rule.forbidden]⟩

theorem Conforms.sql_of_column {name : String} (h : Conforms .column name) :
    Conforms .sql name := by
  obtain ⟨first, rest, hn, hfirst, hrest⟩ := h.shape
  refine ⟨⟨first, rest, hn, hfirst, fun c hc => admits_of_column (hrest c hc)⟩, h.short, ?_⟩
  intro pattern hp
  rw [Bool.eq_false_iff]
  intro hocc
  have hchars : ∀ c ∈ name.toList, Identifier.isNameChar c = true :=
    fun c hc => isNameChar_of_admits (admits_of_column (h.admits c hc))
  rw [eq_hyphens_of_occursIn hchars hp hocc, hyphens_occurIn_iff] at hocc
  exact h.not_mem (by decide) (hocc.subset List.mem_cons_self)

end LakehouseSql.Identifier
