import LakehouseSql.Proofs.Identifier.Grammar
import LakehouseSql.Proofs.Sql.Reading
import LakehouseSql.Proofs.Statement.Untrusted
import LakehouseSql.Proofs.Text.Line
/-! # Names in SQL text

Names that conform to the rule for SQL text are fragments, in brackets, as they are and in capitals:
no bracket, no quote and no line break is in them, and no two hyphens stand side by side. Names of
collations and the data types that hold no trusted text are made of words and plain signs.
-/
namespace LakehouseSql.Sql
open Identifier (Conforms isNameChar toNat_of_isNameChar)
open Text (Pattern)

section
variable {c : Char} {n : String}

private theorem eq_hyphen_of_toNat (h : c.toNat = 45) : c = '-' :=
  Char.toNat_inj.mp h

private theorem isPlain_or_hyphen (h : isNameChar c = true) : isPlain c = true ∨ c = '-' := by
  by_cases hc : c.toNat = 45
  · exact .inr (eq_hyphen_of_toNat hc)
  · have hrange := toNat_of_isNameChar h
    exact .inl (isPlain_of_toNat (by omega))

private theorem first_ne_hyphen {rule : Identifier.Rule} (h : Conforms rule n) :
    n.toList.head? ≠ some '-' := by
  obtain ⟨first, rest, hn, hfirst, -⟩ := h.shape
  rw [hn, List.head?_cons]
  intro hhyphen
  rw [Option.some.inj hhyphen] at hfirst
  cases hfirst

private theorem unhyphened_of_conforms (h : Conforms .sql n) : Unhyphened n.toList := by
  refine (List.isChain_isInfix n.toList).imp ?_
  rintro c d hpair ⟨rfl, rfl⟩
  have hhyphens := Identifier.hyphens_occurIn_iff.mpr hpair
  cases hhyphens.symm.trans (h.harmless (Pattern.word "--") (by decide))

theorem not_mem_of_conforms (h : Conforms .sql n) : ']' ∉ n.toList ∧ '\'' ∉ n.toList := by
  constructor <;> exact fun hmem => absurd (h.isNameChar _ hmem) (by decide)

theorem unbroken_of_conforms (h : Conforms .sql n) : Text.Unbroken n :=
  fun hmem => absurd (h.isNameChar _ hmem) (by decide)

theorem Fragment.bracketed (h : Conforms .sql n) : Fixed ("[" ++ n ++ "]") :=
  .name (not_mem_of_conforms h).1

theorem Fragment.bare (h : Conforms .sql n) : Fixed n :=
  .hyphened (fun c hc => isPlain_or_hyphen (h.isNameChar c hc))
    (unhyphened_of_conforms h) (first_ne_hyphen h)

/-- The tokens of a name as it is are words and hyphens. -/
theorem Reads.bare (h : Conforms .sql n) :
    ∃ toks, (∀ c, .sign c ∈ toks → c = '-') ∧ Reads n toks := by
  refine tokens_hyphened (fun c hc => ?_) (unhyphened_of_conforms h)
  have hchar := h.isNameChar c hc
  simp only [isNameChar, Bool.or_eq_true, beq_iff_eq] at hchar
  rcases hchar with (hchar | rfl) | rfl
  · exact .inl (by simp [isWordChar, hchar])
  · exact .inl (by decide)
  · exact .inr rfl

private theorem isNameChar_toUpper (h : isNameChar c = true) :
    isPlain c.toUpper = true ∨ c.toUpper = '-' := by
  have hrange := toNat_of_isNameChar h
  have hupper := Text.toNat_toUpper c
  by_cases hc : c.toUpper.toNat = 45
  · exact .inr (eq_hyphen_of_toNat hc)
  · exact .inl (isPlain_of_toNat (by omega))

private theorem eq_hyphen_of_toUpper (h : c.toUpper = '-') : c = '-' := by
  have hupper := Text.toNat_toUpper c
  rw [h] at hupper
  refine eq_hyphen_of_toNat ?_
  have hhyphen : '-'.toNat = 45 := rfl
  omega

private theorem toList_uppercase (h : Conforms .sql n) :
    (Text.uppercase n).toList = n.toList.map Char.toUpper := by
  rw [Text.uppercase, String.toList_ofList, ← List.flatMap_singleton' (n.toList.map Char.toUpper),
    List.flatMap_map]
  refine List.flatMap_congr fun c hc => ?_
  have hrange := toNat_of_isNameChar (h.isNameChar c hc)
  exact Text.uppercaseChar_ascii (by omega)

/-- Names are the same in capitals exactly if they differ in nothing but the case of letters. -/
theorem uppercase_eq_uppercase_iff {m : String} (hn : Conforms .sql n) (hm : Conforms .sql m) :
    Text.uppercase n = Text.uppercase m ↔ Text.sameIgnoringAsciiCase n m = true := by
  rw [← String.toList_inj, toList_uppercase hn, toList_uppercase hm, Text.map_toUpper_eq_iff]

theorem Fragment.uppercase (h : Conforms .sql n) : Fixed (Text.uppercase n) := by
  have hchars := h.isNameChar
  have hupper := toList_uppercase h
  refine .hyphened ?_ ?_ ?_
  · rw [hupper]
    intro c hc
    obtain ⟨d, hd, rfl⟩ := List.mem_map.mp hc
    exact isNameChar_toUpper (hchars d hd)
  · rw [hupper, Unhyphened, List.isChain_map]
    refine (unhyphened_of_conforms h).imp fun c d hcd hboth => hcd ?_
    exact ⟨eq_hyphen_of_toUpper hboth.1, eq_hyphen_of_toUpper hboth.2⟩
  · rw [hupper, List.head?_map]
    intro hfirst
    obtain ⟨c, hc, hhyphen⟩ := Option.map_eq_some_iff.mp hfirst
    exact first_ne_hyphen h (hc.trans (congrArg some (eq_hyphen_of_toUpper hhyphen)))

theorem Fragment.collation (h : Conforms .object n) : Fixed n := by
  refine .plain fun c hc => ?_
  have hadmits := h.admits c hc
  simp only [Identifier.Rule.admits, Identifier.Rule.admitsSign, Bool.or_eq_true,
    beq_iff_eq] at hadmits
  rcases hadmits with hadmits | ((rfl | rfl) | rfl) | rfl
  · exact isPlain_of_isAlphanum hadmits
  all_goals decide

theorem Fragment.dataType (h : ∀ c ∈ n.toList, ColumnDefinition.isTypeChar c = true) :
    Fixed n := by
  refine .plain fun c hc => ?_
  have htype := h c hc
  simp only [ColumnDefinition.isTypeChar, Bool.or_eq_true, beq_iff_eq, decide_eq_true_eq] at htype
  rcases htype with ((((htype | rfl) | rfl) | rfl) | rfl) | htype
  · exact isPlain_of_isAlphanum htype
  · decide
  · decide
  · decide
  · decide
  · exact isPlain_of_toNat (by omega)

end

end LakehouseSql.Sql
