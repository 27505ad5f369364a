import LakehouseSql.Proofs.Sql.Token
/-! # Where literals end

A scanner of literals, and what it makes of a written literal with any text behind it. The literal
ends where it was written to end unless a quote follows, whatever quotes its text holds. In front of
a quote it goes on, and is one literal with the one that begins there.
-/
namespace LakehouseSql.Sql

/-- The text of the literal at the front, and what follows the literal. -/
def scanLiteral (text : String) : Option (String × String) :=
  match text.toList with
  | '\'' :: cs => (scanQuoted '\'' cs).map fun (s, rest) => (String.ofList s, String.ofList rest)
  | _ => none

/-- What is read as the inside of a literal is a text with its quotes doubled, up to a quote that
stands alone. -/
theorem eq_doubleQuotes_of_scanQuoted {cs s rest : List Char}
    (h : scanQuoted '\'' cs = some (s, rest)) :
    cs = Literal.doubleQuotes s ++ '\'' :: rest ∧ rest.head? ≠ some '\'' := by
  fun_induction scanQuoted '\'' cs generalizing s rest with
  | case1 => cases h
  | case2 =>
    cases h
    exact ⟨rfl, by simp⟩
  | case3 => cases h
  | case4 cs ih =>
    obtain ⟨⟨s', rest'⟩, hs, heq⟩ := Option.map_eq_some_iff.mp h
    cases heq
    obtain ⟨hcs, hrest⟩ := ih hs
    rw [Literal.doubleQuotes_quote, hcs]
    exact ⟨rfl, hrest⟩
  | case5 d cs hd =>
    cases h
    exact ⟨rfl, by simpa using hd⟩
  | case6 c d cs hc ih =>
    obtain ⟨⟨s', rest'⟩, hs, heq⟩ := Option.map_eq_some_iff.mp h
    cases heq
    obtain ⟨hcs, hrest⟩ := ih hs
    rw [Literal.doubleQuotes_other hc, hcs]
    exact ⟨rfl, hrest⟩

section
variable {text s t rest : String}

/-- The scanner reads what is written as a literal, in front of anything but a quote, and nothing
else. -/
theorem scanLiteral_eq_some_iff : scanLiteral text = some (s, rest) ↔
    text = Literal.quote s ++ rest ∧ rest.toList.head? ≠ some '\'' := by
  constructor
  · intro h
    unfold scanLiteral at h
    split at h
    · rename_i cs htext
      obtain ⟨⟨s', rest'⟩, hs, heq⟩ := Option.map_eq_some_iff.mp h
      cases heq
      obtain ⟨hcs, hrest⟩ := eq_doubleQuotes_of_scanQuoted hs
      refine ⟨String.toList_inj.mp ?_, by simpa using hrest⟩
      rw [htext, hcs, String.toList_append, Literal.toList_quote_append, String.toList_ofList,
        String.toList_ofList]
    · cases h
  · rintro ⟨rfl, hrest⟩
    rw [scanLiteral, String.toList_append, Literal.toList_quote_append]
    simp [scanQuoted_doubleQuotes s.toList hrest]

/-- In front of a quote the literal goes on, and the doubled quote stands for one. -/
theorem scanLiteral_quote_append (s : String) (h : rest.toList.head? = some '\'') :
    scanLiteral (Literal.quote s ++ rest) =
      (scanLiteral rest).map fun (t, rest) => (s ++ "'" ++ t, rest) := by
  obtain ⟨cs, hcs⟩ := List.head?_eq_some_iff.mp h
  have hjoin (t : List Char) :
      String.ofList (s.toList ++ '\'' :: t) = s ++ "'" ++ String.ofList t := by
    apply String.toList_inj.mp
    simp
  simp only [scanLiteral, String.toList_append, Literal.toList_quote_append, hcs,
    scanQuoted_doubleQuotes_append, scanQuoted_doubled, Option.map_map]
  congr 1
  funext ⟨t, rest⟩
  exact Prod.ext (hjoin t) rfl

private theorem scanLiteral_quote (s : String) : scanLiteral (Literal.quote s) = some (s, "") :=
  scanLiteral_eq_some_iff.mpr ⟨String.append_empty.symm, by simp⟩

/-- A literal begins with another one exactly if its text goes on with a quote behind the text of
that one. What is left of it is a literal again. -/
theorem quote_append_eq_quote_iff : Literal.quote s ++ rest = Literal.quote t ↔
    (s = t ∧ rest = "") ∨ ∃ u, t = s ++ "'" ++ u ∧ rest = Literal.quote u := by
  constructor
  · intro h
    -- the whole is read as `t`, so the front is read as `s` only if nothing is left
    have hscan := scanLiteral_quote t
    rw [← h] at hscan
    by_cases hquote : rest.toList.head? = some '\''
    · rw [scanLiteral_quote_append s hquote] at hscan
      obtain ⟨⟨u, rest'⟩, hu, heq⟩ := Option.map_eq_some_iff.mp hscan
      cases heq
      obtain ⟨hrest, -⟩ := scanLiteral_eq_some_iff.mp hu
      exact .inr ⟨u, rfl, hrest.trans String.append_empty⟩
    · rw [scanLiteral_eq_some_iff.mpr ⟨rfl, hquote⟩] at hscan
      cases hscan
      exact .inl ⟨rfl, rfl⟩
  · rintro (⟨rfl, rfl⟩ | ⟨u, rfl, rfl⟩)
    · exact String.append_empty
    · have hquote : (Literal.quote u).toList.head? = some '\'' := by simp [Literal.quote]
      have hscan := scanLiteral_quote_append s hquote
      rw [scanLiteral_quote, Option.map_some] at hscan
      exact (scanLiteral_eq_some_iff.mp hscan).1.trans String.append_empty

example : Literal.quote "it" ++ Literal.quote "s" = Literal.quote "it's" := by
  decide

end

/-- A literal is read back as its text, and nothing behind it is taken, exactly if no quote follows.
So two texts never have the same literal, and a literal that begins with another one goes on with a
quote. -/
theorem literal_delimits_itself (s : String) :
    (∀ rest : String, scanLiteral (Literal.quote s ++ rest) = some (s, rest) ↔
      rest.toList.head? ≠ some '\'') ∧
    (∀ t, Literal.quote s = Literal.quote t → s = t) ∧
    ∀ t rest, Literal.quote s ++ rest = Literal.quote t → rest ≠ "" →
      rest.toList.head? = some '\'' := by
  refine ⟨fun rest => ?_, fun t h => ?_, fun t rest h hrest => ?_⟩
  · exact scanLiteral_eq_some_iff.trans (and_iff_right rfl)
  · have hscan := scanLiteral_quote t
    rw [← h, scanLiteral_quote] at hscan
    cases hscan
    rfl
  · rcases quote_append_eq_quote_iff.mp h with ⟨-, hempty⟩ | ⟨u, -, rfl⟩
    · exact absurd hempty hrest
    · simp [Literal.quote]

theorem quotes_at_both_ends_delimited :
    scanLiteral (Literal.quote "'' it's '" ++ ", 'x')") = some ("'' it's '", ", 'x')") ∧
      Literal.quote "'' it's '" ≠ Literal.quote "' it's '" ∧
      "'s '''".toList.head? = some '\'' := by
  refine ⟨((literal_delimits_itself _).1 _).mpr (by decide), fun h => ?_, ?_⟩
  · exact absurd ((literal_delimits_itself _).2.1 _ h) (by decide)
  · exact (literal_delimits_itself "'' it").2.2 "'' it's '" "'s '''" (by decide) (by decide)

end LakehouseSql.Sql
