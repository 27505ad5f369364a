import LakehouseSql.Proofs.Sql.Name
import LakehouseSql.Render.Naming
/-! # What each rule says about every text

A rule is a grammar, and a check refuses a text for the first thing that is wrong with it: its
length, its first character, the leftmost of the other characters, and only then fragments. Of the
dangerous fragments two hyphens alone are ever the reason. The rule for columns is the narrowest,
and what the rule for SQL text accepts is one name in brackets.
-/
namespace LakehouseSql.Identifier

/-- What names begin with, what they go on with and what may stand nowhere in them. -/
structure Grammar where
  starts : Char → Prop
  continues : Char → Prop
  shuns : List Char → Prop

namespace Grammar

/-- A text of 1 to 128 characters that the grammar has as a name. -/
structure Accepts (g : Grammar) (name : String) : Prop where
  length : 1 ≤ name.toList.length ∧ name.toList.length ≤ 128
  first : ∀ c ∈ name.toList.head?, g.starts c
  rest : ∀ c ∈ name.toList.tail, g.continues c
  harmless : ¬g.shuns name.toList

/-- The first thing that is wrong with a text. -/
inductive Fault (g : Grammar) (role name : String) : IdentifierError → Prop where
  | empty (hname : name.toList = []) : Fault g role name (.empty role)
  | long (hlong : 128 < name.toList.length) :
      Fault g role name (.tooLong role name.toList.length)
  | first {c : Char} {rest : List Char} (hname : name.toList = c :: rest)
      (hshort : name.toList.length ≤ 128) (hc : ¬g.starts c) :
      Fault g role name (.invalidFirstCharacter role name)
  | character {first c : Char} {before after : List Char}
      (hname : name.toList = first :: (before ++ c :: after))
      (hshort : name.toList.length ≤ 128) (hfirst : g.starts first)
      (hbefore : ∀ d ∈ before, g.continues d) (hc : ¬g.continues c) :
      Fault g role name (.invalidCharacter role name c)
  | fragment {first : Char} {rest : List Char} (hname : name.toList = first :: rest)
      (hshort : name.toList.length ≤ 128) (hfirst : g.starts first)
      (hrest : ∀ c ∈ rest, g.continues c) (hshuns : g.shuns name.toList) :
      Fault g role name (.dangerousPattern role name)

end Grammar

/-- The grammar of a rule. -/
def Rule.grammar : Rule → Grammar
  | .object =>
    { starts := fun c => c.isAlpha ∨ c = '_'
      continues := fun c => c.isAlphanum ∨ c = '_' ∨ c = '$' ∨ c = '#' ∨ c = '@'
      shuns := fun _ => False }
  | .column =>
    { starts := fun c => c.isAlpha ∨ c = '_'
      continues := fun c => c.isAlphanum ∨ c = '_'
      shuns := fun _ => False }
  | .sql =>
    { starts := fun c => c.isAlpha ∨ c = '_'
      continues := fun c => c.isAlphanum ∨ c = '_' ∨ c = '-'
      shuns := fun cs => ['-', '-'] <:+: cs }

section
variable {rule : Rule} {c first : Char} {rest : List Char} {role name : String}
  {e : IdentifierError}

theorem starts_iff : rule.grammar.starts c ↔ isFirst c = true := by
  cases rule <;> simp [Rule.grammar, isFirst]

theorem continues_iff : rule.grammar.continues c ↔ rule.admits c = true := by
  cases rule <;> simp [Rule.grammar, Rule.admits, Rule.admitsSign, or_assoc]

/-- Behind a check of the characters, fragments are found exactly where the grammar shuns them. -/
theorem shuns_iff (hname : name.toList = first :: rest) (hfirst : rule.grammar.starts first)
    (hrest : ∀ c ∈ rest, rule.grammar.continues c) :
    rule.grammar.shuns name.toList ↔
      ∃ pattern ∈ rule.forbidden, pattern.occursIn name = true := by
  cases rule with
  | object | column => simp [Rule.grammar, Rule.forbidden]
  | sql =>
    have hchars : ∀ c ∈ name.toList, isNameChar c = true := by
      rw [hname, List.forall_mem_cons]
      refine ⟨isNameChar_of_admits (admits_of_isFirst (starts_iff.mp hfirst)), fun c hc => ?_⟩
      exact isNameChar_of_admits (continues_iff.mp (hrest c hc))
    constructor
    · intro hhyphens
      exact ⟨.word "--", by decide, hyphens_occurIn_iff.mpr hhyphens⟩
    · rintro ⟨pattern, hp, hocc⟩
      rw [eq_hyphens_of_occursIn hchars hp hocc] at hocc
      exact hyphens_occurIn_iff.mp hocc

/-- A text is accepted exactly if it is a name of the grammar. -/
theorem validate_eq_ok_iff_accepts :
    validate rule role name = .ok () ↔ rule.grammar.Accepts name := by
  rw [validate_eq_ok_iff]
  constructor
  · intro h
    obtain ⟨first, rest, hname, hfirst, hrest⟩ := h.shape
    have hstarts : rule.grammar.starts first := starts_iff.mpr hfirst
    have hcontinues : ∀ c ∈ rest, rule.grammar.continues c :=
      fun c hc => continues_iff.mpr (hrest c hc)
    refine ⟨⟨by simp [hname], h.short⟩, by simpa [hname] using hstarts,
      by simpa [hname] using hcontinues, ?_⟩
    rw [shuns_iff hname hstarts hcontinues]
    rintro ⟨pattern, hp, hocc⟩
    cases hocc.symm.trans (h.harmless pattern hp)
  · intro h
    obtain ⟨first, rest, hname⟩ := List.exists_cons_of_length_pos h.length.1
    have hstarts : rule.grammar.starts first := h.first first (by simp [hname])
    have hcontinues : ∀ c ∈ rest, rule.grammar.continues c := by
      simpa [hname] using h.rest
    refine ⟨⟨first, rest, hname, starts_iff.mp hstarts,
      fun c hc => continues_iff.mp (hcontinues c hc)⟩, h.length.2, fun pattern hp => ?_⟩
    rw [Bool.eq_false_iff]
    intro hocc
    exact h.harmless ((shuns_iff hname hstarts hcontinues).mpr ⟨pattern, hp, hocc⟩)

private theorem validate_of_cons (hname : name.toList = first :: rest) :
    validate rule role name =
      if 128 < name.toList.length then .error (.tooLong role name.toList.length)
      else if !isFirst first then .error (.invalidFirstCharacter role name)
      else
        match rest.find? fun c => !rule.admits c with
        | some c => .error (.invalidCharacter role name c)
        | none =>
          if rule.forbidden.any fun pattern => pattern.occursIn name then
            .error (.dangerousPattern role name)
          else .ok () := by
  unfold validate
  rw [hname]
  rfl

theorem fault_of_validate (h : validate rule role name = .error e) :
    rule.grammar.Fault role name e := by
  cases hname : name.toList with
  | nil =>
    simp only [validate, hname] at h
    cases h
    exact .empty hname
  | cons first rest =>
    rw [validate_of_cons hname] at h
    split at h
    · rename_i hlong
      cases h
      exact .long hlong
    rename_i hshort
    replace hshort := Nat.le_of_not_lt hshort
    split at h
    · rename_i hfirst
      cases h
      exact .first hname hshort (by simpa [starts_iff] using hfirst)
    rename_i hfirst
    replace hfirst : rule.grammar.starts first := by simpa [starts_iff] using hfirst
    split at h
    · rename_i c hc
      cases h
      obtain ⟨hnot, before, after, rfl, hbefore⟩ := List.find?_eq_some_iff_append.mp hc
      exact .character hname hshort hfirst (by simpa [continues_iff] using hbefore)
        (by simpa [continues_iff] using hnot)
    · rename_i hnone
      have hrest : ∀ c ∈ rest, rule.grammar.continues c := by
        simpa [continues_iff] using hnone
      split at h
      · rename_i hany
        cases h
        refine .fragment hname hshort hfirst hrest ?_
        exact (shuns_iff hname hfirst hrest).mpr (List.any_eq_true.mp hany)
      · cases h

theorem validate_of_fault (h : rule.grammar.Fault role name e) :
    validate rule role name = .error e := by
  cases h with
  | empty hname => simp only [validate, hname]
  | long hlong =>
    have hpos : 0 < name.toList.length := by omega
    obtain ⟨first, rest, hname⟩ := List.exists_cons_of_length_pos hpos
    rw [validate_of_cons hname, if_pos hlong]
  | first hname hshort hc =>
    rw [starts_iff, Bool.not_eq_true] at hc
    rw [validate_of_cons hname, if_neg (Nat.not_lt.mpr hshort), hc]
    rfl
  | @character first c before after hname hshort hfirst hbefore hc =>
    have hfound : (before ++ c :: after).find? (fun c => !rule.admits c) = some c := by
      rw [List.find?_eq_some_iff_append]
      exact ⟨by simpa [continues_iff] using hc, before, after, rfl,
        by simpa [continues_iff] using hbefore⟩
    rw [validate_of_cons hname, if_neg (Nat.not_lt.mpr hshort), starts_iff.mp hfirst, hfound]
    rfl
  | @fragment first rest hname hshort hfirst hrest hshuns =>
    have hnone : rest.find? (fun c => !rule.admits c) = none := by
      simpa [continues_iff] using hrest
    have hany := (shuns_iff hname hfirst hrest).mp hshuns
    rw [validate_of_cons hname, if_neg (Nat.not_lt.mpr hshort), starts_iff.mp hfirst, hnone]
    exact if_pos (List.any_eq_true.mpr hany)

/-- A text is refused exactly for the first thing that is wrong with it. -/
theorem validate_eq_error_iff :
    validate rule role name = .error e ↔ rule.grammar.Fault role name e :=
  ⟨fault_of_validate, validate_of_fault⟩

end

/-- The checks decide by their grammars, whatever the text. No dangerous fragment but two hyphens
occurs in a text of letters, digits, underscores and hyphens; a name of a column is a name under
each rule; and a name for SQL text reads as one name in brackets, in front of whatever does not run
into it. -/
theorem names_by_their_grammar (role name : String) :
    (∀ rule, validate rule role name = .ok () ↔ rule.grammar.Accepts name) ∧
    (∀ rule e, validate rule role name = .error e ↔ rule.grammar.Fault role name e) ∧
    (∀ pattern ∈ dangerousPatterns, (∀ c ∈ name.toList, c.isAlphanum ∨ c = '_' ∨ c = '-') →
      pattern.occursIn name = true → pattern = .word "--") ∧
    (validateColumn name = .ok () →
      validate .object role name = .ok () ∧ validate .sql role name = .ok ()) ∧
    (validate .sql role name = .ok () →
      Render.quoteName role name = .ok ("[" ++ name ++ "]") ∧
      Sql.tokens ("[" ++ name ++ "]").toList = some [.name name] ∧
      Sql.Reads ("[" ++ name ++ "]") [.name name]) := by
  refine ⟨fun rule => validate_eq_ok_iff_accepts, fun rule e => validate_eq_error_iff, ?_, ?_, ?_⟩
  · intro pattern hp hchars hocc
    refine eq_hyphens_of_occursIn (fun c hc => ?_) hp hocc
    simpa [isNameChar, or_assoc] using hchars c hc
  · intro h
    have hcolumn := (validate_eq_ok_iff ..).mp h
    exact ⟨(validate_eq_ok_iff ..).mpr hcolumn.object_of_column,
      (validate_eq_ok_iff ..).mpr hcolumn.sql_of_column⟩
  · intro h
    have hname := (validate_eq_ok_iff ..).mp h
    have hreads := Sql.Reads.name (Sql.not_mem_of_conforms hname).1
    refine ⟨?_, hreads.tokens_eq, hreads⟩
    unfold Render.quoteName
    rw [h]
    rfl

/-- A name with a hyphen, a column, and two texts that are refused: for two hyphens, and for the
quote, which comes before them. -/
theorem names_of_orders :
    Rule.sql.grammar.Accepts "sap-orders" ∧
    Render.quoteName "object" "sap-orders" = .ok "[sap-orders]" ∧
    Sql.tokens "[sap-orders]".toList = some [.name "sap-orders"] ∧
    validate .object "object" "order_id" = .ok () ∧ validate .sql "object" "order_id" = .ok () ∧
    Rule.sql.grammar.Fault "object" "orders--x" (.dangerousPattern "object" "orders--x") ∧
    Rule.sql.grammar.Fault "object" "o'rders--x"
      (.invalidCharacter "object" "o'rders--x" '\'') := by
  obtain ⟨haccepts, -, -, -, hbracketed⟩ := names_by_their_grammar "object" "sap-orders"
  obtain ⟨-, -, -, hcolumn, -⟩ := names_by_their_grammar "object" "order_id"
  obtain ⟨-, hhyphens, -⟩ := names_by_their_grammar "object" "orders--x"
  obtain ⟨-, hquote, -⟩ := names_by_their_grammar "object" "o'rders--x"
  have hvalid : validate .sql "object" "sap-orders" = .ok () := rfl
  obtain ⟨hname, htokens, -⟩ := hbracketed hvalid
  obtain ⟨hobject, hsql⟩ := hcolumn rfl
  exact ⟨(haccepts .sql).mp hvalid, hname, htokens, hobject, hsql,
    (hhyphens .sql _).mp rfl, (hquote .sql _).mp rfl⟩

end LakehouseSql.Identifier
