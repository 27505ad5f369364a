import LakehouseSql.Proofs.Json.Number
import LakehouseSql.Proofs.Json.String
/-! # JSON text and back

A value whose numbers are read back is read back as a whole, in front of anything that does not go
on with it. The steps that the reader needs are counted beside the text and stay below the fuel
that it takes from the length of the text.
-/
namespace LakehouseSql.Json

mutual
/-- Every number in the value is read back, and every part of it is readable. -/
def Printable : Json → Prop
  | .number n => ReadsBack n
  | .array items => ItemsPrintable items
  | .object ms => MembersPrintable ms
  | .unreadable => False
  | .null | .bool _ | .string _ => True

def ItemsPrintable : List Json → Prop
  | [] => True
  | item :: items => Printable item ∧ ItemsPrintable items

def MembersPrintable : List (String × Json) → Prop
  | [] => True
  | (_, value) :: ms => Printable value ∧ MembersPrintable ms
end

theorem itemsPrintable_iff {items : List Json} :
    ItemsPrintable items ↔ ∀ item ∈ items, item.Printable := by
  induction items with
  | nil => simp [ItemsPrintable]
  | cons item items ih => simp [ItemsPrintable, ih]

theorem membersPrintable_iff {ms : List (String × Json)} :
    MembersPrintable ms ↔ ∀ m ∈ ms, m.2.Printable := by
  induction ms with
  | nil => simp [MembersPrintable]
  | cons m ms ih => simp only [MembersPrintable, ih, List.forall_mem_cons]

theorem MembersPrintable.append {ms ns : List (String × Json)} (hms : MembersPrintable ms)
    (hns : MembersPrintable ns) : MembersPrintable (ms ++ ns) := by
  rw [membersPrintable_iff] at hms hns ⊢
  exact List.forall_mem_append.mpr ⟨hms, hns⟩

mutual
/-- Steps that suffice to read a value. -/
def steps : Json → Nat
  | .array items => itemSteps items + 1
  | .object ms => memberSteps ms + 1
  | .null | .bool _ | .number _ | .string _ | .unreadable => 1

def itemSteps : List Json → Nat
  | [] => 0
  | item :: items => steps item + itemSteps items + 1

def memberSteps : List (String × Json) → Nat
  | [] => 0
  | (_, value) :: ms => steps value + memberSteps ms + 2
end

private def Opens (cs : List Char) : Prop :=
  ∃ c body, cs = c :: body ∧ isSpace c = false ∧ c ≠ ']'

private theorem skipSpaces_cons {c : Char} (h : isSpace c = false) (cs : List Char) :
    skipSpaces (c :: cs) = c :: cs := by
  simp [skipSpaces, h]

private theorem stops_cons {c : Char} (cs : List Char)
    (h : c.isDigit = false ∧ c ≠ '.' ∧ c ≠ 'e' ∧ c ≠ 'E') : Stops (c :: cs) := by
  intro d hd
  cases hd
  exact h

private theorem signOrDigit_ne {c d : Char} (hc : c = '-' ∨ c.isDigit)
    (hd : d ≠ '-' ∧ d.isDigit = false) : c ≠ d := by
  rintro rfl
  rcases hc with hc | hc
  · exact hd.1 hc
  · rw [hd.2] at hc
    cases hc

private theorem isSpace_of_signOrDigit {c : Char} (hc : c = '-' ∨ c.isDigit) :
    isSpace c = false := by
  have hne (d : Char) (hd : d ≠ '-' ∧ d.isDigit = false) : (c == d) = false :=
    beq_eq_false_iff_ne.mpr (signOrDigit_ne hc hd)
  simp only [isSpace, hne ' ' (by decide), hne '\n' (by decide), hne '\r' (by decide),
    hne '\t' (by decide), Bool.or_self]

private theorem opens_chars {j : Json} (h : j.Printable) : Opens j.chars := by
  cases j with
  | null => exact ⟨'n', _, rfl, by decide, by decide⟩
  | bool b =>
    cases b with
    | false => exact ⟨'f', _, rfl, by decide, by decide⟩
    | true => exact ⟨'t', _, rfl, by decide, by decide⟩
  | number n =>
    obtain ⟨m, hread, -⟩ := h
    obtain ⟨c, body, hbody, hc⟩ := head_of_readNumeral hread
    exact ⟨c, body, by rw [chars, hbody], isSpace_of_signOrDigit hc,
      signOrDigit_ne hc (by decide)⟩
  | string s => exact ⟨'"', _, by rw [chars]; rfl, by decide, by decide⟩
  | array items => exact ⟨'[', _, by rw [chars], by decide, by decide⟩
  | object ms => exact ⟨'\x7b', _, by rw [chars], by decide, by decide⟩
  | unreadable => exact h.elim

private theorem readValue_number {n : JsonNumber} (h : ReadsBack n) {rest : List Char}
    (hs : Stops rest) (fuel : Nat) :
    readValue (fuel + 1) (numberText n ++ rest) = some (.number n, rest) := by
  obtain ⟨m, hread, hof⟩ := h
  have happend := readNumeral_append hs hread
  obtain ⟨c, body, hbody, hc⟩ := head_of_readNumeral hread
  rw [hbody, List.cons_append] at happend ⊢
  -- no other form of value starts with a minus or a digit
  have hne (d : Char) (cs : List Char) (hd : d ≠ '-' ∧ d.isDigit = false) :
      c :: (body ++ rest) ≠ d :: cs :=
    fun heq => signOrDigit_ne hc hd (List.cons.inj heq).1
  rw [readValue, skipSpaces_cons (isSpace_of_signOrDigit hc)]
  split
  · exact absurd ‹_› (hne '"' _ (by decide))
  · exact absurd ‹_› (hne '[' _ (by decide))
  · exact absurd ‹_› (hne '\x7b' _ (by decide))
  · exact absurd ‹_› (hne 't' _ (by decide))
  · exact absurd ‹_› (hne 'f' _ (by decide))
  · exact absurd ‹_› (hne 'n' _ (by decide))
  · rw [happend]
    simp [hof]

private theorem quoted_append (s : String) (rest : List Char) :
    quoted s ++ rest = '"' :: (s.toList.flatMap escapeChar ++ '"' :: rest) := by
  simp [quoted]

private theorem readValue_string (s : String) (rest : List Char) (fuel : Nat) :
    readValue (fuel + 1) (quoted s ++ rest) = some (.string s, rest) := by
  rw [quoted_append, readValue, skipSpaces_cons (by decide)]
  simp only [readString_quoted]
  rfl

private theorem readMember_quoted {name : String} {value : Json} {cs rest : List Char} {fuel : Nat}
    (h : readValue fuel cs = some (value, rest)) :
    readMember (fuel + 1) (quoted name ++ ':' :: cs) = some (some name, value, rest) := by
  rw [quoted_append, readMember, skipSpaces_cons (by decide)]
  simp only [readString_quoted, skipSpaces_cons (c := ':') (by decide), h]
  rfl

private theorem readValue_array {items : List Json} {cs rest : List Char} {fuel : Nat}
    (ho : Opens cs) (h : readItems fuel cs = some (items, rest)) :
    readValue (fuel + 1) ('[' :: cs) = some (.array items, rest) := by
  obtain ⟨c, body, rfl, hc, hne⟩ := ho
  rw [readValue, skipSpaces_cons (by decide)]
  simp only [skipSpaces_cons hc]
  -- what follows the bracket is no closing one, so items are read
  split
  · exact absurd (List.cons.inj ‹_›).1 hne
  · rw [h]
    rfl

private theorem readValue_object {name : String} {ms : List (String × Json)} {cs rest : List Char}
    {fuel : Nat} (h : readMembers fuel (quoted name ++ cs) = some (some ms, rest)) :
    readValue (fuel + 1) ('\x7b' :: (quoted name ++ cs)) = some (.object ms, rest) := by
  rw [readValue, skipSpaces_cons (by decide)]
  rw [quoted_append] at h ⊢
  simp only [skipSpaces_cons (c := '"') (by decide)]
  split
  · exact absurd (List.cons.inj ‹_›).1 (by decide)
  · rw [h]
    rfl

private theorem opens_itemChars {item : Json} {items : List Json} (h : item.Printable)
    (rest : List Char) : Opens (itemChars (item :: items) ++ rest) := by
  obtain ⟨c, body, hbody, hc⟩ := opens_chars h
  cases items with
  | nil => exact ⟨c, body ++ [']'] ++ rest, by rw [itemChars, hbody]; rfl, hc⟩
  | cons next items =>
    exact ⟨c, body ++ ',' :: itemChars (next :: items) ++ rest, by rw [itemChars, hbody]; rfl, hc⟩

private theorem memberChars_last (name : String) (value : Json) (rest : List Char) :
    memberChars [(name, value)] ++ rest =
      quoted name ++ ':' :: (chars value ++ '\x7d' :: rest) := by
  simp [memberChars]

private theorem memberChars_more (name : String) (value : Json) (m : String × Json)
    (ms : List (String × Json)) (rest : List Char) :
    memberChars ((name, value) :: m :: ms) ++ rest =
      quoted name ++ ':' :: (chars value ++ ',' :: (memberChars (m :: ms) ++ rest)) := by
  simp [memberChars]

private theorem memberChars_eq (name : String) (value : Json) (ms : List (String × Json))
    (rest : List Char) : ∃ cs, memberChars ((name, value) :: ms) ++ rest = quoted name ++ cs := by
  cases ms with
  | nil => exact ⟨_, memberChars_last name value rest⟩
  | cons m ms => exact ⟨_, memberChars_more name value m ms rest⟩

mutual
/-- A printable value is read back in front of anything that stops it. -/
theorem readValue_chars : ∀ (j : Json), j.Printable → ∀ (rest : List Char), Stops rest →
    ∀ (fuel : Nat), steps j ≤ fuel → readValue fuel (chars j ++ rest) = some (j, rest)
  | .null, _, rest, _, fuel, hf => by
    obtain ⟨fuel, rfl⟩ := Nat.exists_eq_add_of_le' hf
    rfl
  | .bool b, _, rest, _, fuel, hf => by
    obtain ⟨fuel, rfl⟩ := Nat.exists_eq_add_of_le' hf
    cases b with
    | false => rfl
    | true => rfl
  | .number n, h, rest, hs, fuel, hf => by
    obtain ⟨fuel, rfl⟩ := Nat.exists_eq_add_of_le' hf
    exact readValue_number h hs fuel
  | .string s, _, rest, _, fuel, hf => by
    obtain ⟨fuel, rfl⟩ := Nat.exists_eq_add_of_le' hf
    exact readValue_string s rest fuel
  | .array [], _, rest, _, fuel, hf => by
    obtain ⟨fuel, rfl⟩ := Nat.exists_eq_add_of_le' hf
    rfl
  | .array (item :: items), h, rest, _, fuel, hf => by
    obtain ⟨fuel, rfl⟩ := Nat.exists_eq_add_of_le' (Nat.le_trans (Nat.le_add_left 1 _) hf)
    have hread := readItems_itemChars (item :: items) (by simp) h rest fuel
      (Nat.le_of_succ_le_succ hf)
    exact readValue_array (opens_itemChars h.1 rest) hread
  | .object [], _, rest, _, fuel, hf => by
    obtain ⟨fuel, rfl⟩ := Nat.exists_eq_add_of_le' hf
    rfl
  | .object ((name, value) :: ms), h, rest, _, fuel, hf => by
    obtain ⟨fuel, rfl⟩ := Nat.exists_eq_add_of_le' (Nat.le_trans (Nat.le_add_left 1 _) hf)
    have hread := readMembers_memberChars ((name, value) :: ms) (by simp) h rest fuel
      (Nat.le_of_succ_le_succ hf)
    obtain ⟨cs, hcs⟩ := memberChars_eq name value ms rest
    rw [chars, List.cons_append, hcs]
    rw [hcs] at hread
    exact readValue_object hread
  | .unreadable, h, _, _, _, _ => h.elim

theorem readItems_itemChars : ∀ (items : List Json), items ≠ [] → ItemsPrintable items →
    ∀ (rest : List Char) (fuel : Nat), itemSteps items ≤ fuel →
    readItems fuel (itemChars items ++ rest) = some (items, rest)
  | [], hne, _, _, _, _ => absurd rfl hne
  | [item], _, h, rest, fuel, hf => by
    obtain ⟨fuel, rfl⟩ := Nat.exists_eq_add_of_le' (Nat.le_trans (Nat.le_add_left 1 _) hf)
    have hread := readValue_chars item h.1 (']' :: rest) (stops_cons _ (by decide)) fuel
      (Nat.le_of_succ_le_succ hf)
    rw [itemChars, List.append_assoc, readItems]
    simp only [List.singleton_append, hread]
    rfl
  | item :: next :: items, _, h, rest, fuel, hf => by
    obtain ⟨fuel, rfl⟩ := Nat.exists_eq_add_of_le' (Nat.le_trans (Nat.le_add_left 1 _) hf)
    simp only [itemSteps] at hf
    have hread := readValue_chars item h.1 (',' :: (itemChars (next :: items) ++ rest))
      (stops_cons _ (by decide)) fuel (by omega)
    have hmore := readItems_itemChars (next :: items) (by simp) h.2 rest fuel
      (by simp only [itemSteps]; omega)
    rw [itemChars, List.append_assoc, List.cons_append, readItems]
    simp only [hread, skipSpaces_cons (c := ',') (by decide), hmore]
    rfl

theorem readMembers_memberChars : ∀ (ms : List (String × Json)), ms ≠ [] →
    MembersPrintable ms → ∀ (rest : List Char) (fuel : Nat), memberSteps ms ≤ fuel →
    readMembers fuel (memberChars ms ++ rest) = some (some ms, rest)
  | [], hne, _, _, _, _ => absurd rfl hne
  | [(name, value)], _, h, rest, fuel, hf => by
    obtain ⟨fuel, rfl⟩ := Nat.exists_eq_add_of_le' (Nat.le_trans (Nat.le_add_left 2 _) hf)
    simp only [memberSteps] at hf
    have hread := readValue_chars value h.1 ('\x7d' :: rest) (stops_cons _ (by decide)) fuel
      (by omega)
    rw [memberChars_last, readMembers, readMember_quoted hread]
    rfl
  | (name, value) :: (next, value') :: ms, _, h, rest, fuel, hf => by
    obtain ⟨fuel, rfl⟩ := Nat.exists_eq_add_of_le' (Nat.le_trans (Nat.le_add_left 2 _) hf)
    simp only [memberSteps] at hf
    have hread := readValue_chars value h.1 (',' :: (memberChars ((next, value') :: ms) ++ rest))
      (stops_cons _ (by decide)) fuel (by omega)
    have hmore := readMembers_memberChars ((next, value') :: ms) (by simp) h.2 rest (fuel + 1)
      (by simp only [memberSteps]; omega)
    rw [memberChars_more, readMembers, readMember_quoted hread]
    simp only [skipSpaces_cons (c := ',') (by decide), hmore]
    rfl
end

mutual
/-- The steps stay below the fuel for the length of the text. -/
theorem steps_le : ∀ j : Json, steps j ≤ 2 * j.chars.length + 1
  | .array items => by
    have h := itemSteps_le items
    simp only [steps, chars, List.length_cons]
    omega
  | .object ms => by
    have h := memberSteps_le ms
    simp only [steps, chars, List.length_cons]
    omega
  | .null | .bool _ | .number _ | .string _ | .unreadable => Nat.le_add_left 1 _

theorem itemSteps_le : ∀ items : List Json, itemSteps items ≤ 2 * (itemChars items).length
  | [] => Nat.zero_le _
  | [item] => by
    have h := steps_le item
    simp only [itemSteps, itemChars, List.length_append, List.length_cons, List.length_nil]
    omega
  | item :: next :: items => by
    have h := steps_le item
    have hmore := itemSteps_le (next :: items)
    rw [itemSteps, itemChars, List.length_append, List.length_cons]
    omega

theorem memberSteps_le : ∀ ms : List (String × Json),
    memberSteps ms ≤ 2 * (memberChars ms).length
  | [] => Nat.zero_le _
  | [(name, value)] => by
    have h := steps_le value
    simp only [memberSteps, memberChars, List.length_append, List.length_cons, List.length_nil]
    omega
  | (name, value) :: m :: ms => by
    have h := steps_le value
    have hmore := memberSteps_le (m :: ms)
    rw [memberSteps, memberChars, List.length_append, List.length_cons, List.length_append,
      List.length_cons]
    omega
end

/-- The text of a printable value is read back as that value. -/
theorem read?_text {j : Json} (h : j.Printable) : read? j.text = some j := by
  have hread := readValue_chars j h [] nofun (fuelFor j.chars)
    (Nat.le_trans (steps_le j) (Nat.le_succ _))
  rw [List.append_nil] at hread
  simp [read?, text, hread, skipSpaces]

private theorem membersUntilEnd_memberChars (fuel : Nat) :
    ∀ (ms : List (String × Json)), ms ≠ [] → MembersPrintable ms → memberSteps ms ≤ fuel + 2 →
    ∀ count, ms.length ≤ count →
    membersUntilEnd (fuel + 2) count (memberChars ms) = (ms, .closed)
  | [], hne, _, _, _, _ => absurd rfl hne
  | [(name, value)], _, h, hf, count, hcount => by
    obtain ⟨count, rfl⟩ := Nat.exists_eq_add_of_le' (Nat.le_trans (Nat.le_add_left 1 _) hcount)
    simp only [memberSteps] at hf
    have hread := readValue_chars value h.1 ['\x7d'] (stops_cons _ (by decide)) (fuel + 1)
      (by omega)
    have htext := memberChars_last name value []
    rw [List.append_nil] at htext
    rw [htext, membersUntilEnd, readMember_quoted hread]
    rfl
  | (name, value) :: (next, value') :: ms, _, h, hf, count, hcount => by
    obtain ⟨count, rfl⟩ := Nat.exists_eq_add_of_le' (Nat.le_trans (Nat.le_add_left 1 _) hcount)
    simp only [memberSteps] at hf
    have hread := readValue_chars value h.1 (',' :: memberChars ((next, value') :: ms))
      (stops_cons _ (by decide)) (fuel + 1) (by omega)
    have hmore := membersUntilEnd_memberChars fuel ((next, value') :: ms) (by simp) h.2
      (by simp only [memberSteps]; omega) count (Nat.le_of_succ_le_succ hcount)
    have htext := memberChars_more name value (next, value') ms []
    rw [List.append_nil, List.append_nil] at htext
    rw [htext, membersUntilEnd, readMember_quoted hread]
    simp only [skipSpaces_cons (c := ',') (by decide), hmore]

private theorem length_le_memberSteps (ms : List (String × Json)) :
    2 * ms.length ≤ memberSteps ms := by
  induction ms with
  | nil => exact Nat.le_refl 0
  | cons m ms ih =>
    simp only [memberSteps, List.length_cons]
    omega

/-- The text of an object with printable members is read back member by member. -/
theorem readRecord_text {names : List String} {ms : List (String × Json)} (hne : ms ≠ [])
    (h : MembersPrintable ms) : readRecord names (text (.object ms)) = (ms, .closed) := by
  have hlength := length_le_memberSteps ms
  have hsteps := memberSteps_le ms
  obtain ⟨⟨name, value⟩, tail, rfl⟩ := List.exists_cons_of_ne_nil hne
  have hread := membersUntilEnd_memberChars _ _ hne h
    (Nat.le_trans hsteps (Nat.le_add_right _ 2)) (memberChars ((name, value) :: tail)).length
    (by omega)
  obtain ⟨cs, hcs⟩ := memberChars_eq name value tail []
  rw [List.append_nil, quoted_append] at hcs
  rw [hcs] at hread
  rw [readRecord, text, String.toList_ofList, chars, hcs, skipSpaces_cons (by decide)]
  simp only [skipSpaces_cons (c := '"') (by decide)]
  exact hread

end LakehouseSql.Json
