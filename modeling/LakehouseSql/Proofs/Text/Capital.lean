import Mathlib.Data.List.Basic
import LakehouseSql.Proofs.Text.Ascii
/-! # Letters that a capital comes from

A text begins with `SELECT` in upper case if its first letters are those of the word in either
case, except that the long s stands for the first of them as well, and a t with a diaeresis for the
last.
-/
namespace LakehouseSql.Text

/-- The characters at the front are among the given ones, one after the other. -/
def beginsAmong : List (List Char) → List Char → Bool
  | [], _ => true
  | _ :: _, [] => false
  | letters :: row, c :: cs => letters.contains c && beginsAmong row cs

/-- For each letter of `SELECT` the characters that it is the upper case of. -/
def selectLetters : List (List Char) :=
  [['S', 's', 'ſ'], ['E', 'e'], ['L', 'l'], ['E', 'e'], ['C', 'c'], ['T', 't', 'ẗ']]

/-- The characters beyond ASCII with ASCII letters in their upper case. -/
def expansions : List (Char × List Char) :=
  [('ß', ['S', 'S']), ('ı', ['I']), ('ŉ', ['\u02BC', 'N']), ('ſ', ['S']), ('ǰ', ['J', '\u030C']),
    ('ẖ', ['H', '\u0331']), ('ẗ', ['T', '\u0308']), ('ẘ', ['W', '\u030A']), ('ẙ', ['Y', '\u030A']),
    ('ẚ', ['A', '\u02BE']), ('ﬀ', ['F', 'F']), ('ﬁ', ['F', 'I']), ('ﬂ', ['F', 'L']),
    ('ﬃ', ['F', 'F', 'I']), ('ﬄ', ['F', 'F', 'L']), ('ﬅ', ['S', 'T']), ('ﬆ', ['S', 'T'])]

/-- A word, in any case of its letters, that is given in capitals. -/
def isKeyword (capitals word : String) : Bool :=
  word.toList.map Char.toUpper == capitals.toList

section
variable {c upper lower : Char} {cs : List Char}

theorem eq_of_toUpper (hlower : lower.toNat = upper.toNat + 32) (h : c.toUpper = upper) :
    c = upper ∨ c = lower := by
  have hc := toNat_toUpper c
  rw [h] at hc
  simp only [← Char.toNat_inj]
  omega

theorem uppercaseChar_cases (c : Char) :
    (c, uppercaseChar c) ∈ expansions ∨ uppercaseChar c = [c.toUpper] := by
  by_cases hc : c.toNat ∈ expansions.map fun p => p.1.toNat
  · have htable : ∀ p ∈ expansions, (p.1, uppercaseChar p.1) ∈ expansions := by
      decide +kernel
    obtain ⟨p, hp, heq⟩ := List.mem_map.mp hc
    exact .inl (Char.toNat_inj.mp heq ▸ htable p hp)
  · have hne : ∀ n ∈ expansions.map fun p => p.1.toNat, c.toNat ≠ n := fun n hn h => hc (h ▸ hn)
    right
    unfold uppercaseChar
    split
    case h_18 => rfl
    all_goals exact absurd ‹c.toNat = _› (hne _ (by decide))

private theorem isPrefixOf_cons {word : List Char} {row : List (List Char)} (upper lower : Char)
    (letters : List Char) (hlower : lower.toNat = upper.toNat + 32)
    (hcases : upper ∈ letters ∧ lower ∈ letters)
    (hletters : letters.all (fun c => (uppercaseChar c).head? == some upper) = true)
    (hexpand : ∀ more, ∀ p ∈ expansions, (upper :: word).isPrefixOf (p.2 ++ more) =
      (letters.contains p.1 && word.isPrefixOf more))
    (hword : ∀ cs, word.isPrefixOf (cs.flatMap uppercaseChar) = beginsAmong row cs)
    (cs : List Char) :
    (upper :: word).isPrefixOf (cs.flatMap uppercaseChar) = beginsAmong (letters :: row) cs := by
  -- the first capital is that of the first character, the others come from what follows
  cases cs with
  | nil => rfl
  | cons c cs =>
    rw [List.flatMap_cons, beginsAmong, ← hword]
    rcases uppercaseChar_cases c with hc | hsingle
    · exact hexpand _ _ hc
    have hcontains : letters.contains c = (upper == c.toUpper) := by
      rw [Bool.eq_iff_iff, List.contains_iff_mem, beq_iff_eq]
      constructor
      · intro hc
        have hhead := beq_iff_eq.mp (List.all_eq_true.mp hletters c hc)
        rw [hsingle] at hhead
        exact (Option.some.inj hhead).symm
      · intro hupper
        rcases eq_of_toUpper hlower hupper.symm with rfl | rfl
        · exact hcases.1
        · exact hcases.2
    rw [hsingle, hcontains, List.singleton_append, List.isPrefixOf_cons_cons]

theorem beginsAmong_takeWhile {p : Char → Bool} {row : List (List Char)}
    (hrow : ∀ letters ∈ row, ∀ c ∈ letters, p c = true) (cs : List Char) :
    beginsAmong row (cs.takeWhile p) = beginsAmong row cs := by
  induction row generalizing cs with
  | nil => rfl
  | cons letters row ih =>
    obtain ⟨hletters, hrow⟩ := List.forall_mem_cons.mp hrow
    cases cs with
    | nil => rfl
    | cons c cs =>
      by_cases hc : p c = true
      · rw [List.takeWhile_cons_of_pos hc, beginsAmong, beginsAmong, ih hrow]
      · have hother : letters.contains c = false := by
          simpa using fun hmem => hc (hletters c hmem)
        rw [List.takeWhile_cons_of_neg hc, beginsAmong, beginsAmong, hother, Bool.false_and]

theorem startsWithWord_of_isKeyword {capitals word : String}
    (hcapitals : capitals.toList.all (·.toNat < 0x80) = true) (h : isKeyword capitals word = true) :
    startsWithWord capitals word = true := by
  have hmap : word.toList.map Char.toUpper = capitals.toList := by simpa [isKeyword] using h
  have hupper : word.toList.flatMap uppercaseChar = capitals.toList := by
    rw [← hmap, ← List.flatMap_singleton' (word.toList.map Char.toUpper), List.flatMap_map]
    refine List.flatMap_congr fun c hc => uppercaseChar_ascii ?_
    have hascii := List.all_eq_true.mp hcapitals c.toUpper (hmap ▸ List.mem_map_of_mem hc)
    rw [decide_eq_true_eq] at hascii
    have hcase := toNat_toUpper c
    omega
  rw [startsWithWord, hupper]
  exact List.isPrefixOf_iff_prefix.mpr (List.prefix_refl _)

/-- One capital after the other, from the last to the first. -/
theorem startsWithWord_select (s : String) :
    startsWithWord "SELECT" s = beginsAmong selectLetters s.toList := by
  have hend (cs : List Char) : [].isPrefixOf (cs.flatMap uppercaseChar) = beginsAmong [] cs := rfl
  have ht := isPrefixOf_cons 'T' 't' ['T', 't', 'ẗ'] (by decide) (by decide)
    (by decide) (by simp [expansions, List.isPrefixOf]) hend
  have hc := isPrefixOf_cons 'C' 'c' ['C', 'c'] (by decide) (by decide)
    (by decide) (by simp [expansions, List.isPrefixOf]) ht
  have he := isPrefixOf_cons 'E' 'e' ['E', 'e'] (by decide) (by decide)
    (by decide) (by simp [expansions, List.isPrefixOf]) hc
  have hl := isPrefixOf_cons 'L' 'l' ['L', 'l'] (by decide) (by decide)
    (by decide) (by simp [expansions, List.isPrefixOf]) he
  have he := isPrefixOf_cons 'E' 'e' ['E', 'e'] (by decide) (by decide)
    (by decide) (by simp [expansions, List.isPrefixOf]) hl
  exact isPrefixOf_cons 'S' 's' ['S', 's', 'ſ'] (by decide) (by decide)
    (by decide) (by simp [expansions, List.isPrefixOf]) he s.toList

end

end LakehouseSql.Text
