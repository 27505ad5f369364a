import LakehouseSql.Proofs.Text.Pattern
/-! # Patterns in a wrapped text

A text is wrapped between two others. A match of a pattern in the whole lies in the wrapped text
alone if nothing of the pattern stands across a seam: its first word has a character that the front
lacks and none that is the last of the front, no piece takes the first character of the back, and
behind each gap something is left that the back lacks.
-/
namespace LakehouseSql.Text

private theorem suffix_append_cases {rest front back : List Char} (h : rest <:+ front ++ back) :
    rest <:+ back ∨ ∃ part, part ≠ [] ∧ part <:+ front ∧ rest = part ++ back := by
  rcases List.suffix_or_suffix_of_suffix h (List.suffix_append front back) with h' | ⟨part, rfl⟩
  · exact .inl h'
  · by_cases hpart : part = []
    · exact .inl (by simp [hpart])
    · obtain ⟨before, hbefore⟩ := h
      rw [← List.append_assoc] at hbefore
      exact .inr ⟨part, hpart, ⟨before, List.append_cancel_right hbefore⟩, rfl⟩

namespace Pattern

variable {pattern : Pattern} {cs front back : List Char}

/-- The word that a pattern begins with. -/
def firstWord : Pattern → List Char
  | .char p :: pieces => p :: firstWord pieces
  | _ => []

/-- A match that begins in the front leaves it behind with all of the first word, or has taken
all of it with that word. -/
theorem front_of_matchesStart (h : matchesStart pattern (front ++ cs) = true) :
    (∀ p ∈ firstWord pattern, ∃ c ∈ front, foldsTo p c = true) ∨
      ∀ c ∈ front, ∃ p ∈ firstWord pattern, foldsTo p c = true := by
  induction pattern generalizing front with
  | nil => exact .inl (by simp [firstWord])
  | cons piece pieces ih =>
    cases piece with
    | char p =>
      cases front with
      | nil => exact .inr (by simp)
      | cons c front =>
        simp only [List.cons_append, matchesStart, Piece.rests] at h
        split at h
        · rename_i hp
          have hrest : matchesStart pieces (front ++ cs) = true := by simpa using h
          rcases ih hrest with hword | hfront
          · left
            intro q hq
            rcases List.mem_cons.mp hq with rfl | hq
            · exact ⟨c, by simp, hp⟩
            · obtain ⟨d, hd, hfold⟩ := hword q hq
              exact ⟨d, by simp [hd], hfold⟩
          · right
            intro d hd
            rcases List.mem_cons.mp hd with rfl | hd
            · exact ⟨p, by simp [firstWord], hp⟩
            · obtain ⟨q, hq, hfold⟩ := hfront d hd
              exact ⟨q, by simp [firstWord, hq], hfold⟩
        · simp at h
    | blanks => exact .inl (by simp [firstWord])
    | someBlanks => exact .inl (by simp [firstWord])
    | gap => exact .inl (by simp [firstWord])

/-- No piece takes the first character of the back, and behind each gap something is left that the
back lacks. -/
def stopsBefore (pattern : Pattern) (first : Char) (back : List Char) : Bool :=
  match pattern with
  | [] => true
  | .char p :: pieces => !foldsTo p first && stopsBefore pieces first back
  | .blanks :: pieces => !isBlank first && stopsBefore pieces first back
  | .someBlanks :: pieces => !isBlank first && stopsBefore pieces first back
  | .gap :: pieces =>
    (pieces.any fun piece => !decide (piece.FoundIn (first :: back))) &&
      stopsBefore pieces first back

theorem mem_restsAfterBlanks_append {first : Char} (hfirst : isBlank first = false)
    {rest : List Char} (h : rest ∈ restsAfterBlanks (cs ++ first :: back)) :
    ∃ part ∈ restsAfterBlanks cs, rest = part ++ first :: back := by
  induction cs with
  | nil => simpa [restsAfterBlanks, hfirst] using h
  | cons c cs ih =>
    rcases List.mem_cons.mp h with rfl | h
    · exact ⟨c :: cs, by simp [restsAfterBlanks], rfl⟩
    · split at h
      · rename_i hc
        obtain ⟨part, hpart, rfl⟩ := ih h
        exact ⟨part, by simp [restsAfterBlanks, hc, hpart], rfl⟩
      · simp at h

/-- A match that begins before the back ends before it. -/
theorem matchesStart_of_append {first : Char} (hstops : stopsBefore pattern first back = true)
    (h : matchesStart pattern (cs ++ first :: back) = true) : matchesStart pattern cs = true := by
  induction pattern generalizing cs with
  | nil => rfl
  | cons piece pieces ih =>
    obtain ⟨rest, hrest, hmatch⟩ := List.any_eq_true.mp h
    cases piece with
    | char p =>
      simp only [stopsBefore, Bool.and_eq_true, Bool.not_eq_true'] at hstops
      cases cs with
      | nil => simp [Piece.rests, hstops.1] at hrest
      | cons c cs =>
        simp only [List.cons_append, Piece.rests] at hrest
        split at hrest
        · rename_i hp
          rw [List.mem_singleton] at hrest
          have hcs := ih hstops.2 (hrest ▸ hmatch)
          simp [matchesStart, Piece.rests, hp, hcs]
        · simp at hrest
    | blanks =>
      simp only [stopsBefore, Bool.and_eq_true, Bool.not_eq_true'] at hstops
      obtain ⟨part, hpart, rfl⟩ := mem_restsAfterBlanks_append hstops.1 hrest
      exact List.any_eq_true.mpr ⟨part, hpart, ih hstops.2 hmatch⟩
    | someBlanks =>
      simp only [stopsBefore, Bool.and_eq_true, Bool.not_eq_true'] at hstops
      cases cs with
      | nil => simp [Piece.rests, hstops.1] at hrest
      | cons c cs =>
        simp only [List.cons_append, Piece.rests] at hrest
        split at hrest
        · rename_i hc
          obtain ⟨part, hpart, rfl⟩ := mem_restsAfterBlanks_append hstops.1 hrest
          refine List.any_eq_true.mpr ⟨part, ?_, ih hstops.2 hmatch⟩
          simpa [Piece.rests, hc] using hpart
        · simp at hrest
    | gap =>
      simp only [stopsBefore, Bool.and_eq_true, List.any_eq_true, Bool.not_eq_true',
        decide_eq_false_iff_not] at hstops
      obtain ⟨⟨missing, hmissing, hlacks⟩, hstops⟩ := hstops
      rcases suffix_append_cases (mem_rests_iff.mp hrest) with hback | ⟨part, -, hpart, rfl⟩
      · have hfound := foundIn_of_matchesStart hmatch missing hmissing
        exact absurd (hfound.mono hback.subset) hlacks
      · exact List.any_eq_true.mpr ⟨part, mem_rests_iff.mpr hpart, ih hstops hmatch⟩

/-- Nothing of the pattern stands across a seam of a text that is wrapped. -/
structure Seamless (pattern : Pattern) (front : List Char) (last first : Char)
    (back : List Char) : Prop where
  lacked : ∃ p ∈ firstWord pattern, ∀ c ∈ front ++ [last], foldsTo p c = false
  last : ∀ p ∈ firstWord pattern, foldsTo p last = false
  stops : stopsBefore pattern first back = true
  missing : ∃ piece ∈ pattern, ¬piece.FoundIn (first :: back)

/-- What occurs in the whole occurs in the wrapped text. -/
theorem Seamless.matches {last first : Char} (h : Seamless pattern front last first back)
    {rest : List Char} (hrest : rest <:+ (front ++ [last]) ++ (cs ++ first :: back))
    (hmatch : matchesStart pattern rest = true) :
    ∃ part, part <:+ cs ∧ matchesStart pattern part = true := by
  rcases suffix_append_cases hrest with hinside | ⟨part, hne, hpart, rfl⟩
  · rcases suffix_append_cases hinside with hback | ⟨part, -, hpart, rfl⟩
    · obtain ⟨piece, hpiece, hlacks⟩ := h.missing
      have hfound := foundIn_of_matchesStart hmatch piece hpiece
      exact absurd (hfound.mono hback.subset) hlacks
    · exact ⟨part, hpart, matchesStart_of_append h.stops hmatch⟩
  · -- the match begins in the front, so the first word stands in it or takes its last character
    obtain rfl | ⟨before, rfl, -⟩ := List.suffix_concat_iff.mp hpart
    · exact absurd rfl hne
    · rcases front_of_matchesStart hmatch with hword | hfront
      · obtain ⟨p, hp, hlacks⟩ := h.lacked
        obtain ⟨c, hc, hfold⟩ := hword p hp
        cases (hlacks c (hpart.subset hc)).symm.trans hfold
      · obtain ⟨p, hp, hfold⟩ := hfront last (by simp)
        cases (h.last p hp).symm.trans hfold

end Pattern

end LakehouseSql.Text
