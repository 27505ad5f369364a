import LakehouseSql.Text.Basic
/-! # What a matching pattern needs

A pattern matches only a text in which each of its pieces finds a character, so a text without the
characters of one piece is free of the whole pattern.
-/
namespace LakehouseSql.Text

/-- One of the characters is of the kind that the piece has to consume. -/
def Piece.FoundIn : Piece → List Char → Prop
  | .char p, cs => ∃ c ∈ cs, foldsTo p c
  | .someBlanks, cs => ∃ c ∈ cs, isBlank c
  | .blanks, _ | .gap, _ => True

instance (piece : Piece) (cs : List Char) : Decidable (piece.FoundIn cs) :=
  match piece with
  | .char _ => decidable_of_iff _ List.any_eq_true
  | .someBlanks => decidable_of_iff _ List.any_eq_true
  | .blanks => .isTrue trivial
  | .gap => .isTrue trivial

theorem mem_rests_iff {cs rest : List Char} : rest ∈ rests cs ↔ rest <:+ cs := by
  induction cs with
  | nil => rw [rests, List.mem_singleton, List.suffix_nil]
  | cons c cs ih => rw [rests, List.mem_cons, List.suffix_cons_iff, ih]

private theorem suffix_of_mem_restsAfterBlanks {cs rest : List Char}
    (h : rest ∈ restsAfterBlanks cs) : rest <:+ cs := by
  induction cs with
  | nil =>
    rw [restsAfterBlanks, List.mem_singleton] at h
    exact h ▸ List.suffix_refl _
  | cons c cs ih =>
    rcases List.mem_cons.mp h with rfl | ht
    · exact List.suffix_refl _
    · split at ht
      · exact (ih ht).trans (List.suffix_cons c cs)
      · simp at ht

theorem Piece.foundIn_of_mem_rests (piece : Piece) {cs rest : List Char}
    (h : rest ∈ piece.rests cs) : piece.FoundIn cs ∧ rest <:+ cs := by
  cases piece with
  | char p =>
    cases cs with
    | nil => simp [Piece.rests] at h
    | cons c cs =>
      simp only [Piece.rests] at h
      split at h
      · rename_i hc
        rw [List.mem_singleton] at h
        exact ⟨⟨c, by simp, hc⟩, h ▸ List.suffix_cons c cs⟩
      · simp at h
  | blanks => exact ⟨trivial, suffix_of_mem_restsAfterBlanks h⟩
  | someBlanks =>
    cases cs with
    | nil => simp [Piece.rests] at h
    | cons c cs =>
      simp only [Piece.rests] at h
      split at h
      · rename_i hc
        exact ⟨⟨c, by simp, hc⟩, (suffix_of_mem_restsAfterBlanks h).trans (List.suffix_cons c cs)⟩
      · simp at h
  | gap => exact ⟨trivial, mem_rests_iff.mp h⟩

theorem Piece.FoundIn.mono {piece : Piece} {cs ds : List Char} (h : piece.FoundIn cs)
    (hs : cs ⊆ ds) : piece.FoundIn ds := by
  cases piece with
  | char p =>
    obtain ⟨c, hc, hp⟩ := h
    exact ⟨c, hs hc, hp⟩
  | someBlanks =>
    obtain ⟨c, hc, hp⟩ := h
    exact ⟨c, hs hc, hp⟩
  | blanks => trivial
  | gap => trivial

theorem Pattern.foundIn_of_matchesStart {pattern : Pattern} {cs : List Char}
    (h : pattern.matchesStart cs) : ∀ piece ∈ pattern, piece.FoundIn cs := by
  induction pattern generalizing cs with
  | nil => simp
  | cons first pieces ih =>
    obtain ⟨rest, hrest, hm⟩ := List.any_eq_true.mp h
    obtain ⟨hfirst, hsuffix⟩ := first.foundIn_of_mem_rests hrest
    intro piece hp
    rcases List.mem_cons.mp hp with rfl | hp
    · exact hfirst
    · exact (ih hm piece hp).mono hsuffix.subset

theorem Pattern.occursIn_iff {pattern : Pattern} {s : String} :
    pattern.occursIn s = true ↔ ∃ rest, rest <:+ s.toList ∧ pattern.matchesStart rest = true := by
  simp only [occursIn, List.any_eq_true, mem_rests_iff]

theorem Pattern.foundIn_of_occursIn {pattern : Pattern} {s : String} (h : pattern.occursIn s) :
    ∀ piece ∈ pattern, piece.FoundIn s.toList := by
  obtain ⟨rest, hrest, hm⟩ := occursIn_iff.mp h
  intro piece hp
  exact (foundIn_of_matchesStart hm piece hp).mono hrest.subset

end LakehouseSql.Text
