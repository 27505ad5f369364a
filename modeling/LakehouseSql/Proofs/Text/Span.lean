import LakehouseSql.Proofs.Text.Ascii
import LakehouseSql.Proofs.Text.Pattern
/-! # What patterns span

A pattern spans a text if its pieces take the text one behind the other and nothing is left. It
occurs where a part of the text is spanned, and a word spans what spells it.
-/
namespace LakehouseSql.Text

/-- The characters are those that the piece can take. -/
def Piece.Takes : Piece → List Char → Prop
  | .char p, cs => ∃ c, cs = [c] ∧ foldsTo p c = true
  | .blanks, cs => ∀ c ∈ cs, isBlank c = true
  | .someBlanks, cs => cs ≠ [] ∧ ∀ c ∈ cs, isBlank c = true
  | .gap, _ => True

/-- The pieces take the characters one behind the other, to the last. -/
def Pattern.Spans : Pattern → List Char → Prop
  | [], cs => cs = []
  | piece :: pieces, cs => ∃ front back, cs = front ++ back ∧ piece.Takes front ∧ Spans pieces back

/-- The characters of a text stand one by one for those of a word. -/
def Spells (w cs : List Char) : Prop :=
  List.Forall₂ (fun p c => foldsTo p c = true) w cs

section
variable {p c sign : Char}

/-- A sign stands for nothing but itself. -/
theorem foldsTo_sign_iff (hsign : sign.toNat < 65) : foldsTo sign c = true ↔ c = sign := by
  have hs := toNat_toLower sign
  have hc := toNat_toLower c
  have hlower : sign.toLower = sign := Char.toNat_inj.mp (by omega)
  have hne (letter : Char) (hletter : 65 ≤ letter.toNat) : (sign == letter) = false := by
    rw [beq_eq_false_iff_ne]
    rintro rfl
    omega
  have hlong := hne 's' (by decide)
  have hkelvin := hne 'k' (by decide)
  simp only [foldsTo, hlower, hlong, hkelvin, Bool.false_and, Bool.or_false, beq_iff_eq,
    ← Char.toNat_inj]
  omega

/-- No blank stands for a visible character. -/
theorem not_isBlank_of_foldsTo (hp : isBlank p = false) (h : foldsTo p c = true) :
    isBlank c = false := by
  rw [Bool.eq_false_iff]
  intro hblank
  have hc (hlow : 33 ≤ c.toNat) : ¬c.toNat ≤ 126 := by
    intro hhigh
    cases hblank.symm.trans (not_isBlank_of_visible hlow hhigh)
  simp only [foldsTo, Bool.or_eq_true, Bool.and_eq_true, beq_iff_eq] at h
  rcases h with (h | ⟨-, hlong⟩) | ⟨-, hkelvin⟩
  · rcases toNat_toLower c with ⟨hlower, -⟩ | ⟨hlow, hhigh, -⟩
    · rcases toNat_toLower p with ⟨hlower', -⟩ | ⟨hlow, hhigh, hlower'⟩
      · have heq : p = c := Char.toNat_inj.mp (by rw [← hlower, ← hlower', h])
        cases (heq ▸ hp).symm.trans hblank
      · rw [h] at hlower'
        exact hc (by omega) (by omega)
    · exact hc (by omega) (by omega)
  · simp [isBlank, hlong] at hblank
  · simp [isBlank, hkelvin] at hblank

end

section
variable {cs rest : List Char}

theorem mem_restsAfterBlanks_iff : rest ∈ restsAfterBlanks cs ↔
    ∃ blanks, cs = blanks ++ rest ∧ ∀ c ∈ blanks, isBlank c = true := by
  induction cs with
  | nil =>
    rw [restsAfterBlanks, List.mem_singleton]
    constructor
    · rintro rfl
      exact ⟨[], rfl, by simp⟩
    · rintro ⟨blanks, heq, -⟩
      exact (List.nil_eq_append_iff.mp heq).2
  | cons c cs ih =>
    rw [restsAfterBlanks, List.mem_cons]
    constructor
    · rintro (rfl | h)
      · exact ⟨[], rfl, by simp⟩
      · split at h
        · rename_i hc
          obtain ⟨blanks, rfl, hblanks⟩ := ih.mp h
          exact ⟨c :: blanks, rfl, List.forall_mem_cons.mpr ⟨hc, hblanks⟩⟩
        · simp at h
    · rintro ⟨blanks, heq, hblanks⟩
      cases blanks with
      | nil => exact .inl heq.symm
      | cons b blanks =>
        obtain ⟨rfl, rfl⟩ := List.cons.inj heq
        obtain ⟨hc, hblanks⟩ := List.forall_mem_cons.mp hblanks
        rw [if_pos hc]
        exact .inr (ih.mpr ⟨blanks, rfl, hblanks⟩)

/-- A rest is left by a piece that takes what stands before it. -/
theorem Piece.mem_rests_iff_takes {piece : Piece} :
    rest ∈ piece.rests cs ↔ ∃ front, cs = front ++ rest ∧ piece.Takes front := by
  cases piece with
  | char p =>
    cases cs with
    | nil => simp [Piece.rests, Takes]
    | cons c cs =>
      constructor
      · intro h
        simp only [Piece.rests] at h
        split at h
        · rename_i hc
          rw [List.mem_singleton] at h
          exact ⟨[c], by rw [h, List.singleton_append], c, rfl, hc⟩
        · simp at h
      · rintro ⟨_, heq, d, rfl, hd⟩
        obtain ⟨rfl, rfl⟩ := List.cons.inj heq
        simp [Piece.rests, hd]
  | blanks => exact mem_restsAfterBlanks_iff
  | someBlanks =>
    cases cs with
    | nil => simp [Piece.rests, Takes]
    | cons c cs =>
      constructor
      · intro h
        simp only [Piece.rests] at h
        split at h
        · rename_i hc
          obtain ⟨blanks, rfl, hblanks⟩ := mem_restsAfterBlanks_iff.mp h
          exact ⟨c :: blanks, rfl, by simp, List.forall_mem_cons.mpr ⟨hc, hblanks⟩⟩
        · simp at h
      · rintro ⟨_ | ⟨b, blanks⟩, heq, hne, hblanks⟩
        · exact absurd rfl hne
        · obtain ⟨rfl, rfl⟩ := List.cons.inj heq
          obtain ⟨hc, hblanks⟩ := List.forall_mem_cons.mp hblanks
          simp only [Piece.rests, hc, if_true]
          exact mem_restsAfterBlanks_iff.mpr ⟨blanks, rfl, hblanks⟩
  | gap => simp [Piece.rests, Takes, mem_rests_iff, List.IsSuffix, eq_comm]

theorem Spells.visible {w : List Char} (h : Spells w cs) (hw : w.all (!isBlank ·) = true) :
    ∀ c ∈ cs, isBlank c = false := by
  induction h with
  | nil => simp
  | cons hpc _ ih =>
    rw [List.all_cons, Bool.and_eq_true, Bool.not_eq_true'] at hw
    exact List.forall_mem_cons.mpr ⟨not_isBlank_of_foldsTo hw.1 hpc, ih hw.2⟩

theorem Spells.refl (w : List Char) : Spells w w :=
  List.forall₂_same.mpr fun c _ => by simp [foldsTo]

end

namespace Pattern

variable {pattern pieces pieces' : Pattern} {w cs : List Char}

theorem matchesStart_iff_spans :
    matchesStart pattern cs = true ↔ ∃ found rest, cs = found ++ rest ∧ pattern.Spans found := by
  induction pattern generalizing cs with
  | nil => exact iff_of_true rfl ⟨[], cs, rfl, rfl⟩
  | cons piece pieces ih =>
    simp only [matchesStart, List.any_eq_true, Piece.mem_rests_iff_takes, ih]
    constructor
    · rintro ⟨_, ⟨front, rfl, hfront⟩, found, rest, rfl, hfound⟩
      exact ⟨front ++ found, rest, (List.append_assoc ..).symm, front, found, rfl, hfront, hfound⟩
    · rintro ⟨_, rest, rfl, front, found, rfl, hfront, hfound⟩
      exact ⟨found ++ rest, ⟨front, List.append_assoc .., hfront⟩, found, rest, rfl, hfound⟩

/-- A pattern occurs in a text exactly if it spans a part of it. -/
theorem occursIn_iff_spans {s : String} :
    pattern.occursIn s = true ↔ ∃ found, found <:+: s.toList ∧ pattern.Spans found := by
  simp only [occursIn_iff, matchesStart_iff_spans]
  constructor
  · rintro ⟨_, ⟨before, hbefore⟩, found, after, rfl, hfound⟩
    exact ⟨found, ⟨before, after, by simpa using hbefore⟩, hfound⟩
  · rintro ⟨found, ⟨before, after, hs⟩, hfound⟩
    exact ⟨found ++ after, ⟨before, by simpa using hs⟩, found, after, rfl, hfound⟩

theorem spans_append_iff : Spans (pieces ++ pieces') cs ↔
    ∃ front back, cs = front ++ back ∧ pieces.Spans front ∧ Spans pieces' back := by
  induction pieces generalizing cs with
  | nil =>
    constructor
    · exact fun h => ⟨[], cs, rfl, rfl, h⟩
    · rintro ⟨front, back, rfl, rfl, h⟩
      exact h
  | cons piece pieces ih =>
    simp only [List.cons_append, Spans, ih]
    constructor
    · rintro ⟨first, _, rfl, hfirst, front, back, rfl, hfront, hback⟩
      exact ⟨first ++ front, back, (List.append_assoc ..).symm, ⟨first, front, rfl, hfirst, hfront⟩,
        hback⟩
    · rintro ⟨_, back, rfl, ⟨first, front, rfl, hfirst, hfront⟩, hback⟩
      exact ⟨first, front ++ back, List.append_assoc .., hfirst, front, back, rfl, hfront, hback⟩

theorem spans_char_iff {p : Char} :
    Spans (.char p :: pieces) cs ↔
      ∃ c rest, cs = c :: rest ∧ foldsTo p c = true ∧ pieces.Spans rest := by
  constructor
  · rintro ⟨_, rest, rfl, ⟨c, rfl, hc⟩, hrest⟩
    exact ⟨c, rest, rfl, hc, hrest⟩
  · rintro ⟨c, rest, rfl, hc, hrest⟩
    exact ⟨[c], rest, rfl, ⟨c, rfl, hc⟩, hrest⟩

theorem spans_word_iff {w : String} : (word w).Spans cs ↔ Spells w.toList cs := by
  rw [word]
  induction w.toList generalizing cs with
  | nil => exact List.forall₂_nil_left_iff.symm
  | cons p w ih =>
    rw [List.map_cons, spans_char_iff, Spells, List.forall₂_cons_left_iff]
    simp only [ih, Spells]
    constructor
    · rintro ⟨c, rest, rfl, hc, hrest⟩
      exact ⟨c, rest, hc, hrest, rfl⟩
    · rintro ⟨c, rest, hc, hrest, rfl⟩
      exact ⟨c, rest, rfl, hc, hrest⟩

/-- A sign with a word in front, perhaps with blanks between them, and another word behind. -/
theorem spans_call_iff {w w' : String} {sign : Char} (hsign : sign.toNat < 65) :
    Spans (word w ++ .blanks :: .char sign :: .gap :: word w') cs ↔
      ∃ name between behind last, cs = name ++ (between ++ sign :: (behind ++ last)) ∧
        Spells w.toList name ∧ (∀ c ∈ between, isBlank c = true) ∧ Spells w'.toList last := by
  rw [spans_append_iff]
  simp only [Spans, Piece.Takes, spans_word_iff, foldsTo_sign_iff hsign]
  constructor
  · rintro ⟨name, _, rfl, hname, between, _, rfl, hbetween, _, _, rfl, ⟨c, rfl, rfl⟩, behind, last,
      rfl, -, hlast⟩
    exact ⟨name, between, behind, last, rfl, hname, hbetween, hlast⟩
  · rintro ⟨name, between, behind, last, rfl, hname, hbetween, hlast⟩
    exact ⟨name, _, rfl, hname, between, _, rfl, hbetween, [sign], _, rfl, ⟨sign, rfl, rfl⟩, behind,
      last, rfl, trivial, hlast⟩

end Pattern

end LakehouseSql.Text
