import Mathlib.Data.List.DropRight
import LakehouseSql.Proofs.Text.Span
/-! # Trimmed texts

Blanks at the ends of a text do not matter for a pattern that begins and ends with visible
characters.
-/
namespace LakehouseSql.Text

/-- A trimmed text does not begin with a blank, and what is cut off are blanks. -/
theorem exists_trim_eq (s : String) : ∃ front back, s.toList = front ++ ((trim s).toList ++ back) ∧
    (∀ c ∈ front, isBlank c = true) ∧ (∀ c ∈ back, isBlank c = true) ∧
    ∀ c ∈ (trim s).toList.head?, isBlank c = false := by
  let rest := s.toList.dropWhile isBlank
  have htrim : (trim s).toList = rest.rdropWhile isBlank := String.toList_ofList
  refine ⟨s.toList.takeWhile isBlank, rest.rtakeWhile isBlank, ?_, ?_, ?_, ?_⟩
  · rw [htrim, List.rdropWhile_append_rtakeWhile, List.takeWhile_append_dropWhile]
  · exact fun c hc => List.mem_takeWhile_imp hc
  · exact fun c hc => List.mem_rtakeWhile_imp hc
  · intro c hc
    have hprefix : (trim s).toList <+: rest := htrim ▸ List.rdropWhile_prefix _ _
    obtain ⟨back, hback⟩ := hprefix
    have hhead : rest.head? = some c := hback ▸ List.mem_head?_append_of_mem_head? hc
    rw [← List.find?_not_eq_head?_dropWhile] at hhead
    simpa using List.find?_some hhead

/-- Both ends of the text are visible. -/
structure VisibleEnds (cs : List Char) : Prop where
  ne_nil : cs ≠ []
  first : ∀ c ∈ cs.head?, isBlank c = false
  last : ∀ c ∈ cs.getLast?, isBlank c = false

theorem VisibleEnds.reverse {cs : List Char} (h : VisibleEnds cs) : VisibleEnds cs.reverse :=
  ⟨by simpa using h.ne_nil, by simpa using h.last, by simpa using h.first⟩

theorem VisibleEnds.infix_of_blanks {cs blanks ds : List Char} (h : VisibleEnds cs)
    (hblanks : ∀ c ∈ blanks, isBlank c = true) (hstands : cs <:+: blanks ++ ds) : cs <:+: ds := by
  induction blanks with
  | nil => exact hstands
  | cons b blanks ih =>
    obtain ⟨hb, hblanks⟩ := List.forall_mem_cons.mp hblanks
    rcases List.infix_cons_iff.mp hstands with hfirst | hstands
    · obtain ⟨c, cs, rfl⟩ := List.exists_cons_of_ne_nil h.ne_nil
      obtain ⟨rfl, -⟩ := List.cons_prefix_cons.mp hfirst
      cases hb.symm.trans (h.first c rfl)
    · exact ih hblanks hstands

/-- What has visible ends stands in a text exactly if it stands in the trimmed text. -/
theorem VisibleEnds.infix_trim_iff {cs : List Char} (h : VisibleEnds cs) (s : String) :
    cs <:+: (trim s).toList ↔ cs <:+: s.toList := by
  obtain ⟨front, back, hs, hfront, hback, -⟩ := exists_trim_eq s
  rw [hs]
  constructor
  · intro hstands
    exact hstands.trans ⟨front, back, List.append_assoc ..⟩
  · intro hstands
    have hbehind := h.infix_of_blanks hfront hstands
    have hrev : cs.reverse <:+: back.reverse ++ (trim s).toList.reverse := by
      rw [← List.reverse_append]
      exact List.reverse_infix.mpr hbehind
    have hback' : ∀ c ∈ back.reverse, isBlank c = true := by simpa using hback
    exact List.reverse_infix.mp (h.reverse.infix_of_blanks hback' hrev)

/-- The piece is a visible character. -/
def Piece.isVisible : Piece → Bool
  | .char p => !isBlank p
  | .blanks | .someBlanks | .gap => false

theorem Piece.Takes.visible {piece : Piece} {cs : List Char} (h : piece.Takes cs)
    (hpiece : piece.isVisible = true) : ∃ c, cs = [c] ∧ isBlank c = false := by
  cases piece with
  | char p =>
    obtain ⟨c, rfl, hc⟩ := h
    exact ⟨c, rfl, not_isBlank_of_foldsTo (by simpa [isVisible] using hpiece) hc⟩
  | blanks | someBlanks | gap => cases hpiece

namespace Pattern

/-- The first and the last piece are visible characters. -/
def hasVisibleEnds (pattern : Pattern) : Bool :=
  pattern.head?.any Piece.isVisible && pattern.getLast?.any Piece.isVisible

theorem Spans.visibleEnds {pattern : Pattern} {cs : List Char} (h : pattern.Spans cs)
    (hends : pattern.hasVisibleEnds = true) : VisibleEnds cs := by
  simp only [hasVisibleEnds, Bool.and_eq_true, Option.any_eq_true] at hends
  obtain ⟨⟨first, hfirst, hfirstVisible⟩, last, hlast, hlastVisible⟩ := hends
  obtain ⟨pieces, hpieces⟩ := List.head?_eq_some_iff.mp hfirst
  obtain ⟨front, hfront⟩ := List.getLast?_eq_some_iff.mp hlast
  obtain ⟨_, back, hcs, htakes, -⟩ := hpieces ▸ h
  obtain ⟨c, rfl, hc⟩ := htakes.visible hfirstVisible
  obtain ⟨front, _, hcs', -, _, _, rfl, htakes, rfl⟩ := spans_append_iff.mp (hfront ▸ h)
  obtain ⟨d, rfl, hd⟩ := htakes.visible hlastVisible
  exact ⟨by simp [hcs], by simpa [hcs] using hc, by simpa [hcs'] using hd⟩

/-- Blanks at the ends of a text do not matter for a pattern with visible ends. -/
theorem occursIn_trim {pattern : Pattern} (hends : pattern.hasVisibleEnds = true) (s : String) :
    pattern.occursIn (trim s) = pattern.occursIn s := by
  rw [Bool.eq_iff_iff, occursIn_iff_spans, occursIn_iff_spans]
  exact exists_congr fun found =>
    and_congr_left fun h => (h.visibleEnds hends).infix_trim_iff s

end Pattern

end LakehouseSql.Text
