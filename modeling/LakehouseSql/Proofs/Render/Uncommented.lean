import LakehouseSql.Proofs.Render.Screening
import LakehouseSql.Proofs.Sql.Comment
import LakehouseSql.Proofs.Text.Trim
/-! # Screening and comments

A comment is nothing to the server, but screening reads it like the rest of the text. Among the
patterns only the one of a bulk read skips anything, blanks in front of a parenthesis, so a comment
there hides the read. All other texts that pass also pass without their comments.
-/
namespace LakehouseSql.Render
open Text (Spells)
open Sql (Cell cells)

/-- A bulk read with a comment in front of its parenthesis. -/
def HidesBulkRead (sql : String) : Prop :=
  ∃ (name bulk : List Char) (between behind : List Cell),
    name.map .char ++ (between ++ .char '(' :: (behind ++ bulk.map .char)) <:+: cells sql.toList ∧
    Spells "OPENROWSET".toList name ∧
    (∀ cell ∈ between, Text.isBlank cell.blanked = true) ∧ (∃ cs, .comment cs ∈ between) ∧
    Spells "BULK".toList bulk

/-- The pattern that screening has for a bulk read. -/
def bulkRead : Text.Pattern :=
  Text.Pattern.word "OPENROWSET" ++ .blanks :: .char '(' :: .gap :: Text.Pattern.word "BULK"

variable {r : RawSql} {sql w : String}

private theorem screened_hasVisibleEnds :
    ∀ p ∈ Fabric.screened, p.pattern.hasVisibleEnds = true := by
  decide

private theorem screened_words : ∀ p ∈ Fabric.screened,
    (p.name = "OPENROWSET BULK" ∧ p.pattern = bulkRead) ∨
      ∃ w : String, w.toList.all (!Text.isBlank ·) = true ∧ p.pattern = .word w := by
  intro p hp
  simp only [Fabric.screened, screenedProcedures, screenedSources, List.cons_append,
    List.nil_append, List.mem_cons, List.not_mem_nil, or_false] at hp
  rcases hp with rfl | rfl | rfl | rfl | rfl | rfl
  case inr.inr.inr.inr.inl => exact .inl ⟨rfl, rfl⟩
  all_goals exact .inr ⟨_, by decide, rfl⟩

/-- A word is not put together by blanks in the place of comments. -/
theorem occursIn_word_withoutComments (hw : w.toList.all (!Text.isBlank ·) = true)
    (h : (Text.Pattern.word w).occursIn (Sql.withoutComments sql) = true) :
    (Text.Pattern.word w).occursIn sql = true := by
  simp only [Text.Pattern.occursIn_iff_spans, Text.Pattern.spans_word_iff,
    Sql.toList_withoutComments] at h ⊢
  obtain ⟨found, hfound, hspells⟩ := h
  obtain ⟨stretch, hstretch, rfl⟩ := Sql.exists_stretch hfound
  have hstands := Sql.infix_of_stretch hstretch
  rw [Sql.eq_map_char_of_visible (hspells.visible hw), Sql.flatMap_chars_map_char] at hstands
  exact ⟨_, hstands, hspells⟩

/-- Blanks in the place of comments show a bulk read that the text has itself or hides. -/
theorem occursIn_bulkRead_withoutComments
    (h : bulkRead.occursIn (Sql.withoutComments sql) = true) :
    bulkRead.occursIn sql = true ∨ HidesBulkRead sql := by
  rw [Text.Pattern.occursIn_iff_spans, Sql.toList_withoutComments] at h
  obtain ⟨found, hfound, hspans⟩ := h
  obtain ⟨stretch, hstretch, hmap⟩ := Sql.exists_stretch hfound
  obtain ⟨name, _, behind, bulk, rfl, hname, hbetween, hbulk⟩ :=
    (Text.Pattern.spans_call_iff (by decide)).mp hspans
  obtain ⟨nameCells, _, rfl, rfl, hcall⟩ := List.map_eq_append_iff.mp hmap
  obtain ⟨between, _, rfl, rfl, harguments⟩ := List.map_eq_append_iff.mp hcall
  obtain ⟨opening, _, rfl, hopening, hbehind⟩ := List.map_eq_cons_iff.mp harguments
  obtain ⟨behind, bulkCells, rfl, rfl, rfl⟩ := List.map_eq_append_iff.mp hbehind
  -- only among the blanks and between the words can there be comments
  have hnameCells := Sql.eq_map_char_of_visible (hname.visible (by decide))
  have hbulkCells := Sql.eq_map_char_of_visible (hbulk.visible (by decide))
  have hopening : opening = .char '(' := by
    cases opening with
    | char c => exact congrArg Cell.char hopening
    | comment cs =>
      have hblank : ' ' = '(' := hopening
      exact absurd hblank (by decide)
  by_cases hcomment : ∃ cs, Cell.comment cs ∈ between
  · right
    refine ⟨nameCells.map Cell.blanked, bulkCells.map Cell.blanked, between, behind, ?_, hname, ?_,
      hcomment, hbulk⟩
    · rwa [← hnameCells, ← hbulkCells, ← hopening]
    · simpa using hbetween
  · left
    have hbetweenCells := Sql.eq_map_char (not_exists.mp hcomment)
    have hstands := Sql.infix_of_stretch hstretch
    rw [hnameCells, hbetweenCells, hopening, hbulkCells] at hstands
    simp only [List.flatMap_append, List.flatMap_cons, Sql.flatMap_chars_map_char, Cell.chars,
      List.singleton_append] at hstands
    refine Text.Pattern.occursIn_iff_spans.mpr ⟨_, hstands, ?_⟩
    exact (Text.Pattern.spans_call_iff (by decide)).mpr
      ⟨_, _, _, _, rfl, hname, hbetween, hbulk⟩

theorem HidesBulkRead.occursIn (h : HidesBulkRead sql) :
    bulkRead.occursIn (Sql.withoutComments sql) = true := by
  obtain ⟨name, bulk, between, behind, hstretch, hname, hbetween, -, hbulk⟩ := h
  have hstands := List.IsInfix.map Cell.blanked hstretch
  rw [← Sql.toList_withoutComments] at hstands
  refine Text.Pattern.occursIn_iff_spans.mpr ⟨_, hstands, ?_⟩
  refine (Text.Pattern.spans_call_iff (by decide)).mpr
    ⟨name, between.map Cell.blanked, behind.map Cell.blanked, bulk, ?_, hname, ?_, hbulk⟩
  · simp only [List.map_append, List.map_cons, Sql.map_blanked_map_char, Cell.blanked]
  · simpa using hbetween

theorem firstScreened?_eq_none_iff : firstScreened? Fabric.screened r = none ↔
    ∀ p ∈ Fabric.screened, p.pattern.occursIn r.sql = false := by
  rw [firstScreened?, List.find?_eq_none]
  refine forall₂_congr fun p hp => ?_
  rw [Text.Pattern.occursIn_trim (screened_hasVisibleEnds p hp), Bool.not_eq_true]

theorem hidesBulkRead_of_occursIn (hfree : ∀ p ∈ Fabric.screened, p.pattern.occursIn r.sql = false)
    {p : ScreenedPattern} (hp : p ∈ Fabric.screened)
    (h : p.pattern.occursIn (Sql.withoutComments r.sql) = true) :
    p.name = "OPENROWSET BULK" ∧ HidesBulkRead r.sql := by
  have hnot : ¬p.pattern.occursIn r.sql = true := by simp [hfree p hp]
  rcases screened_words p hp with ⟨hname, hpattern⟩ | ⟨w, hw, hpattern⟩
  · rw [hpattern] at h hnot
    exact ⟨hname, (occursIn_bulkRead_withoutComments h).resolve_left hnot⟩
  · rw [hpattern] at h hnot
    exact absurd (occursIn_word_withoutComments hw h) hnot

/-- An accepted text has the same tokens without its comments, and it is accepted like that unless a
comment hides a bulk read in it; then it is refused for the bulk read. -/
theorem accepted_without_comments (settings : Settings) (r : RawSql) {text : String}
    (h : (Fabric.renderer settings).render (.rawSql r) = .ok text) :
    let bare : RawSql := { r with sql := Sql.withoutComments r.sql }
    Sql.tokens bare.sql.toList =
      (Sql.tokens r.sql.toList).map (·.filter (· ≠ Sql.Token.comment)) ∧
    (¬HidesBulkRead r.sql →
      (Fabric.renderer settings).render (.rawSql bare) = .ok (runText bare)) ∧
    (HidesBulkRead r.sql →
      (Fabric.renderer settings).render (.rawSql bare) =
        .error (.screened "OPENROWSET BULK")) := by
  intro bare
  have hfree : ∀ p ∈ Fabric.screened, p.pattern.occursIn r.sql = false :=
    firstScreened?_eq_none_iff.mp (rawSql_eq_ok_iff.mp h).1
  refine ⟨?_, ?_, ?_⟩
  · rw [Sql.toList_withoutComments, Sql.tokens_blanked]
  · intro hshown
    have hnone : firstScreened? Fabric.screened bare = none := by
      refine firstScreened?_eq_none_iff.mpr fun p hp => ?_
      rw [Bool.eq_false_iff]
      exact fun hocc => hshown (hidesBulkRead_of_occursIn hfree hp hocc).2
    exact rawSql_of_none hnone
  · intro hhidden
    cases hfirst : firstScreened? Fabric.screened bare with
    | none =>
      have hbulk : ⟨"OPENROWSET BULK", bulkRead⟩ ∈ Fabric.screened :=
        List.mem_append_right _ List.mem_cons_self
      cases (firstScreened?_eq_none_iff.mp hfirst _ hbulk).symm.trans hhidden.occursIn
    | some p =>
      have hp := List.mem_of_find?_eq_some hfirst
      have hocc := List.find?_some hfirst
      rw [Text.Pattern.occursIn_trim (screened_hasVisibleEnds p hp)] at hocc
      have hname := (hidesBulkRead_of_occursIn hfree hp hocc).1
      exact hname ▸ rawSql_of_some hfirst

/-- A query with comments, and signs of comments in a literal and a name; and a hidden bulk read. -/
theorem query_and_hidden_read_without_comments :
    let target : Target := ⟨"gold", "orders", none, none, none⟩
    let query : RawSql :=
      ⟨target, "SELECT '--' AS [a/*] /* all */ FROM t -- end", true, default, none⟩
    let bare : RawSql := ⟨target, "SELECT '--' AS [a/*]   FROM t  ", true, default, none⟩
    let hidden : RawSql :=
      ⟨target, "SELECT * FROM OPENROWSET/**/(BULK 'a.csv') AS r", true, default, none⟩
    let shown : RawSql :=
      ⟨target, "SELECT * FROM OPENROWSET (BULK 'a.csv') AS r", true, default, none⟩
    (Fabric.renderer .standard).render (.rawSql query) = .ok query.sql ∧
    Sql.withoutComments query.sql = bare.sql ∧ ¬HidesBulkRead query.sql ∧
    (Fabric.renderer .standard).render (.rawSql bare) = .ok (runText bare) ∧
    (Fabric.renderer .standard).render (.rawSql hidden) = .ok hidden.sql ∧
    Sql.withoutComments hidden.sql = shown.sql ∧ HidesBulkRead hidden.sql ∧
    (Fabric.renderer .standard).render (.rawSql shown) =
      .error (.screened "OPENROWSET BULK") := by
  intro target query bare hidden shown
  have hquery : (Fabric.renderer .standard).render (.rawSql query) = .ok query.sql := by
    decide +kernel
  have hbare : Sql.withoutComments query.sql = bare.sql := by decide +kernel
  have hplain : ¬HidesBulkRead query.sql := by
    intro h
    have hocc := h.occursIn
    rw [hbare] at hocc
    revert hocc
    decide +kernel
  have hhidden : (Fabric.renderer .standard).render (.rawSql hidden) = .ok hidden.sql := by
    decide +kernel
  have hshown : Sql.withoutComments hidden.sql = shown.sql := by decide +kernel
  have hhides : HidesBulkRead hidden.sql := by
    refine ⟨"OPENROWSET".toList, "BULK".toList, [.comment "/**/".toList], [], ?_, ?_, ?_, ?_, ?_⟩
    · exact ⟨"SELECT * FROM ".toList.map .char, " 'a.csv') AS r".toList.map .char,
        by decide +kernel⟩
    · exact .refl _
    · decide
    · exact ⟨_, List.mem_singleton_self _⟩
    · exact .refl _
  obtain ⟨-, haccepted, -⟩ := accepted_without_comments .standard query hquery
  obtain ⟨-, -, hrefused⟩ := accepted_without_comments .standard hidden hhidden
  have hbare' : { query with sql := Sql.withoutComments query.sql } = bare := by rw [hbare]
  have hshown' : { hidden with sql := Sql.withoutComments hidden.sql } = shown := by rw [hshown]
  exact ⟨hquery, hbare, hplain, hbare' ▸ haccepted hplain, hhidden, hshown, hhides,
    hshown' ▸ hrefused hhides⟩

/-- A read of files that passes only with its comment. -/
theorem comment_hides_bulk_read :
    ¬∀ (r : RawSql) (settings : Settings) (text : String),
      (Fabric.renderer settings).render (.rawSql r) = .ok text →
      ∃ text', (Fabric.renderer settings).render
        (.rawSql { r with sql := Sql.withoutComments r.sql }) = .ok text' := by
  intro h
  let target : Target := ⟨"gold", "orders", none, none, none⟩
  let read : RawSql :=
    ⟨target, "SELECT * FROM OPENROWSET/* files */(BULK 'a.csv') AS r", true, default, none⟩
  have hread : (Fabric.renderer .standard).render (.rawSql read) = .ok read.sql := by
    decide +kernel
  obtain ⟨text', htext'⟩ := h read .standard read.sql hread
  have hrefused : (Fabric.renderer .standard).render
      (.rawSql { read with sql := Sql.withoutComments read.sql }) =
        .error (.screened "OPENROWSET BULK") := by
    decide +kernel
  cases hrefused.symm.trans htext'

end LakehouseSql.Render
