import Mathlib.Tactic.IntervalCases
import LakehouseSql.Proofs.Render.Common
import LakehouseSql.Proofs.Text.Seam
import LakehouseSql.Render.Fabric
import LakehouseSql.Render.Synapse
/-! # Screening covers what is run

Raw SQL is screened before it is wrapped. No pattern can stand across the seams of the wrapper, so
what is written is as free of the patterns as the text was. Fabric warehouses screen for what
serverless pools screen for, first and in the same order, and for more behind it.
-/
namespace LakehouseSql.Render
open Text (Pattern foldsTo)

variable {patterns others : List ScreenedPattern} {r : RawSql} {text name : String}

/-- The text that is run if no pattern occurs in it. -/
def runText (r : RawSql) : String :=
  match wrapLimit? r (Text.trim r.sql) with
  | some limit => "SELECT TOP " ++ toString limit.toNat ++ " * FROM (" ++ Text.trim r.sql ++
      ") AS limited_results"
  | none => Text.trim r.sql

/-- The first pattern that occurs in the text. -/
def firstScreened? (patterns : List ScreenedPattern) (r : RawSql) : Option ScreenedPattern :=
  patterns.find? fun p => p.pattern.occursIn (Text.trim r.sql)

theorem rawSql_of_none (h : firstScreened? patterns r = none) :
    rawSql patterns r = .ok (runText r) := by
  have hscreen : screen patterns (Text.trim r.sql) = .ok () := by
    rw [screen, show (patterns.find? _) = none from h]
  unfold rawSql runText
  dsimp only
  rw [hscreen]
  cases wrapLimit? r (Text.trim r.sql) with
  | none => rfl
  | some limit => rfl

theorem rawSql_of_some {p : ScreenedPattern} (h : firstScreened? patterns r = some p) :
    rawSql patterns r = .error (.screened p.name) := by
  have hscreen : screen patterns (Text.trim r.sql) = .error (.screened p.name) := by
    rw [screen, show (patterns.find? _) = some p from h]
  unfold rawSql
  dsimp only
  rw [hscreen]
  rfl

theorem rawSql_eq_ok_iff :
    rawSql patterns r = .ok text ↔ firstScreened? patterns r = none ∧ runText r = text := by
  cases h : firstScreened? patterns r with
  | none => simp [rawSql_of_none h]
  | some p => simp [rawSql_of_some h]

theorem rawSql_eq_screened_iff :
    rawSql patterns r = .error (.screened name) ↔
      ∃ p, firstScreened? patterns r = some p ∧ p.name = name := by
  cases h : firstScreened? patterns r with
  | none => simp [rawSql_of_none h]
  | some p => simp [rawSql_of_some h]

theorem firstScreened?_append : firstScreened? (patterns ++ others) r =
    (firstScreened? patterns r).or (firstScreened? others r) :=
  List.find?_append

/-- The characters of the wrapper in front of its parenthesis, with all digits for the limit. -/
def frontChars : List Char :=
  "SELECT TOP * FROM 0123456789".toList

/-- What stands behind the closing parenthesis of the wrapper. -/
def backChars : List Char :=
  " AS limited_results".toList

private theorem mem_frontChars_of_isDigit {c : Char} (h : c.isDigit = true) : c ∈ frontChars := by
  simp only [Char.isDigit, Bool.and_eq_true, decide_eq_true_eq, ge_iff_le,
    UInt32.le_iff_toNat_le] at h
  change 48 ≤ c.toNat ∧ c.toNat ≤ 57 at h
  rw [← Char.ofNat_toNat c]
  generalize c.toNat = n at h
  obtain ⟨hlow, hhigh⟩ := h
  interval_cases n <;> decide

private theorem numeral_subset_frontChars (n : Nat) : (toString n).toList ⊆ frontChars := by
  intro c hc
  have hdigit : c ∈ Nat.toDigits 10 n := by simpa using hc
  exact mem_frontChars_of_isDigit (Nat.isDigit_of_mem_toDigits (by decide) (by decide) hdigit)

/-- In front of a limited text stand only such characters, and then a parenthesis. -/
theorem runText_limited {limit : UInt64} (h : wrapLimit? r (Text.trim r.sql) = some limit) :
    ∃ front, front ⊆ frontChars ∧ (runText r).toList =
      (front ++ ['(']) ++ ((Text.trim r.sql).toList ++ ')' :: backChars) := by
  have htext : runText r = "SELECT TOP " ++ toString limit.toNat ++ " * FROM (" ++
      Text.trim r.sql ++ ") AS limited_results" := by
    rw [runText, h]
  have hopen : " * FROM (".toList = " * FROM ".toList ++ ['('] := by decide
  have hclose : ") AS limited_results".toList = ')' :: backChars := by decide
  refine ⟨"SELECT TOP ".toList ++ (toString limit.toNat).toList ++ " * FROM ".toList, ?_, ?_⟩
  · have hwords : "SELECT TOP ".toList ⊆ frontChars := by decide
    have hfrom : " * FROM ".toList ⊆ frontChars := by decide
    exact List.append_subset.mpr
      ⟨List.append_subset.mpr ⟨hwords, numeral_subset_frontChars _⟩, hfrom⟩
  · simp only [htext, String.toList_append, hopen, hclose, List.append_assoc]

private theorem screened_seams : ∀ p ∈ screenedProcedures ++ screenedSources,
    ((Pattern.firstWord p.pattern).any fun c =>
      (frontChars ++ ['(']).all fun d => !foldsTo c d) = true ∧
    ((Pattern.firstWord p.pattern).all fun c => !foldsTo c '(') = true ∧
    Pattern.stopsBefore p.pattern ')' backChars = true ∧
    ∃ piece ∈ p.pattern, ¬piece.FoundIn (')' :: backChars) := by
  decide +kernel

/-- No screened pattern can stand across a seam of the wrapper. -/
theorem screened_seamless {p : ScreenedPattern} (hp : p ∈ screenedProcedures ++ screenedSources)
    {front : List Char} (hfront : front ⊆ frontChars) :
    Pattern.Seamless p.pattern front '(' ')' backChars := by
  obtain ⟨hlacked, hlast, hstops, hmissing⟩ := screened_seams p hp
  simp only [List.any_eq_true, List.all_eq_true, Bool.not_eq_true'] at hlacked hlast
  obtain ⟨c, hc, hlacked⟩ := hlacked
  have hsubset : front ++ ['('] ⊆ frontChars ++ ['('] :=
    List.append_subset.mpr ⟨List.subset_append_of_subset_left _ hfront,
      List.subset_append_right _ _⟩
  exact ⟨⟨c, hc, fun d hd => hlacked d (hsubset hd)⟩, hlast, hstops, hmissing⟩

/-- What is free of a pattern is free of it in the wrapper as well. -/
theorem occursIn_runText {p : ScreenedPattern} (hp : p ∈ screenedProcedures ++ screenedSources)
    (h : p.pattern.occursIn (Text.trim r.sql) = false) :
    p.pattern.occursIn (runText r) = false := by
  cases hlimit : wrapLimit? r (Text.trim r.sql) with
  | none =>
    have hplain : runText r = Text.trim r.sql := by rw [runText, hlimit]
    rw [hplain, h]
  | some limit =>
    obtain ⟨front, hfront, htext⟩ := runText_limited hlimit
    rw [Bool.eq_false_iff]
    intro hocc
    obtain ⟨rest, hrest, hmatch⟩ := Pattern.occursIn_iff.mp hocc
    rw [htext] at hrest
    have hinside := (screened_seamless hp hfront).matches hrest hmatch
    cases h.symm.trans (Pattern.occursIn_iff.mpr hinside)

theorem occursIn_of_rawSql (hpatterns : patterns ⊆ screenedProcedures ++ screenedSources)
    (h : rawSql patterns r = .ok text) : ∀ p ∈ patterns, p.pattern.occursIn text = false := by
  obtain ⟨hnone, rfl⟩ := rawSql_eq_ok_iff.mp h
  intro p hp
  have hfree : p.pattern.occursIn (Text.trim r.sql) = false := by
    simpa using List.find?_eq_none.mp hnone p hp
  exact occursIn_runText (hpatterns hp) hfree

theorem rawSql_of_append_ok (h : rawSql (patterns ++ others) r = .ok text) :
    rawSql patterns r = .ok text := by
  obtain ⟨hnone, htext⟩ := rawSql_eq_ok_iff.mp h
  rw [firstScreened?_append, Option.or_eq_none_iff] at hnone
  exact rawSql_eq_ok_iff.mpr ⟨hnone.1, htext⟩

theorem rawSql_append_of_screened (h : rawSql patterns r = .error (.screened name)) :
    rawSql (patterns ++ others) r = .error (.screened name) := by
  obtain ⟨p, hp, hname⟩ := rawSql_eq_screened_iff.mp h
  refine rawSql_eq_screened_iff.mpr ⟨p, ?_, hname⟩
  rw [firstScreened?_append, hp, Option.some_or]

/-- What a platform writes for raw SQL, wrapped or not, is free of the patterns that it screens
for. What a Fabric warehouse writes, a serverless pool writes alike, and what a pool refuses for a
pattern, a warehouse refuses for the same pattern. -/
theorem screening_covers_what_is_run (r : RawSql) (settings settings' : Settings) :
    (∀ text, (Fabric.renderer settings).render (.rawSql r) = .ok text →
      (∀ p ∈ Fabric.screened, p.pattern.occursIn text = false) ∧
        (Synapse.renderer settings').render (.rawSql r) = .ok text) ∧
    (∀ text, (Synapse.renderer settings').render (.rawSql r) = .ok text →
      ∀ p ∈ Synapse.screened, p.pattern.occursIn text = false) ∧
    ∀ name, (Synapse.renderer settings').render (.rawSql r) = .error (.screened name) →
      (Fabric.renderer settings).render (.rawSql r) = .error (.screened name) := by
  refine ⟨?_, ?_, ?_⟩
  · intro text h
    exact ⟨occursIn_of_rawSql (List.Subset.refl _) h, rawSql_of_append_ok h⟩
  · intro text h
    exact occursIn_of_rawSql (List.subset_append_left _ _) h
  · intro name h
    exact rawSql_append_of_screened h

/-- A limited query in which a pattern has begun, and a call that two patterns occur in. -/
theorem begun_pattern_not_completed :
    let target : Target := ⟨"gold", "report", none, none, none⟩
    let query : RawSql := ⟨target, " select * from OPENROWSET (x, 'bul", true, default, some 5⟩
    let text := "SELECT TOP 5 * FROM (select * from OPENROWSET (x, 'bul) AS limited_results"
    let call : RawSql :=
      ⟨target, "EXEC XP_CMDSHELL 'dir'; EXEC openrowset (bulk 'x')", false, default, none⟩
    (Fabric.renderer .standard).render (.rawSql query) = .ok text ∧
    (∀ p ∈ Fabric.screened, p.pattern.occursIn text = false) ∧
    (Synapse.renderer .standard).render (.rawSql query) = .ok text ∧
    (∀ p ∈ Synapse.screened, p.pattern.occursIn text = false) ∧
    (Synapse.renderer .standard).render (.rawSql call) = .error (.screened "xp_cmdshell") ∧
    (Fabric.renderer .standard).render (.rawSql call) = .error (.screened "xp_cmdshell") := by
  intro target query text call
  have hquery : (Fabric.renderer .standard).render (.rawSql query) = .ok text := by
    decide +kernel
  have hcall : (Synapse.renderer .standard).render (.rawSql call) =
      .error (.screened "xp_cmdshell") := by
    decide +kernel
  obtain ⟨hfabric, hsynapse, -⟩ := screening_covers_what_is_run query .standard .standard
  obtain ⟨-, -, hrefused⟩ := screening_covers_what_is_run call .standard .standard
  obtain ⟨hfree, hsame⟩ := hfabric text hquery
  exact ⟨hquery, hfree, hsame, hsynapse text hsame, hcall, hrefused _ hcall⟩

end LakehouseSql.Render
