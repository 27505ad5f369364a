import LakehouseSql.Proofs.Render.Screening
import LakehouseSql.Proofs.Sql.Constant
import LakehouseSql.Proofs.Sql.Leading
import LakehouseSql.Proofs.Text.Capital
/-! # Limited queries

Raw SQL that is a query and has a limit is put between parentheses, in a query for its first rows.
What a platform reads there are the tokens of the query between those of the wrapper, unless the
query ends in a line comment: this takes the closing parenthesis and all behind it.
-/
namespace LakehouseSql.Render
open Sql (Closed Parted Parts Reads Token tokens endsInLineComment leftBehind)

/-- A text in a query for its first rows. -/
def limitedText (limit : UInt64) (sql : String) : String :=
  "SELECT TOP " ++ toString limit.toNat ++ " * FROM (" ++ sql ++ ") AS limited_results"

def openingTokens (limit : UInt64) : List Token :=
  [.word "SELECT", .word "TOP", .word (toString limit.toNat), .sign '*', .word "FROM", .sign '(']

def closingTokens : List Token :=
  [.sign ')', .word "AS", .word "limited_results"]

def withoutComments (toks : List Token) : List Token :=
  toks.filter (· != .comment)

/-- Without comments, the text is read as the tokens in a query for their first rows. -/
def Encloses (limit : UInt64) (toks : List Token) (text : String) : Prop :=
  (tokens text.toList).map withoutComments =
    some (openingTokens limit ++ withoutComments toks ++ closingTokens)

variable {r : RawSql} {limit : UInt64} {sql text : String} {toks : List Token}

private theorem closed_opening (limit : UInt64) :
    Closed ("SELECT TOP " ++ toString limit.toNat ++ " * FROM (") (openingTokens limit) := by
  have htop : Closed "SELECT TOP " [.word "SELECT", .word "TOP"] := .words rfl (by decide +kernel)
  have hfrom : Parts " * FROM (" [.sign '*', .word "FROM", .sign '('] :=
    .words rfl (by decide +kernel)
  have hlimit : Reads (toString limit.toNat) [.word (toString limit.toNat)] :=
    (Sql.reads_digits (Sql.isDigits_toDigits limit.toNat)).1
  exact hlimit.enclose htop hfrom

/-- The closing parenthesis and what stands behind it are read only behind a text that does not
end in a line comment. -/
theorem tokens_limitedText (limit : UInt64) (h : tokens sql.toList = some toks) :
    tokens (limitedText limit sql).toList = some (openingTokens limit ++ (toks ++
      if endsInLineComment sql.toList then [] else closingTokens)) := by
  have hclose : Reads ") AS limited_results" closingTokens := .words rfl (by decide +kernel)
  have hparted : Parted ") AS limited_results".toList := by
    have hchars : ") AS limited_results".toList = ')' :: backChars := by decide
    have hword : Sql.isWordChar ')' = false := by decide
    rw [hchars]
    exact ⟨Sql.calm_plain (by decide) _, by simpa using hword⟩
  have hbehind : tokens (leftBehind sql.toList ") AS limited_results".toList) =
      some (if endsInLineComment sql.toList then [] else closingTokens) := by
    unfold leftBehind
    split
    · have hline : (") AS limited_results".toList).dropWhile (· != '\n') = [] := by decide
      rw [hline, Sql.tokens_nil]
    · exact hclose.tokens_eq
  rw [limitedText, String.append_assoc, String.toList_append, closed_opening,
    String.toList_append, Sql.tokens_append hparted (by decide) h, hbehind]
  rfl

theorem runText_of_wrapLimit (h : wrapLimit? r (Text.trim r.sql) = some limit) :
    runText r = limitedText limit (Text.trim r.sql) := by
  rw [runText, h, limitedText]

theorem runText_of_render {settings : Settings}
    (h : (Fabric.renderer settings).render (.rawSql r) = .ok text ∨
      (Synapse.renderer settings).render (.rawSql r) = .ok text) : text = runText r := by
  rcases h with h | h
  · exact (rawSql_eq_ok_iff.mp h).2.symm
  · exact (rawSql_eq_ok_iff.mp h).2.symm

theorem synapse_of_fabric {settings settings' : Settings}
    (h : (Fabric.renderer settings).render (.rawSql r) = .ok text) :
    (Synapse.renderer settings').render (.rawSql r) = .ok text := by
  have hfabric : rawSql Fabric.screened r = .ok text := h
  have hscreened : Fabric.screened = Synapse.screened ++ screenedSources := rfl
  rw [hscreened] at hfabric
  exact rawSql_of_append_ok hfabric

private theorem encloses_iff_of_tokens {back : List Token} (hback : .comment ∉ back)
    (h : tokens text.toList = some (openingTokens limit ++ (toks ++ back))) :
    Encloses limit toks text ↔ back = closingTokens := by
  have hopening : withoutComments (openingTokens limit) = openingTokens limit := by
    simp [withoutComments, openingTokens]
  have hkept : withoutComments back = back := by
    simpa [withoutComments, List.filter_eq_self] using
      fun t ht => ne_of_mem_of_not_mem ht hback
  have htokens : withoutComments (openingTokens limit ++ (toks ++ back)) =
      openingTokens limit ++ withoutComments toks ++ back := by
    rw [withoutComments, List.filter_append, List.filter_append, ← withoutComments,
      ← withoutComments, ← withoutComments, hopening, hkept, List.append_assoc]
  rw [Encloses, h, Option.map_some, htokens, Option.some_inj, List.append_cancel_left_eq]

/-- A limited query stands between the parentheses of the query for its first rows exactly if it
does not end in a line comment. If it does, nothing closes the parenthesis. -/
theorem limit_encloses_iff {settings : Settings}
    (hlimit : wrapLimit? r (Text.trim r.sql) = some limit)
    (htoks : tokens (Text.trim r.sql).toList = some toks)
    (h : (Fabric.renderer settings).render (.rawSql r) = .ok text ∨
      (Synapse.renderer settings).render (.rawSql r) = .ok text) :
    (Encloses limit toks text ↔ endsInLineComment (Text.trim r.sql).toList = false) ∧
      (endsInLineComment (Text.trim r.sql).toList = true →
        tokens text.toList = some (openingTokens limit ++ toks)) := by
  have htokens := tokens_limitedText limit htoks
  rw [← runText_of_wrapLimit hlimit, ← runText_of_render h] at htokens
  cases hends : endsInLineComment (Text.trim r.sql).toList with
  | false =>
    rw [hends, if_neg Bool.false_ne_true] at htokens
    have hencloses := encloses_iff_of_tokens (by decide) htokens
    exact ⟨iff_of_true (hencloses.mpr rfl) rfl, nofun⟩
  | true =>
    rw [hends, if_pos rfl] at htokens
    have hencloses := encloses_iff_of_tokens (by decide) htokens
    refine ⟨iff_of_false (fun h => ?_) nofun, fun _ => ?_⟩
    · cases hencloses.mp h
    · rw [htokens, List.append_nil]

/-- A query with signs of comments in a name and with comments of both kinds, which is enclosed. -/
theorem commented_query_enclosed :
    let target : Target := ⟨"gold", "report", none, none, none⟩
    let r : RawSql := ⟨target, " select [a--b] -- it's\nFROM t /* x */", true, default, some 5⟩
    let text := "SELECT TOP 5 * FROM (select [a--b] -- it's\nFROM t /* x */) AS limited_results"
    let toks : List Token :=
      [.word "select", .name "a--b", .comment, .word "FROM", .word "t", .comment]
    wrapLimit? r (Text.trim r.sql) = some 5 ∧ tokens (Text.trim r.sql).toList = some toks ∧
      (Fabric.renderer .standard).render (.rawSql r) = .ok text ∧ Encloses 5 toks text := by
  intro target r text toks
  have hlimit : wrapLimit? r (Text.trim r.sql) = some 5 := by decide +kernel
  have htoks : tokens (Text.trim r.sql).toList = some toks := by decide +kernel
  have hrender : (Fabric.renderer .standard).render (.rawSql r) = .ok text := by decide +kernel
  have hends : endsInLineComment (Text.trim r.sql).toList = false := by decide +kernel
  obtain ⟨hencloses, -⟩ := limit_encloses_iff hlimit htoks (.inl hrender)
  exact ⟨hlimit, htoks, hrender, hencloses.mpr hends⟩

/-- A query that ends in a line comment, in which the closing parenthesis is lost. -/
theorem line_comment_not_enclosed :
    let target : Target := ⟨"gold", "orders", none, none, none⟩
    let r : RawSql := ⟨target, "SELECT 1 -- one", true, default, some 5⟩
    let text := "SELECT TOP 5 * FROM (SELECT 1 -- one) AS limited_results"
    let toks : List Token := [.word "SELECT", .word "1", .comment]
    RawSql.lifecycle.Reached r ∧ wrapLimit? r (Text.trim r.sql) = some 5 ∧
      tokens (Text.trim r.sql).toList = some toks ∧
      (Fabric.renderer .standard).render (.rawSql r) = .ok text ∧
      (Synapse.renderer .standard).render (.rawSql r) = .ok text ∧ ¬Encloses 5 toks text := by
  intro target r text toks
  have htarget : target.Reached := Lifecycle.reached_of_made ⟨"gold", "orders", rfl⟩
  have hr : RawSql.lifecycle.Reached r :=
    ⟨_, [.returning default, .limit 5], ⟨target, "SELECT 1 -- one", htarget, rfl⟩, rfl⟩
  have hlimit : wrapLimit? r (Text.trim r.sql) = some 5 := by decide +kernel
  have htoks : tokens (Text.trim r.sql).toList = some toks := by decide +kernel
  have hends : endsInLineComment (Text.trim r.sql).toList = true := by decide +kernel
  have htext : text = limitedText 5 (Text.trim r.sql) := by decide +kernel
  have hlost : ¬Encloses 5 toks text := by
    have htokens := tokens_limitedText 5 htoks
    rw [← htext, if_pos hends] at htokens
    intro hencloses
    cases (encloses_iff_of_tokens (by decide) htokens).mp hencloses
  have hfabric : (Fabric.renderer .standard).render (.rawSql r) = .ok text := by decide +kernel
  exact ⟨hr, hlimit, htoks, hfabric, synapse_of_fabric hfabric, hlost⟩

/-- The first word of the text is `SELECT`, in any case of its letters. -/
def IsQuery (sql : String) : Prop :=
  ∃ w ∈ Sql.leadingWord? sql.toList, Text.isKeyword "SELECT" w = true

/-- A query behind a comment. -/
def BehindComment (sql : String) : Prop :=
  Sql.BeginsWithComment (Text.trim sql).toList ∧ IsQuery sql

/-- A text without a comment in front whose first word is another one, though its first letters
have those of `SELECT` for their upper case. -/
def LooksLikeQuery (sql : String) : Prop :=
  ¬Sql.BeginsWithComment (Text.trim sql).toList ∧ ∃ w ∈ Sql.leadingWord? sql.toList,
    Text.beginsAmong Text.selectLetters w.toList = true ∧ Text.isKeyword "SELECT" w = false

instance (sql : String) : Decidable (IsQuery sql) :=
  inferInstanceAs (Decidable (∃ w ∈ _, _))

instance (sql : String) : Decidable (BehindComment sql) :=
  inferInstanceAs (Decidable (_ ∧ _))

instance (sql : String) : Decidable (LooksLikeQuery sql) :=
  inferInstanceAs (Decidable (_ ∧ ∃ w ∈ _, _))

private theorem isWordChar_selectLetters :
    ∀ letters ∈ Text.selectLetters, ∀ c ∈ letters, Sql.isWordChar c = true := by
  have hall : (Text.selectLetters.all fun letters => letters.all Sql.isWordChar) = true := by
    decide
  intro letters hletters
  exact List.all_eq_true.mp (List.all_eq_true.mp hall letters hletters)

private theorem not_startsWithWord_of_comment (h : Sql.BeginsWithComment sql.toList) :
    Text.startsWithWord "SELECT" sql = false := by
  rw [Text.startsWithWord_select]
  rcases h with ⟨rest, hrest⟩ | ⟨rest, hrest⟩
  · rw [← hrest]
    rfl
  · rw [← hrest]
    rfl

private theorem startsWithWord_iff_leadingWord
    (hblank : ∀ c ∈ sql.toList.head?, Text.isBlank c = false)
    (hcomment : ¬Sql.BeginsWithComment sql.toList) :
    Text.startsWithWord "SELECT" sql = true ↔ ∃ w ∈ Sql.leadingWord? sql.toList,
      Text.beginsAmong Text.selectLetters w.toList = true := by
  rw [Text.startsWithWord_select, ← Text.beginsAmong_takeWhile isWordChar_selectLetters]
  generalize sql.toList = cs at hblank hcomment
  cases cs with
  | nil => simp [Text.beginsAmong, Text.selectLetters]
  | cons c cs =>
    rw [Sql.leadingWord?_other (hblank c rfl) hcomment]
    by_cases hword : Sql.isWordChar c = true
    · simp [hword]
    · simp [hword, Text.beginsAmong, Text.selectLetters]

private theorem startsWithWord_iff_isQuery (sql : String) :
    (Text.startsWithWord "SELECT" (Text.trim sql) = true ↔ IsQuery sql) ↔
      ¬BehindComment sql ∧ ¬LooksLikeQuery sql := by
  by_cases hcomment : Sql.BeginsWithComment (Text.trim sql).toList
  · have hstarts := not_startsWithWord_of_comment hcomment
    simp [hstarts, BehindComment, LooksLikeQuery, hcomment]
  · obtain ⟨-, -, -, -, -, hblank⟩ := Text.exists_trim_eq sql
    rw [startsWithWord_iff_leadingWord hblank hcomment, Sql.leadingWord?_trim]
    unfold BehindComment LooksLikeQuery IsQuery
    cases hword : Sql.leadingWord? sql.toList with
    | none => simp
    | some w =>
      by_cases hkeyword : Text.isKeyword "SELECT" w = true
      · have hstarts := Text.startsWithWord_of_isKeyword (by decide) hkeyword
        rw [Text.startsWithWord_select] at hstarts
        simp [hcomment, hkeyword, hstarts]
      · simp [hcomment, hkeyword]

private theorem limitedText_ne (limit : UInt64) (sql : String) : limitedText limit sql ≠ sql := by
  intro h
  have hlength := congrArg String.length h
  simp only [limitedText, String.length_append] at hlength
  have hfront : "SELECT TOP ".length = 11 := rfl
  omega

private theorem runText_of_limit (hresults : r.returnsResults = true)
    (hlimit : r.limit = some limit) :
    runText r = if Text.startsWithWord "SELECT" (Text.trim r.sql) then
      limitedText limit (Text.trim r.sql) else Text.trim r.sql := by
  by_cases hstarts : Text.startsWithWord "SELECT" (Text.trim r.sql) = true
  · have hwrap : wrapLimit? r (Text.trim r.sql) = some limit := by
      simp [wrapLimit?, hresults, hstarts, hlimit]
    rw [if_pos hstarts, runText_of_wrapLimit hwrap]
  · have hwrap : wrapLimit? r (Text.trim r.sql) = none := by
      simp [wrapLimit?, hstarts]
    rw [if_neg hstarts, runText, hwrap]

private theorem rawSql_of_unscreened {patterns : List ScreenedPattern} (h : Unscreened patterns r) :
    rawSql patterns r = .ok (runText r) :=
  rawSql_of_none (List.find?_eq_none.mpr fun p hp => by simp [h p hp])

/-- What is run for limited results is limited exactly if it is a query, unless the query stands
behind a comment, or the text only looks like a query. Both platforms run the same text. -/
theorem limit_applied_iff_query (hresults : r.returnsResults = true) (hlimit : r.limit = some limit)
    (settings settings' : Settings) :
    ∃ text, (Unscreened Fabric.screened r →
        (Fabric.renderer settings).render (.rawSql r) = .ok text) ∧
      (Unscreened Synapse.screened r →
        (Synapse.renderer settings').render (.rawSql r) = .ok text) ∧
      (text = limitedText limit (Text.trim r.sql) ∨ text = Text.trim r.sql) ∧
      ((text = limitedText limit (Text.trim r.sql) ↔ IsQuery r.sql) ↔
        ¬BehindComment r.sql ∧ ¬LooksLikeQuery r.sql) := by
  have hquery := startsWithWord_iff_isQuery r.sql
  refine ⟨runText r, rawSql_of_unscreened, rawSql_of_unscreened, ?_⟩
  rw [runText_of_limit hresults hlimit, ← hquery]
  by_cases hstarts : Text.startsWithWord "SELECT" (Text.trim r.sql) = true
  · rw [if_pos hstarts]
    exact ⟨.inl rfl, by simp [hstarts]⟩
  · rw [if_neg hstarts]
    have hne := (limitedText_ne limit (Text.trim r.sql)).symm
    exact ⟨.inr rfl, by simp [hstarts, hne]⟩

/-- A query in small letters between blanks, which both platforms limit. -/
theorem small_letters_limited :
    let target : Target := ⟨"gold", "orders", none, none, none⟩
    let r : RawSql := ⟨target, "\n select * from gold.orders ", true, default, some 5⟩
    let text := "SELECT TOP 5 * FROM (select * from gold.orders) AS limited_results"
    r.returnsResults = true ∧ r.limit = some 5 ∧ IsQuery r.sql ∧
      (Fabric.renderer .standard).render (.rawSql r) = .ok text ∧
      (Synapse.renderer .standard).render (.rawSql r) = .ok text := by
  intro target r text
  have hresults : r.returnsResults = true := rfl
  have hlimit : r.limit = some 5 := rfl
  have hquery : IsQuery r.sql := by decide +kernel
  have hnone : ¬BehindComment r.sql ∧ ¬LooksLikeQuery r.sql := by decide +kernel
  have hscreened : ∀ p ∈ Fabric.screened, p.pattern.occursIn (Text.trim r.sql) = false := by
    decide +kernel
  have hscreened' : ∀ p ∈ Synapse.screened, p.pattern.occursIn (Text.trim r.sql) = false :=
    fun p hp => hscreened p (List.subset_append_left _ _ hp)
  have htext : limitedText 5 (Text.trim r.sql) = text := by decide +kernel
  obtain ⟨text', hfabric, hsynapse, -, hlimited⟩ :=
    limit_applied_iff_query hresults hlimit .standard .standard
  cases ((hlimited.mpr hnone).mpr hquery).trans htext
  exact ⟨hresults, hlimit, hquery, hfabric hscreened, hsynapse hscreened'⟩

/-- A query behind a comment, which is run without its limit, and a call of a procedure, which is
put into a query because of its name. -/
theorem commented_query_not_limited :
    let target : Target := ⟨"gold", "orders", none, none, none⟩
    let query : RawSql :=
      ⟨target, "/* newest first */ SELECT * FROM gold.orders", true, default, some 5⟩
    let call : RawSql := ⟨target, "SelectOrders 'EU'", true, default, some 5⟩
    let limited := "SELECT TOP 5 * FROM (SelectOrders 'EU') AS limited_results"
    RawSql.lifecycle.Reached query ∧ IsQuery query.sql ∧
      query.sql ≠ limitedText 5 (Text.trim query.sql) ∧
      (Fabric.renderer .standard).render (.rawSql query) = .ok query.sql ∧
      (Synapse.renderer .standard).render (.rawSql query) = .ok query.sql ∧
      RawSql.lifecycle.Reached call ∧ ¬IsQuery call.sql ∧
      limited = limitedText 5 (Text.trim call.sql) ∧
      (Fabric.renderer .standard).render (.rawSql call) = .ok limited ∧
      (Synapse.renderer .standard).render (.rawSql call) = .ok limited := by
  intro target query call limited
  have htarget : target.Reached := Lifecycle.reached_of_made ⟨"gold", "orders", rfl⟩
  have hreached (sql : String)
      (h : RawSql.create target sql = .ok ⟨target, sql, false, default, none⟩) :
      RawSql.lifecycle.Reached ⟨target, sql, true, default, some 5⟩ :=
    ⟨_, [.returning default, .limit 5], ⟨target, sql, htarget, h⟩, rfl⟩
  have hquery : (Fabric.renderer .standard).render (.rawSql query) = .ok query.sql := by
    decide +kernel
  have hcall : (Fabric.renderer .standard).render (.rawSql call) = .ok limited := by
    decide +kernel
  refine ⟨hreached _ rfl, ?_, ?_, hquery, synapse_of_fabric hquery, hreached _ rfl, ?_, ?_,
    hcall, synapse_of_fabric hcall⟩
  all_goals decide +kernel

end LakehouseSql.Render
