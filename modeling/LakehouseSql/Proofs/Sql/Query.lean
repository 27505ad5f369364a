import LakehouseSql.Proofs.Sql.Constant
import LakehouseSql.Proofs.Sql.Listing
/-! # Queries read back

A query on one table is read from its tokens: whether its rows are distinct, how many of the first
it asks for, a star or its columns, the table, the groups, and a page of the rows. A page is read
only behind an order. Each optional part begins with a word of its own, so what is written for a
query is read back as that query.
-/
namespace LakehouseSql.Sql

/-- The rows from an offset on, perhaps only so many of them. -/
structure Page where
  offset : Nat
  fetch : Option Nat
  deriving DecidableEq

/-- What the text of a query says. A star stands for no columns. -/
structure Query where
  distinct : Bool
  top : Option Nat
  columns : List String
  schema : String
  object : String
  groupBy : List String
  page : Option Page
  deriving DecidableEq

def nameTokens (names : List String) : List Token :=
  [Token.sign ','].intercalate (names.map fun n => [.name n])

def distinctTokens (distinct : Bool) : List Token :=
  if distinct then [.word "DISTINCT"] else []

def topTokens : Option Nat → List Token
  | none => []
  | some n => [.word "TOP", .word (toString n)]

def selectedTokens (columns : List String) : List Token :=
  if columns.isEmpty then [.sign '*'] else nameTokens columns

def groupTokens (groupBy : List String) : List Token :=
  if groupBy.isEmpty then [] else .word "GROUP" :: .word "BY" :: nameTokens groupBy

/-- An order that means nothing. -/
def orderTokens : List Token :=
  [.word "ORDER", .word "BY", .sign '(', .word "SELECT", .word "NULL", .sign ')']

def fetchTokens : Option Nat → List Token
  | none => []
  | some n => [.word "FETCH", .word "NEXT", .word (toString n), .word "ROWS", .word "ONLY"]

def pageTokens : Option Page → List Token
  | none => []
  | some page => orderTokens ++ [.word "OFFSET", .word (toString page.offset), .word "ROWS"] ++
      fetchTokens page.fetch

def Query.tokens (q : Query) : List Token :=
  [.word "SELECT"] ++ distinctTokens q.distinct ++ topTokens q.top ++ selectedTokens q.columns ++
    [.word "FROM", .name q.schema, .sign '.', .name q.object] ++ groupTokens q.groupBy ++
    pageTokens q.page

/-- The number that a word of digits is. -/
def readWhole (w : String) : Option Nat :=
  if isNumeralWord w then some (Text.digitsValue w.toList) else none

/-- Names with commas between them, as many as come, and what follows them. -/
def readNames : List Token → Option (List String × List Token)
  | .name n :: .sign ',' :: toks => (readNames toks).map fun (names, rest) => (n :: names, rest)
  | .name n :: toks => some ([n], toks)
  | _ => none

def readDistinct : List Token → Bool × List Token
  | .word "DISTINCT" :: toks => (true, toks)
  | toks => (false, toks)

def readTop : List Token → Option (Option Nat × List Token)
  | .word "TOP" :: .word w :: toks => (readWhole w).map fun n => (some n, toks)
  | toks => some (none, toks)

def readSelected : List Token → Option (List String × List Token)
  | .sign '*' :: toks => some ([], toks)
  | toks => readNames toks

def readGroups : List Token → Option (List String × List Token)
  | .word "GROUP" :: .word "BY" :: toks => readNames toks
  | toks => some ([], toks)

/-- The number of rows that are fetched, up to the end. -/
def readFetch : List Token → Option (Option Nat)
  | [] => some none
  | [.word "FETCH", .word "NEXT", .word w, .word "ROWS", .word "ONLY"] => (readWhole w).map some
  | _ => none

/-- The page behind its order, up to the end. -/
def readPage : List Token → Option (Option Page)
  | [] => some none
  | .word "ORDER" :: .word "BY" :: .sign '(' :: .word "SELECT" :: .word "NULL" :: .sign ')' ::
      .word "OFFSET" :: .word w :: .word "ROWS" :: toks => do
    return some ⟨← readWhole w, ← readFetch toks⟩
  | _ => none

/-- The query that all the tokens are. -/
def readQuery : List Token → Option Query
  | .word "SELECT" :: toks => do
    let (distinct, toks) := readDistinct toks
    let (top, toks) ← readTop toks
    let (columns, toks) ← readSelected toks
    match toks with
    | .word "FROM" :: .name schema :: .sign '.' :: .name object :: toks => do
      let (groupBy, toks) ← readGroups toks
      return ⟨distinct, top, columns, schema, object, groupBy, ← readPage toks⟩
    | _ => none
  | _ => none

namespace Query

/-- The greatest number of rows, in whichever way it is asked for. -/
def limit (q : Query) : Option Nat :=
  q.top <|> q.page.bind (·.fetch)

def offset (q : Query) : Option Nat :=
  q.page.map (·.offset)

end Query

section
variable {n : Nat} {names : List String} {toks : List Token} {w : String}

theorem reads_whole (n : Nat) : Reads n.repr [.word n.repr] ∧ isNumeralWord n.repr = true :=
  reads_digits (isDigits_toDigits n)

@[simp] theorem readWhole_repr (n : Nat) : readWhole n.repr = some n := by
  have hdigits : n.repr.toList = Nat.toDigits 10 n := String.toList_ofList
  rw [readWhole, if_pos (reads_whole n).2, hdigits, Text.digitsValue_toDigits]

theorem repr_ne_of_not_isNumeralWord (hw : isNumeralWord w = false) (n : Nat) : w ≠ n.repr := by
  rintro rfl
  cases (reads_whole n).2.symm.trans hw

theorem nameTokens_cons_cons (n m : String) :
    nameTokens (n :: m :: names) = .name n :: .sign ',' :: nameTokens (m :: names) := by
  simp [nameTokens, List.intercalate_cons_cons]

theorem word_not_mem_nameTokens : .word w ∉ nameTokens names := by
  refine not_mem_intercalate nofun fun toks htoks => ?_
  obtain ⟨n, -, rfl⟩ := List.mem_map.mp htoks
  simp

private theorem ne_of_head? {t u : Token} (h : (t :: toks).head? ≠ some u) : t ≠ u := by
  rintro rfl
  exact h rfl

theorem readNames_nameTokens (names : List String) (hne : names ≠ [])
    (h : toks.head? ≠ some (.sign ',')) :
    readNames (nameTokens names ++ toks) = some (names, toks) := by
  induction names with
  | nil => exact absurd rfl hne
  | cons n names ih =>
    cases names with
    | nil =>
      cases toks with
      | nil => rfl
      | cons t toks => simp [nameTokens, readNames, ne_of_head? h]
    | cons m names =>
      rw [nameTokens_cons_cons, List.cons_append, List.cons_append, readNames, ih (by simp),
        Option.map_some]

theorem head?_selectedTokens (columns : List String) (toks : List Token) (w : String) :
    (selectedTokens columns ++ toks).head? ≠ some (.word w) := by
  cases columns with
  | nil => simp [selectedTokens]
  | cons n columns =>
    cases columns with
    | nil => simp [selectedTokens, nameTokens]
    | cons m columns => simp [selectedTokens, nameTokens_cons_cons]

theorem readDistinct_distinctTokens (distinct : Bool)
    (h : toks.head? ≠ some (.word "DISTINCT")) :
    readDistinct (distinctTokens distinct ++ toks) = (distinct, toks) := by
  cases distinct with
  | true => rfl
  | false =>
    cases toks with
    | nil => rfl
    | cons t toks => simp [distinctTokens, readDistinct, ne_of_head? h]

theorem readTop_topTokens (top : Option Nat) (h : toks.head? ≠ some (.word "TOP")) :
    readTop (topTokens top ++ toks) = some (top, toks) := by
  cases top with
  | some n => simp [topTokens, readTop]
  | none =>
    cases toks with
    | nil => rfl
    | cons t toks => simp [topTokens, readTop, ne_of_head? h]

theorem readSelected_selectedTokens (columns : List String) (h : toks.head? ≠ some (.sign ',')) :
    readSelected (selectedTokens columns ++ toks) = some (columns, toks) := by
  cases columns with
  | nil => rfl
  | cons n columns =>
    have hnames := readNames_nameTokens (n :: columns) (by simp) h
    cases columns with
    | nil => exact hnames
    | cons m columns =>
      rw [← hnames, selectedTokens, nameTokens_cons_cons]
      rfl

theorem readGroups_groupTokens (groupBy : List String) (h : toks.head? ≠ some (.word "GROUP"))
    (hcomma : toks.head? ≠ some (.sign ',')) :
    readGroups (groupTokens groupBy ++ toks) = some (groupBy, toks) := by
  cases groupBy with
  | cons n groupBy => exact readNames_nameTokens (n :: groupBy) (by simp) hcomma
  | nil =>
    cases toks with
    | nil => rfl
    | cons t toks => simp [groupTokens, readGroups, ne_of_head? h]

theorem readFetch_fetchTokens (fetch : Option Nat) :
    readFetch (fetchTokens fetch) = some fetch := by
  cases fetch with
  | none => rfl
  | some n => simp [fetchTokens, readFetch]

theorem readPage_pageTokens (page : Option Page) : readPage (pageTokens page) = some page := by
  cases page with
  | none => rfl
  | some page => simp [pageTokens, orderTokens, readPage, readFetch_fetchTokens]

theorem head?_pageTokens (page : Option Page) :
    (pageTokens page).head? = none ∨ (pageTokens page).head? = some (.word "ORDER") := by
  cases page with
  | none => exact .inl rfl
  | some page => exact .inr rfl

/-- What is written for a query is read as that query. -/
theorem readQuery_tokens (q : Query) : readQuery q.tokens = some q := by
  have hpage (t : Token) (ht : t ≠ .word "ORDER") : (pageTokens q.page).head? ≠ some t := by
    rcases head?_pageTokens q.page with h | h <;> simp [h, ht.symm]
  have hgroups := readGroups_groupTokens q.groupBy (hpage _ (by simp)) (hpage _ (by simp))
  have hcolumns (rest : List Token) :
      readSelected (selectedTokens q.columns ++ .word "FROM" :: rest) =
        some (q.columns, .word "FROM" :: rest) :=
    readSelected_selectedTokens q.columns (by simp)
  have htop (rest : List Token) :=
    readTop_topTokens q.top (head?_selectedTokens q.columns rest "TOP")
  have hdistinct (rest : List Token) :
      readDistinct (distinctTokens q.distinct ++ (topTokens q.top ++
        (selectedTokens q.columns ++ rest))) =
          (q.distinct, topTokens q.top ++ (selectedTokens q.columns ++ rest)) := by
    refine readDistinct_distinctTokens q.distinct ?_
    cases q.top with
    | none => exact head?_selectedTokens q.columns rest "DISTINCT"
    | some n => simp [topTokens]
  simp [Query.tokens, readQuery, hdistinct, htop, hcolumns, hgroups, readPage_pageTokens]

theorem word_not_mem_selectedTokens {columns : List String} :
    .word w ∉ selectedTokens columns := by
  unfold selectedTokens
  split
  · simp
  · exact word_not_mem_nameTokens

theorem word_mem_groupTokens {groupBy : List String} (h : .word w ∈ groupTokens groupBy) :
    w = "GROUP" ∨ w = "BY" := by
  unfold groupTokens at h
  split at h
  · cases h
  · simpa [word_not_mem_nameTokens] using h

theorem word_mem_distinctTokens {distinct : Bool} (h : .word w ∈ distinctTokens distinct) :
    w = "DISTINCT" := by
  cases distinct with
  | false => cases h
  | true => simpa [distinctTokens] using h

theorem word_mem_topTokens_iff {top : Option Nat} (hw : isNumeralWord w = false) :
    .word w ∈ topTokens top ↔ w = "TOP" ∧ top.isSome := by
  cases top with
  | none => simp [topTokens]
  | some n => simp [topTokens, repr_ne_of_not_isNumeralWord hw]

theorem word_mem_pageTokens_iff {page : Option Page} (hw : isNumeralWord w = false) :
    .word w ∈ pageTokens page ↔
      (page.isSome ∧ w ∈ ["ORDER", "BY", "SELECT", "NULL", "OFFSET", "ROWS"]) ∨
        ((page.bind (·.fetch)).isSome ∧ w ∈ ["FETCH", "NEXT", "ROWS", "ONLY"]) := by
  have hnumber := repr_ne_of_not_isNumeralWord hw
  cases page with
  | none => simp [pageTokens]
  | some page =>
    cases hfetch : page.fetch with
    | none => simp [pageTokens, orderTokens, fetchTokens, hnumber, hfetch]
    | some n => simp [pageTokens, orderTokens, fetchTokens, hnumber, hfetch, or_assoc]

namespace Query

theorem word_mem_tokens {q : Query} (hw : isNumeralWord w = false)
    (hother : w ∉ ["SELECT", "DISTINCT", "FROM", "GROUP", "BY"]) :
    .word w ∈ q.tokens ↔ (w = "TOP" ∧ q.top.isSome) ∨ .word w ∈ pageTokens q.page := by
  simp only [List.mem_cons, List.not_mem_nil, or_false, not_or] at hother
  obtain ⟨hselect, hdistinct, hfrom, hgroup, hby⟩ := hother
  have hdistinct' : .word w ∉ distinctTokens q.distinct :=
    fun h => hdistinct (word_mem_distinctTokens h)
  have hgroups : .word w ∉ groupTokens q.groupBy :=
    fun h => (word_mem_groupTokens h).elim hgroup hby
  simp [tokens, hselect, hfrom, hdistinct', hgroups, word_not_mem_selectedTokens,
    word_mem_topTokens_iff hw]

theorem order_before_offset {q : Query} (h : .word "OFFSET" ∈ q.tokens) :
    ∃ front back, q.tokens = front ++ orderTokens ++ .word "OFFSET" :: back := by
  obtain ⟨front, hfront⟩ : ∃ front, q.tokens = front ++ pageTokens q.page := ⟨_, rfl⟩
  cases hpage : q.page with
  | none =>
    rw [word_mem_tokens rfl (by decide), hpage] at h
    simp [pageTokens] at h
  | some page =>
    refine ⟨front, .word (toString page.offset) :: .word "ROWS" :: fetchTokens page.fetch, ?_⟩
    simp [hfront, hpage, pageTokens]

end Query

end

end LakehouseSql.Sql
