import LakehouseSql.Proofs.Sql.Reading
/-! # Lists in parentheses read back

A list stands in parentheses, with commas between its items. Each item is read from its own tokens,
all of them together.
-/
namespace LakehouseSql.Sql

/-- The items of a list up to the first closing parenthesis, and what follows it. -/
def readList {α : Type} (item : List Token → Option α) : List Token → Option (List α × List Token)
  | .sign '(' :: toks =>
    match toks.dropWhile (· != .sign ')') with
    | [] => none
    | _ :: rest =>
      (((toks.takeWhile (· != .sign ')')).splitOn (.sign ',')).mapM item).map (·, rest)
  | _ => none

theorem length_readList {α : Type} {item : List Token → Option α} {toks rest : List Token}
    {as : List α} (h : readList item toks = some (as, rest)) : rest.length < toks.length := by
  unfold readList at h
  split at h
  · rename_i toks
    split at h
    · cases h
    · rename_i close rest' hrest
      obtain ⟨as', -, heq⟩ := Option.map_eq_some_iff.mp h
      cases heq
      have hlen := (List.dropWhile_suffix (l := toks) (· != .sign ')')).length_le
      simp only [hrest, List.length_cons] at hlen ⊢
      omega
  · cases h

def readName : List Token → Option String
  | [.name n] => some n
  | _ => none

/-- The text is read as one item. -/
def ReadsItem {α : Type} (item : List Token → Option α) (a : String) (x : α) : Prop :=
  ∃ toks, Reads a toks ∧ item toks = some x

/-- The tokens are read as a list, whatever follows. -/
def IsList {α : Type} (item : List Token → Option α) (xs : List α) (toks : List Token) : Prop :=
  ∀ rest, readList item (toks ++ rest) = some (xs, rest)

/-- No token parts the tokens into items, and none closes a list. -/
def Unparted (toks : List Token) : Prop :=
  .sign ',' ∉ toks ∧ .sign ')' ∉ toks

section
variable {α : Type} {item : List Token → Option α} {as : List String} {xs : List α}

private theorem exists_items (hitem : ∀ toks x, item toks = some x → Unparted toks)
    (h : List.Forall₂ (ReadsItem item) as xs) :
    ∃ items, List.Forall₂ Reads as items ∧ items.mapM item = some xs ∧
      ∀ toks ∈ items, Unparted toks := by
  induction h with
  | nil => exact ⟨[], .nil, rfl, nofun⟩
  | cons hx _ ih =>
    obtain ⟨toks, hreads, hread⟩ := hx
    obtain ⟨items, hitems, hmapM, hunparted⟩ := ih
    exact ⟨toks :: items, .cons hreads hitems, by simp [hread, hmapM],
      List.forall_mem_cons.mpr ⟨hitem _ _ hread, hunparted⟩⟩

theorem not_mem_intercalate {x : Token} {items : List (List Token)} (hx : x ≠ .sign ',')
    (h : ∀ toks ∈ items, x ∉ toks) : x ∉ [Token.sign ','].intercalate items := by
  induction items with
  | nil => simp
  | cons toks items ih =>
    obtain ⟨hfirst, hrest⟩ := List.forall_mem_cons.mp h
    cases items with
    | nil => simpa using hfirst
    | cons more items => simp [List.intercalate_cons_cons, hfirst, hx, ih hrest]

private theorem isList_items {items : List (List Token)} (hne : items ≠ [])
    (hunparted : ∀ toks ∈ items, Unparted toks) (h : items.mapM item = some xs) :
    IsList item xs ([.sign '('] ++ [Token.sign ','].intercalate items ++ [.sign ')']) := by
  intro rest
  have hinside : ∀ t ∈ [Token.sign ','].intercalate items, (t != .sign ')') = true := by
    intro t ht
    rw [bne_iff_ne]
    rintro rfl
    exact not_mem_intercalate (by decide) (fun toks htoks => (hunparted toks htoks).2) ht
  have hsplit := List.splitOn_intercalate (.sign ',') (fun toks htoks => (hunparted toks htoks).1)
    hne
  rw [List.append_assoc, List.append_assoc, List.singleton_append, readList,
    List.takeWhile_append_of_pos hinside, List.dropWhile_append_of_pos hinside]
  simp [hsplit, h]

/-- A list in parentheses is read back, if its items are unparted. -/
theorem reads_list {p : String} (hp : Parts p [.sign '('])
    (hitem : ∀ toks x, item toks = some x → Unparted toks) (hne : as ≠ [])
    (h : List.Forall₂ (ReadsItem item) as xs) :
    ∃ toks, Parts (p ++ String.intercalate ", " as ++ ")") toks ∧ IsList item xs toks := by
  obtain ⟨items, hitems, hmapM, hunparted⟩ := exists_items hitem h
  have hfilled : items ≠ [] := by
    rintro rfl
    exact hne (List.forall₂_nil_right_iff.mp hitems)
  have hcomma : Parts ", " [.sign ','] := .words rfl (by decide +kernel)
  have hclose : Parts ")" [.sign ')'] := .words rfl (by decide +kernel)
  exact ⟨_, hp.enclose (.intercalate hcomma hitems) hclose, isList_items hfilled hunparted hmapM⟩

private theorem unparted_of_readName {toks : List Token} {n : String}
    (h : readName toks = some n) : Unparted toks := by
  unfold readName at h
  split at h
  · simp [Unparted]
  · cases h

theorem reads_columns {columns : List String} {p : String} (hp : Parts p [.sign '('])
    (hne : columns ≠ []) (hcolumns : ∀ c ∈ columns, ']' ∉ c.toList) :
    ∃ toks, Parts (p ++ String.intercalate ", " (columns.map fun c => "[" ++ c ++ "]") ++ ")")
      toks ∧ IsList readName columns toks := by
  refine reads_list hp (fun _ _ => unparted_of_readName) (by simpa using hne) ?_
  rw [List.forall₂_map_left_iff]
  exact List.forall₂_same.mpr fun c hc => ⟨[.name c], .name (hcolumns c hc), rfl⟩

end

end LakehouseSql.Sql
