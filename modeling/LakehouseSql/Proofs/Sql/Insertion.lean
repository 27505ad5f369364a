import LakehouseSql.Proofs.Sql.Constant
import LakehouseSql.Proofs.Sql.Listing
import LakehouseSql.Vocabulary
/-! # Inserted rows read back

An insert of rows is read from the tokens of its text: the mode, the name of the target in two
parts, the columns, and one tuple of constants for each row.
-/
namespace LakehouseSql.Sql

/-- What the text of an insert says. -/
structure Insertion where
  mode : InsertMode
  schema : String
  object : String
  columns : List String
  rows : List (List Constant)
  deriving DecidableEq

/-- Tuples up to the end, with commas between them. -/
def readTuples (toks : List Token) : Option (List (List Constant)) :=
  match _h : readList readConstant toks with
  | some (tuple, []) => some [tuple]
  | some (tuple, .sign ',' :: rest) => (readTuples rest).map (tuple :: ·)
  | _ => none
termination_by toks.length
decreasing_by
  have hlen := length_readList _h
  simp only [List.length_cons] at hlen
  omega

/-- What follows the words that an insert begins with. -/
def readInto (mode : InsertMode) : List Token → Option Insertion
  | .name schema :: .sign '.' :: .name object :: toks => do
    let (columns, toks) ← readList readName toks
    match toks with
    | .word "VALUES" :: toks => return ⟨mode, schema, object, columns, ← readTuples toks⟩
    | _ => none
  | _ => none

def readInsertion : List Token → Option Insertion
  | .word "INSERT" :: .word "INTO" :: toks => readInto .append toks
  | .word "INSERT" :: .word "OVERWRITE" :: toks => readInto .overwrite toks
  | _ => none

/-- The insert that a SQL text is read as. -/
def Insertion.ofText? (sql : String) : Option Insertion :=
  (tokens sql.toList).bind readInsertion

section
variable {tuple : List Constant} {toks rest : List Token}

theorem readTuples_last (h : readList readConstant toks = some (tuple, [])) :
    readTuples toks = some [tuple] := by
  rw [readTuples.eq_def]
  split
  · rename_i hlast
    cases h.symm.trans hlast
    rfl
  · rename_i hmore
    cases h.symm.trans hmore
  · rename_i hlast hmore
    exact absurd h (hlast tuple)

theorem readTuples_more (h : readList readConstant toks = some (tuple, .sign ',' :: rest)) :
    readTuples toks = (readTuples rest).map (tuple :: ·) := by
  rw [readTuples.eq_def]
  split
  · rename_i hlast
    cases h.symm.trans hlast
  · rename_i hmore
    cases h.symm.trans hmore
    rfl
  · rename_i hlast hmore
    exact absurd h (hmore tuple rest)

end

section
variable {as : List String}

private theorem unparted_of_readConstant {toks : List Token} {c : Constant}
    (h : readConstant toks = some c) : Unparted toks := by
  have hsign := sign_of_readConstant h
  constructor <;> exact fun hmem => absurd (hsign _ hmem) (by decide)

theorem reads_tuple {tuple : List Constant} (hne : as ≠ [])
    (h : List.Forall₂ (ReadsItem readConstant) as tuple) :
    ∃ toks, Reads ("(" ++ String.intercalate ", " as ++ ")") toks ∧
      IsList readConstant tuple toks := by
  have hopen : Parts "(" [.sign '('] := .words rfl (by decide +kernel)
  obtain ⟨toks, hparts, hlist⟩ := reads_list hopen (fun _ _ => unparted_of_readConstant) hne h
  exact ⟨toks, hparts.closed.reads, hlist⟩

/-- Tuples one behind the other, by induction on them. -/
theorem reads_tuples {tuples : List (List Constant)} (hne : as ≠ [])
    (h : List.Forall₂ (fun a tuple => ∃ toks, Reads a toks ∧ IsList readConstant tuple toks)
      as tuples) :
    ∃ toks, Reads (String.intercalate ",\n" as) toks ∧ readTuples toks = some tuples := by
  induction h with
  | nil => exact absurd rfl hne
  | @cons a tuple as tuples ha has ih =>
    obtain ⟨toks, hreads, hlist⟩ := ha
    cases as with
    | nil =>
      cases has
      refine ⟨toks, by simpa using hreads, readTuples_last ?_⟩
      simpa using hlist []
    | cons b as =>
      obtain ⟨more, hmore, htuples⟩ := ih (by simp)
      have hcomma : Parts ",\n" [.sign ','] := .words rfl (by decide +kernel)
      rw [String.intercalate_cons_cons]
      refine ⟨_, (hreads.close hcomma).append hmore, ?_⟩
      rw [List.append_assoc, List.singleton_append, readTuples_more (hlist _), htuples,
        Option.map_some]

end

end LakehouseSql.Sql
