import LakehouseSql.Statement.Basic
/-! # Lines of a text

A text is split at its line breaks. Lines that are put below a line without breaks are found again.
-/
namespace LakehouseSql.Text

/-- There is no line break in the text. -/
def Unbroken (s : String) : Prop :=
  '\n' ∉ s.toList

instance (s : String) : Decidable (Unbroken s) :=
  inferInstanceAs (Decidable ('\n' ∉ s.toList))

def lines (s : String) : List String :=
  (s.toList.splitOn '\n').map String.ofList

/-- Lines that are each put below what stands before them. -/
def below (ls : List String) : String :=
  String.join (ls.map ("\n" ++ ·))

variable {a b l : String} {ls ms : List String}

@[simp] theorem unbroken_append : Unbroken (a ++ b) ↔ Unbroken a ∧ Unbroken b := by
  simp [Unbroken]

theorem Unbroken.intercalate (ha : Unbroken a) (hls : ∀ l ∈ ls, Unbroken l) :
    Unbroken (a.intercalate ls) := by
  induction ls with
  | nil => exact List.not_mem_nil
  | cons l ls ih =>
    obtain ⟨hl, hls⟩ := List.forall_mem_cons.mp hls
    cases ls with
    | nil => simpa using hl
    | cons m ls => simp [String.intercalate_cons_cons, hl, ha, ih hls]

theorem Unbroken.quote (h : Unbroken a) : Unbroken (Literal.quote a) := by
  have hdoubled : ∀ cs : List Char, '\n' ∉ cs → '\n' ∉ Literal.doubleQuotes cs := by
    intro cs hcs
    induction cs with
    | nil => exact hcs
    | cons c cs ih =>
      obtain ⟨hc, hcs⟩ := List.ne_and_not_mem_of_not_mem_cons hcs
      unfold Literal.doubleQuotes
      split <;> simp [hc, ih hcs]
  simpa [Unbroken, Literal.quote] using hdoubled a.toList h

@[simp] theorem below_nil : below [] = "" := rfl

theorem below_cons (a : String) (ls : List String) : below (a :: ls) = "\n" ++ (a ++ below ls) := by
  simp [below, String.join_cons, String.append_assoc]

theorem below_append (ls ms : List String) : below (ls ++ ms) = below ls ++ below ms := by
  simp [below]

theorem lines_eq_singleton (h : Unbroken a) : lines a = [a] := by
  simp [lines, List.splitOn_eq_singleton h]

theorem lines_append_break (h : Unbroken a) : lines (a ++ ("\n" ++ b)) = a :: lines b := by
  have hbreak : (a ++ ("\n" ++ b)).toList = a.toList ++ '\n' :: b.toList := by simp
  simp [lines, hbreak, List.splitOn_append_cons_self_of_not_mem h]

/-- Lines below a line are found again, with that line first. -/
theorem lines_append_below (ha : Unbroken a) (hls : ∀ l ∈ ls, Unbroken l) :
    lines (a ++ below ls) = a :: ls := by
  induction ls generalizing a with
  | nil => rw [below_nil, String.append_empty, lines_eq_singleton ha]
  | cons l ls ih =>
    obtain ⟨hl, hls⟩ := List.forall_mem_cons.mp hls
    rw [below_cons, lines_append_break ha, ih hl hls]

theorem lines_append_below_append (ha : Unbroken a) (hls : ∀ m ∈ ls ++ [l], Unbroken m)
    (hb : Unbroken b) : lines (a ++ below (ls ++ [l]) ++ b) = a :: (ls ++ [l ++ b]) := by
  have hend : a ++ below (ls ++ [l]) ++ b = a ++ below (ls ++ [l ++ b]) := by
    simp [below, String.append_assoc]
  obtain ⟨hls, hl⟩ := List.forall_mem_append.mp hls
  rw [hend, lines_append_below ha]
  refine List.forall_mem_append.mpr ⟨hls, ?_⟩
  simpa [hb] using hl

end LakehouseSql.Text
