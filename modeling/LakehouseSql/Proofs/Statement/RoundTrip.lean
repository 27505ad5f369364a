import LakehouseSql.Proofs.Statement.Printable
import LakehouseSql.Proofs.Statement.Record
/-! # Statements and their JSON text

The text of a statement that was built is read back as that statement, if its floating point
numbers are. What the text does not carry is absent afterwards and has no part in the text.
-/
namespace LakehouseSql
open Json

namespace Statement

theorem written_jsonText (s : Statement) : s.written.jsonText = s.jsonText := by
  cases s <;> rfl

/-- The text is read back as a statement exactly when the draft of the fields builds it. -/
theorem ofJsonText_jsonText_iff {s t : Statement} (hfloats : FloatsReadBack s.floats)
    (hcolumns : ∀ c ∈ s.draft.columnDefinitions, c.Consistent) :
    ofJsonText s.jsonText = .ok t ↔ s.draft.build = .ok t := by
  have hread : readRecord (statementMembers.map (·.1)) s.jsonText = (s.toJson.members, .closed) :=
    readRecord_text (by simp) ⟨trivial, fields_printable hfloats⟩
  have hfolds : takeMembers statementMembers [] {} s.toJson.members = .ok s.record :=
    (StatementRecord.folds_members s).takeMembers_eq s.distinct_members
  have hdraft := StatementRecord.toDraft_record hcolumns
  simp only [ofJsonText, hread, bind_eq_ok_iff, mapError_eq_ok_iff, guard_eq_ok_iff,
    pure_eq_ok_iff]
  constructor
  · rintro ⟨r, hr, -, d, hd, t', hbuild, -, rfl⟩
    cases hfolds.symm.trans hr
    cases hdraft.symm.trans hd
    exact hbuild
  · intro hbuild
    have hclosed : RecordEnd.closed ≠ .broken ∧ RecordEnd.closed ≠ .trailing := by decide
    exact ⟨s.record, hfolds, hclosed.1, s.draft, hdraft, t, hbuild, hclosed.2, rfl⟩

theorem ofJsonText_jsonText {s t : Statement} (hfloats : FloatsReadBack s.floats)
    (hcolumns : ∀ c ∈ s.draft.columnDefinitions, c.Consistent) (hbuild : s.draft.build = .ok t) :
    ofJsonText s.jsonText = .ok t :=
  (ofJsonText_jsonText_iff hfloats hcolumns).mpr hbuild

end Statement

/-- The text of a statement that was built is read back as the statement without its metadata and
credential, which have no part in the text. -/
theorem built_statement_is_read_back {d : Draft} {provider : Option StatsProvider} {s : Statement}
    (hd : d.Reached) (hs : d.buildWith provider = .ok s) (hfloats : FloatsReadBack s.floats) :
    Statement.ofJsonText s.jsonText = .ok s.written ∧ s.written.jsonText = s.jsonText ∧
      ∀ t : Statement, t.written = s.written → t.jsonText = s.jsonText := by
  have hcolumns := (Draft.redraft_columnsReached hd.columnsReached hs)
  refine ⟨?_, s.written_jsonText, fun t ht => ?_⟩
  · exact Statement.ofJsonText_jsonText hfloats (fun c hc => (hcolumns c hc).consistent)
      (Draft.buildWith_redraft hd.columnsReached hs)
  · rw [← t.written_jsonText, ht, s.written_jsonText]

/-- The price comes back from its fraction, and the description of the target is gone. -/
theorem priced_update_is_read_back :
    let price := Binary64.ofRatio false 5 2
    let described : Metadata := ⟨none, none, some "orders of a day"⟩
    let start : Draft := { kind := .update, schema := "sales", object := "orders" }
    let d := Draft.lifecycle.run start [.metadata described, .assign "price" (.float price)]
    let update (metadata : Option Metadata) : Statement :=
      .update ⟨⟨"sales", "orders", none, none, metadata⟩, .ofList [("price", .float price)], none,
        none⟩
    d.Reached ∧ d.buildWith none = .ok (update (some described)) ∧
      FloatsReadBack (update (some described)).floats ∧
      Statement.ofJsonText (update (some described)).jsonText = .ok (update none) := by
  intro price described start d update
  have hreached : d.Reached :=
    ⟨start, [.metadata described, .assign "price" (.float price)], ⟨_, _, _, rfl⟩, rfl⟩
  have hbuilt : d.buildWith none = .ok (update (some described)) := by decide +kernel
  have hprice : ReadsBack (.real price) := by
    refine ⟨⟨false, ['2'], some ['5'], none⟩, by decide +kernel, ?_⟩
    have hquick : Numeral.quick ⟨false, ['2'], some ['5'], none⟩ = some price := by decide +kernel
    rw [ofNumeral, hquick]
    rfl
  have hfloats : FloatsReadBack (update (some described)).floats := by
    intro x hx
    exact List.mem_singleton.mp hx ▸ hprice
  exact ⟨hreached, hbuilt, hfloats, (built_statement_is_read_back hreached hbuilt hfloats).1⟩

end LakehouseSql
