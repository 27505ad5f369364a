import LakehouseSql.Json.Printer
import LakehouseSql.Json.Reader
/-! # Strings in JSON text

What is written for a character is read as one element that stands for it again, so a quoted
string is read back whatever follows it.
-/
namespace LakehouseSql.Json

private def StandsFor (u : StringUnit) (c : Char) : Prop :=
  ∀ us, unitsText? (u :: us) = (unitsText? us).map (c :: ·)

private theorem standsFor_char (c : Char) : StandsFor (.char c) c := fun _ => rfl

private theorem standsFor_control {c : Char} (h : c.toNat < 0x20) :
    StandsFor (.unit c.toNat) c := by
  intro us
  have hhigh : ¬(0xD800 ≤ c.toNat ∧ c.toNat < 0xDC00) := by omega
  have hlow : ¬(0xDC00 ≤ c.toNat ∧ c.toNat < 0xE000) := by omega
  rw [unitsText?.eq_def]
  simp only [if_neg hhigh, if_neg hlow, Char.ofNat_toNat]

private def front (u : StringUnit) (read : Option (List StringUnit × List Char)) :
    Option (List StringUnit × List Char) :=
  read.map fun (us, rest) => (u :: us, rest)

private theorem stringUnits_simple {e c : Char} (h : simpleEscape? e = some c) (rest : List Char) :
    stringUnits ('\\' :: e :: rest) = front (.char c) (stringUnits rest) := by
  have hu : e ≠ 'u' := by
    rintro rfl
    cases h
  rw [stringUnits, h]
  · cases stringUnits rest <;> rfl
  · rintro _ _ _ _ _ rfl
    exact absurd rfl hu

private theorem hexDigits_control : ∀ n < 0x20,
    Text.hexDigitsValue? ['0', '0', hexDigit (n / 16), hexDigit (n % 16)] = some n := by
  decide

private theorem stringUnits_control {n : Nat} (h : n < 0x20) (rest : List Char) :
    stringUnits ('\\' :: 'u' :: '0' :: '0' :: hexDigit (n / 16) :: hexDigit (n % 16) :: rest) =
      front (.unit n) (stringUnits rest) := by
  rw [stringUnits, hexDigits_control n h]
  cases stringUnits rest <;> rfl

private theorem stringUnits_plain {c : Char} (hq : c ≠ '"') (hb : c ≠ '\\') (hn : ¬c.toNat < 0x20)
    (rest : List Char) : stringUnits (c :: rest) = front (.char c) (stringUnits rest) := by
  have hkeep : ¬(decide (c.toNat < 0x20) || c == '\\') = true := by simp [hn, hb]
  rw [stringUnits, if_neg hkeep]
  · cases stringUnits rest <;> rfl
  · exact hq
  · rintro _ _ _ _ _ rfl
    exact absurd rfl hb
  · rintro _ _ rfl
    exact absurd rfl hb

private theorem stringUnits_short {e c d : Char} (hc : c = d) (he : simpleEscape? e = some d)
    (rest : List Char) :
    ∃ u, StandsFor u c ∧ stringUnits (['\\', e] ++ rest) = front u (stringUnits rest) := by
  subst hc
  exact ⟨.char c, standsFor_char c, stringUnits_simple he rest⟩

private theorem stringUnits_escapeChar (c : Char) (rest : List Char) :
    ∃ u, StandsFor u c ∧ stringUnits (escapeChar c ++ rest) = front u (stringUnits rest) := by
  have hchar {n : Nat} (h : c.toNat = n) : c = Char.ofNat n := by
    rw [← h, Char.ofNat_toNat]
  unfold escapeChar
  split
  · exact stringUnits_short ‹c = '"'› rfl rest
  split
  · exact stringUnits_short ‹c = '\\'› rfl rest
  split
  · exact stringUnits_short (hchar ‹_›) rfl rest
  split
  · exact stringUnits_short (hchar ‹_›) rfl rest
  split
  · exact stringUnits_short (hchar ‹_›) rfl rest
  split
  · exact stringUnits_short (hchar ‹_›) rfl rest
  split
  · exact stringUnits_short (hchar ‹_›) rfl rest
  split
  · rename_i h
    exact ⟨_, standsFor_control h, stringUnits_control h rest⟩
  · rename_i hq hb _ _ _ _ _ hn
    exact ⟨_, standsFor_char c, stringUnits_plain hq hb hn rest⟩

theorem readString_quoted (s : String) (rest : List Char) :
    readString (s.toList.flatMap escapeChar ++ '"' :: rest) = some (some s, rest) := by
  have hunits (cs : List Char) : ∃ us, unitsText? us = some cs ∧
      stringUnits (cs.flatMap escapeChar ++ '"' :: rest) = some (us, rest) := by
    induction cs with
    | nil => exact ⟨[], rfl, by simp [stringUnits]⟩
    | cons c cs ih =>
      obtain ⟨us, htext, hread⟩ := ih
      obtain ⟨u, hu, hfront⟩ := stringUnits_escapeChar c (cs.flatMap escapeChar ++ '"' :: rest)
      refine ⟨u :: us, by rw [hu, htext]; rfl, ?_⟩
      rw [List.flatMap_cons, List.append_assoc, hfront, hread]
      rfl
  obtain ⟨us, htext, hread⟩ := hunits s.toList
  simp [readString, hread, htext]

end LakehouseSql.Json
