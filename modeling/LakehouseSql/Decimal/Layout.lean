import LakehouseSql.Decimal.Shortest
/-! # Written numbers

The text of a finite number from its shortest decimal: with a decimal point at its place, or in
scientific form when the leading digit lies outside the positional range of the layout.
-/
namespace LakehouseSql

/-- The choices of a way of writing numbers. Without a positional range every number is written
with the point at its place. -/
structure NumberLayout where
  tie : TieRule
  positional : Option (Int × Int)
  forcedFraction : Bool

namespace Decimal

private def zeros (n : Nat) : List Char :=
  List.replicate n '0'

def digitChars (n : Nat) : List Char :=
  Nat.toDigits 10 n

/-- Digits with the decimal point at its place. -/
def positionalText (forcedFraction : Bool) (d : Decimal) : List Char :=
  let ds := digitChars d.digits
  if 0 ≤ d.exponent then
    ds ++ zeros d.exponent.toNat ++ if forcedFraction then ['.', '0'] else []
  else
    let places := (-d.exponent).toNat
    if places < ds.length then
      ds.take (ds.length - places) ++ '.' :: ds.drop (ds.length - places)
    else '0' :: '.' :: zeros (places - ds.length) ++ ds

/-- The power of ten of the first digit. -/
def scientificPower (d : Decimal) : Int :=
  d.exponent + (digitChars d.digits).length - 1

/-- One digit before the point and a signed power of ten without padding. -/
def scientificText (d : Decimal) : List Char :=
  let power := d.scientificPower
  let mantissa := match digitChars d.digits with
    | first :: second :: more => first :: '.' :: second :: more
    | ds => ds
  mantissa ++ 'e' :: (if power < 0 then '-' else '+') :: digitChars power.natAbs

end Decimal

/-- The text of a finite number. -/
def NumberLayout.text (layout : NumberLayout) (x : Binary64) : String :=
  let body :=
    if x.isZero then (if layout.forcedFraction then ['0', '.', '0'] else ['0'])
    else
      let d := Decimal.shortest layout.tie x
      match layout.positional with
      | none => d.positionalText layout.forcedFraction
      | some (low, high) =>
        if low ≤ d.scientificPower && d.scientificPower ≤ high then
          d.positionalText layout.forcedFraction
        else d.scientificText
  String.ofList (if x.isNegative then '-' :: body else body)

end LakehouseSql
