import LakehouseSql.Decimal.Binary64
import LakehouseSql.Text.Basic
/-! # Reading decimals

Digits to numbers in two ways: to the nearest number, and by the quicker rule of the JSON reader,
which collects a 64-bit significand and scales it by one rounded power of ten.
-/
namespace LakehouseSql

open Text

/-- The parts of a written number: its sign, the digits before the point, the digits after a point
if there is one, and an exponent if there is one. -/
structure Numeral where
  negative : Bool
  whole : List Char
  fraction : Option (List Char)
  exponent : Option (Bool × List Char)
  deriving DecidableEq

namespace Numeral

/-- The exponent as it is written. -/
def writtenExponent (n : Numeral) : Int :=
  match n.exponent with
  | none => 0
  | some (negative, ds) => if negative then -(digitsValue ds : Int) else digitsValue ds

/-- The nearest number. Exponents far outside the range of finite numbers are decided by the
place of the leading digit. -/
def nearest (n : Numeral) : Binary64 :=
  let ds := n.whole ++ n.fraction.getD []
  let digits := digitsValue ds
  let power := n.writtenExponent - (n.fraction.getD []).length
  if digits = 0 then .zero n.negative
  else if 400 < power + (Nat.toDigits 10 digits).length then .infinity n.negative
  else if power + (Nat.toDigits 10 digits).length < -400 then .zero n.negative
  else if 0 ≤ power then .ofRatio n.negative (digits * Nat.pow 10 power.toNat) 1
  else .ofRatio n.negative digits (Nat.pow 10 (-power).toNat)

/-- Take digits into a significand as long as it stays below `2 ^ 64`. -/
def collect (significand : Nat) : List Char → Nat × List Char
  | [] => (significand, [])
  | c :: cs =>
    if 10 * significand + digitValue c < Nat.pow 2 64 then
      collect (10 * significand + digitValue c) cs
    else (significand, c :: cs)

/-- The whole number that a numeral without fraction and exponent stands for, if it is below
`2 ^ 64`, or from `-2 ^ 63` to `-1`. -/
def integer? (n : Numeral) : Option Int :=
  match n.fraction, n.exponent with
  | none, none =>
    let value := digitsValue n.whole
    if n.negative then (if 0 < value ∧ value ≤ Nat.pow 2 63 then some (-(value : Int)) else none)
    else if value < Nat.pow 2 64 then some (value : Int) else none
  | _, _ => none

/-- Divide by the rounded `10 ^ 308` until the remaining power has a rounded value. -/
def scaleDown : Nat → Binary64 → Nat → Binary64
  | 0, x, _ => x
  | fuel + 1, x, power =>
    if power ≤ 308 then x.div (.ofNat (Nat.pow 10 power))
    else if x.isZero then x
    else scaleDown fuel (x.div (.ofNat (Nat.pow 10 308))) (power - 308)

/-- The rounded significand times or divided by a rounded power of ten; nothing if it exceeds the
finite numbers. -/
def scaled (negative : Bool) (significand : Nat) (power : Int) : Option Binary64 :=
  let start := Binary64.ofNat significand
  let magnitude :=
    if 308 < power then if start.isZero then some start else none
    else if 0 ≤ power then
      let product := start.mul (.ofNat (Nat.pow 10 power.toNat))
      if product.isFinite then some product else none
    else some (scaleDown 4 start (-power).toNat)
  magnitude.map fun x => if negative then x.neg else x

/-- The largest exponent that is still counted. -/
def exponentLimit : Nat := Nat.pow 2 31 - 1

/-- The number by the rule of the significand: digits before the point that do not fit count as
powers of ten, digits after it that do not fit are dropped. -/
def quick (n : Numeral) : Option Binary64 :=
  let (whole, more) := collect 0 n.whole
  let (significand, dropped) := collect whole (n.fraction.getD [])
  let power : Int := more.length - ((n.fraction.getD []).length - dropped.length : Nat)
  match n.exponent with
  | none => scaled n.negative significand power
  | some (negativeExponent, ds) =>
    if exponentLimit < digitsValue ds then
      if significand = 0 ∨ negativeExponent then some (.zero n.negative) else none
    else
      let exponent : Int :=
        if negativeExponent then power - digitsValue ds else power + digitsValue ds
      scaled n.negative significand exponent

/-- Split off the leading decimal digits. -/
def spanDigits (cs : List Char) : List Char × List Char :=
  cs.span Char.isDigit

end Numeral

/-- The number that a text names: an optional sign and then `inf`, `infinity` or `nan` in any
case, or digits with an optional point and exponent, at least one digit before the exponent. -/
def Binary64.ofText? (s : String) : Option Binary64 :=
  let (negative, body) := splitSign s.toList
  let word := String.ofList (body.map Char.toLower)
  if word == "inf" || word == "infinity" then some (.infinity negative)
  else if word == "nan" then some .nan
  else
    let (whole, rest) := Numeral.spanDigits body
    let (fraction, rest) := match rest with
      | '.' :: cs => let (ds, rest) := Numeral.spanDigits cs; (some ds, rest)
      | cs => (none, cs)
    if whole.isEmpty && (fraction.getD []).isEmpty then none
    else
      match rest with
      | [] => some (Numeral.nearest ⟨negative, whole, fraction, none⟩)
      | c :: cs =>
        if c.toLower != 'e' then none
        else
          let (negativeExponent, cs) := splitSign cs
          let (ds, rest) := Numeral.spanDigits cs
          if ds.isEmpty || !rest.isEmpty then none
          else some (Numeral.nearest ⟨negative, whole, fraction, some (negativeExponent, ds)⟩)

end LakehouseSql
