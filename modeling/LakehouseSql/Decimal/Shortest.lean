import LakehouseSql.Decimal.Binary64
/-! # Shortest decimals

The decimal with the fewest digits that reads back as a given number, and of those the nearest to
it. A decimal reads back if it lies in the interval of the reals that round to the number; for
each count of digits only the two neighbours of the number on that decimal grid can be the answer.
-/
namespace LakehouseSql

/-- The number `digits * 10 ^ exponent`. -/
structure Decimal where
  digits : Nat
  exponent : Int
  deriving DecidableEq

/-- The neighbour that is taken when the number lies in the middle between two. -/
inductive TieRule where
  | toEven
  | upward
  deriving DecidableEq

namespace Decimal

/-- The number of digits in base ten; zero has one. -/
def digitCount (n : Nat) : Nat :=
  (Nat.toDigits 10 n).length

/-- The power of ten of the leading digit of a positive ratio. -/
def leadingPower (num den : Nat) : Int :=
  if den ≤ num then (digitCount (num / den) : Int) - 1
  else
    let places := digitCount (den / num)
    if num * Nat.pow 10 (places - 1) = den then 1 - (places : Int) else -(places : Int)

/-- The reals that round to a positive number: its value and the two ends of the interval, all
three over one denominator. -/
structure RoundingInterval where
  low : Nat
  value : Nat
  high : Nat
  den : Nat
  closed : Bool

def RoundingInterval.of (x : Binary64) : RoundingInterval :=
  let m := x.significand
  let below := if m = Nat.pow 2 52 ∧ 1 < x.exponentField then 1 else 2
  let e := x.exponent - 2
  let scale := if 0 ≤ e then Nat.pow 2 e.toNat else 1
  let den := if 0 ≤ e then 1 else Nat.pow 2 (-e).toNat
  ⟨(4 * m - below) * scale, 4 * m * scale, (4 * m + 2) * scale, den, m % 2 == 0⟩

/-- The decimal `digits * 10 ^ power` rounds to the number of the interval. -/
def RoundingInterval.contains (i : RoundingInterval) (digits : Nat) (power : Int) : Bool :=
  let num := if 0 ≤ power then digits * Nat.pow 10 power.toNat * i.den else digits * i.den
  let one := if 0 ≤ power then 1 else Nat.pow 10 (-power).toNat
  if i.closed then i.low * one ≤ num && num ≤ i.high * one
  else i.low * one < num && num < i.high * one

/-- The two multiples of `10 ^ power` around the number, the lower one by its count of powers, and
how the number lies between them. -/
def RoundingInterval.neighbour (i : RoundingInterval) (power : Int) : Nat × Ordering :=
  let num := if 0 ≤ power then i.value else i.value * Nat.pow 10 (-power).toNat
  let den := if 0 ≤ power then i.den * Nat.pow 10 power.toNat else i.den
  (num / den, compare (2 * (num % den)) den)

/-- The neighbour on the grid of `10 ^ power` that rounds to the number, the nearer of two. -/
def RoundingInterval.onGrid? (i : RoundingInterval) (tie : TieRule) (power : Int) :
    Option Nat :=
  let (lower, place) := i.neighbour power
  match i.contains lower power, i.contains (lower + 1) power with
  | true, true =>
    match place with
    | .lt => some lower
    | .gt => some (lower + 1)
    | .eq =>
      match tie with
      | .toEven => some (if lower % 2 = 0 then lower else lower + 1)
      | .upward => some (lower + 1)
  | true, false => some lower
  | false, true => some (lower + 1)
  | false, false => none

/-- The first of the grids `10 ^ power`, `10 ^ (power - 1)`, … with a hit. -/
def RoundingInterval.firstGrid (i : RoundingInterval) (tie : TieRule) :
    Nat → Int → Decimal
  | 0, power => ⟨(i.neighbour power).1, power⟩
  | grids + 1, power =>
    match i.onGrid? tie power with
    | some digits => ⟨digits, power⟩
    | none => RoundingInterval.firstGrid i tie grids (power - 1)

/-- The same number without trailing zeros in its digits; `fuel` bounds their count. -/
def trimmed : Nat → Decimal → Decimal
  | 0, d => d
  | fuel + 1, d =>
    if d.digits ≠ 0 ∧ d.digits % 10 = 0 then trimmed fuel ⟨d.digits / 10, d.exponent + 1⟩ else d

/-- The shortest decimal of the absolute value of a finite number other than zero. Seventeen
digits always suffice. -/
def shortest (tie : TieRule) (x : Binary64) : Decimal :=
  let interval := RoundingInterval.of x
  trimmed 17 (interval.firstGrid tie 17 (leadingPower interval.value interval.den))

end Decimal

end LakehouseSql
