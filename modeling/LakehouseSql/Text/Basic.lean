/-! # Blanks, digits and search patterns

The white space of Unicode, the values of digits, and patterns that are looked for in texts.
-/
namespace LakehouseSql.Text

/-- The characters with the Unicode property White_Space. -/
def isBlank (c : Char) : Bool :=
  let n := c.toNat
  (0x09 ≤ n && n ≤ 0x0D) || n == 0x20 || n == 0x85 || n == 0xA0 || n == 0x1680 ||
    (0x2000 ≤ n && n ≤ 0x200A) || n == 0x2028 || n == 0x2029 || n == 0x202F ||
    n == 0x205F || n == 0x3000

/-- Drop the characters that satisfy `p` from both ends. -/
def stripWhile (p : Char → Bool) (cs : List Char) : List Char :=
  ((cs.dropWhile p).reverse.dropWhile p).reverse

/-- The text without the blanks at its two ends. -/
def trim (s : String) : String :=
  String.ofList (stripWhile isBlank s.toList)

/-- A text of blanks alone, the empty one among them. -/
def isBlankText (s : String) : Bool :=
  s.toList.all isBlank

/-- The value of a decimal digit. -/
def digitValue (c : Char) : Nat :=
  c.toNat - '0'.toNat

/-- The whole number of a row of decimal digits. -/
def digitsValue (ds : List Char) : Nat :=
  ds.foldl (fun n c => 10 * n + digitValue c) 0

/-- The value of a hexadecimal digit in either letter case. -/
def hexValue? (c : Char) : Option Nat :=
  if c.isDigit then some (digitValue c)
  else if 'a' ≤ c ∧ c ≤ 'f' then some (c.toNat - 'a'.toNat + 10)
  else if 'A' ≤ c ∧ c ≤ 'F' then some (c.toNat - 'A'.toNat + 10)
  else none

/-- The whole number of a row of hexadecimal digits. -/
def hexDigitsValue? (ds : List Char) : Option Nat :=
  ds.foldlM (fun n c => (hexValue? c).map (16 * n + ·)) 0

/-- Whether a minus stands in front, and what follows a sign. -/
def splitSign : List Char → Bool × List Char
  | '-' :: cs => (true, cs)
  | '+' :: cs => (false, cs)
  | cs => (false, cs)

/-- The number lies in the signed 64-bit range. -/
def fitsInt64 (n : Int) : Bool :=
  -9223372036854775808 ≤ n && n ≤ 9223372036854775807

/-- The whole number of a sign and a row of digits, if it lies in the signed 64-bit range. -/
def signedValue? (negative : Bool) (ds : List Char) : Option Int :=
  let n : Int := if negative then -(digitsValue ds : Int) else digitsValue ds
  if fitsInt64 n then some n else none

/-! ## Patterns

A pattern is a row of pieces: characters, runs of blanks and gaps of any length. A piece is
described by the rests of a text that it can leave, so that a row is matched by structural
recursion. Letters match in either case, and also the long s and the Kelvin sign, which Unicode
folds to `s` and `k`.
-/

inductive Piece where
  | char (c : Char)
  | blanks
  | someBlanks
  | gap
  deriving DecidableEq

abbrev Pattern := List Piece

/-- The pieces that spell a word. -/
def Pattern.word (w : String) : Pattern :=
  w.toList.map Piece.char

/-- A character of the text stands for a character of the pattern. -/
def foldsTo (pattern text : Char) : Bool :=
  pattern.toLower == text.toLower ||
    (pattern.toLower == 's' && text.toNat == 0x17F) ||
    (pattern.toLower == 'k' && text.toNat == 0x212A)

/-- All rests of a text, the text itself first. -/
def rests : List Char → List (List Char)
  | [] => [[]]
  | c :: cs => (c :: cs) :: rests cs

/-- The rests that remain when a leading run of blanks, perhaps only in part, is passed over. -/
def restsAfterBlanks : List Char → List (List Char)
  | [] => [[]]
  | c :: cs => (c :: cs) :: if isBlank c then restsAfterBlanks cs else []

/-- The rests that a piece can leave of a text. -/
def Piece.rests : Piece → List Char → List (List Char)
  | .char _, [] => []
  | .char p, c :: cs => if foldsTo p c then [cs] else []
  | .blanks, cs => restsAfterBlanks cs
  | .someBlanks, [] => []
  | .someBlanks, c :: cs => if isBlank c then restsAfterBlanks cs else []
  | .gap, cs => Text.rests cs

/-- The pattern matches at the beginning of the text. -/
def Pattern.matchesStart : Pattern → List Char → Bool
  | [], _ => true
  | piece :: pieces, cs => (piece.rests cs).any (Pattern.matchesStart pieces)

/-- The pattern matches somewhere in the text. -/
def Pattern.occursIn (pattern : Pattern) (s : String) : Bool :=
  (rests s.toList).any pattern.matchesStart

end LakehouseSql.Text
