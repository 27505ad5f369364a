import LakehouseSql.Decimal.Binary64
/-! # JSON values

A value tree whose objects keep the order of their members. A member or number that is well formed
but stands for nothing, such as half a surrogate pair or a number beyond the finite ones, is kept
as `unreadable`, so that it can still be passed over where nobody asks for it.
-/
namespace LakehouseSql

/-- Whole numbers from `-2 ^ 63` to `2 ^ 64 - 1`, and double precision numbers. -/
inductive JsonNumber where
  | whole (n : Int)
  | real (x : Binary64)
  deriving DecidableEq

inductive Json where
  | null
  | bool (b : Bool)
  | number (n : JsonNumber)
  | string (s : String)
  | array (items : List Json)
  | object (members : List (String × Json))
  | unreadable

namespace Json

def whole (n : Int) : Json :=
  .number (.whole n)

def natural (n : Nat) : Json :=
  .number (.whole n)

def optional {α : Type} (encode : α → Json) : Option α → Json
  | none => .null
  | some a => encode a

def strings (items : List String) : Json :=
  .array (items.map .string)

/-- The members of an object; no other value has any. -/
def members : Json → List (String × Json)
  | .object ms => ms
  | _ => []

/-- The value of the first member of a name. -/
def member? (j : Json) (name : String) : Option Json :=
  (j.members.find? fun m => m.1 == name).map (·.2)

mutual
/-- The value can be kept whole: every part of it is readable, and it nests no deeper than
`depth` arrays and objects. -/
def readableWithin : Nat → Json → Bool
  | _, .unreadable => false
  | depth, .array items => 0 < depth && allReadableWithin (depth - 1) items
  | depth, .object ms => 0 < depth && allMembersReadableWithin (depth - 1) ms
  | _, _ => true

def allReadableWithin : Nat → List Json → Bool
  | _, [] => true
  | depth, item :: items => readableWithin depth item && allReadableWithin depth items

def allMembersReadableWithin : Nat → List (String × Json) → Bool
  | _, [] => true
  | depth, (_, item) :: ms => readableWithin depth item && allMembersReadableWithin depth ms
end

end Json

end LakehouseSql
