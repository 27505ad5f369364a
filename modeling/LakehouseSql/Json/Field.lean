import LakehouseSql.Dictionary
import LakehouseSql.Json.Value
import LakehouseSql.Text.Basic
import LakehouseSql.Vocabulary
/-! # Fields of JSON objects

Readers for the values of known members. A value of another form than the reader asks for is an
error, and so is a word that its vocabulary does not have. A record is read from an object, or from
an array by the places of its fields.
-/
namespace LakehouseSql

inductive FieldError where
  | word (e : UnknownWord)
  | shape
  deriving DecidableEq

namespace Json

abbrev Decoded (α : Type) := Except FieldError α

/-- Null stands for a missing value. -/
def optionalField {α : Type} (read : Json → Decoded α) : Json → Decoded (Option α)
  | .null => .ok none
  | j => (read j).map some

def stringField : Json → Decoded String
  | .string s => .ok s
  | _ => .error .shape

def boolField : Json → Decoded Bool
  | .bool b => .ok b
  | _ => .error .shape

/-- A whole number with a property. -/
def wholeField (fits : Int → Bool) : Json → Decoded Int
  | .number (.whole n) => if fits n then .ok n else .error .shape
  | _ => .error .shape

/-- The number is not negative and below a bound. -/
def isBelow (bound : Nat) (n : Int) : Bool :=
  0 ≤ n && n < bound

def uint64Field (j : Json) : Decoded UInt64 :=
  (wholeField (isBelow UInt64.size) j).map fun n => UInt64.ofNat n.toNat

def uint32Field (j : Json) : Decoded UInt32 :=
  (wholeField (isBelow UInt32.size) j).map fun n => UInt32.ofNat n.toNat

def int64Field (j : Json) : Decoded Int64 :=
  (wholeField Text.fitsInt64 j).map Int64.ofInt

/-- Any number; a whole one is rounded if it has to be. -/
def realField : Json → Decoded Binary64
  | .number (.real x) => .ok x
  | .number (.whole n) => .ok (.ofRatio (n < 0) n.natAbs 1)
  | _ => .error .shape

def wordField (α : Type) [Vocabulary α] : Json → Decoded α
  | .string s => (Vocabulary.parse α s).mapError .word
  | _ => .error .shape

def eachItem {α : Type} (read : Json → Decoded α) : List Json → Decoded (List α)
  | [] => .ok []
  | item :: items => do
    let a ← read item
    return a :: (← eachItem read items)

def listField {α : Type} (read : Json → Decoded α) : Json → Decoded (List α)
  | .array items => eachItem read items
  | _ => .error .shape

def eachMember {α : Type} (read : Json → Decoded α) :
    List (String × Json) → Decoded (List (String × α))
  | [] => .ok []
  | (name, value) :: ms => do
    let a ← read value
    return (name, a) :: (← eachMember read ms)

def dictionaryField {α : Type} (read : Json → Decoded α) : Json → Decoded (Dictionary α)
  | .object ms => (eachMember read ms).map .ofList
  | _ => .error .shape

/-- A member of a record: how its value is read and where it goes. -/
structure Member (α : Type) where
  {Value : Type}
  read : Json → Decoded Value
  put : α → Value → α

/-- The members that a record may have, in the order of its fields. -/
abbrev RecordMembers (α : Type) := List (String × Member α)

section
variable {α : Type} (members : RecordMembers α)

/-- Take one member into a record; one that the record does not have is passed over. -/
def takeMember (a : α) (name : String) (j : Json) : Decoded α :=
  match members.lookup name with
  | some m => (m.read j).map (m.put a)
  | none => .ok a

/-- Take members one after the other, where those of the names `given` were taken before. What the
record has must not come again. -/
def takeMembers : List String → α → List (String × Json) → Decoded α
  | _, a, [] => .ok a
  | given, a, (name, j) :: ms =>
    if name ∈ given ∧ (members.lookup name).isSome then .error .shape
    else do
      let a ← takeMember members a name j
      takeMembers (name :: given) a ms

/-- A record of the members of an object, or of the items of an array, which stand for the fields
in their order. The other fields keep what they have at the start. -/
def recordField (start : α) : Json → Decoded α
  | .object ms => takeMembers members [] start ms
  | .array items => do
    let a ← takeMembers members [] start ((members.map (·.1)).zip items)
    if items.length ≤ members.length then return a else throw .shape
  | _ => .error .shape

end

end Json

end LakehouseSql
