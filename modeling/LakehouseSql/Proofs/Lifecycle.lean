import LakehouseSql.Validation
/-! # Lives of checked values

A value is made by a constructor and then passed through any row of setters. A setter that refuses
leaves the value as it was.
-/
namespace LakehouseSql

/-- How the values of a type are made and changed. -/
structure Lifecycle (α : Type) where
  /-- What a constructor gives. -/
  Made : α → Prop
  Setter : Type
  set : α → Setter → Checked α

namespace Lifecycle

variable {α : Type} (l : Lifecycle α)

/-- The value after a setter that may refuse. -/
def attempt (a : α) (setter : l.Setter) : α :=
  match l.set a setter with
  | .ok b => b
  | .error _ => a

def run (a : α) (setters : List l.Setter) : α :=
  setters.foldl l.attempt a

/-- The values that constructors and setters lead to. -/
def Reached (b : α) : Prop :=
  ∃ a setters, l.Made a ∧ l.run a setters = b

variable {l} {P : α → Prop}

theorem attempt_keeps (hset : ∀ a setter b, P a → l.set a setter = .ok b → P b) {a : α}
    (ha : P a) (setter : l.Setter) : P (l.attempt a setter) := by
  unfold attempt
  cases hs : l.set a setter with
  | error e => exact ha
  | ok b => exact hset a setter b ha hs

theorem run_keeps (hset : ∀ a setter b, P a → l.set a setter = .ok b → P b)
    (setters : List l.Setter) {a : α} (ha : P a) : P (l.run a setters) := by
  induction setters generalizing a with
  | nil => exact ha
  | cons setter setters ih => exact ih (attempt_keeps hset ha setter)

theorem run_concat (a : α) (setters : List l.Setter) (setter : l.Setter) :
    l.run a (setters ++ [setter]) = l.attempt (l.run a setters) setter := by
  simp [run]

/-- What constructors establish and setters preserve holds of every value that is reached. -/
theorem Reached.keeps (hmade : ∀ a, l.Made a → P a)
    (hset : ∀ a setter b, P a → l.set a setter = .ok b → P b) {b : α} (h : l.Reached b) : P b := by
  obtain ⟨a, setters, ha, rfl⟩ := h
  exact run_keeps hset setters (hmade a ha)

theorem reached_of_made {a : α} (h : l.Made a) : l.Reached a :=
  ⟨a, [], h, rfl⟩

end Lifecycle

end LakehouseSql
