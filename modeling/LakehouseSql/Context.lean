import LakehouseSql.Validation
/-! # Execution context

Hints that go with a statement, and the engine that they suggest.
-/
namespace LakehouseSql

structure Context where
  engine : Engine
  complexity : UInt8
  estimatedRows : UInt64
  complexTransformations : Bool
  timeoutSeconds : Option UInt64
  deriving DecidableEq

namespace Context

/-- The least complexity of a complex statement. -/
def complexThreshold : UInt8 := 7

/-- The greatest number of rows that is left to the SQL engine. -/
def sparkRowThreshold : UInt64 := 10000000

def standard : Context :=
  ⟨.auto, 1, 0, false, none⟩

def withEngine (c : Context) (engine : Engine) : Context :=
  { c with engine }

/-- Complexity runs from 1 to 10. -/
def withComplexity (c : Context) (score : UInt8) : Checked Context :=
  if score < 1 || 10 < score then
    .error (.outOfRange "complexity_score" "between 1 and 10" (toString score.toNat))
  else .ok { c with complexity := score }

def create (engine : Engine) (score : UInt8) : Checked Context :=
  (standard.withEngine engine).withComplexity score

def withEstimatedRows (c : Context) (rows : UInt64) : Context :=
  { c with estimatedRows := rows }

def withComplexTransformations (c : Context) (complex : Bool) : Context :=
  { c with complexTransformations := complex }

def withTimeoutSeconds (c : Context) (seconds : UInt64) : Checked Context :=
  if seconds = 0 then
    .error (.outOfRange "timeout_seconds" "a positive number of seconds" (toString seconds.toNat))
  else .ok { c with timeoutSeconds := some seconds }

def isComplex (c : Context) : Bool :=
  complexThreshold ≤ c.complexity || c.complexTransformations

/-- An explicit preference stands; otherwise complex work and many rows go to Spark. -/
def suggestedEngine (c : Context) : Engine :=
  match c.engine with
  | .auto => if c.isComplex || sparkRowThreshold < c.estimatedRows then .spark else .sql
  | explicit => explicit

end Context

end LakehouseSql
