/-
  Timings by operation: how often an operation ran, how long altogether, and its shortest and
  longest run.  Durations are whole nanoseconds; reports give seconds.
-/
import CodeSurvey.NameMap

namespace CodeSurvey

/-- Nanoseconds. -/
abbrev Duration := Nat

/-- Nanoseconds in a second. -/
def Duration.perSecond : Nat := 1000000000

/-- A duration in seconds: whole seconds, then the fraction, each rounded. -/
def Duration.seconds (d : Duration) : Float :=
  Float.ofNat (d / Duration.perSecond)
    + Float.ofNat (d % Duration.perSecond) / Float.ofNat Duration.perSecond

/-- The runs of one operation. -/
structure Timing where
  count : Nat
  total : Duration
  shortest : Duration
  longest : Duration

/-- Timings of all operations. -/
abbrev Timings := NameMap Timing

namespace Timings

/-- Adds a run of an operation. -/
def record (t : Timings) (name : String) (d : Duration) : Timings :=
  t.alter name fun
    | none => ⟨1, d, d, d⟩
    | some r => ⟨r.count + 1, r.total + d, min r.shortest d, max r.longest d⟩

/-- The number of runs of all operations. -/
def operations (t : Timings) : Nat :=
  t.foldl (fun n r => n + r.2.count) 0

/-- The seconds of all operations, added in the order of their names. -/
def seconds (t : Timings) : Float :=
  t.foldl (fun acc r => acc + r.2.total.seconds) 0.0

/-- How often each operation ran. -/
def counts (t : Timings) : List (String × Nat) :=
  t.map fun r => (r.1, r.2.count)

end Timings

/-- The seconds of an average run. -/
def Timing.average (r : Timing) : Float :=
  r.total.seconds / Float.ofNat r.count

end CodeSurvey
