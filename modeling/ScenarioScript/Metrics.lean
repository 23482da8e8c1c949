/-!
# Metrics

Counters and histograms.  A counter is the list of the increments that it has received, a histogram
the list of its observations; sums, averages and extremes are read off these lists, in the order in
which the numbers came, so that rounding is that of a running total.

**Main definitions.**

* `Counter` and `Histogram`.
* `Measurement` is one change of the metrics of the compiler.
* `Metrics` are these metrics, `Metrics.record` applies a measurement.
-/

namespace ScenarioScript

/-- **A counter**: its increments, the first one first. -/
structure Counter where
  increments : List Float := []
deriving Repr

namespace Counter

def add (counter : Counter) (amount : Float) : Counter :=
  ⟨counter.increments ++ [amount]⟩

/-- **The value of a counter**: the running total of its increments. -/
def value (counter : Counter) : Float :=
  counter.increments.foldl (· + ·) 0.0

end Counter

/-- **A histogram**: its observations, the first one first. -/
structure Histogram where
  observations : List Float := []
deriving Repr

namespace Histogram

def add (histogram : Histogram) (observation : Float) : Histogram :=
  ⟨histogram.observations ++ [observation]⟩

def count (histogram : Histogram) : Nat :=
  histogram.observations.length

/-- **The sum of the observations.** -/
def sum (histogram : Histogram) : Float :=
  histogram.observations.foldl (· + ·) 0.0

/-- **The average**, or zero without observations. -/
def average (histogram : Histogram) : Float :=
  if histogram.count = 0 then 0.0 else histogram.sum / Float.ofNat histogram.count

/-- **The least observation**, the first of equal ones; zero without observations. -/
def minimum (histogram : Histogram) : Float :=
  if histogram.count = 0 then 0.0
  else histogram.observations.foldl (fun least x => if x < least then x else least) (1.0 / 0.0)

/-- **The greatest observation**, the first of equal ones; zero without observations. -/
def maximum (histogram : Histogram) : Float :=
  if histogram.count = 0 then 0.0
  else
    histogram.observations.foldl (fun greatest x => if greatest < x then x else greatest)
      (-1.0 / 0.0)

end Histogram

/-- **A change of the compiler's metrics.** -/
inductive Measurement where
  | compiled
  | failed
  | unresolved (count : Nat)
  | statements (count : Nat)
  | writeFailed
deriving Repr, DecidableEq

/-- **The compiler's metrics.** -/
structure Metrics where
  compiled : Counter := {}
  failed : Counter := {}
  unresolved : Counter := {}
  writeFailures : Counter := {}
  statements : Histogram := {}
deriving Repr

namespace Metrics

/-- **Applies one measurement.** -/
def record (metrics : Metrics) : Measurement → Metrics
  | .compiled => { metrics with compiled := metrics.compiled.add 1.0 }
  | .failed => { metrics with failed := metrics.failed.add 1.0 }
  | .unresolved count =>
    { metrics with unresolved := metrics.unresolved.add (Float.ofNat count) }
  | .statements count =>
    { metrics with statements := metrics.statements.add (Float.ofNat count) }
  | .writeFailed => { metrics with writeFailures := metrics.writeFailures.add 1.0 }

def recordAll (metrics : Metrics) (measurements : List Measurement) : Metrics :=
  measurements.foldl record metrics

end Metrics

end ScenarioScript
