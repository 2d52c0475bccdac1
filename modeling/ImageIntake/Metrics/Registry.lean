/-
  ImageIntake.Metrics.Registry

  A registry of counters and gauges.  Each occupies names, and no two share one:
  a counter takes those of its total and of its creation along with its own.
-/

import ImageIntake.Number.Binary64
import ImageIntake.Failure

namespace ImageIntake.Metrics

/-! ## Amounts -/

/-- Numbers that percentages are counted in. -/
class Amount (α : Type) where
  /-- A number of hundredths. -/
  ofHundredths : Nat → α
  add : α → α → α
  sub : α → α → α
  atMost : α → α → Bool

/-- Exact hundredths. -/
instance : Amount Nat where
  ofHundredths n := n
  add := (· + ·)
  sub := (· - ·)
  atMost a b := decide (a ≤ b)

/-- Double precision, each sum and difference rounded. -/
instance : Amount Number.Binary64 where
  ofHundredths n := .ofFraction false n 100
  add a b := .ofFloat (a.toFloat + b.toFloat)
  sub a b := .ofFloat (a.toFloat - b.toFloat)
  atMost a b := a.toFloat <= b.toFloat

variable {α : Type} [Amount α]

/-! ## Collectors -/

/-- What a collector is. -/
inductive CollectorKind where
  | counter
  | gauge
deriving DecidableEq, Repr

/-- A collector with the samples of its label values. -/
structure Collector (α : Type) where
  kind : CollectorKind
  name : String
  labels : List String := []
  samples : List (List String × α) := []

namespace Collector

/-- What the name of a counter may end in without it counting as part of the name. -/
def totalEnding : String := "_total"

/-- The name of a collector as it is registered. -/
def plainName (kind : CollectorKind) (name : String) : String :=
  let ending := totalEnding.toList.reverse
  let reversed := name.toList.reverse
  if kind = .counter ∧ ending.isPrefixOf reversed then
    String.ofList (reversed.drop ending.length).reverse
  else name

/-- A new collector; without labels it has one sample from the start. -/
def make (kind : CollectorKind) (name : String) (labels : List String) : Collector α where
  kind
  name := plainName kind name
  labels
  samples := if labels.isEmpty then [([], Amount.ofHundredths 0)] else []

/-- The names a collector occupies. -/
def names (c : Collector α) : List String :=
  match c.kind with
  | .counter => [c.name, c.name ++ "_total", c.name ++ "_created"]
  | .gauge => [c.name]

/-- The name its samples go by. -/
def sampleName (c : Collector α) : String :=
  match c.kind with
  | .counter => c.name ++ "_total"
  | .gauge => c.name

/-- Adds to the sample of label values, which starts at zero. -/
def increase (c : Collector α) (values : List String) (amount : α) : Collector α :=
  match c.samples.lookup values with
  | none => { c with samples := c.samples ++ [(values, Amount.add (Amount.ofHundredths 0) amount)] }
  | some _ =>
    { c with samples := c.samples.map fun s =>
        if s.1 = values then (s.1, Amount.add s.2 amount) else s }

end Collector

/-! ## Registries -/

/-- The collectors of a registry, the oldest first. -/
structure Registry (α : Type) where
  collectors : List (Collector α) := []

namespace Registry

/-- Whether a name is occupied. -/
def occupied (r : Registry α) (name : String) : Bool :=
  r.collectors.any fun c => c.names.contains name

/-- The place of the collector that occupies a name. -/
def indexOf? (r : Registry α) (name : String) : Option Nat :=
  r.collectors.findIdx? fun c => c.names.contains name

/-- Registers a collector; `none` if one of its names is occupied. -/
def register? (r : Registry α) (c : Collector α) : Option (Registry α) :=
  if c.names.any r.occupied then none else some ⟨r.collectors ++ [c]⟩

/-- The samples of a name, with the names of their labels. -/
def samples (r : Registry α) (name : String) : List (List (String × String) × α) :=
  r.collectors.flatMap fun c =>
    if c.sampleName = name then c.samples.map fun s => (c.labels.zip s.1, s.2) else []

end Registry

end ImageIntake.Metrics
