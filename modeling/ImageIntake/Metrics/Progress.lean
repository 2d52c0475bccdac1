/-
  ImageIntake.Metrics.Progress

  Progress reporters.  A reporter advances the counter of its owner by what the
  percentage on a line goes beyond the greatest it has reported so far, so that
  the counter never falls.  Lines without a percentage, and reporters without an
  owner, change nothing.
-/

import ImageIntake.Log.Record
import ImageIntake.Metrics.Percentage
import ImageIntake.Metrics.Registry

namespace ImageIntake.Metrics

variable {α : Type} [Amount α]

/-- The name of the progress counter. -/
def progressName : String := "import_progress"

/-- A reporter: its owner, the place of its counter in the registry, and the greatest percentage
it has reported. -/
structure Reporter (α : Type) where
  owner : String
  counter : Nat
  current : α

namespace Reporter

/-- The failure to register the counter beside something else of its name. -/
def duplicate : Failure := .outside (.library "DuplicateTimeseries")

/-- Makes a reporter; the counter is registered by the first and used by all. -/
def make (owner : String) (r : Registry α) : Except Failure (Reporter α) × Registry α :=
  match r.register? (.make .counter progressName ["ownerUID"]) with
  | some s => (.ok ⟨owner, r.collectors.length, Amount.ofHundredths 0⟩, s)
  | none =>
    match r.indexOf? progressName with
    | none => (.error duplicate, r)
    | some i =>
      if (r.collectors[i]?.map (·.kind)) = some .counter then
        (.ok ⟨owner, i, Amount.ofHundredths 0⟩, r)
      else (.error duplicate, r)

/-- The failure to use a counter with other labels. -/
def labelFault (labels : List String) : Option Failure :=
  match labels with
  | [_] => none
  | [] => some (.outside (.value
      ("No label names were set when constructing counter:" ++ progressName)))
  | _ => some (.outside (.value "Incorrect label count"))

/-- The record of an advance. -/
def advanced : Log.Record :=
  { level := .debug, logger := Log.partLogger "metrics", message := "import progress"
    stage := .text "convert" }

/-- Reports a line; answers whether the counter was advanced. -/
def report (p : Reporter α) (line : String) (r : Registry α) :
    Except Failure Bool × Reporter α × Registry α :=
  match percent? line with
  | none => (.ok false, p, r)
  | some n =>
    let value : α := Amount.ofHundredths n
    if p.owner = "" ∨ Amount.atMost value p.current = true then (.ok false, p, r)
    else
      let q := { p with current := value }
      match r.collectors[p.counter]? with
      | none => (.ok false, q, r)
      | some c =>
        match labelFault c.labels with
        | some f => (.error f, q, r)
        | none =>
          let c := c.increase [p.owner] (Amount.sub value p.current)
          (.ok true, q, ⟨r.collectors.set p.counter c⟩)

end Reporter

/-- The samples of the progress counter. -/
def progressSamples (r : Registry α) : List (List (String × String) × α) :=
  r.samples (progressName ++ "_total")

end ImageIntake.Metrics
