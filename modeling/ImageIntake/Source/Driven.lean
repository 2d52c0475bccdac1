/-
  ImageIntake.Source.Driven

  A source as the data source of an import.
-/

import ImageIntake.Import.Basic
import ImageIntake.Source.Basic

namespace ImageIntake.Source

variable {ω : Type}

/-- A source with its surroundings, ready to be driven. -/
def driven (env : Collaborators ω) : DataSource (Source × ω) where
  info := info env
  transfer := transfer env
  transferFile := transferFile env
  process := process
  url := do return (← get).1.url
  close := close env

/-- The import of a source into a file. -/
def importTo (env : Collaborators ω) (dataFile : String) (scratchDir : Option String)
    (scratchFileName : String) : Import (Source × ω) :=
  { Import.plain (driven env) (fun r s => (s.1, env.record r s.2)) dataFile with
    scratchDir := scratchDir
    scratchFileName := scratchFileName }

end ImageIntake.Source
