/-
  ImageIntake.Settings.Field

  Reading one field of the settings.  A value is text from the environment or a
  plain value given directly; numbers may be written as text, truth values count
  as 0 and 1, and what cannot be read names the rule it broke.
-/

import ImageIntake.Files.Path
import ImageIntake.Json.Value
import ImageIntake.Number.Real

namespace ImageIntake.Settings

open ImageIntake.Number

/-- A value, or the rule it broke. -/
abbrev Reading (α : Type) := Except String α

/-! ## Texts -/

/-- Reads a text. -/
def readText : Json → Reading String
  | .text s => .ok s
  | _ => .error "string_type"

/-- Reads a text that is not empty. -/
def readFullText (value : Json) : Reading String := do
  let s ← readText value
  if s = "" then .error "string_too_short" else .ok s

/-- Reads a path. -/
def readPath : Json → Reading String
  | .text s => .ok (Files.plainPath s)
  | _ => .error "path_type"

/-! ## Numbers -/

/-- A number with a fraction taken as a whole one, which has to fit into a signed word of 64 bits
with room on both sides. -/
def wholeOfReal (x : Binary64) : Reading Int :=
  if !x.isFinite then .error "finite_number"
  else match x.whole? with
    | none => .error "int_from_float"
    | some n => if n.natAbs < twoTo 63 then .ok n else .error "int_parsing_size"

/-- Reads a whole number. -/
def readInt : Json → Reading Int
  | .int n => .ok n
  | .bool b => .ok (if b then 1 else 0)
  | .real x => wholeOfReal x
  | .text s => (readPlainWhole s).mapError fun
    | .form => "int_parsing"
    | .size => "int_parsing_size"
  | _ => .error "int_type"

/-- A whole number taken as one with a fraction, unless it is too large for that. -/
def realOfWhole (n : Int) : Reading Binary64 :=
  let x := Binary64.ofInt n
  if x.isFinite then .ok x else .error "float_type"

/-- Reads a number. -/
def readReal : Json → Reading Binary64
  | .int n => realOfWhole n
  | .bool b => .ok (.ofInt (if b then 1 else 0))
  | .real x => .ok x
  | .text s =>
    match readPlainReal? s with
    | some x => .ok x
    | none => .error "float_parsing"
  | _ => .error "float_type"

/-- Reads a whole number above zero. -/
def readPositiveInt (value : Json) : Reading Int := do
  let n ← readInt value
  if 0 < n then .ok n else .error "greater_than"

/-- Reads a number above zero. -/
def readPositiveReal (value : Json) : Reading Binary64 := do
  let x ← readReal value
  if x.isPositive then .ok x else .error "greater_than"

/-- Reads a whole number that is at least one. -/
def readCount (value : Json) : Reading Int := do
  let n ← readInt value
  if 1 ≤ n then .ok n else .error "greater_than_equal"

/-- Reads the number of a port. -/
def readPort (value : Json) : Reading Int := do
  let n ← readCount value
  if n ≤ 65535 then .ok n else .error "less_than_equal"

/-! ## Levels and absent values -/

/-- The names a log level may have. -/
def levelNames : List String := ["DEBUG", "INFO", "WARNING", "ERROR", "CRITICAL"]

/-- Reads the name of a log level, letter case ignored. -/
def readLevel (value : Json) : Reading String := do
  let name := Text.upper (← readText value)
  if levelNames.contains name then .ok name else .error "value_error"

/-- Reads a value that may be absent. -/
def readOptional {α : Type} (read : Json → Reading α) : Json → Reading (Option α)
  | .null => .ok none
  | value => (read value).map some

end ImageIntake.Settings
