/-
  ImageIntake.Log.Record

  What the library says about its work: records with a level, the part that
  speaks, the stage of the import and further fields.
-/

import ImageIntake.Failure
import ImageIntake.Json.Value
import ImageIntake.Text.Utf8

namespace ImageIntake.Log

/-! ## Levels -/

/-- How weighty a record is. -/
inductive Level where
  | debug
  | info
  | warning
  | error
  | critical
deriving DecidableEq, Repr

namespace Level

/-- The number of a level; weightier levels have greater ones. -/
def number : Level → Int
  | .debug => 10
  | .info => 20
  | .warning => 30
  | .error => 40
  | .critical => 50

/-- The name of a level. -/
def word : Level → String
  | .debug => "DEBUG"
  | .info => "INFO"
  | .warning => "WARNING"
  | .error => "ERROR"
  | .critical => "CRITICAL"

/-- All levels, the least first. -/
def all : List Level := [.debug, .info, .warning, .error, .critical]

/-- The level of a word. -/
def named? (word : String) : Option Level := all.find? (·.word == word)

end Level

/-! ## Fields -/

/-- What a field holds: plain data, or something that is written by its text. -/
inductive Datum where
  | plain (value : Json)
  | path (text : String)
  | bytes (content : Bytes)
  | failure (f : Failure)

/-- A field with a text. -/
def textField (key value : String) : Json.Wording × Datum := (key, .plain (.text value))

/-- A field with a text that may be missing. -/
def optionField (key : String) : Option String → Json.Wording × Datum
  | some value => textField key value
  | none => (key, .plain .null)

/-- A field with a whole number. -/
def intField (key : String) (value : Int) : Json.Wording × Datum := (key, .plain (.int value))

/-! ## Messages -/

/-- The message of a record. -/
abbrev Message : Type := Json.Wording

/-- A code point of a message as a character, where half of a pair is replaced. -/
def Message.charOf (n : Nat) : Char := Json.charOf n

/-! ## Records -/

/-- The name under which the library logs. -/
def libraryLogger : String := "DiskImport.HttpImport"

/-- The name under which a part of the library logs. -/
def partLogger (part : String) : String := libraryLogger ++ "." ++ part

/-- A record. -/
structure Record where
  level : Level
  logger : String
  message : Message
  /-- The stage of the import; null for a record outside any. -/
  stage : Json := .null
  /-- Further fields, where the record has any. -/
  fields : Option (List (Json.Wording × Datum)) := none
  /-- The failure the record is about, where it is about one. -/
  failure : Option Failure := none

/-- A record of a part of the library with its stage and fields. -/
def Record.of (level : Level) (part stage message : String)
    (fields : List (Json.Wording × Datum)) : Record :=
  { level, logger := partLogger part, message, stage := .text stage, fields := some fields }

end ImageIntake.Log
