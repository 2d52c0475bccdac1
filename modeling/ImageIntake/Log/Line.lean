/-
  ImageIntake.Log.Line

  The line of a record in a log file: one JSON object with the time, the level,
  the logger, the message, the stage and the further fields, secrets masked.
-/

import ImageIntake.Files.Path
import ImageIntake.Json.Printer
import ImageIntake.Log.Instant
import ImageIntake.Log.Masking

namespace ImageIntake.Log

/-! ## Data as text -/

/-- A byte inside a byte literal. -/
def byteChars (quote : Char) (b : UInt8) : List Char :=
  let c := Char.ofNat b.toNat
  if c = quote ∨ c = '\\' then ['\\', c]
  else if c = '\t' then ['\\', 't']
  else if c = '\n' then ['\\', 'n']
  else if c = '\r' then ['\\', 'r']
  else if 0x20 ≤ b.toNat ∧ b.toNat < 0x7F then [c]
  else '\\' :: 'x' :: Text.hexPadded 2 b.toNat

/-- Bytes as a literal. -/
def byteLiteral (bytes : Bytes) : String :=
  let quote := Text.quoteFor (bytes.map fun b => Char.ofNat b.toNat)
  String.ofList ('b' :: quote :: bytes.flatMap (byteChars quote) ++ [quote])

/-- What a field holds, as JSON; what is no plain data is written by its text. -/
def Datum.toJson : Datum → Json
  | .plain (.broken codes) => .ofCodes codes
  | .plain value => value
  | .path text => .text (Files.plainPath text)
  | .bytes content => .text (byteLiteral content)
  | .failure f => .text f.text

/-! ## Failures as text -/

/-- The full name of what a failure is. -/
def qualifiedName : Failure → String
  | .pipeline trouble _ _ => libraryLogger ++ ".errors." ++ trouble.name
  | .process .. => libraryLogger ++ ".errors.ProcessExecutionError"
  | .outside fault =>
    match fault with
    | .transport name _ | .stream name _ => "httpx." ++ name
    | fault => if fault = .invalidUrl then "httpx.InvalidURL" else fault.name

/-- The last line about a failure. -/
def failureLine (f : Failure) : String :=
  if f.text = "" then qualifiedName f else qualifiedName f ++ ": " ++ f.text

/-- The lines about a failure, what caused it first. -/
def failureText : Failure → String
  | .pipeline trouble message (some cause) =>
    failureText cause ++ causeBreak ++ failureLine (.pipeline trouble message none)
  | .process message report (some cause) =>
    failureText cause ++ causeBreak ++ failureLine (.process message report none)
  | f => failureLine f
where
  /-- What stands between a cause and its effect. -/
  causeBreak : String :=
    "\n\nThe above exception was the direct cause of the following exception:\n\n"

/-! ## Lines -/

/-- The fields that every record has. -/
def Record.ownFields (r : Record) (now : Instant) : List (Json.Wording × Datum) := [
  textField "timestamp" now.print,
  textField "level" r.level.word,
  textField "logger" r.logger,
  ("message", .plain r.message.toJson),
  ("stage", .plain r.stage)]

/-- The fields of a record: its own first, then the further ones, of which an equal key keeps its
place. -/
def Record.payload (r : Record) (now : Instant) : List (Json.Wording × Datum) :=
  let all := Json.mergeFields (r.ownFields now) (r.fields.getD [])
  match r.failure with
  | some f => Json.setField all "exc_info" (.plain (.text (failureText f)))
  | none => all

/-- Fields as one JSON object, masked. -/
def maskedObject (payload : List (Json.Wording × Datum)) : Json :=
  .object ((maskFields payload).map fun (key, value) => (key, value.toJson))

/-- The text of fields as one JSON object, masked. -/
def objectLine (payload : List (Json.Wording × Datum)) : String :=
  (maskedObject payload).print

/-- The line of a record. -/
def Record.line (r : Record) (now : Instant) : String :=
  objectLine (r.payload now)

/-- Writes the line of a record where there is room for so many lists and objects inside each
other. -/
def Record.write (r : Record) (now : Instant) (room : Nat) : Except Fault String :=
  (maskedObject (r.payload now)).write room

end ImageIntake.Log
