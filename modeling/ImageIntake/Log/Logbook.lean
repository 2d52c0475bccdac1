/-
  ImageIntake.Log.Logbook

  Where records go: to the console and, once a log directory is set, into a file
  of the day that is put aside when it grows too large.  Setting up again
  replaces the handlers of the time before; handlers of others stay.
-/

import ImageIntake.Log.Line
import ImageIntake.Log.Retention
import ImageIntake.Number.Binary64
import ImageIntake.Number.Power

namespace ImageIntake.Log

open ImageIntake.Files ImageIntake.Number

/-! ## Handlers -/

/-- What a handler does with records. -/
inductive Sink where
  | console
  /-- Appends lines to a file, which is put aside at a number of bytes above zero. -/
  | file (path : String) (limit : Int)
  /-- A handler that was attached by others. -/
  | foreign
deriving DecidableEq, Repr

/-- A handler. -/
structure Handler where
  id : Nat
  sink : Sink
deriving DecidableEq, Repr

/-- Whether a handler was attached by a set-up. -/
def Handler.managed (h : Handler) : Bool := h.sink ≠ .foreign

/-- The log. -/
structure Logbook where
  /-- The number of the least level that is let through; 0 leaves the choice to the surroundings. -/
  level : Int := 0
  handlers : List Handler := []
  /-- The handlers that were closed. -/
  closed : List Nat := []
  /-- The handlers made so far. -/
  made : Nat := 0
  /-- What the console shows. -/
  console : String := ""
  /-- Every record that was offered. -/
  records : List Record := []
  /-- The lists and objects inside each other for which the writer of lines has room. -/
  room : Nat := 900

/-! ## Files of a log -/

/-- The number of files kept beside the current one. -/
def backupCount : Nat := 5

/-- The name of a file that was put aside. -/
def backupName (path : String) (n : Nat) : String := path ++ "." ++ toString n

/-- Moves a file to another name, if it is there. -/
def moveAside (tree : Tree) (source target : String) : Except Fault Tree :=
  match tree.look source with
  | .error _ => .ok tree
  | .ok _ => do
    let tree ← match tree.look target with
      | .ok _ => tree.unlink target
      | .error _ => .ok tree
    tree.rename source target

/-- Puts the current file aside; those put aside before move on, and the oldest is dropped. -/
def rotate (tree : Tree) (path : String) : Except Fault Tree := do
  let numbers := (List.range (backupCount - 1)).reverse
  let tree ← numbers.foldlM (fun tree n =>
    moveAside tree (backupName path (n + 1)) (backupName path (n + 2))) tree
  let tree ← moveAside tree path (backupName path 1)
  tree.ensureFile path

/-- Whether a line would make a file too large; only a regular file is ever put aside. -/
def isFull (tree : Tree) (path : String) (limit : Int) (line : Bytes) : Bool :=
  if limit ≤ 0 then false
  else match tree.look path with
    | .ok (.file content _) => limit ≤ (content.length + line.length : Nat)
    | .ok _ => false
    | .error _ => limit ≤ line.length

/-- Appends a line to a log file. -/
def writeLine (tree : Tree) (path : String) (limit : Int) (line : String) : Except Fault Tree := do
  let bytes := Text.utf8 (line ++ "\n")
  let tree ← if isFull tree path limit bytes then rotate tree path else .ok tree
  tree.append path bytes

/-! ## Records -/

namespace Logbook

/-- The level that counts where none is set. -/
def defaultLevel : Int := Level.warning.number

/-- Whether a level is let through. -/
def letsThrough (book : Logbook) (level : Level) : Bool :=
  (if book.level = 0 then defaultLevel else book.level) ≤ level.number

/-- Adds to what the console shows. -/
def display (book : Logbook) (text : String) : Logbook :=
  { book with console := book.console ++ text ++ "\n" }

/-- Hands a record to a handler.  A record that cannot be written, and a file that cannot be written
to, do not stop the import. -/
def handle (now : Instant) (r : Record) (state : Logbook × Tree) (h : Handler) : Logbook × Tree :=
  let (book, tree) := state
  match h.sink with
  | .console => (book.display (r.level.word ++ ": " ++ r.message.shown), tree)
  | .file path limit =>
    (book, match (r.write now book.room).bind (writeLine tree path limit) with
      | .ok tree => tree
      | .error _ => tree)
  | .foreign => (book, tree)

/-- Offers a record.  Without any handler, warnings and worse go to the console as they are. -/
def offer (book : Logbook) (tree : Tree) (now : Instant) (r : Record) : Logbook × Tree :=
  let book := { book with records := book.records ++ [r] }
  if book.letsThrough r.level then
    if book.handlers.isEmpty then
      if defaultLevel ≤ r.level.number then (book.display r.message.shown, tree) else (book, tree)
    else book.handlers.foldl (handle now r) (book, tree)
  else (book, tree)

/-! ## Setting up -/

/-- How the log is to be set up. -/
structure Plan where
  levelName : String
  dir : Option String
  /-- The size in MiB at which a file is put aside. -/
  maxSize : Number.Binary64
  /-- The days after which files are put away. -/
  retention : Int

/-- The names of levels that can be asked for, in upper case. -/
def levelNumbers : List (String × Int) := [
  ("DEBUG", 10), ("INFO", 20), ("WARNING", 30), ("WARN", 30), ("ERROR", 40), ("CRITICAL", 50),
  ("FATAL", 50), ("NOTSET", 0)]

/-- The usual layout of a message. -/
def basicFormat : String := "%(levelname)s:%(name)s:%(message)s"

/-- The layouts of a message by their signs, as they are shown. -/
def layoutsText : String :=
  "\x7b'%': (<class 'logging.PercentStyle'>, '" ++ basicFormat ++
  "'), '\x7b': (<class 'logging.StrFormatStyle'>, " ++
  "'\x7blevelname\x7d:\x7bname\x7d:\x7bmessage\x7d'), " ++
  "'$': (<class 'logging.StringTemplateStyle'>, " ++
  "'$\x7blevelname\x7d:$\x7bname\x7d:$\x7bmessage\x7d')\x7d"

/-- Names like those of the levels that stand for layouts, and how asking for them fails. -/
def otherNames : List (String × Fault) := [
  ("BASIC_FORMAT", .value ("Unknown level: '" ++ basicFormat ++ "'")),
  ("_STYLES", .typeMismatch ("Level not an integer or a valid string: " ++ layoutsText))]

/-- The number of the level a name asks for, letter case ignored; an unknown one asks for the
informative level. -/
def levelOf (name : String) : Except Fault Int :=
  let name := Text.upper name
  match otherNames.lookup name with
  | some fault => .error fault
  | none => .ok ((levelNumbers.lookup name).getD Level.info.number)

/-- The bytes of a size in MiB, cut off to a whole number. -/
def bytesOf (size : Number.Binary64) : Except Fault Int :=
  let infinite : Fault := .overflow "cannot convert float infinity to integer"
  match size.content with
  | .nan => .error (.value "cannot convert float NaN to integer")
  | .infinite _ => .error infinite
  | .finite negative mantissa exponent =>
    -- One MiB is two to the power of twenty bytes.
    let scaled := exponent + 20
    let n := mantissa * twoTo scaled.toNat / twoTo (-scaled).toNat
    if twoTo 1024 ≤ n then .error infinite else .ok (if negative then -(n : Int) else n)

/-- Closes and detaches the handlers of earlier set-ups. -/
def detach (book : Logbook) : Logbook :=
  { book with
    handlers := book.handlers.filter (!·.managed)
    closed := book.closed ++ (book.handlers.filter (·.managed)).map (·.id) }

/-- Attaches a new handler. -/
def attach (book : Logbook) (sink : Sink) : Logbook :=
  { book with
    handlers := book.handlers ++ [⟨book.made, sink⟩]
    made := book.made + 1 }

/-- The log file of a day, from the root. -/
def fileOf (tree : Tree) (dir : String) (now : Instant) : String :=
  let name := "diskimport-" ++ now.dayStamp ++ ".jsonl"
  ((Path.read (pathBelow dir name)).absolute tree.home).print

/-- Opens the log file of a directory, which is made and cleaned up first; answers its path and the
size at which it is put aside. -/
def openFile (tree : Tree) (now : Instant) (plan : Plan) (dir : String) :
    Except Fault (String × Int) × Tree :=
  let path := fileOf tree dir now
  match tree.makeDirectories (.read dir) with
  | .error fault => (.error fault, tree)
  | .ok tree =>
    match cleanUp tree now dir plan.retention with
    | (.error fault, tree) => (.error fault, tree)
    | (.ok (), tree) =>
      match bytesOf plan.maxSize with
      | .error fault => (.error fault, tree)
      | .ok limit =>
        match tree.ensureFile path with
        | .error fault => (.error fault, tree)
        | .ok tree => (.ok (path, limit), tree)

/-- Sets the log up. -/
def setUp (book : Logbook) (tree : Tree) (now : Instant) (plan : Plan) :
    Except Fault Unit × Logbook × Tree :=
  match levelOf plan.levelName with
  | .error fault => (.error fault, book, tree)
  | .ok level =>
    let book := ({ book with level }.detach).attach .console
    match plan.dir with
    | none => (.ok (), book, tree)
    | some dir =>
      match openFile tree now plan dir with
      | (.error fault, tree) => (.error fault, book, tree)
      | (.ok (path, limit), tree) => (.ok (), book.attach (.file path limit), tree)

end Logbook

end ImageIntake.Log
