/-
  ImageIntake.Cli.Command

  The two commands: one imports an image, the other shows the command line that
  would convert it.
-/

import ImageIntake.Cli.Arguments
import ImageIntake.Conversion.Request
import ImageIntake.Phase

namespace ImageIntake.Cli

/-! ## The commands -/

/-- The command that imports an image. -/
structure ImportCommand where
  endpoint : String
  destination : String
  accessKey : Option String := none
  secretKey : Option String := none
  certDir : Option String := none
  scratchDir : Option String := none
  contentType : ContentType := .kubevirt
  logLevel : Option String := none
deriving DecidableEq, Repr

/-- The command that shows a command line. -/
structure ShowCommand where
  endpoint : String
  destination : String
  filters : List Filter := []
  certDir : Option String := none
deriving DecidableEq, Repr

/-- A command. -/
inductive Command where
  | importImage (c : ImportCommand)
  | showArguments (c : ShowCommand)
deriving DecidableEq, Repr

/-! ## Usage -/

/-- The words of a vocabulary. -/
def wordsOf {α : Type} (v : Vocabulary α) : List String := v.terms.map (·.word)

/-- What the import takes. -/
def importUsage : Usage where
  options := [
    ⟨"--access-key", .text⟩, ⟨"--secret-key", .text⟩, ⟨"--cert-dir", .path⟩,
    ⟨"--scratch-dir", .path⟩, ⟨"--content-type", .choice (wordsOf ContentType.vocabulary)⟩,
    ⟨"--log-level", .text⟩]
  operands := [.text, .path]

/-- What showing a command line takes. -/
def showUsage : Usage where
  options := [⟨"--filter", .choices (wordsOf Filter.vocabulary)⟩, ⟨"--cert-dir", .path⟩]
  operands := [.text, .path]

/-- The text that explains the commands. -/
def usageText : String :=
  "Usage: diskimport import ENDPOINT DESTINATION [--access-key TEXT] [--secret-key TEXT]\n" ++
  "         [--cert-dir PATH] [--scratch-dir PATH] [--content-type kubevirt|archive]\n" ++
  "         [--log-level TEXT]\n" ++
  "       diskimport args ENDPOINT DESTINATION [--filter xz|gzip]... [--cert-dir PATH]\n"

/-! ## Reading a command -/

/-- The value of an option that a variable of the environment can stand for; an empty variable
counts as none. -/
def valueOrVariable (p : Parsed) (option : String) (environment : List (String × String))
    (variableName : String) : Option String :=
  (p.value? option).or ((environment.lookup variableName).filter (· ≠ ""))

/-- The path that was given for an option. -/
def pathOption (p : Parsed) (option : String) : Option String :=
  (p.value? option).map Files.plainPath

/-- The operand at a place. -/
def operand (p : Parsed) (i : Nat) : String := p.operands[i]?.getD ""

/-- Reads the words of an import. -/
def ImportCommand.read (environment : List (String × String)) (words : List String) :
    Except Stop ImportCommand :=
  (importUsage.read words).map fun p => {
    endpoint := operand p 0
    destination := Files.plainPath (operand p 1)
    accessKey := valueOrVariable p "--access-key" environment "DISKIMPORT_ACCESS_KEY"
    secretKey := valueOrVariable p "--secret-key" environment "DISKIMPORT_SECRET_KEY"
    certDir := pathOption p "--cert-dir"
    scratchDir := pathOption p "--scratch-dir"
    contentType := ((p.value? "--content-type").bind ContentType.vocabulary.read?).getD .kubevirt
    logLevel := p.value? "--log-level" }

/-- Reads the words of a command that shows a command line. -/
def ShowCommand.read (words : List String) : Except Stop ShowCommand :=
  (showUsage.read words).map fun p => {
    endpoint := operand p 0
    destination := Files.plainPath (operand p 1)
    filters := (p.values "--filter").filterMap Filter.vocabulary.read?
    certDir := pathOption p "--cert-dir" }

namespace Command

/-- Words that do not begin with the name of a command: they may still ask for help. -/
def unknown (words : List String) : Stop :=
  match splitCommand? words with
  | some (true, _) => .help
  | _ => .misuse

/-- Reads the words of a command line. -/
def read (environment : List (String × String)) (words : List String) : Except Stop Command :=
  match splitCommand? words with
  | none => .error .misuse
  | some (true, _) => .error .help
  | some (false, []) => .error .misuse
  | some (false, name :: rest) =>
    if name = "import" then (ImportCommand.read environment rest).map .importImage
    else if name = "args" then (ShowCommand.read rest).map .showArguments
    else .error (unknown (name :: rest))

end Command

end ImageIntake.Cli
