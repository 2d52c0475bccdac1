/-
  ImageIntake.Cli.Arguments

  The words of a command line, told apart.  Options may stand before, between
  and behind the operands; their values follow them or stand behind an equals
  sign; two dashes end the options.
-/

import ImageIntake.Files.Path

namespace ImageIntake.Cli

/-! ## What a command takes -/

/-- What a value has to be. -/
inductive Kind where
  /-- There is no value at all. -/
  | flag
  | text
  | path
  /-- One of these words. -/
  | choice (words : List String)
  /-- Any number of these words. -/
  | choices (words : List String)

/-- An option of a command. -/
structure Known where
  name : String
  kind : Kind

/-- What a command takes: options, and operands that must all be there. -/
structure Usage where
  options : List Known
  operands : List Kind

/-- Why a command line is not carried out. -/
inductive Stop where
  /-- It asks for help. -/
  | help
  /-- It does not fit the usage. -/
  | misuse
deriving DecidableEq, Repr

/-! ## Telling words apart -/

/-- The option that asks for help. -/
def helpName : String := "--help"

/-- The words of a command line by their roles, in order. -/
structure Parsed where
  options : List (String × String) := []
  operands : List String := []
deriving DecidableEq, Repr

namespace Parsed

/-- The same with an option before the others. -/
def withOption (name value : String) (p : Parsed) : Parsed :=
  { p with options := (name, value) :: p.options }

/-- The same with an operand before the others. -/
def withOperand (word : String) (p : Parsed) : Parsed :=
  { p with operands := word :: p.operands }

/-- The values of an option. -/
def values (p : Parsed) (name : String) : List String :=
  p.options.filterMap fun o => if o.1 = name then some o.2 else none

/-- The value of an option: the last that was given. -/
def value? (p : Parsed) (name : String) : Option String := (p.values name).getLast?

end Parsed

/-- Whether a word is an option: it has a dash and something behind it. -/
def isOption (word : String) : Bool :=
  match word.toList with
  | '-' :: _ :: _ => true
  | _ => false

/-- A word before and behind its first equals sign. -/
def splitValue (word : String) : String × Option String :=
  let cs := word.toList
  let name := cs.takeWhile (· ≠ '=')
  (String.ofList name,
    if name.length < cs.length then some (String.ofList (cs.drop (name.length + 1))) else none)

/-- What the value of an option has to be, if the option is known. -/
def kindOf? (known : List Known) (name : String) : Option Kind :=
  (known.find? (·.name == name)).map (·.kind)

/-- Tells the words of a command apart; no answer if an option is unknown, lacks its value or has
one that it does not take. -/
def parse? (known : List Known) : List String → Option Parsed
  | [] => some {}
  | word :: rest =>
    if word = "--" then some ⟨[], rest⟩
    else if !isOption word then (parse? known rest).map (·.withOperand word)
    else
      let (name, attached) := splitValue word
      match kindOf? known name, attached with
      | none, _ => none
      | some .flag, some _ => none
      | some .flag, none => (parse? known rest).map (·.withOption name "")
      | some _, some value => (parse? known rest).map (·.withOption name value)
      | some _, none =>
        match rest with
        | [] => none
        | value :: rest => (parse? known rest).map (·.withOption name value)

/-! ## Checking values -/

/-- Checks the values that were given for one option or operand. -/
def Kind.check (kind : Kind) (values : List String) : Except Stop Unit :=
  match kind with
  | .flag | .text => .ok ()
  | .path =>
    -- No path holds a NUL.
    if (values.getLast?.getD "").toList.contains '\x00' then .error .misuse else .ok ()
  | .choice words => if words.contains (values.getLast?.getD "") then .ok () else .error .misuse
  | .choices words => if values.all words.contains then .ok () else .error .misuse

/-- Checks the operands, all of which must be there and no more. -/
def checkOperands : List Kind → List String → Except Stop Unit
  | [], [] => .ok ()
  | [], _ :: _ => .error .misuse
  | _ :: _, [] => .error .misuse
  | kind :: kinds, word :: words => do
    kind.check [word]
    checkOperands kinds words

namespace Usage

/-- The options of a command, help among them. -/
def known (u : Usage) : List Known := u.options ++ [⟨helpName, .flag⟩]

/-- Checks the options in the order in which they were given. -/
def checkOptions (u : Usage) (p : Parsed) : Except Stop Unit :=
  (p.options.map (·.1)).eraseDups.forM fun name =>
    match u.options.find? (·.name == name) with
    | some option => option.kind.check (p.values name)
    | none => .ok ()

/-- Reads the words of a command.  Help goes before anything that is wrong with the values. -/
def read (u : Usage) (words : List String) : Except Stop Parsed :=
  match parse? u.known words with
  | none => .error .misuse
  | some p =>
    if (p.value? helpName).isSome then .error .help
    else do
      u.checkOptions p
      checkOperands u.operands p.operands
      pure p

end Usage

/-! ## Commands -/

/-- The words from the name of the command on, and whether help was asked for before it; no answer
if there is another option before it. -/
def splitCommand? : List String → Option (Bool × List String)
  | [] => some (false, [])
  | word :: rest =>
    if word = "--" then some (false, rest)
    else if !isOption word then some (false, word :: rest)
    else if word = helpName then (splitCommand? rest).map fun (_, rest) => (true, rest)
    else none

end ImageIntake.Cli
