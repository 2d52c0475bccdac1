/-
  ImageIntake.Text.ShellWords

  Words of a POSIX shell: a word is quoted so that a shell reads it back as one
  literal word, and a command line joins quoted words with spaces.  `split` reads a
  line by the rules of the shell as long as it says nothing but words: there is no
  answer where a shell would expand something or do more than one thing.
-/

namespace ImageIntake.Text.ShellWords

/-! ## Quoting -/

/-- Characters that no shell gives a meaning to. -/
def isPlain (c : Char) : Bool :=
  c.isAlphanum || "_@%+=:,./-".toList.contains c

/-- A character inside single quotes; an apostrophe leaves them for a double-quoted one. -/
def insideQuotes (c : Char) : List Char :=
  if c = '\'' then "'\"'\"'".toList else [c]

/-- A word as one literal shell word. -/
def quoteChars (cs : List Char) : List Char :=
  if cs.isEmpty then ['\'', '\'']
  else if cs.all isPlain then cs
  else '\'' :: cs.flatMap insideQuotes ++ ['\'']

/-- A text as one literal shell word. -/
def quote (word : String) : String :=
  String.ofList (quoteChars word.toList)

/-- Words as one command line. -/
def join (words : List String) : String :=
  String.intercalate " " (words.map quote)

/-! ## Splitting -/

/-- Where a reader of shell words stands: between or inside words, inside quotes, or behind a
backslash. -/
inductive Mode where
  | plain
  | escaped
  | single
  | double
  | doubleEscaped
deriving DecidableEq, Repr

/-- Characters that mean something outside quotes: operators, expansions, patterns and comments. -/
def isSpecial (c : Char) : Bool := "|&;<>()$`*?[#~".toList.contains c

/-- Characters that mean something inside double quotes; a backslash takes the meaning of these. -/
def isSpecialInside (c : Char) : Bool := "$`\"\\".toList.contains c

/-- The current word, reversed, with one character more. -/
def push (c : Char) (word : Option (List Char)) : Option (List Char) :=
  some (c :: word.getD [])

/-- Reads words; `word` holds the current one, reversed, if one has begun.  A line feed ends the
line, unless it is quoted; one behind a backslash is passed over. -/
def splitFrom : Mode → Option (List Char) → List Char → Option (List (List Char))
  | .plain, word, [] => some (word.toList.map List.reverse)
  | .escaped, _, [] | .single, _, [] | .double, _, [] | .doubleEscaped, _, [] => none
  | .plain, word, c :: rest =>
    if c = ' ' ∨ c = '\t' then
      (splitFrom .plain none rest).map (word.toList.map List.reverse ++ ·)
    else if c = '\n' then
      if rest.isEmpty then some (word.toList.map List.reverse) else none
    else if c = '\'' then splitFrom .single (some (word.getD [])) rest
    else if c = '"' then splitFrom .double (some (word.getD [])) rest
    else if c = '\\' then splitFrom .escaped word rest
    else if isSpecial c then none
    else splitFrom .plain (push c word) rest
  | .escaped, word, c :: rest =>
    if c = '\n' then splitFrom .plain word rest else splitFrom .plain (push c word) rest
  | .single, word, c :: rest =>
    if c = '\'' then splitFrom .plain word rest else splitFrom .single (push c word) rest
  | .double, word, c :: rest =>
    if c = '"' then splitFrom .plain word rest
    else if c = '\\' then splitFrom .doubleEscaped word rest
    else if isSpecialInside c then none
    else splitFrom .double (push c word) rest
  | .doubleEscaped, word, c :: rest =>
    if c = '\n' then splitFrom .double word rest
    else if isSpecialInside c then splitFrom .double (push c word) rest
    else splitFrom .double (push c (push '\\' word)) rest

/-- The words of a command line. -/
def split (line : String) : Option (List String) :=
  (splitFrom .plain none line.toList).map (·.map String.ofList)

end ImageIntake.Text.ShellWords
