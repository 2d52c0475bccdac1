/-
  ImageIntake.Log.Template

  Messages with arguments.  A percent sign starts a directive: flags, a width, a
  precision and a letter that says how the next argument is written.  Arguments
  may be taken by name instead, where an object is handed over.  What is written
  is a list of code points, because a number may be written as any of them and a
  text may be broken.
-/

import ImageIntake.Fault
import ImageIntake.Log.Record
import ImageIntake.Number.Layout
import ImageIntake.Number.Power
import ImageIntake.Text.Printable

namespace ImageIntake.Log

open ImageIntake.Number

/-! ## Values as text -/

/-- A text between quotes; halves of pairs in it are escaped. -/
def quotedWording : Json.Wording → String
  | .text s => Text.quoted s
  | .broken codes =>
    let quote := Text.quoteFor (codes.map Json.charOf)
    String.ofList (quote :: codes.flatMap (fun n =>
      if n.isValidChar then Text.quotedChar quote (Char.ofNat n) else Text.escapeCode n) ++ [quote])

mutual

/-- A value inside brackets: texts are quoted. -/
def innerText : Json → String
  | .text s => Text.quoted s
  | .broken codes => quotedWording (.broken codes)
  | .null => "None"
  | .bool true => "True"
  | .bool false => "False"
  | .int n => toString n
  | .real x => Layout.plain.write x
  | .list items => "[" ++ innerTexts items ++ "]"
  | .object fields => "\x7b" ++ innerFields fields ++ "\x7d"

/-- Values behind one another. -/
def innerTexts : List Json → String
  | [] => ""
  | [x] => innerText x
  | x :: rest => innerText x ++ ", " ++ innerTexts rest

/-- Fields behind one another. -/
def innerFields : List (Json.Wording × Json) → String
  | [] => ""
  | [(key, x)] => quotedWording key ++ ": " ++ innerText x
  | (key, x) :: rest => quotedWording key ++ ": " ++ innerText x ++ ", " ++ innerFields rest

end

/-- The code points of a text. -/
def codesOf (s : String) : List Nat := s.toList.map Char.toNat

/-- The code points of a value on its own: a text stands as it is. -/
def plainCodes : Json → List Nat
  | .text s => codesOf s
  | .broken codes => codes
  | value => codesOf (innerText value)

/-- The name of the type of a value. -/
def typeName : Json → String
  | .null => "NoneType"
  | .bool _ => "bool"
  | .int _ => "int"
  | .real _ => "float"
  | .text _ | .broken _ => "str"
  | .list _ => "list"
  | .object _ => "dict"

/-- A text with everything beyond ASCII escaped. -/
def asciiText (s : String) : String :=
  String.ofList (s.toList.flatMap fun c => if c.toNat < 0x80 then [c] else Text.escapeCode c.toNat)

/-! ## Directives -/

/-- A directive between its percent sign and its letter. -/
structure Directive where
  left : Bool := false
  plus : Bool := false
  blank : Bool := false
  alternate : Bool := false
  zeros : Bool := false
  width : Nat := 0
  precision : Option Nat := none

/-- The arguments that are left, and those that go by name. -/
structure Arguments where
  ordered : List Json
  named : Option (List (Json.Wording × Json)) := none

namespace Arguments

/-- Arguments that are taken in their order. -/
def inOrder (values : List Json) : Arguments := { ordered := values }

/-- Arguments as they are handed over with a record: an object on its own gives names, unless it is
empty. -/
def handed (values : List Json) : Arguments where
  ordered := values
  named := match values with
    | [.object (field :: fields)] => some (field :: fields)
    | _ => none

end Arguments

/-- The failure of a message that wants more arguments. -/
def notEnough : Fault := .typeMismatch "not enough arguments for format string"

/-- The failure of a message that leaves arguments over. -/
def notAll : Fault := .typeMismatch "not all arguments converted during string formatting"

/-- The failure of a message that ends inside a directive. -/
def incomplete : Fault := .value "incomplete format"

/-- Takes the next argument. -/
def Arguments.next (a : Arguments) : Except Fault (Json × Arguments) :=
  match a.ordered with
  | x :: rest => .ok (x, { a with ordered := rest })
  | [] => .error notEnough

/-- Chooses an argument by name, which is then the only one left. -/
def Arguments.choose (a : Arguments) (name : String) : Except Fault Arguments :=
  match a.named with
  | none => .error (.typeMismatch "format requires a mapping")
  | some fields =>
    match fields.lookup (.text name) with
    | some x => .ok { a with ordered := [x] }
    | none => .error (.ofName "KeyError" name)

/-- Reads the name of a directive, which may hold brackets in pairs. -/
def readName : (depth : Nat) → List Char → List Char → Except Fault (List Char × List Char)
  | _, _, [] => .error (.value "incomplete format key")
  | depth, name, c :: rest =>
    if c = ')' then
      match depth with
      | 0 => .ok (name, rest)
      | depth + 1 => readName depth (name ++ [c]) rest
    else if c = '(' then readName (depth + 1) (name ++ [c]) rest
    else readName depth (name ++ [c]) rest

/-- Reads the flags of a directive. -/
def readFlags (d : Directive) : List Char → Directive × List Char
  | '-' :: rest => readFlags { d with left := true } rest
  | '+' :: rest => readFlags { d with plus := true } rest
  | ' ' :: rest => readFlags { d with blank := true } rest
  | '#' :: rest => readFlags { d with alternate := true } rest
  | '0' :: rest => readFlags { d with zeros := true } rest
  | rest => (d, rest)

/-- A number that a directive may hold: what it is, and in how many bits it has to fit. -/
structure Count where
  title : String
  bits : Nat
  holder : String

/-- The width of a directive. -/
def widthCount : Count := ⟨"width", 63, "ssize_t"⟩

/-- The precision of a directive. -/
def precisionCount : Count := ⟨"precision", 31, "int"⟩

/-- Reads a number of a directive; a star takes it from the arguments. -/
def readCount (c : Count) (a : Arguments) : List Char → Except Fault (Int × Arguments × List Char)
  | '*' :: rest => do
    let (x, a) ← a.next
    match x with
    | .int n =>
      if twoTo c.bits ≤ n ∨ n < -(twoTo c.bits : Int) then
        .error (.overflow ("Python int too large to convert to C " ++ c.holder))
      else .ok (n, a, rest)
    | .bool b => .ok (if b then 1 else 0, a, rest)
    | _ => .error (.typeMismatch "* wants int")
  | cs =>
    let digits := cs.takeWhile Char.isDigit
    let n := digits.foldl (fun acc c => acc * 10 + ((c.toNat : Int) - 48)) 0
    if twoTo c.bits ≤ n then .error (.value (c.title ++ " too big"))
    else .ok (n, a, cs.drop digits.length)

/-! ## Writing an argument -/

/-- Puts code points into a field of the width of a directive. -/
def inWidth (d : Directive) (codes : List Nat) : List Nat :=
  let fill := List.replicate (d.width - codes.length) ' '.toNat
  if d.left then codes ++ fill else fill ++ codes

/-- Puts a number into its field: sign, mark and digits, with zeros between them where asked. -/
def numberInWidth (d : Directive) (negative : Bool) (mark digits : String) : List Nat :=
  let sign := if negative then "-" else if d.plus then "+" else if d.blank then " " else ""
  let size := sign.length + mark.length + digits.length
  -- Zeros stand behind the sign and the mark; blanks stand around all of it.
  let zeros := if d.zeros && !d.left then List.replicate (d.width - size) '0' else []
  inWidth d (codesOf (sign ++ mark ++ String.ofList zeros ++ digits))

/-- The whole number an argument stands for. -/
def wholeArgument (letter : Char) (x : Json) : Except Fault Int :=
  let integral := letter = 'x' ∨ letter = 'X' ∨ letter = 'o'
  let wrong : Fault := .typeMismatch
    ("%" ++ String.singleton letter ++ " format: " ++
      (if integral then "an integer" else "a real number") ++ " is required, not " ++ typeName x)
  match x with
  | .int n => .ok n
  | .bool b => .ok (if b then 1 else 0)
  | .real r =>
    if integral then .error wrong
    else match r.content with
      | .nan => .error (.value "cannot convert float NaN to integer")
      | .infinite _ => .error (.overflow "cannot convert float infinity to integer")
      | .finite .. => .ok (r.truncate?.getD 0)
  | _ => .error wrong

/-- Writes a whole number. -/
def writeWhole (d : Directive) (letter : Char) (n : Int) : List Nat :=
  let base := if letter = 'x' ∨ letter = 'X' then 16 else if letter = 'o' then 8 else 10
  let mark := if !d.alternate || base = 10 then "" else "0" ++ String.singleton letter
  let digits := Nat.toDigits base n.natAbs
  let digits := if letter = 'X' then digits.map Char.toUpper else digits
  let digits := List.replicate (d.precision.getD 0 - digits.length) '0' ++ digits
  numberInWidth d (n < 0) mark (String.ofList digits)

/-- A finite magnitude in whole units of a power of ten, a half going to the even side. -/
def inUnits (mantissa : Nat) (exponent : Int) (places : Int) : Nat :=
  let num := mantissa * twoTo exponent.toNat * tenTo places.toNat
  let den := twoTo (-exponent).toNat * tenTo (-places).toNat
  Binary64.roundDiv num den

/-- Digits with a point before the last `places` of them. -/
def pointed (places n : Nat) (alternate : Bool) : String :=
  let digits := Nat.toDigits 10 n
  let digits := List.replicate (places + 1 - digits.length) '0' ++ digits
  let whole := digits.take (digits.length - places)
  let decimals := digits.drop (digits.length - places)
  String.ofList (whole ++ (if places = 0 && !alternate then [] else '.' :: decimals))

/-- Whether a magnitude is at least a power of ten. -/
def reaches (mantissa : Nat) (exponent power : Int) : Bool :=
  twoTo (-exponent).toNat * tenTo power.toNat ≤ mantissa * twoTo exponent.toNat * tenTo (-power).toNat

/-- A magnitude with one digit before the point and a power of ten: its digits and that power. -/
def leadingDigits (mantissa : Nat) (exponent : Int) (places : Nat) : Nat × Int :=
  if mantissa = 0 then (0, 0)
  else
    let d := Binary64.shortest mantissa exponent
    let highest : Int := (Nat.toDigits 10 d.digits).length + d.exponent - 1
    -- The fewest digits may have been rounded up to a power of ten.
    let power := if reaches mantissa exponent highest then highest else highest - 1
    let n := inUnits mantissa exponent (places - power)
    -- Rounding may have made one more digit.
    if tenTo (places + 1) ≤ n then (inUnits mantissa exponent (places - power - 1), power + 1)
    else (n, power)

/-- The power of ten of a magnitude, written. -/
def powerText (power : Int) : String :=
  let digits := Nat.toDigits 10 power.natAbs
  "e" ++ (if power < 0 then "-" else "+") ++
    String.ofList (List.replicate (2 - digits.length) '0' ++ digits)

/-- Decimals without the zeros at their end, and without a point that nothing follows. -/
def withoutZeros (s : String) : String :=
  if s.toList.contains '.' then
    let kept := s.toList.reverse.dropWhile (· = '0')
    String.ofList ((if kept.head? = some '.' then kept.drop 1 else kept).reverse)
  else s

/-- Writes a magnitude in the way of a letter. -/
def writeMagnitude (d : Directive) (letter : Char) (mantissa : Nat) (exponent : Int) : String :=
  let places := d.precision.getD 6
  if letter = 'f' then pointed places (inUnits mantissa exponent places) d.alternate
  else if letter = 'e' then
    let (n, power) := leadingDigits mantissa exponent places
    pointed places n d.alternate ++ powerText power
  else
    let digits := max places 1
    let (n, power) := leadingDigits mantissa exponent (digits - 1)
    let trim := fun s => if d.alternate then s else withoutZeros s
    -- Powers near zero are written without an exponent.
    if -4 ≤ power ∧ power < digits then
      let decimals := (digits - 1 - power).toNat
      trim (pointed decimals (inUnits mantissa exponent decimals) d.alternate)
    else trim (pointed (digits - 1) n d.alternate) ++ powerText power

/-- The number an argument stands for; a whole one may be too large to be one with a fraction. -/
def realArgument (x : Json) : Except Fault Binary64 :=
  match x with
  | .int n =>
    let r := Binary64.ofInt n
    if r.isFinite then .ok r else .error (.overflow "int too large to convert to float")
  | .bool b => .ok (.ofInt (if b then 1 else 0))
  | .real r => .ok r
  | x => .error (.typeMismatch ("must be real number, not " ++ typeName x))

/-- Writes a number with a fraction. -/
def writeReal (d : Directive) (letter : Char) (x : Binary64) : List Nat :=
  let change := fun s => if letter.isUpper then s.map Char.toUpper else s
  match x.content with
  | .nan => numberInWidth d false "" (change "nan")
  | .infinite negative => numberInWidth d negative "" (change "inf")
  | .finite negative mantissa exponent =>
    numberInWidth d negative "" (change (writeMagnitude d letter.toLower mantissa exponent))

/-- The code point an argument stands for. -/
def codeArgument (x : Json) : Except Fault Nat :=
  let ofNumber (n : Int) : Except Fault Nat :=
    if 0 ≤ n ∧ n < 0x110000 then .ok n.toNat
    else .error (.overflow "%c arg not in range(0x110000)")
  let wrong : Fault := .typeMismatch "%c requires int or char"
  match x with
  | .int n => ofNumber n
  | .bool b => ofNumber (if b then 1 else 0)
  | .text s =>
    match codesOf s with
    | [n] => .ok n
    | _ => .error wrong
  | .broken [n] => .ok n
  | _ => .error wrong

/-- How a letter is shown that says nothing: only ASCII from the last separator on stands as it is. -/
def shownLetter (letter : Char) : Char :=
  if 0x1F ≤ letter.toNat ∧ letter.toNat < 0x7F then letter else '?'

/-- Writes a text, cut to the precision of a directive. -/
def writeText (d : Directive) (codes : List Nat) : List Nat :=
  inWidth d (match d.precision with
    | some n => codes.take n
    | none => codes)

/-- Writes an argument in the way of a letter that stands at a place of the message. -/
def writeArgument (d : Directive) (letter : Char) (place : Nat) (x : Json) :
    Except Fault (List Nat) :=
  if letter = 's' then .ok (writeText d (plainCodes x))
  else if letter = 'r' then .ok (writeText d (codesOf (innerText x)))
  else if letter = 'a' then .ok (writeText d (codesOf (asciiText (innerText x))))
  else if letter = 'c' then (codeArgument x).map fun n => inWidth d [n]
  else if "diuxXo".toList.contains letter then (wholeArgument letter x).map (writeWhole d letter)
  else if "eEfFgG".toList.contains letter then (realArgument x).map (writeReal d letter)
  else .error (.value ("unsupported format character '" ++
    String.singleton (shownLetter letter) ++ "' (0x" ++
    String.ofList (Nat.toDigits 16 letter.toNat) ++ ") at index " ++ toString place))

/-! ## Messages -/

/-- Reads the width of a directive; a negative one asks for the left side. -/
def readWidth (d : Directive) (a : Arguments) (cs : List Char) :
    Except Fault (Directive × Arguments × List Char) := do
  let (width, a, cs) ← readCount widthCount a cs
  return ({ d with
    width := width.natAbs
    left := d.left || width < 0 }, a, cs)

/-- Reads the precision of a directive behind its point. -/
def readPrecision (d : Directive) (a : Arguments) (cs : List Char) :
    Except Fault (Directive × Arguments × List Char) :=
  match cs with
  | '.' :: rest => do
    let (precision, a, rest) ← readCount precisionCount a rest
    return ({ d with precision := some precision.toNat }, a, rest)
  | cs => .ok (d, a, cs)

/-- Reads a directive behind its percent sign, up to its letter. -/
def readDirective (a : Arguments) (cs : List Char) :
    Except Fault (Directive × Arguments × List Char) := do
  let (a, cs) ← match cs with
    | '(' :: rest => do
      if a.named.isNone then .error (.typeMismatch "format requires a mapping")
      let (name, rest) ← readName 0 [] rest
      pure (← a.choose (String.ofList name), rest)
    | cs => pure (a, cs)
  let (d, cs) := readFlags {} cs
  let (d, a, cs) ← readWidth d a cs
  let (d, a, cs) ← readPrecision d a cs
  -- A letter for the size of a number says nothing.
  return (d, a, match cs with
    | 'h' :: rest | 'l' :: rest | 'L' :: rest => rest
    | cs => cs)

/-- Fills a message, `size` being the length of all of it. -/
def fillCodes (size : Nat) :
    (fuel : Nat) → Arguments → List Nat → Except Fault (List Nat × Arguments)
  | 0, a, _ => .ok ([], a)
  | fuel + 1, a, codes =>
    match codes with
    | [] => .ok ([], a)
    | n :: rest => do
      if n ≠ '%'.toNat then
        let (more, a) ← fillCodes size fuel a rest
        return (n :: more, a)
      if rest.head? = some '%'.toNat then
        let (more, a) ← fillCodes size fuel a rest.tail
        return (n :: more, a)
      let (d, a, behind) ← readDirective a (rest.map Json.charOf)
      match behind with
      | [] => .error incomplete
      | letter :: after =>
        let (x, a) ← a.next
        let written ← writeArgument d letter (size - behind.length) x
        let (more, a) ← fillCodes size fuel a (rest.drop (rest.length - after.length))
        return (written ++ more, a)

/-- A message with its arguments filled in; without any it stands as it is. -/
def fill (template : Message) (a : Arguments) : Except Fault Message :=
  if a.ordered.isEmpty then .ok template
  else do
    let codes := plainCodes template.toJson
    let (filled, left) ← fillCodes codes.length (codes.length + 1) a codes
    if !left.ordered.isEmpty && left.named.isNone then .error notAll else .ok (.ofCodes filled)

end ImageIntake.Log
