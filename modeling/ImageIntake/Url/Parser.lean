/-
  ImageIntake.Url.Parser

  Reading locators.  A text is cut into scheme, authority, path, query and
  fragment; the host is checked or encoded by its kind; dot segments are
  removed; and every part is escaped outside the characters it may hold.
-/

import ImageIntake.Host.Ipv6
import ImageIntake.Host.Name
import ImageIntake.Number.Whole
import ImageIntake.Text.LetterCase
import ImageIntake.Url.Basic

namespace ImageIntake.Url

open ImageIntake.Text ImageIntake.Number

/-! ## Safe characters -/

/-- Letters, digits and the four marks that never need an escape. -/
def isUnreserved (c : Char) : Bool :=
  c.isAlphanum || "-._~".toList.contains c

/-- The printable ASCII characters less some. -/
def printableBut (excluded : String) (c : Char) : Bool :=
  0x20 ≤ c.toNat && c.toNat < 0x7F && !excluded.toList.contains c

/-- What a fragment may hold. -/
def fragmentSafe : Char → Bool := printableBut " \"<>\x60"

/-- What a query may hold. -/
def querySafe : Char → Bool := printableBut " \"#<>"

/-- What a path may hold. -/
def pathSafe : Char → Bool := printableBut " \"#<>?\x60\x7b\x7d"

/-- What user information may hold. -/
def userinfoSafe : Char → Bool := printableBut " \"#<>?\x60\x7b\x7d/;=@[\\]^|"

/-- What a user name or a password may hold. -/
def credentialSafe (c : Char) : Bool := userinfoSafe c && c != ':'

/-- What a host name in ASCII may hold. -/
def hostSafe (c : Char) : Bool :=
  isUnreserved c || "!$&'()*+,;=\"\x60\x7b\x7d%|\\".toList.contains c

/-! ## Cutting a text into parts -/

/-- The longest text that is read. -/
def lengthLimit : Nat := 65536

/-- Whether a text is short enough and free of ASCII control characters. -/
def isReadable (cs : List Char) : Bool :=
  cs.length ≤ lengthLimit && cs.all fun c => 0x20 ≤ c.toNat && c.toNat != 0x7F

/-- The parts of a locator before anything is checked or escaped. -/
structure RawParts where
  scheme : List Char := []
  authority : List Char := []
  path : List Char := []
  query : Option (List Char) := none
  fragment : Option (List Char) := none

/-- Whether a character may follow the first letter of a scheme. -/
def isSchemeChar (c : Char) : Bool :=
  c.isAlphanum || c = '+' || c = '.' || c = '-'

/-- Takes a scheme and its colon off; the scheme may be empty. -/
def takeScheme (cs : List Char) : List Char × List Char :=
  match cs with
  | ':' :: rest => ([], rest)
  | c :: _ =>
    match cs.span isSchemeChar with
    | (scheme, ':' :: rest) => if c.isAlpha then (scheme, rest) else ([], cs)
    | _ => ([], cs)
  | [] => ([], [])

/-- Takes an authority behind two slashes off. -/
def takeAuthority (cs : List Char) : List Char × List Char :=
  match cs with
  | '/' :: '/' :: rest => rest.span fun c => c ≠ '/' && c ≠ '?' && c ≠ '#'
  | _ => ([], cs)

/-- Cuts a text into its parts. -/
def cut (cs : List Char) : RawParts :=
  let (scheme, rest) := takeScheme cs
  let (authority, rest) := takeAuthority rest
  let (body, fragment) := splitAtChar '#' rest
  let (path, query) := splitAtChar '?' body
  { scheme, authority, path, query, fragment }

/-- User information, host and port of an authority, before anything is checked. -/
structure RawAuthority where
  userinfo : List Char := []
  host : List Char := []
  port : List Char := []

/-- A host with its port: brackets reach to the last closing one, another host to a colon. -/
def cutHost (cs : List Char) : List Char × List Char :=
  let afterLast := (cs.reverse.takeWhile (· ≠ ']')).reverse
  let (host, rest) :=
    if cs.head? = some '[' ∧ afterLast.length < cs.length then
      (cs.take (cs.length - afterLast.length), afterLast)
    else cs.span (· ≠ ':')
  (host, if rest.head? = some ':' then rest.drop 1 else rest)

/-- Cuts an authority; user information reaches to the last at sign. -/
def cutAuthority (cs : List Char) : RawAuthority :=
  let afterLast := (cs.reverse.takeWhile (· ≠ '@')).reverse
  let userinfo := cs.take (cs.length - afterLast.length - 1)
  let (host, port) := cutHost afterLast
  { userinfo, host, port }

/-! ## Parts checked and escaped -/

/-- Why a text is no locator: it is too long or holds a control character, or its host, its port
or its path is unsound. -/
inductive Defect where
  | text
  | host
  | port
  | path
deriving DecidableEq, Repr

/-- A host in its escaped form: addresses are checked and kept, ASCII names are put in lower case
and escaped, and other names are encoded. -/
def readHost (host : List Char) : Except Defect String :=
  if host.isEmpty then .ok ""
  else if Host.looksDotted host then
    if Host.isIpv4 host then .ok (String.ofList host) else .error .host
  else if host.head? = some '[' ∧ host.getLast? = some ']' ∧ 2 ≤ host.length then
    let address := (host.drop 1).dropLast
    if Host.isIpv6 address then .ok (String.ofList address) else .error .host
  else if host.all (·.toNat < 0x80) then
    .ok (percentEncode hostSafe (asciiLower (String.ofList host)))
  else
    match Host.encodeName (lowerFrom [] host) with
    | .ok name => .ok (String.ofList name)
    | .error _ => .error .host

/-- A port, unless it is absent or the default of the scheme as written. -/
def readPort (scheme port : List Char) : Except Defect (Option Int) :=
  if port.isEmpty then .ok none
  else match readWhole? (String.ofList port) with
    | none => .error .port
    | some n => .ok (if defaultPort? (String.ofList scheme) = some n then none else some n)

/-- Whether a path fits what stands before it. -/
def pathFits (hasScheme hasAuthority : Bool) (path : List Char) : Bool :=
  if hasAuthority then path.isEmpty || path.head? = some '/'
  else hasScheme || !(path.head? = some ':' || (path.head? = some '/' && (path.drop 1).head? = some '/'))

/-- Follows the segments of a path: a dot is dropped and two dots take the segment before away,
unless that is the empty one a path starts with. -/
def foldSegment (out : List (List Char)) (segment : List Char) : List (List Char) :=
  if segment = ['.'] then out
  else if segment = ['.', '.'] then if out = [[]] then out else out.dropLast
  else out ++ [segment]

/-- A path without dot segments. -/
def removeDots (path : List Char) : List Char :=
  let segments := path.splitOn '/'
  if segments.contains ['.'] || segments.contains ['.', '.'] then
    List.intercalate ['/'] (segments.foldl foldSegment [])
  else path

/-- Escapes the characters of a part. -/
def escape (safe : Char → Bool) (cs : List Char) : String :=
  String.ofList (cs.flatMap (percentChar safe))

/-- A locator from its raw parts. -/
def ofParts (parts : RawParts) (auth : RawAuthority) : Except Defect Url := do
  let userinfo := escape userinfoSafe auth.userinfo
  let host ← readHost auth.host
  let port ← readPort parts.scheme auth.port
  let hasScheme := !parts.scheme.isEmpty
  let hasAuthority := userinfo ≠ "" || host ≠ "" || port.isSome
  if !pathFits hasScheme hasAuthority parts.path then throw .path
  let path := if hasScheme || hasAuthority then removeDots parts.path else parts.path
  return {
    scheme := asciiLower (String.ofList parts.scheme)
    userinfo
    host
    port
    path := escape pathSafe path
    query := parts.query.map (escape querySafe)
    fragment := parts.fragment.map (escape fragmentSafe) }

/-- Reads a locator. -/
def parse (text : String) : Except Defect Url :=
  let cs := text.toList
  if isReadable cs then
    let parts := cut cs
    ofParts parts (cutAuthority parts.authority)
  else .error .text

/-! ## Changing parts -/

/-- The raw parts that a locator prints. -/
def rawParts (url : Url) : RawParts :=
  { scheme := url.scheme.toList
    authority := url.authority.toList
    path := url.path.toList
    query := url.query.map String.toList
    fragment := url.fragment.map String.toList }

/-- Whether each part may be read again. -/
def RawParts.isReadable (parts : RawParts) : Bool :=
  Url.isReadable parts.scheme && Url.isReadable parts.authority && Url.isReadable parts.path &&
    (parts.query.map Url.isReadable).getD true && (parts.fragment.map Url.isReadable).getD true

/-- Reads the parts of a locator again after a change. -/
def reread (parts : RawParts) (change : RawAuthority → RawAuthority) : Except Defect Url :=
  if parts.isReadable then ofParts parts (change (cutAuthority parts.authority))
  else .error .text

/-- User information of a user name and a password; an empty password takes its colon along. -/
def joinUserinfo (user password : String) : String :=
  let user := percentEncode credentialSafe user
  let password := percentEncode credentialSafe password
  if password = "" then user else user ++ ":" ++ password

/-- The same locator with other credentials. -/
def withUserinfo (url : Url) (user password : String) : Except Defect Url :=
  let userinfo := (joinUserinfo user password).toList
  if Url.isReadable userinfo then
    reread url.rawParts fun auth => { auth with userinfo }
  else .error .text

/-! ## Hosts as they are read -/

/-- The host in Unicode: a name that starts with an encoded label is decoded. -/
def unicodeHost (url : Url) : Except Host.LabelFault String :=
  if Host.encodedMark.isPrefixOf url.host.toList then
    (Host.decodeName url.host.toList).map String.ofList
  else .ok url.host

end ImageIntake.Url
