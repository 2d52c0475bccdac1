/-
  ImageIntake.Http.Exchange

  Exchanges with servers.  A request is answered by a response or fails;
  redirects are followed up to a limit, each after the body of the response
  before it was read to its end, and credentials stay with the server they were
  meant for.  The place a request goes to is named in ASCII, and a response is
  taken only from a locator with a scheme.
-/

import ImageIntake.Cancellation.Token
import ImageIntake.Http.Reader
import ImageIntake.Text.LetterCase
import ImageIntake.Url.Join

namespace ImageIntake.Http

open ImageIntake.Cancellation

/-! ## Responses -/

/-- A response whose body has not been read yet. -/
structure Response where
  status : Int
  headers : List (String × String)
  body : Body

namespace Response

/-- The value of a header, letter case ignored; the values of a repeated one stand behind one
another. -/
def header? (r : Response) (name : String) : Option String :=
  let values := (r.headers.filter fun h => Text.asciiLower h.1 = Text.asciiLower name).map (·.2)
  if values.isEmpty then none else some (String.intercalate ", " values)

/-- The statuses that send a request elsewhere. -/
def redirectStatuses : List Int := [301, 302, 303, 307, 308]

/-- Where a response sends the request, if it does. -/
def location? (r : Response) : Option String :=
  if redirectStatuses.contains r.status then r.header? "Location" else none

end Response

/-! ## Requests -/

/-- A request that was sent. -/
structure Request where
  url : Url
  authorization : Option String
deriving DecidableEq, Repr

/-- How a server answers a request. -/
inductive Reply where
  | response (r : Response)
  | failure (f : Failure)

/-- The line to the servers: the replies to come, the requests sent, and how many bodies that
nobody reads any more were closed. -/
structure Line where
  replies : List Reply
  requests : List Request := []
  closes : Nat := 0

/-- The failure of a request that nobody answers. -/
def unanswered : Failure := .outside (.other "RuntimeError" "no response scripted")

namespace Line

/-- Sends a request. -/
def send (line : Line) (request : Request) : Except Failure Response × Line :=
  let line := { line with requests := line.requests ++ [request] }
  match line.replies with
  | [] => (.error unanswered, line)
  | .failure f :: rest => (.error f, { line with replies := rest })
  | .response r :: rest => (.ok r, { line with replies := rest })

/-- Counts the closings of a body that is given up. -/
def giveUp (line : Line) (body : Body) : Line :=
  { line with closes := line.closes + body.closes }

end Line

/-! ## Places and schemes -/

/-- The failure of a locator that cannot be read. -/
def badUrl {α : Type} (outcome : Except Url.Defect α) : Except Failure α :=
  outcome.mapError fun _ => .outside .invalidUrl

/-- The host of a locator in Unicode. -/
def readableHost (url : Url) : Except Failure String :=
  url.unicodeHost.mapError fun fault => .outside (.library fault.name)

/-- The refusal of a text that is to be ASCII, over the first run of other characters in it. -/
def asciiFault? (cs : List Char) : Option Fault :=
  let isAscii (c : Char) : Bool := c.toNat < 0x80
  let start := (cs.takeWhile isAscii).length
  let told (subject : String) : Fault := .other "UnicodeEncodeError"
    ("'ascii' codec can't encode " ++ subject ++ ": ordinal not in range(128)")
  match (cs.drop start).takeWhile (!isAscii ·) with
  | [] => none
  | [c] => some (told ("character '" ++ String.ofList (Text.escapeCode c.toNat) ++ "' in position " ++
      toString start))
  | run => some (told ("characters in position " ++ toString start ++ "-" ++
      toString (start + run.length - 1)))

/-- Checks that the place of a locator can be named in a request. -/
def namesPlace (url : Url) : Except Failure Unit :=
  match asciiFault? url.place.toList with
  | some fault => .error (.outside fault)
  | none => .ok ()

/-- A text before its last number sign, and whether nothing follows that sign. -/
def beforeFragment (cs : List Char) : List Char × Bool :=
  let tail := (cs.reverse.takeWhile (· ≠ '#')).reverse
  if tail.length = cs.length then (cs, false)
  else (cs.take (cs.length - tail.length - 1), tail.isEmpty)

/-- Whether a text starts with a name and a colon, no slash before it. -/
def namesScheme (cs : List Char) : Bool :=
  match cs.span fun c => c ≠ ':' && c ≠ '/' with
  | (_ :: _, ':' :: _) => true
  | _ => false

/-- Checks that a response comes from a locator with a scheme. -/
def takesFrom (url : Url) : Except Failure Unit :=
  let cs := url.print.toList
  let (body, bare) := beforeFragment cs
  if namesScheme body then .ok ()
  else .error (.outside (.value
    ("unknown url type: " ++ Text.quoted (String.ofList (if bare then body else cs)))))

/-! ## Bodies of redirects -/

/-- Closes a body after a failure; a failure to close takes the place of the first. -/
def closeAfter (f : Failure) (body : Body) : Failure × Body :=
  match body.close with
  | (.error g, body) => (g, body)
  | (.ok (), body) => (f, body)

/-- Reads the pieces of a body to their end and closes it.  The token may be cancelled on the way;
it has no reader to release yet. -/
def finish (token : Token Hold) (body : Body) : List Piece → Except Failure Unit × Token Hold × Body
  | [] =>
    let (outcome, body) := body.close
    (outcome, token, body)
  | .data _ :: rest => finish token body rest
  | .cancel :: rest => finish token.cancel.1 body rest
  | .failure f :: _ =>
    let (f, body) := closeAfter f body
    (.error f, token, body)

/-! ## Redirects -/

/-- The failure of a redirect that leads nowhere. -/
def badLocation : Failure :=
  .outside (.transport "RemoteProtocolError" "Invalid URL in location header")

/-- The locator a redirect leads to: a missing host is that of the request, a relative locator is
resolved against it, and its fragment goes on unless there is a new one. -/
def redirectTarget (base : Url) (location : String) : Except Failure Url := do
  let url ← (Url.parse location).mapError fun _ => badLocation
  let url ←
    if url.scheme ≠ "" then
      if (← readableHost url) = "" then badUrl (url.withHost (← readableHost base)) else .ok url
    else .ok url
  let url ← if url.isRelative then badUrl (base.join url) else .ok url
  if base.plainFragment ≠ "" ∧ url.plainFragment = "" then
    badUrl (url.withFragment base.plainFragment)
  else .ok url

/-- Whether two locators have one origin: scheme, host and port. -/
def sameOrigin (base url : Url) : Except Failure Bool := do
  if url.scheme = base.scheme then
    let same := (← readableHost url) = (← readableHost base)
    return same && url.effectivePort = base.effectivePort
  else return false

/-- Whether one locator is the other with nothing but encryption added, on the usual ports. -/
def addsEncryption (base url : Url) : Except Failure Bool := do
  let same := (← readableHost base) = (← readableHost url)
  return same && base.scheme = "http" && base.effectivePort = some 80 &&
    url.scheme = "https" && url.effectivePort = some 443

/-- The request a redirect leads to.  It keeps the credentials where it stays at the origin or only
adds encryption; away from the origin it names its place anew. -/
def redirected (request : Request) (location : String) : Except Failure Request := do
  let url ← redirectTarget request.url location
  if ← sameOrigin request.url url then return { request with url }
  else
    let keeps ← addsEncryption request.url url
    namesPlace url
    return { url, authorization := if keeps then request.authorization else none }

/-- The failure of a request that is sent on too often. -/
def tooManyRedirects : Failure :=
  .outside (.transport "TooManyRedirects" "Exceeded maximum allowed redirects.")

/-- The most requests of one exchange. -/
def requestLimit : Nat := 21

/-- Sends a request and follows redirects, with so many requests left. -/
def follow : (left : Nat) → Request → Token Hold → Line → Except Failure Response × Token Hold × Line
  | 0, _, token, line => (.error tooManyRedirects, token, line)
  | left + 1, request, token, line =>
    match line.send request with
    | (.error f, line) => (.error f, token, line)
    | (.ok response, line) =>
      match takesFrom request.url with
      | .error f => (.error f, token, line)
      | .ok () =>
        match response.location? with
        | none => (.ok response, token, line)
        | some location =>
          match redirected request location with
          | .error f =>
            let (f, body) := closeAfter f response.body
            (.error f, token, line.giveUp body)
          | .ok next =>
            -- The body is read to its end before the next request is sent.
            match finish token response.body response.body.pieces with
            | (.error f, token, body) => (.error f, token, line.giveUp body)
            | (.ok (), token, body) => follow left next token (line.giveUp body)

end ImageIntake.Http
