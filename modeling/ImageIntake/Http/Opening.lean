/-
  ImageIntake.Http.Opening

  Opening the reader of an endpoint: the image is asked for with its
  credentials, the answer must have status 200, and the reader is put under the
  token of the import.
-/

import ImageIntake.Endpoint
import ImageIntake.Http.Exchange
import ImageIntake.Http.Trust
import ImageIntake.Number.Whole

namespace ImageIntake.Http

open ImageIntake.Cancellation ImageIntake.Log

/-! ## What is asked for -/

/-- An endpoint with the keys that are to be used for it. -/
structure Demand where
  url : Url
  accessKey : Option String := none
  secretKey : Option String := none
  certDir : Option String := none
  /-- Whether a client is made for this demand alone. -/
  ownsClient : Bool := false

/-- The header that authenticates a user. -/
def basicAuthorization (user password : String) : String :=
  "Basic " ++ Text.base64 (Text.utf8 (user ++ ":" ++ password))

namespace Demand

/-- The keys of a demand, if there are two and neither is empty. -/
def keys? (d : Demand) : Option (String × String) :=
  match d.accessKey, d.secretKey with
  | some access, some secret => if access ≠ "" ∧ secret ≠ "" then some (access, secret) else none
  | _, _ => none

/-- The authorization of the first request: the keys, or else what the locator carries. -/
def authorization? (d : Demand) (target : Url) : Option String :=
  match d.keys? with
  | some (access, secret) => some (basicAuthorization access secret)
  | none =>
    if target.username ≠ "" ∨ target.password ≠ "" then
      some (basicAuthorization target.username target.password)
    else none

end Demand

/-! ## The reported length -/

/-- The length a response reports, 0 where it reports none that can be used. -/
def contentLength (response : Response) : Int :=
  match (response.header? "Content-Length").bind Number.readWhole? with
  | some n => max n 0
  | none => 0

/-! ## Opening -/

/-- What is left after opening a reader: the line, the token, whether the client that was made has
been closed, and the records on the way. -/
structure Opening where
  line : Line
  token : Token Hold
  ownClient : Option Bool := none
  notes : List Record := []

namespace Opening

/-- Closes the client that was made. -/
def closeClient (o : Opening) : Opening :=
  { o with ownClient := o.ownClient.map fun _ => true }

/-- Makes a client with the trust of the demand, where it is to have one of its own. -/
def makeClient (o : Opening) (tree : Files.Tree) (d : Demand) : Except Failure Unit × Opening :=
  if d.ownsClient then
    match Trust.ofDirectory tree d.certDir with
    | .ok trust => (.ok (), { o with ownClient := some false, notes := o.notes ++ trust.notes })
    | .error fault =>
      if fault.isSystem then
        (.error (.pipeline (.transport none)
          ("unable to load trust material from " ++ (d.certDir.map Text.quoted).getD "None")
          (some (.outside fault))), o)
      else (.error (.outside fault), o)
  else (.ok (), o)

/-- How a failed exchange is reported, once the client is closed. -/
def exchangeFailed (d : Demand) (f : Failure) : Failure :=
  match d.url.redacted with
  | .error fault => .outside fault
  | .ok url => .pipeline (.transport none) ("HTTP request to " ++ url ++ " failed") (some f)

/-- The locator the first request goes to; its host must be readable and its place be ASCII. -/
def firstTarget (url : Url) : Except Failure Url := do
  if url.scheme ≠ "" then
    let _ ← readableHost url
  let target ← badUrl url.requestTarget
  namesPlace target
  return target

/-- Sends the request and follows redirects. -/
def exchange (o : Opening) (d : Demand) : Except Failure Response × Opening :=
  match firstTarget d.url with
  | .error f => (.error f, o)
  | .ok target =>
    let (outcome, token, line) := follow requestLimit ⟨target, d.authorization? target⟩ o.token o.line
    let o := { o with token, line }
    match outcome with
    | .ok response => (.ok response, o)
    | .error f => if f.isTransport then (.error (exchangeFailed d f), o.closeClient) else (.error f, o)

/-- How a response with another status is reported. -/
def unexpectedStatus (status : Int) : Failure :=
  .pipeline (.transport (some status)) ("expected status code 200, got " ++ toString status) none

/-- Gives a response up that has another status. -/
def refuse (o : Opening) (response : Response) : Failure × Opening :=
  let (outcome, body) := response.body.close
  let o := { o with line := o.line.giveUp body }
  match outcome with
  | .error f => (f, o)
  | .ok () => (unexpectedStatus response.status, o.closeClient)

/-- The record of an opened reader. -/
def opened (url : String) (length : Int) : Record :=
  .of .info "http_reader" "open" "opened HTTP reader"
    [textField "url" url, intField "content_length" length]

/-- Puts the reader of a response under the token; a token that is cancelled already closes it. -/
def guard (o : Opening) (response : Response) : Except Failure Reader × Opening :=
  let reader : Reader := { body := response.body, ownsClient := o.ownClient.isSome }
  let (token, now) := o.token.register .reader
  let o := { o with token }
  if now then
    let (outcome, reader) := reader.close
    match outcome with
    | .ok () => (.ok reader, o)
    | .error f => (.error f, { o with line := o.line.giveUp reader.body })
  else (.ok reader, o)

/-- Takes a response with status 200 over. -/
def accept (o : Opening) (d : Demand) (response : Response) :
    Except Failure (Reader × Int) × Opening :=
  match d.url.redacted with
  | .error fault => (.error (.outside fault), o)
  | .ok url =>
    let length := contentLength response
    let o := { o with notes := o.notes ++ [opened url length] }
    match o.guard response with
    | (.error f, o) => (.error f, o)
    | (.ok reader, o) => (.ok (reader, length), o)

/-- Opens the reader of a demand; answers it with the length reported. -/
def perform (o : Opening) (tree : Files.Tree) (d : Demand) :
    Except Failure (Reader × Int) × Opening :=
  match o.makeClient tree d with
  | (.error f, o) => (.error f, o)
  | (.ok (), o) =>
    match o.exchange d with
    | (.error f, o) => (.error f, o)
    | (.ok response, o) =>
      if response.status = 200 then o.accept d response
      else
        let (f, o) := o.refuse response
        (.error f, o)

end Opening

end ImageIntake.Http
