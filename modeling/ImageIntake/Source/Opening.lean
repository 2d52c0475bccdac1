/-
  ImageIntake.Source.Opening

  Opening the source of an endpoint: the endpoint is read, its reader is opened
  under a token of its own, and the credentials are put into the locator.  A
  failure of the pipeline on the way cancels the token.
-/

import ImageIntake.Site
import ImageIntake.Source.Basic

namespace ImageIntake

/-- What is to be imported, and with which credentials. -/
structure Order where
  endpoint : String
  accessKey : Option String := none
  secretKey : Option String := none
  certDir : Option String := none
  contentType : ContentType := .kubevirt
  scratchFileName : String := "tmpimage"
  /-- Whether a client is made for this import alone. -/
  ownsClient : Bool := false

namespace Order

/-- The demand for the stream of an order. -/
def demand (order : Order) (url : Url) : Http.Demand where
  url := url
  accessKey := order.accessKey
  secretKey := order.secretKey
  certDir := order.certDir
  ownsClient := order.ownsClient

end Order

namespace Site

/-- Opens the stream of a demand; answers the length reported. -/
def openStream (d : Http.Demand) : Action Site Int :=
  .of fun site =>
    let (outcome, o) :=
      Http.Opening.perform { line := site.line, token := site.feed.token } site.tree d
    let site := { site with line := o.line, feed := { site.feed with token := o.token } }
    let site := site.recordAll o.notes
    match outcome with
    | .ok (reader, length) =>
      (.ok length, { site with feed := { site.feed with source := .response reader } })
    | .error f =>
      if f.isPipeline then
        let (cancelled, feed) := site.feed.cancel
        (cancelled.bind fun _ => .error f, { site with feed })
      else (.error f, site)

/-- What a source needs, done by the site. -/
def collaborators (converter : Conversion.Converter Site) : Collaborators Site where
  record := record
  classify length := do
    let shown ← classify length
    pure ⟨shown.compression.map (·.word)⟩
  closeReaders := closeFeed
  closeStream := closeFeed
  usableSpace := usableSpace
  convert := converter.convert
  cancel := cancel

end Site

namespace Source

/-- Opens the source of an order, whose stream has a token of its own. -/
def ofOrder (order : Order) : Action Site Source := do
  let url ← Action.give (Endpoint.read order.endpoint)
  .change fun site => { site with feed := {} }
  let contentLength ← Site.openStream (order.demand url)
  let endpoint ← Action.give ((url.withKeys order.accessKey order.secretKey).mapError .outside)
  pure (make endpoint contentLength order.contentType order.certDir order.scratchFileName)

/-- Opens the source of an order whose progress is published for an owner. -/
def ofOwnedOrder (order : Order) (owner : String) : Action Site Source := do
  let source ← ofOrder order
  Site.makeReporter owner
  pure source

end Source

end ImageIntake
