/-
  ImageIntake.Metrics.Server

  Starting the server that shows the metrics.  A port that cannot be used does
  not stop the import.
-/

import ImageIntake.Log.Record

namespace ImageIntake.Metrics

open ImageIntake.Log

/-- The address that stands for every interface. -/
def anyHost : String := "0.0.0.0"

/-- A record of the server. -/
def serverRecord (level : Level) (message : String) : Record :=
  { level, logger := partLogger "metrics", message }

/-- What the start of the server comes to, given how it went: whether it runs, and the record. -/
def startServer (port : Int) (host : String) (failure : Option Failure) :
    Except Failure (Bool × Record) :=
  match failure with
  | none => .ok (true, serverRecord .info
      ("Prometheus metrics server started on http://" ++ host ++ ":" ++ toString port ++ "/metrics"))
  | some f =>
    if f.isSystem then
      .ok (false, serverRecord .error ("Failed to start metrics server: " ++ f.text))
    else .error f

end ImageIntake.Metrics
