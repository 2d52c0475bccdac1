/-
  ImageIntake.Http.Trust

  Additional certificates to trust: those of every file of a directory that
  holds sound ones.  Other files are passed over, with a note.
-/

import ImageIntake.Certificate.Bundle
import ImageIntake.Files.Access
import ImageIntake.Log.Record

namespace ImageIntake.Http

open ImageIntake.Certificate ImageIntake.Files ImageIntake.Log

/-- What a directory of trust gives: its certificates, each once, and notes on the files passed
over. -/
structure Trust where
  certificates : List Bytes := []
  notes : List Record := []

namespace Trust

/-- The note on a file without certificates. -/
def skipped (path : String) : Record :=
  .of .debug "http_reader" "open" "skipping non-certificate file" [textField "file" path]

/-- Adds a certificate, unless it is there. -/
def addCertificate (certificates : List Bytes) (found : Bytes) : List Bytes :=
  if certificates.contains found then certificates else certificates ++ [found]

/-- Adds the certificates of a file. -/
def addFile (trust : Trust) (path : String) (content : Bytes) : Trust :=
  match Bundle.read? content with
  | some bundle =>
    { trust with certificates := bundle.certificates.foldl addCertificate trust.certificates }
  | none => { trust with notes := trust.notes ++ [skipped path] }

/-- The trust that a directory adds; without one nothing is added. -/
def ofDirectory (tree : Tree) (dir : Option String) : Except Fault Trust :=
  match dir with
  | none | some "" => .ok {}
  | some dir => do
    let names ← tree.list (plainPath dir)
    return (names.mergeSort (· ≤ ·)).foldl (fun trust name =>
      let path := pathBelow dir name
      match tree.look path with
      | .ok (.file content _) => trust.addFile path content
      | _ => trust) {}

end Trust

end ImageIntake.Http
