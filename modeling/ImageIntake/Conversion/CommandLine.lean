/-
  ImageIntake.Conversion.CommandLine

  The argument vector of nbdkit for a request: the curl plugin read-only on a
  private socket, the filters, and `qemu-img convert` run against the exported
  device.  The destination is quoted for the shell that runs the latter.
-/

import ImageIntake.Conversion.Request
import ImageIntake.Text.ShellWords

namespace ImageIntake.Conversion

/-- The name of the certificate to trust inside its directory. -/
def certificateName : String := "tls.crt"

/-- Where nbdkit is found. -/
def defaultNbdkit : String := "/usr/sbin/nbdkit"

/-- Where qemu-img is found. -/
def defaultQemuImg : String := "/usr/bin/qemu-img"

namespace Request

/-- The argument that names the certificate to trust; an empty directory counts as none. -/
def certificateArguments (r : Request) : List String :=
  match r.certDir with
  | some dir => if dir = "" then [] else ["cainfo=" ++ dir ++ "/" ++ certificateName]
  | none => []

/-- The arguments that name the filters. -/
def filterArguments (r : Request) : List String :=
  r.filters.map fun filter => "--filter=" ++ filter.word

/-- The shell command that copies the exported device to the destination. -/
def runCommand (r : Request) (qemuImg : String) : String :=
  qemuImg ++ " convert -p $nbd -t none -O raw " ++ Text.ShellWords.quote r.dest

/-- The argument vector of nbdkit. -/
def arguments (r : Request) (qemuImg : String) : Except Fault (List String) :=
  r.effectiveUrl.map fun url =>
    ["-U", "-", "-r", r.plugin.word, "--verbose"] ++ r.certificateArguments ++ [url.print] ++
      r.filterArguments ++ ["--run", r.runCommand qemuImg]

end Request

end ImageIntake.Conversion
