/-
  ImageIntake.Main

  The command line.  It reaches no server and keeps its files in memory, so that
  an import ends with a failed request; showing a command line needs neither.
-/

import ImageIntake.Cli.Outcome

open ImageIntake

/-- The names of the variables that are looked up. -/
def variableNames : List String := [
  "OWNER_UID", "DISKIMPORT_OWNER_UID", "DISKIMPORT_NBDKIT_BINARY", "DISKIMPORT_QEMU_IMG_BINARY",
  "DISKIMPORT_SCRATCH_FILE_NAME", "DISKIMPORT_CPU_TIME_LIMIT_SEC",
  "DISKIMPORT_ADDRESS_SPACE_LIMIT_BYTES", "DISKIMPORT_WALL_TIME_LIMIT_SEC",
  "DISKIMPORT_CONNECT_TIMEOUT_SEC", "DISKIMPORT_READ_TIMEOUT_SEC", "DISKIMPORT_LOG_LEVEL",
  "DISKIMPORT_LOG_DIR", "DISKIMPORT_LOG_MAX_SIZE_MB", "DISKIMPORT_LOG_RETENTION_DAYS",
  "DISKIMPORT_METRICS_PORT", "DISKIMPORT_ACCESS_KEY", "DISKIMPORT_SECRET_KEY"]

/-- The site of a program that is on its own. -/
def isolatedSite : Site where
  tree := {}
  now := ⟨1970, 1, 1, 0, 0, 0, 0⟩
  line := ⟨[.failure (.outside (.transport "ConnectError" "no server can be reached"))], [], 0⟩

def main (args : List String) : IO UInt32 := do
  let environment ← variableNames.filterMapM fun name => do
    return (← IO.getEnv name).map fun value => (name, value)
  let outcome := Cli.perform environment args isolatedSite
  if outcome.usage then IO.print Cli.usageText
  IO.print outcome.output
  IO.eprint outcome.errors
  match outcome.uncaught with
  | some f => IO.eprintln (f.name ++ ": " ++ f.text)
  | none => pure ()
  return outcome.status.toUInt32
