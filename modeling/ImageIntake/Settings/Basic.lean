/-
  ImageIntake.Settings.Basic

  The settings of an importer.  Each field has a default and may be given
  directly, by a keyword, or by a variable of the environment; what is given
  directly wins.  The letter case of either name does not matter.  All fields
  that were refused are reported together, in the order of the fields.
-/

import ImageIntake.Conversion.CommandLine
import ImageIntake.Job.Launcher
import ImageIntake.Log.Logbook
import ImageIntake.Settings.Field

namespace ImageIntake

open ImageIntake.Number

/-- The settings. -/
structure Settings where
  /-- The owner of the import, which labels the progress. -/
  ownerUid : String := ""
  nbdkit : String := Conversion.defaultNbdkit
  qemuImg : String := Conversion.defaultQemuImg
  scratchFileName : String := "tmpimage"
  cpuLimit : Option Int := none
  addressSpaceLimit : Option Int := none
  wallLimit : Option Binary64 := none
  connectTimeout : Binary64 := .ofInt 30
  readTimeout : Binary64 := .ofInt 60
  logLevel : String := "INFO"
  logDir : Option String := none
  /-- The size in MiB at which a log file is put aside. -/
  logMaxSize : Binary64 := .ofInt 10
  /-- The days after which log files are put away. -/
  logRetention : Int := 7
  metricsPort : Option Int := none
deriving DecidableEq, Repr

namespace Settings

/-- The limits for the converter. -/
def limits (s : Settings) : Job.Limits := ⟨s.cpuLimit, s.addressSpaceLimit, s.wallLimit⟩

/-- How the log is to be set up. -/
def logPlan (s : Settings) : Log.Logbook.Plan := ⟨s.logLevel, s.logDir, s.logMaxSize, s.logRetention⟩

/-! ## Where values come from -/

/-- The variables of the environment, and the values given directly. -/
structure Given where
  environment : List (String × String) := []
  keywords : List (String × Json) := []

namespace Given

/-- What the names of the variables of most fields begin with. -/
def variableStart : String := "diskimport_"

/-- The value of a variable, letter case ignored; of several the last counts. -/
def envValue? (g : Given) (name : String) : Option Json :=
  ((g.environment.filter fun v => Text.lower v.1 = name).getLast?).map fun v => .text v.2

/-- The value of a keyword: the one spelled as its name, or else the first with another letter
case. -/
def keyword? (g : Given) (name : String) : Option Json :=
  (g.keywords.lookup name).or
    ((g.keywords.find? fun k => Text.lower k.1 = Text.lower name).map (·.2))

/-- The value given for a field: by one of the keywords, or else by one of the variables; the
first name that is there counts. -/
def value? (g : Given) (keywords names : List String) : Option Json :=
  (keywords.findSome? fun name => g.keyword? name).or
    (names.findSome? fun name => g.envValue? name)

/-- The value given for a field with no other names. -/
def plain? (g : Given) (field : String) : Option Json :=
  g.value? [field] [variableStart ++ field]

/-- The value given for the owner, which has names of its own. -/
def owner? (g : Given) : Option Json :=
  g.value? ["OWNER_UID", "DISKIMPORT_OWNER_UID"] ["owner_uid", "diskimport_owner_uid"]

end Given

/-! ## Reading -/

/-- Reads a field from the value given for it, and keeps the default where there is none or it is
refused; a refusal is put on the list. -/
def field {α : Type} (name : String) (value : Option Json) (read : Json → Reading α) (default : α) :
    StateM (List Issue) α :=
  match value.map read with
  | none => pure default
  | some (.ok x) => pure x
  | some (.error rule) => do
    modify (· ++ [⟨name, rule⟩])
    pure default

/-- Reads all fields. -/
def fields (g : Given) : StateM (List Issue) Settings := do
  let plain {α : Type} (name : String) (read : Json → Reading α) (default : α) :=
    field name (g.plain? name) read default
  let base : Settings := {}
  let ownerUid ← field "owner_uid" g.owner? readText base.ownerUid
  let nbdkit ← plain "nbdkit_binary" readText base.nbdkit
  let qemuImg ← plain "qemu_img_binary" readText base.qemuImg
  let scratchFileName ← plain "scratch_file_name" readFullText base.scratchFileName
  let cpuLimit ← plain "cpu_time_limit_sec" (readOptional readPositiveInt) base.cpuLimit
  let addressSpaceLimit ←
    plain "address_space_limit_bytes" (readOptional readPositiveInt) base.addressSpaceLimit
  let wallLimit ← plain "wall_time_limit_sec" (readOptional readPositiveReal) base.wallLimit
  let connectTimeout ← plain "connect_timeout_sec" readPositiveReal base.connectTimeout
  let readTimeout ← plain "read_timeout_sec" readPositiveReal base.readTimeout
  let logLevel ← plain "log_level" readLevel base.logLevel
  let logDir ← plain "log_dir" (readOptional readPath) base.logDir
  let logMaxSize ← plain "log_max_size_mb" readPositiveReal base.logMaxSize
  let logRetention ← plain "log_retention_days" readCount base.logRetention
  let metricsPort ← plain "metrics_port" (readOptional readPort) base.metricsPort
  return {
    ownerUid, nbdkit, qemuImg, scratchFileName, cpuLimit, addressSpaceLimit, wallLimit
    connectTimeout, readTimeout, logLevel, logDir, logMaxSize, logRetention, metricsPort }

/-- Reads the settings. -/
def read (g : Given) : Except Fault Settings :=
  match (fields g).run [] with
  | (settings, []) => .ok settings
  | (_, issues) => .error (.settings issues)

/-! ## Settings that are kept -/

/-- The environment as it is now, and the settings that were read from it first. -/
structure Cache where
  environment : List (String × String) := []
  kept : Option Settings := none

namespace Cache

/-- The settings: those that are kept, or those the environment gives now. -/
def get (c : Cache) : Except Fault Settings × Cache :=
  match c.kept with
  | some settings => (.ok settings, c)
  | none =>
    match read { environment := c.environment } with
    | .ok settings => (.ok settings, { c with kept := some settings })
    | .error fault => (.error fault, c)

/-- Drops the settings that are kept. -/
def invalidate (c : Cache) : Cache := { c with kept := none }

/-- Sets a variable of the environment, or takes it away.  One that is there keeps its place. -/
def setVariable (c : Cache) (name : String) (value : Option String) : Cache :=
  { c with environment := match value with
      | some value =>
        if (c.environment.lookup name).isSome then
          c.environment.map fun v => if v.1 = name then (name, value) else v
        else c.environment ++ [(name, value)]
      | none => c.environment.filter (·.1 ≠ name) }

end Cache

end Settings

end ImageIntake
