/-
  ImageIntake.Files.Access

  What the library does with files: looking at them, listing a directory,
  reading, writing, making directories, and taking entries away.  Each operation
  is refused in the operating system's words, with the path as it was given.  An
  entry is made, moved or taken away only where its directory may be written to.
-/

import ImageIntake.Files.Tree

namespace ImageIntake.Files

namespace Tree

/-! ## Looking -/

/-- What a path leads to. -/
def look (tree : Tree) (path : String) : Except Fault Node :=
  match tree.resolve true path with
  | .error fault => .error fault
  | .ok (.taken _ node) => .ok node
  | .ok (.free _) => .error (Refusal.absent.fault path)

/-- Whether a path leads to a regular file or to nothing at all; a path that cannot be followed
is a fault. -/
def isFileOrAbsent (tree : Tree) (path : String) : Except Fault Bool :=
  match tree.look path with
  | .ok node => .ok node.isFile
  | .error fault => if fault.name = "FileNotFoundError" then .ok true else .error fault

/-- Whether a path leads to a regular file. -/
def isFile (tree : Tree) (path : String) : Bool :=
  match tree.look path with
  | .ok node => node.isFile
  | .error _ => false

/-- The names in a directory. -/
def list (tree : Tree) (path : String) : Except Fault (List String) :=
  match tree.resolve true path with
  | .error fault => .error fault
  | .ok (.free _) => .error (Refusal.absent.fault path)
  | .ok (.taken place node) =>
    if node.isDirectory then
      match tree.refusal? place .reading with
      | some r => .error (r.fault path)
      | none => .ok ((tree.namesIn place).map String.ofList)
    else .error (Refusal.notDirectory.fault path)

/-- The content of a file. -/
def read (tree : Tree) (path : String) : Except Fault Bytes :=
  match tree.resolve true path with
  | .error fault => .error fault
  | .ok (.free _) => .error (Refusal.absent.fault path)
  | .ok (.taken place node) =>
    match tree.refusal? place .reading, node with
    | some r, _ => .error (r.fault path)
    | none, .file content _ => .ok content
    | none, .directory _ => .error (Refusal.isDirectory.fault path)
    | none, _ => .ok []

/-- The entries below the working directory with their paths, in the order of these. -/
def listing (tree : Tree) : List (String × Node) :=
  let below := tree.entries.filterMap fun (place, node) =>
    if tree.home.isPrefixOf place && place != tree.home then
      some ((Path.mk .here (place.drop tree.home.length)).print, node)
    else none
  below.mergeSort fun a b => !decide (b.1 < a.1)

/-! ## Taking away -/

/-- Takes the entry away that a path names, which may be a link; an absent one is no fault. -/
def unlink (tree : Tree) (path : String) : Except Fault Tree :=
  match tree.resolve false path with
  | .error fault => if fault.name = "FileNotFoundError" then .ok tree else .error fault
  | .ok (.free _) => .ok tree
  | .ok (.taken place node) =>
    match tree.refusal? place.dropLast .writing with
    | some r => .error (r.fault path)
    | none =>
      if node.isDirectory then .error (Refusal.isDirectory.fault path) else .ok (tree.remove place)

/-! ## Writing -/

/-- Opens what a path leads to for writing: something that is no directory, or a free place. -/
def openToWrite (tree : Tree) (path : String) : Except Fault Target :=
  match tree.resolve true path with
  | .error fault => .error fault
  | .ok (.free place) =>
    match tree.refusal? place.dropLast .writing with
    | some r => .error (r.fault path)
    | none => .ok (.free place)
  | .ok (.taken place node) =>
    if node.isDirectory then .error (Refusal.isDirectory.fault path)
    else match tree.refusal? place .writing with
      | some r => .error (r.fault path)
      | none => .ok (.taken place node)

/-- Writes a file anew or at its end, and makes it where there is none. -/
def write (tree : Tree) (path : String) (change : Bytes → Bytes) : Except Fault Tree :=
  match tree.openToWrite path with
  | .error fault => .error fault
  | .ok (.free place) => .ok (tree.put place (.file (change []) .fresh))
  | .ok (.taken place (.file content _)) => .ok (tree.putAll place (.file (change content) .fresh))
  | .ok (.taken _ _) => .ok tree

/-- Gives a file that is open for writing other bytes. -/
def fill (tree : Tree) (path : String) (bytes : Bytes) : Tree :=
  match tree.resolve true path with
  | .ok (.taken place (.file ..)) => tree.putAll place (.file bytes .fresh)
  | _ => tree

/-- Puts bytes at the end of a file. -/
def append (tree : Tree) (path : String) (bytes : Bytes) : Except Fault Tree :=
  tree.write path (· ++ bytes)

/-- Makes an empty file where there is none. -/
def ensureFile (tree : Tree) (path : String) : Except Fault Tree :=
  match tree.openToWrite path with
  | .error fault => .error fault
  | .ok (.free place) => .ok (tree.put place (.file [] .fresh))
  | .ok (.taken _ _) => .ok tree

/-- Moves an entry; what stands at its new place is replaced, unless both are names of one file. -/
def rename (tree : Tree) (source target : String) : Except Fault Tree :=
  match tree.resolve false source, tree.resolve false target with
  | .error fault, _ => .error fault
  | _, .error fault => .error fault
  | .ok (.free _), _ => .error (Refusal.absent.fault source)
  | .ok (.taken place node), .ok found =>
    let next := match found with
      | .free next => next
      | .taken next _ => next
    match (tree.refusal? place.dropLast .writing).or (tree.refusal? next.dropLast .writing), found with
    | some r, _ => .error (r.fault source)
    | none, .free next => .ok (tree.move place next node)
    | none, .taken next there =>
      if there.isDirectory then .error (Refusal.isDirectory.fault source)
      else if next = place ∨ next ∈ tree.twins place then .ok tree
      else .ok (tree.move place next node)

/-! ## Making directories -/

/-- Makes one directory. -/
def makeDirectory (tree : Tree) (path : String) : Except Fault Tree :=
  match tree.resolve false path with
  | .error fault => .error fault
  | .ok (.taken ..) => .error (Refusal.present.fault path)
  | .ok (.free place) =>
    match tree.refusal? place.dropLast .writing with
    | some r => .error (r.fault path)
    | none => .ok (tree.put place (.directory .fresh))

/-- Whether a path leads to a directory. -/
def isDirectory (tree : Tree) (path : String) : Bool :=
  match tree.look path with
  | .ok node => node.isDirectory
  | .error _ => false

/-- Makes a directory where there is none yet. -/
def ensureDirectory (tree : Tree) (path : String) : Except Fault Tree :=
  match tree.makeDirectory path with
  | .ok tree => .ok tree
  | .error fault => if tree.isDirectory path then .ok tree else .error fault

/-- Makes a directory and, where they are missing, those above it.  The names are given from the
innermost outwards. -/
def ensureAll (tree : Tree) (start : Start) : List Name → Except Fault Tree
  | [] => tree.ensureDirectory (Path.mk start []).print
  | name :: above =>
    let path := (Path.mk start (name :: above).reverse).print
    match tree.ensureDirectory path with
    | .ok tree => .ok tree
    | .error fault =>
      if fault.name = "FileNotFoundError" then
        (tree.ensureAll start above).bind fun tree => tree.ensureDirectory path
      else .error fault

/-- Makes a directory with those above it. -/
def makeDirectories (tree : Tree) (path : Path) : Except Fault Tree :=
  tree.ensureAll path.start path.names.reverse

end Tree

end ImageIntake.Files
