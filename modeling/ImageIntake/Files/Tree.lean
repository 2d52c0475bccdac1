/-
  ImageIntake.Files.Tree

  Trees of files, directories and symbolic links, and what a path leads to in
  one.  Links are followed up to a limit; every part of a path but the last must
  be a directory.  A file may have several names, and the system may refuse to
  have something read or written.
-/

import ImageIntake.Files.Path
import ImageIntake.Files.Refusal

namespace ImageIntake.Files

/-! ## Trees -/

/-- When an entry was last written: so many seconds, and millionths on top, before the clock's time,
or since. -/
inductive Stamp where
  | aged (seconds : Int) (micros : Nat := 0)
  | fresh
deriving DecidableEq, Repr

/-- What stands at a place. -/
inductive Node where
  | file (content : Bytes) (stamp : Stamp)
  | directory (stamp : Stamp)
  | link (target : String)
  /-- A device; opened, if it can be, it gives nothing and takes everything. -/
  | device (stamp : Stamp)
deriving DecidableEq, Repr

namespace Node

/-- Whether the node is a regular file. -/
def isFile : Node → Bool
  | .file .. => true
  | _ => false

/-- Whether the node is a directory. -/
def isDirectory : Node → Bool
  | .directory _ => true
  | _ => false

/-- When the node was last written. -/
def stamp : Node → Stamp
  | .file _ stamp => stamp
  | .directory stamp => stamp
  | .device stamp => stamp
  | .link _ => .fresh

end Node

/-- A name inside a directory. -/
abbrev Name := List Char

/-- A place: the names that lead to it from the root. -/
abbrev Place := List Name

/-- What the system may refuse to have done with an entry.  To write to a directory is to change
which entries it has. -/
inductive Use where
  | reading
  | writing
deriving DecidableEq, Repr

/-- A tree; the root is a directory that has no entry. -/
structure Tree where
  entries : List (Place × Node) := []
  /-- The working directory. -/
  home : Place := []
  /-- What is refused, where, and why. -/
  refusals : List ((Place × Use) × Refusal) := []
  /-- Marks of places; those with the same mark are names of one file. -/
  marks : List (Place × Nat) := []
  /-- The seconds that the clock of the files is ahead of that of the program. -/
  lead : Int := 0
deriving DecidableEq, Repr

namespace Tree

/-- What stands at a place. -/
def find? (tree : Tree) (place : Place) : Option Node :=
  if place = [] then some (.directory .fresh) else tree.entries.lookup place

/-- Why something may not be done with what stands at a place, if it may not. -/
def refusal? (tree : Tree) (place : Place) (use : Use) : Option Refusal :=
  tree.refusals.lookup (place, use)

/-- The other names of the file at a place. -/
def twins (tree : Tree) (place : Place) : List Place :=
  match tree.marks.lookup place with
  | none => []
  | some mark => (tree.marks.filter fun (other, m) => other ≠ place ∧ m = mark).map (·.1)

/-- Puts something at a place. -/
def put (tree : Tree) (place : Place) (node : Node) : Tree :=
  let others := tree.entries.filter (·.1 ≠ place)
  { tree with entries := others ++ [(place, node)] }

/-- Puts something at a place and at those of the other names of the file there. -/
def putAll (tree : Tree) (place : Place) (node : Node) : Tree :=
  (tree.twins place).foldl (fun tree twin => tree.put twin node) (tree.put place node)

/-- Takes away what stands at a place. -/
def remove (tree : Tree) (place : Place) : Tree :=
  { tree with
    entries := tree.entries.filter (·.1 ≠ place)
    refusals := tree.refusals.filter (·.1.1 ≠ place)
    marks := tree.marks.filter (·.1 ≠ place) }

/-- Moves what stands at a place to another, in the place of what stands there. -/
def move (tree : Tree) (place next : Place) (node : Node) : Tree :=
  let cleared := tree.remove next
  let named (other : Place) : Place := if other = place then next else other
  { (cleared.remove place).put next node with
    refusals := cleared.refusals.map fun ((other, use), r) => ((named other, use), r)
    marks := cleared.marks.map fun (other, mark) => (named other, mark) }

/-- The names of the entries of a directory. -/
def namesIn (tree : Tree) (place : Place) : List Name :=
  tree.entries.filterMap fun entry =>
    if entry.1 ≠ [] ∧ entry.1.dropLast = place then entry.1.getLast? else none

/-! ## Following a path -/

/-- The most links that are followed. -/
def linkLimit : Nat := 40

/-- The most bytes of a name. -/
def nameLimit : Nat := 255

/-- The most bytes of a path. -/
def pathLimit : Nat := 4095

/-- Where a path leads: to something, or to a free place inside a directory. -/
inductive Target where
  | taken (place : Place) (node : Node)
  | free (place : Place)
deriving DecidableEq, Repr

/-- The parts of a path that are walked along; a slash at the end stands for a dot. -/
def steps (path : List Char) : List Name :=
  let parts := path.splitOn '/'
  let named := parts.filter (· ≠ [])
  if parts.getLast? = some [] ∧ named ≠ [] then named ++ [['.']] else named

/-- Where the walk along a path starts. -/
def origin (path : List Char) (at' : Place) : Place :=
  if path.head? = some '/' then [] else at'

/-- Walks from a place along the steps of a path as far as a link, and from there as `onward` says.
`last` tells whether a link at the very end is followed too. -/
def follow (tree : Tree) (last : Bool) (onward : Place → List Name → Except Refusal Target)
    (place : Place) : List Name → Except Refusal Target
  | [] =>
    match tree.find? place with
    | some node => .ok (.taken place node)
    | none => .error .absent
  | step :: rest =>
    match tree.find? place with
    | some (.directory _) =>
      if step = ['.'] then tree.follow last onward place rest
      else if step = ['.', '.'] then tree.follow last onward place.dropLast rest
      -- The length of a name is checked before it is looked up.
      else if (Text.utf8 (String.ofList step)).length > nameLimit then .error .nameTooLong
      else
        let next := place ++ [step]
        match tree.find? next with
        | none => if rest = [] then .ok (.free next) else .error .absent
        | some (.link target) =>
          -- A link in the middle is always followed, from the directory it stands in.
          if rest = [] ∧ last = false then .ok (.taken next (.link target))
          else onward (origin target.toList place) (steps target.toList ++ rest)
        | some _ => tree.follow last onward next rest
    | some _ => .error .notDirectory
    | none => .error .absent

/-- Walks from a place along the steps of a path, with so many links left to be followed. -/
def walk (tree : Tree) (last : Bool) : (links : Nat) → Place → List Name → Except Refusal Target
  | 0 => tree.follow last fun _ _ => .error .tooManyLinks
  | links + 1 => tree.follow last (tree.walk last links)

/-- Where a path leads, links at its end followed or not. -/
def resolve (tree : Tree) (last : Bool) (path : String) : Except Fault Target :=
  let cs := path.toList
  if cs.contains '\x00' then .error .embeddedNul
  else
    let outcome :=
      if path = "" then .error .absent
      else if (Text.utf8 path).length > pathLimit then .error .nameTooLong
      else tree.walk last linkLimit (origin cs tree.home) (steps cs)
    outcome.mapError (·.fault path)

end Tree

end ImageIntake.Files
