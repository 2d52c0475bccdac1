/-
  ImageIntake.Stream.ByteSource

  Where bytes come from.  A source is read in pieces of bounded size; a read may
  give bytes, the end of the data (no bytes), nothing yet, or a failure.  Two
  plain sources stand here: bytes in memory, and a script that answers one item
  per read.
-/

import ImageIntake.Failure
import ImageIntake.Text.Utf8

namespace ImageIntake.Stream

/-! ## The interface -/

/-- The outcome of one read: bytes, none of them at the end of the data, or nothing yet. -/
abbrev ReadResult := Except Failure (Option Bytes)

/-- A source of bytes. -/
class ByteSource (σ : Type) where
  /-- Reads at most so many bytes in one go. -/
  read : Nat → σ → ReadResult × σ
  /-- Closes the source; closing again does nothing. -/
  close : σ → Except Failure Unit × σ
  /-- Whether the source is closed. -/
  closed : σ → Bool
  /-- Whether the source can be read through a buffer at all. -/
  attach : σ → Except Failure Unit
  /-- A bound on the number of reads that can give bytes. -/
  bound : σ → Nat

/-- The size of a piece when a source is read to its end. -/
def pieceSize : Nat := 8192

/-- Reads a source to its end in at most `fuel` pieces, given the bytes so far; a source that has
nothing yet ends the reading. -/
def drain {σ : Type} [ByteSource σ] : (fuel : Nat) → Bytes → σ → ReadResult × σ
  | 0, sofar, s => (.ok (some sofar), s)
  | fuel + 1, sofar, s =>
    match ByteSource.read pieceSize s with
    | (.error f, s) => (.error f, s)
    | (.ok none, s) => (.ok (if sofar.isEmpty then none else some sofar), s)
    | (.ok (some bytes), s) =>
      if bytes.isEmpty then (.ok (some sofar), s) else drain fuel (sofar ++ bytes) s

/-- Reads a source to its end. -/
def readAll {σ : Type} [ByteSource σ] (s : σ) : ReadResult × σ :=
  drain (ByteSource.bound s + 1) [] s

/-! ## Bytes in memory -/

/-- Bytes in memory, from the place that is read next. -/
structure Memory where
  rest : Bytes
  closed : Bool := false
deriving DecidableEq, Repr

namespace Memory

/-- Reads from memory; a closed memory refuses. -/
def read (count : Nat) (m : Memory) : ReadResult × Memory :=
  if m.closed then (.error (.outside .closedFile), m)
  else (.ok (some (m.rest.take count)), { m with rest := m.rest.drop count })

instance : ByteSource Memory where
  read := read
  close m := (.ok (), { m with closed := true })
  closed m := m.closed
  attach m := if m.closed then .error (.outside .closedFile) else .ok ()
  bound m := m.rest.length

end Memory

/-! ## Scripted sources -/

/-- What one read of a scripted source gives. -/
inductive Item where
  | data (bytes : Bytes)
  | nothing
  | failure (f : Failure)

/-- A source that answers one item per read; what is left of an item comes first the next time. -/
structure Scripted where
  items : List Item
  closed : Bool := false

namespace Scripted

/-- Reads the next item, or the end of the data after the last. -/
def read (count : Nat) (s : Scripted) : ReadResult × Scripted :=
  match s.items with
  | [] => (.ok (some []), s)
  | .nothing :: rest => (.ok none, { s with items := rest })
  | .failure f :: rest => (.error f, { s with items := rest })
  | .data bytes :: rest =>
    let left := bytes.drop count
    (.ok (some (bytes.take count)),
      { s with items := if left.isEmpty then rest else .data left :: rest })

/-- The bytes of an item. -/
def bytesOf : Item → Bytes
  | .data bytes => bytes
  | _ => []

instance : ByteSource Scripted where
  read := read
  close s := (.ok (), { s with closed := true })
  closed s := s.closed
  attach _ := .ok ()
  bound s := (s.items.flatMap bytesOf).length

end Scripted

end ImageIntake.Stream
