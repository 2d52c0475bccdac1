/-
  ImageIntake.Stream.Buffered

  A buffer in front of a source.  Peeking shows what is buffered, or reads once
  if nothing is; reading takes the buffered bytes first and then whole blocks
  from the source, and keeps what a last short read gave beyond what was asked.
-/

import ImageIntake.Stream.ByteSource

namespace ImageIntake.Stream

variable {σ : Type} [ByteSource σ]

/-- A source with the bytes read ahead of it. -/
structure Buffered (σ : Type) where
  source : σ
  capacity : Nat
  ahead : Bytes := []

namespace Buffered

/-- Puts a buffer in front of a source. -/
def attach (capacity : Nat) (source : σ) : Except Failure (Buffered σ) :=
  (ByteSource.attach source).map fun _ => { source, capacity }

/-- Whether nothing can be had any more: the source is closed and nothing is buffered. -/
def exhausted (b : Buffered σ) : Bool :=
  ByteSource.closed b.source && b.ahead.isEmpty

/-! ## Peeking -/

/-- The bytes that come next, without taking them: what is buffered, or else one read. -/
def peek (b : Buffered σ) : Except Failure Bytes × Buffered σ :=
  if b.exhausted then (.error (.outside .peekOfClosed), b)
  else if !b.ahead.isEmpty then (.ok b.ahead, b)
  else match ByteSource.read b.capacity b.source with
    | (.error f, source) => (.error f, { b with source })
    | (.ok bytes?, source) =>
      let ahead := bytes?.getD []
      (.ok ahead, { b with source, ahead })

/-! ## Reading -/

/-- What a read answers when the source gave no more: nothing yet only if nothing was had. -/
def shortAnswer (atEnd : Bool) (got : Bytes) : Option Bytes :=
  if atEnd || !got.isEmpty then some got else none

/-- Reads whole blocks while more than a block is wanted; answers what was got and how much is
still wanted, or that the source gave no more. -/
def readBlocks (capacity : Nat) : (fuel : Nat) → (wanted : Nat) → Bytes → σ →
    Except Failure (Bytes × Nat × Option Bool) × σ
  | 0, wanted, got, s => (.ok (got, wanted, none), s)
  | fuel + 1, wanted, got, s =>
    let size := capacity * (wanted / capacity)
    if size = 0 then (.ok (got, wanted, none), s)
    else match ByteSource.read size s with
      | (.error f, s) => (.error f, s)
      | (.ok none, s) => (.ok (got, wanted, some false), s)
      | (.ok (some bytes), s) =>
        if bytes.isEmpty then (.ok (got, wanted, some true), s)
        else readBlocks capacity fuel (wanted - bytes.length) (got ++ bytes) s

/-- Fills the buffer until less than a block more is had; `filled` counts what the buffer took in
so far.  What is beyond the wanted bytes stays buffered. -/
def readRest (capacity : Nat) : (fuel : Nat) → (filled wanted : Nat) → Bytes → σ →
    Except Failure (Option Bytes × Bytes) × σ
  | 0, _, _, got, s => (.ok (some got, []), s)
  | fuel + 1, filled, wanted, got, s =>
    if wanted = 0 then (.ok (some got, []), s)
    else match ByteSource.read (capacity - filled) s with
      | (.error f, s) => (.error f, s)
      | (.ok none, s) => (.ok (shortAnswer false got, []), s)
      | (.ok (some bytes), s) =>
        if bytes.isEmpty then (.ok (some got, []), s)
        else if bytes.length < wanted then
          readRest capacity fuel (filled + bytes.length) (wanted - bytes.length) (got ++ bytes) s
        else (.ok (some (got ++ bytes.take wanted), bytes.drop wanted), s)

/-- Reads up to `count` bytes: fewer only at the end of the data or when the source has nothing
yet.  A failure loses what this read had taken. -/
def read (count : Nat) (b : Buffered σ) : ReadResult × Buffered σ :=
  if b.exhausted then (.error (.outside .readOfClosed), b)
  else if count ≤ b.ahead.length then
    (.ok (some (b.ahead.take count)), { b with ahead := b.ahead.drop count })
  else
    match readBlocks b.capacity (ByteSource.bound b.source + 1) (count - b.ahead.length) b.ahead
        b.source with
    | (.error f, source) => (.error f, { b with source, ahead := [] })
    | (.ok (got, _, some atEnd), source) =>
      (.ok (shortAnswer atEnd got), { b with source, ahead := [] })
    | (.ok (got, wanted, none), source) =>
      match readRest b.capacity (ByteSource.bound source + 1) 0 wanted got source with
      | (.error f, source) => (.error f, { b with source, ahead := [] })
      | (.ok (answer, ahead), source) => (.ok answer, { b with source, ahead })

/-- Reads to the end of the data. -/
def readToEnd (b : Buffered σ) : ReadResult × Buffered σ :=
  if b.exhausted then (.error (.outside .readOfClosed), b)
  else match readAll b.source with
    | (.error f, source) => (.error f, { b with source, ahead := [] })
    | (.ok rest, source) =>
      let answer := if b.ahead.isEmpty then rest else some (b.ahead ++ rest.getD [])
      (.ok answer, { b with source, ahead := [] })

/-! ## Closing -/

/-- Closes the source, unless it is closed already, and drops what is buffered. -/
def close (b : Buffered σ) : Except Failure Unit × Buffered σ :=
  if ByteSource.closed b.source then (.ok (), b)
  else
    let (outcome, source) := ByteSource.close b.source
    (outcome, { b with source, ahead := [] })

end Buffered

end ImageIntake.Stream
