/-
  ImageIntake.Format.Magic

  Compressions and image formats, and the magic bytes that tell them.
-/

import ImageIntake.Text.Utf8

namespace ImageIntake.Format

/-! ## Names -/

/-- Compressions that a header can show. -/
inductive Compression where
  | gzip
  | xz
  | zstd
deriving DecidableEq, Repr

/-- The name of a compression. -/
def Compression.word : Compression → String
  | .gzip => "gz"
  | .xz => "xz"
  | .zstd => "zst"

/-- Image formats that a header can show. -/
inductive Image where
  | qcow2
  | vmdk
  | vhdx
  | tar
deriving DecidableEq, Repr

/-- The name of an image format. -/
def Image.word : Image → String
  | .qcow2 => "qcow2"
  | .vmdk => "vmdk"
  | .vhdx => "vhdx"
  | .tar => "tar"

/-! ## Magic bytes -/

/-- Bytes that stand at an offset of everything of one kind. -/
structure Magic (α : Type) where
  kind : α
  offset : Nat
  bytes : Bytes

/-- Whether a header shows the magic. -/
def Magic.shows {α : Type} (m : Magic α) (header : Bytes) : Bool :=
  (header.drop m.offset).take m.bytes.length == m.bytes

/-- The magic of the compressions. -/
def compressionMagic : List (Magic Compression) := [
  ⟨.gzip, 0, [0x1F, 0x8B]⟩,
  ⟨.xz, 0, [0xFD, 0x37, 0x7A, 0x58, 0x5A, 0x00]⟩,
  ⟨.zstd, 0, [0x28, 0xB5, 0x2F, 0xFD]⟩]

/-- The magic of the image formats. -/
def imageMagic : List (Magic Image) := [
  ⟨.qcow2, 0, [0x51, 0x46, 0x49, 0xFB]⟩,
  ⟨.vmdk, 0, [0x4B, 0x44, 0x4D, 0x56]⟩,
  ⟨.vhdx, 0, [0x76, 0x68, 0x64, 0x78, 0x66, 0x69, 0x6C, 0x65]⟩,
  ⟨.tar, 257, [0x75, 0x73, 0x74, 0x61, 0x72]⟩]

/-- The first kind of a table that a header shows. -/
def detect? {α : Type} (table : List (Magic α)) (header : Bytes) : Option α :=
  (table.find? (·.shows header)).map (·.kind)

/-! ## Classification -/

/-- What a header says: an image format is only looked for in a header without compression. -/
structure Class where
  compression : Option Compression
  image : Option Image
deriving DecidableEq, Repr

namespace Class

/-- The class of a header. -/
def ofHeader (header : Bytes) : Class :=
  match detect? compressionMagic header with
  | some compression => ⟨some compression, none⟩
  | none => ⟨none, detect? imageMagic header⟩

/-- Whether the header shows the first of the compressions that can be undone. -/
def xz (c : Class) : Bool := c.compression == some .xz

/-- Whether the header shows the other of them. -/
def gz (c : Class) : Bool := c.compression == some .gzip

/-- Whether the header shows an archive. -/
def archived (c : Class) : Bool := c.image == some .tar

end Class

/-- The number of bytes a header can have. -/
def headerSize : Nat := 512

/-- The number of bytes looked at: a length that is reported and shorter than a header bounds
them. -/
def headerLimit (contentLength : Int) : Nat :=
  if 0 < contentLength ∧ contentLength < headerSize then contentLength.toNat else headerSize

end ImageIntake.Format
