/-
  ImageIntake.Certificate.Element

  Data as elements, each with an octet that tells its kind, a length and a
  content, which may be elements again; and shapes, which say what elements may
  stand at a place.
-/

import ImageIntake.Text.Utf8

namespace ImageIntake.Certificate

/-! ## Elements -/

/-- An element: the octet that tells its kind, and its content. -/
structure Element where
  kind : UInt8
  content : Bytes
deriving DecidableEq, Repr

/-- Takes a length: one octet below 128, or a count of octets that spell it. -/
def takeLength? : Bytes → Option (Nat × Bytes)
  | [] => none
  | n :: rest =>
    if n < 0x80 then some (n.toNat, rest)
    else
      let width := n.toNat - 0x80
      -- A long form is never at the end of the data.
      if width = 0 ∨ rest.length ≤ width then none
      else some ((rest.take width).foldl (fun acc b => acc * 256 + b.toNat) 0, rest.drop width)

/-- Takes one element. -/
def takeElement? : Bytes → Option (Element × Bytes)
  | [] => none
  | kind :: rest =>
    match takeLength? rest with
    | none => none
    | some (length, body) =>
      -- Kinds of more than one octet are not in use.
      if kind % 32 = 31 ∨ body.length < length then none
      else some (⟨kind, body.take length⟩, body.drop length)

theorem length_takeLength?_le {bs rest : Bytes} {n : Nat} (h : takeLength? bs = some (n, rest)) :
    rest.length ≤ bs.length := by
  cases bs with
  | nil => simp [takeLength?] at h
  | cons b bs =>
    simp only [takeLength?] at h
    split at h
    · obtain ⟨-, rfl⟩ := Prod.mk.inj (Option.some.inj h)
      exact Nat.le_succ _
    · split at h
      · simp at h
      · obtain ⟨-, rfl⟩ := Prod.mk.inj (Option.some.inj h)
        simp only [List.length_drop, List.length_cons]
        omega

theorem length_takeElement?_lt {bs rest : Bytes} {e : Element}
    (h : takeElement? bs = some (e, rest)) : rest.length < bs.length := by
  cases bs with
  | nil => simp [takeElement?] at h
  | cons kind bs =>
    simp only [takeElement?] at h
    split at h
    · simp at h
    · rename_i taken
      split at h
      · simp at h
      · obtain ⟨-, rfl⟩ := Prod.mk.inj (Option.some.inj h)
        have := length_takeLength?_le taken
        simp only [List.length_drop, List.length_cons]
        omega

/-- The elements that data is made of, with nothing left over. -/
def elements? (bs : Bytes) : Option (List Element) :=
  match _h : takeElement? bs with
  | none => if bs.isEmpty then some [] else none
  | some (e, rest) => (elements? rest).map (e :: ·)
termination_by bs.length
decreasing_by exact length_takeElement?_lt (by assumption)

/-! ## Shapes -/

/-- What may stand at a place: elements of some kinds, with conditions on their content. -/
structure Shape where
  kinds : UInt8 → Bool
  fits : Element → Bool

namespace Shape

/-- Whether an element has a shape. -/
def matchesElement (s : Shape) (e : Element) : Bool := s.kinds e.kind && s.fits e

/-- Elements of one kind. -/
def ofKind (kind : UInt8) (fits : Bytes → Bool) : Shape := ⟨(· == kind), fun e => fits e.content⟩

/-- Elements of one kind or of the kind before its compound form. -/
def ofEitherForm (kind : UInt8) (fits : Bytes → Bool) : Shape :=
  ⟨fun k => k == kind || k == kind - 0x20, fun e => fits e.content⟩

/-- The same content under another kind. -/
def tagged (kind : UInt8) (s : Shape) : Shape := ⟨(· == kind), s.fits⟩

/-- The elements one after the other that a compound is to hold: shapes, some of them optional. -/
structure Part where
  shape : Shape
  optional : Bool := false

/-- A part that may be missing. -/
def orNothing (s : Shape) : Part := ⟨s, true⟩

instance : Coe Shape Part := ⟨fun s => ⟨s, false⟩⟩

/-- Whether elements are the parts in their order.  An optional part is missing where another kind
of element stands. -/
def partsFit : List Part → List Element → Bool
  | [], es => es.isEmpty
  | p :: ps, [] => p.optional && partsFit ps []
  | p :: ps, e :: es =>
    if p.shape.kinds e.kind then p.shape.fits e && partsFit ps es
    else p.optional && partsFit ps (e :: es)

/-- Whether a content is elements that pass. -/
def contentFits (pass : List Element → Bool) (content : Bytes) : Bool :=
  ((elements? content).map pass).getD false

/-- A sequence of parts. -/
def sequence (parts : List Part) : Shape := ofKind 0x30 (contentFits (partsFit parts))

/-- A sequence of any number of elements of one shape. -/
def sequenceOf (s : Shape) : Shape := ofEitherForm 0x30 (contentFits (·.all s.matchesElement))

/-- A set of any number of elements of one shape. -/
def setOf (s : Shape) : Shape := ofEitherForm 0x31 (contentFits (·.all s.matchesElement))

/-- One element inside another that numbers it. -/
def numbered (kind : UInt8) (s : Shape) : Shape := ofKind kind (contentFits (partsFit [s]))

/-! ## Simple shapes -/

/-- A truth value. -/
def boolean : Shape := ofKind 0x01 fun c => c.length == 1

/-- Whether octets are a whole number that no fewer of them could be. -/
def isInteger : Bytes → Bool
  | [] => false
  | [_] => true
  | a :: b :: _ => !(a == 0 && b < 0x80) && !(a == 0xFF && 0x80 ≤ b)

/-- A whole number. -/
def integer : Shape := ofKind 0x02 isInteger

/-- Whether octets are bits, of which up to seven at the end are not in use. -/
def isBits : Bytes → Bool
  | [] => false
  | unused :: _ => unused ≤ 7

/-- A string of bits. -/
def bits : Shape := ofKind 0x03 isBits

/-- A string of octets. -/
def octets : Shape := ofKind 0x04 fun _ => true

/-- Whether octets are numbers in base 128, without zeros in front. -/
def isIdentifier (content : Bytes) : Bool :=
  let starts := content.zip (0 :: content) |>.all fun (b, before) => b != 0x80 || 0x80 ≤ before
  starts && (match content.getLast? with
    | some last => last < 0x80
    | none => false)

/-- The identifier of an object. -/
def identifier : Shape := ofKind 0x06 isIdentifier

/-- A text in UTF-8. -/
def unicodeText : Shape := ofKind 0x0C fun c => Text.utf8 (Text.ofUtf8 c) == c

/-- A point in time, in either form. -/
def time : Shape := ⟨fun kind => kind == 0x17 || kind == 0x18, fun _ => true⟩

/-- Any element whose content suits its kind. -/
def anything : Shape where
  kinds _ := true
  fits e :=
    if e.kind = 0x05 then e.content.isEmpty
    else [boolean, integer, bits, identifier].all fun s => !s.kinds e.kind || s.fits e

end Shape

end ImageIntake.Certificate
