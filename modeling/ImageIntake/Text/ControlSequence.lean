/-
  ImageIntake.Text.ControlSequence

  Terminal control sequences: an escape and a bracket, parameters, and a letter.
  What is said to anything but a terminal is said without them.
-/

namespace ImageIntake.Text.ControlSequence

/-! ## What a sequence consists of -/

/-- What begins a sequence. -/
def escape : Char := '\x1b'

/-- Whether a character is part of the parameters of a sequence. -/
def isParameter (c : Char) : Bool := c.isDigit || c = ';' || c = '?'

/-- What is behind the parameters and the letter of a sequence. -/
def afterParameters? : List Char → Option (List Char)
  | [] => none
  | c :: rest =>
    if c.isAlpha then some rest
    else if isParameter c then afterParameters? rest
    else none

/-- What is behind a sequence that characters begin with. -/
def afterSequence? : List Char → Option (List Char)
  | c :: '[' :: rest => if c = escape then afterParameters? rest else none
  | _ => none

theorem length_afterParameters? {cs behind : List Char} (h : afterParameters? cs = some behind) :
    behind.length < cs.length := by
  induction cs with
  | nil => cases h
  | cons c rest ih =>
    rw [afterParameters?] at h
    split at h
    · cases h
      exact Nat.lt_succ_self _
    · split at h
      · exact Nat.lt_succ_of_lt (ih h)
      · cases h

theorem length_afterSequence? {c : Char} {rest behind : List Char}
    (h : afterSequence? (c :: rest) = some behind) : behind.length < rest.length + 1 := by
  unfold afterSequence? at h
  split at h
  next first params h_cons =>
    obtain ⟨-, rfl⟩ := List.cons.inj h_cons
    split at h
    · have h_length := length_afterParameters? h
      simp only [List.length_cons]
      omega
    · cases h
  · cases h

/-! ## Leaving sequences out -/

/-- Characters without the sequences among them. -/
def strip : List Char → List Char
  | [] => []
  | c :: rest =>
    match _h : afterSequence? (c :: rest) with
    | some behind => strip behind
    | none => c :: strip rest
termination_by cs => cs.length
decreasing_by
  · exact length_afterSequence? _h
  · exact Nat.lt_succ_self rest.length

/-- A text without the control sequences in it. -/
def plain (text : String) : String :=
  String.ofList (strip text.toList)

end ImageIntake.Text.ControlSequence
