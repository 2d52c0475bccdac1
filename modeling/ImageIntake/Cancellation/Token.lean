/-
  ImageIntake.Cancellation.Token

  Cancellation tokens.  A token keeps the releases registered on it until it is
  cancelled for the first time; then it hands them out, in the order of their
  registration, and from then on each new one is handed back at once.

  `Once` is the action a source exposes: it cancels its token on the first call
  and does nothing on later ones.
-/

namespace ImageIntake.Cancellation

/-! ## Tokens -/

/-- A token with the releases that wait for its cancellation. -/
structure Token (α : Type) where
  cancelled : Bool := false
  pending : List α := []
deriving DecidableEq, Repr

namespace Token

variable {α : Type}

/-- A token that nobody has touched. -/
def fresh : Token α := {}

/-- Cancels the token; answers the releases that are to run now, in order. -/
def cancel (token : Token α) : Token α × List α :=
  if token.cancelled then (token, [])
  else ({ cancelled := true, pending := [] }, token.pending)

/-- Registers a release; answers whether it is to run at once instead. -/
def register (token : Token α) (release : α) : Token α × Bool :=
  if token.cancelled then (token, true)
  else ({ token with pending := token.pending ++ [release] }, false)

/-- Takes the earliest registration of a release back. -/
def withdraw [BEq α] (token : Token α) (release : α) : Token α :=
  { token with pending := token.pending.erase release }

/-! ### Laws -/

@[simp] theorem cancelled_cancel (token : Token α) : token.cancel.1.cancelled = true := by
  unfold cancel
  split
  · assumption
  · rfl

end Token

/-! ## Carrying releases out -/

/-- Carries releases out one after the other.  A release that raises an alarm is the last: its failure
is passed on, and those after it are forgotten. -/
def carryOut {α σ ε : Type} (release : α → σ → σ) (alarm : α → σ → Option ε) :
    List α → σ → Except ε Unit × σ
  | [], s => (.ok (), s)
  | held :: rest, s =>
    match alarm held s with
    | some e => (.error e, release held s)
    | none => carryOut release alarm rest (release held s)

/-! ## Cancelling once -/

/-- Whether the single-fire action of a token has been used. -/
structure Once where
  fired : Bool := false
deriving DecidableEq, Repr

/-- Uses the action: on the first call it cancels the token and answers true. -/
def Once.cancel {α : Type} (once : Once) (token : Token α) : (Bool × Once) × Token α × List α :=
  if once.fired then ((false, once), token, [])
  else ((true, ⟨true⟩), token.cancel)

end ImageIntake.Cancellation
