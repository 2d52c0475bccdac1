/-
  ImageIntake.Proofs.Http.Guarded

  What a reader under a token is like over time.  A body counts as closed once or not at
  all, a closed reader has closed its body, and a cancelled token has closed the reader
  it guards (`Guarded.Sound`).  Reading, closing and cancelling leave that as it is, and
  undo no closing and no cancellation (`Guarded.Later`).
-/

import ImageIntake.Http.Reader

namespace ImageIntake.Http

open ImageIntake.Cancellation

/-! ## Bodies -/

namespace Body

/-- Whether the closings of a body were counted: there was one if it is closed. -/
def Counted (b : Body) : Prop := b.closes = if b.closed then 1 else 0

/-- A body as it may be later. -/
structure Later (a b : Body) : Prop where
  counted : a.Counted → b.Counted
  closed : a.closed = true → b.closed = true

theorem Later.refl (b : Body) : b.Later b := ⟨id, id⟩

theorem closed_close (b : Body) : b.close.2.closed = true := by
  unfold close
  split
  · assumption
  · dsimp only
    split <;> rfl

theorem later_close (b : Body) : b.Later b.close.2 := by
  refine ⟨fun h_counted => ?_, fun _ => b.closed_close⟩
  unfold close
  split
  · exact h_counted
  · rename_i h_open
    have h_none : b.closes = 0 := by
      rw [h_counted, if_neg h_open]
    unfold Counted
    cases h_failure : b.closeFailure <;> simp [h_none]

end Body

/-! ## Readers -/

namespace Reader

/-- A reader whose body counts its closings, and is closed if the reader is. -/
structure Sound (r : Reader) : Prop where
  counted : r.body.Counted
  closed : r.closed = true → r.body.closed = true

/-- A reader as it may be later. -/
structure Later (a b : Reader) : Prop where
  sound : a.Sound → b.Sound
  closed : a.closed = true → b.closed = true

theorem Later.refl (r : Reader) : r.Later r := ⟨id, id⟩

theorem Later.trans {a b c : Reader} (h₁ : a.Later b) (h₂ : b.Later c) : a.Later c :=
  ⟨h₂.sound ∘ h₁.sound, h₂.closed ∘ h₁.closed⟩

theorem later_of_body {a b : Reader} (h_body : a.body.Later b.body) (h_closed : b.closed = a.closed) :
    a.Later b := by
  constructor
  · rintro ⟨h_counted, h_shut⟩
    refine ⟨h_body.counted h_counted, fun h => h_body.closed (h_shut ?_)⟩
    rw [← h_closed, h]
  · rw [h_closed]
    exact id

theorem closed_close (r : Reader) : r.close.2.closed = true := by
  unfold close
  split
  · assumption
  · split <;> rfl

theorem later_close (r : Reader) : r.Later r.close.2 := by
  have h_body := r.body.later_close
  have h_shut := r.body.closed_close
  refine ⟨fun h_sound => ?_, fun _ => r.closed_close⟩
  unfold close
  split
  · exact h_sound
  · split
    all_goals
      rename_i h_after
      rw [h_after] at h_body h_shut
      exact ⟨h_body.counted h_sound.counted, fun _ => h_shut⟩

/-- The body of a sound reader was closed at most once. -/
theorem Sound.closes_le {r : Reader} (h : r.Sound) : r.body.closes ≤ 1 := by
  rw [h.counted]
  split <;> decide

theorem Sound.closes_of_closed {r : Reader} (h : r.Sound) (h_closed : r.closed = true) :
    r.body.closes = 1 := by
  rw [h.counted, if_pos (h.closed h_closed)]

end Reader

/-! ## Readers under a token -/

namespace Guarded

/-- A sound reader under a token: it waits there, and is closed once the token is cancelled. -/
structure Sound (g : Guarded) : Prop where
  reader : g.reader.Sound
  waits : g.token.cancelled = false → .reader ∈ g.token.pending
  cancelled : g.token.cancelled = true → g.reader.closed = true

/-- A reader under a token as both may be later. -/
structure Later (a b : Guarded) : Prop where
  sound : a.Sound → b.Sound
  closed : a.reader.closed = true → b.reader.closed = true
  cancelled : a.token.cancelled = true → b.token.cancelled = true

theorem Later.refl (g : Guarded) : g.Later g := ⟨id, id, id⟩

theorem Later.trans {a b c : Guarded} (h₁ : a.Later b) (h₂ : b.Later c) : a.Later c :=
  ⟨h₂.sound ∘ h₁.sound, h₂.closed ∘ h₁.closed, h₂.cancelled ∘ h₁.cancelled⟩

theorem later_of_reader {g : Guarded} {reader : Reader} (h : g.reader.Later reader) :
    g.Later { g with reader } :=
  ⟨fun ⟨h_reader, h_waits, h_cancelled⟩ =>
    ⟨h.sound h_reader, h_waits, fun h_now => h.closed (h_cancelled h_now)⟩, h.closed, id⟩

theorem later_of_body {g : Guarded} {reader : Reader} (h_body : g.reader.body.Later reader.body)
    (h_closed : reader.closed = g.reader.closed) : g.Later { g with reader } :=
  later_of_reader (Reader.later_of_body h_body h_closed)

/-! ### Cancelling -/

theorem foldl_release (holds : List Hold) (g : Guarded) :
    (holds.foldl release g).token = g.token ∧ g.reader.Later (holds.foldl release g).reader ∧
      (.reader ∈ holds → (holds.foldl release g).reader.closed = true) := by
  induction holds generalizing g with
  | nil => exact ⟨rfl, .refl _, nofun⟩
  | cons hold rest ih =>
    obtain ⟨h_token, h_later, h_closed⟩ := ih (g.release hold)
    cases hold with
    | reader =>
      refine ⟨h_token, g.reader.later_close.trans h_later, fun _ => ?_⟩
      exact h_later.closed g.reader.closed_close
    | process =>
      refine ⟨h_token, h_later, fun h_mem => h_closed ?_⟩
      exact (List.mem_cons.mp h_mem).resolve_left nofun

theorem cancelled_cancel (g : Guarded) : g.cancel.token.cancelled = true := by
  obtain ⟨h_token, -⟩ := foldl_release g.token.cancel.2 { g with token := g.token.cancel.1 }
  unfold cancel
  dsimp only
  rw [h_token]
  exact g.token.cancelled_cancel

theorem later_cancel (g : Guarded) : g.Later g.cancel := by
  obtain ⟨-, h_later, h_released⟩ :=
    foldl_release g.token.cancel.2 { g with token := g.token.cancel.1 }
  have h_closed (h : g.Sound) : g.cancel.reader.closed = true := by
    cases h_token : g.token.cancelled with
    | true => exact h_later.closed (h.cancelled h_token)
    | false =>
      -- The release of the reader is among those that the token hands out.
      have h_out : g.token.cancel.2 = g.token.pending := by
        simp [Token.cancel, h_token]
      apply h_released
      rw [h_out]
      exact h.waits h_token
  refine ⟨fun h => ⟨h_later.sound h.reader, fun h_now => ?_, fun _ => h_closed h⟩, h_later.closed,
    fun _ => g.cancelled_cancel⟩
  rw [g.cancelled_cancel] at h_now
  cases h_now

/-! ### Reading -/

theorem later_ended (g : Guarded) (pieces : List Piece) : g.Later (g.ended pieces) :=
  later_of_body ⟨id, id⟩ rfl

theorem later_await (pieces : List Piece) (g : Guarded) : g.Later (g.await pieces).2 := by
  induction pieces generalizing g with
  | nil =>
    have h_close := (g.ended []).reader.body.later_close
    unfold await
    dsimp only
    split
    all_goals
      rename_i h_after
      rw [h_after] at h_close
      exact (g.later_ended []).trans (later_of_body h_close rfl)
  | cons piece rest ih =>
    cases piece with
    | data bytes =>
      unfold await
      split
      · exact ih g
      · exact later_of_body ⟨id, id⟩ rfl
    | failure f => exact g.later_ended rest
    | cancel => exact g.later_cancel.trans (ih g.cancel)

theorem later_fill (g : Guarded) : g.Later g.fill.2 := by
  have h_await := later_await g.reader.body.pieces g
  unfold fill
  split
  · exact .refl g
  · split
    all_goals
      rename_i h_after
      rw [h_after] at h_await
    · exact h_await.trans (later_of_body (.refl _) rfl)
    · exact h_await

theorem later_read (count : Nat) (g : Guarded) : g.Later (g.read count).2 := by
  have h_fill := g.later_fill
  unfold read
  split
  · exact .refl g
  · split
    all_goals
      rename_i h_after
      rw [h_after] at h_fill
    · exact h_fill
    · exact h_fill.trans (later_of_body (.refl _) rfl)

/-! ### The token of a running process -/

theorem later_register (g : Guarded) :
    g.Later { g with token := (g.token.register .process).1 } := by
  unfold Token.register
  split
  · exact .refl g
  · exact ⟨fun ⟨h_reader, h_waits, h_cancelled⟩ =>
      ⟨h_reader, fun h => List.mem_append_left _ (h_waits h), h_cancelled⟩, id, id⟩

theorem later_withdraw (g : Guarded) : g.Later { g with token := g.token.withdraw .process } := by
  have h_ne : Hold.reader ≠ .process := nofun
  exact ⟨fun ⟨h_reader, h_waits, h_cancelled⟩ =>
    ⟨h_reader, fun h => (List.mem_erase_of_ne h_ne).mpr (h_waits h), h_cancelled⟩, id, id⟩

end Guarded

end ImageIntake.Http
