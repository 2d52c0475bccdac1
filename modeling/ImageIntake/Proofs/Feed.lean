/-
  ImageIntake.Proofs.Feed

  What the stream of a response is like over time.  Whatever is done with it is done with
  its reader under its token (`Holds`), so that it stays sound, and neither a closing nor
  a cancellation is undone (`Later`).  The body of a sound stream was closed at most once,
  exactly once if the stream is closed, and a closed stream is classified no more.
-/

import ImageIntake.Proofs.Format.Division
import ImageIntake.Proofs.Http.Guarded

namespace ImageIntake

open ImageIntake.Cancellation ImageIntake.Format ImageIntake.Http ImageIntake.Stream

/-! ## What classifying leaves of a stream -/

section

variable {σ : Type} [ByteSource σ]

/-- Peeking reads a stream once, or not at all. -/
theorem Stream.Buffered.source_peek (b : Buffered σ) :
    b.peek.2.source = b.source ∨
      b.peek.2.source = (ByteSource.read b.capacity b.source).2 := by
  unfold peek
  split
  · exact .inl rfl
  · split
    · exact .inl rfl
    · rcases ByteSource.read b.capacity b.source with ⟨f | bytes?, source⟩ <;> exact .inr rfl

theorem Format.Stack.reader_ofBuffered (reader : Buffered σ) (hint : Int) :
    (ofBuffered reader hint).2 = reader.peek.2 ∧
      ∀ stack, (ofBuffered reader hint).1 = .ok stack → stack.reader = reader.peek.2 := by
  unfold ofBuffered
  rcases reader.peek with ⟨f | bytes, after⟩
  · exact ⟨rfl, nofun⟩
  · dsimp only
    split
    · exact ⟨rfl, nofun⟩
    · refine ⟨rfl, ?_⟩
      rintro stack ⟨⟩
      rfl

end

namespace Feed

variable {feed a b c : Feed} {g : Guarded}

/-- Classifying looks at the stream once; a buffer may be left in front of it. -/
theorem classify_snd (h_attach : ByteSource.attach feed = .ok ()) (hint : Int) :
    ∃ abandoned, (feed.classify hint).2 =
      { (⟨feed, headerSize, []⟩ : Buffered Feed).peek.2.source with abandoned } := by
  obtain ⟨h_reader, h_stack⟩ :=
    Stack.reader_ofBuffered (⟨feed, headerSize, []⟩ : Buffered Feed) hint
  unfold classify Stack.ofSource Buffered.attach
  rw [h_attach]
  dsimp only [Except.map]
  rcases h_after : Stack.ofBuffered (⟨feed, headerSize, []⟩ : Buffered Feed) hint
    with ⟨f | stack, reader⟩
  all_goals rw [h_after] at h_reader h_stack; dsimp only at h_reader h_stack ⊢
  · rw [h_reader]
    exact ⟨_, rfl⟩
  · rw [h_stack stack rfl]
    exact ⟨_, rfl⟩

/-! ## Cancelling -/

theorem alarm_eq_some {hold : Hold} {f : Failure} (h : feed.alarm hold = some f) :
    feed.close.1 = .error f ∧ f.endsProgram = true := by
  unfold alarm at h
  split at h
  · rename_i g h_close
    split at h
    · cases h
      exact ⟨h_close, ‹_›⟩
    · cases h
  · cases h

/-- A stream that refused to be closed is closed all the same. -/
theorem release_of_refused {f : Failure} (h : feed.close.1 = .error f) (hold : Hold) :
    feed.close.2.release hold = feed.close.2 := by
  cases hold with
  | process => rfl
  | reader =>
    obtain ⟨token, source, abandoned⟩ := feed
    cases source with
    | unopened | memory | script => cases h
    | response r =>
      have h_again : r.close.2.close.2 = r.close.2 := by
        rw [Reader.close, if_pos r.closed_close]
      simp only [release, close, h_again]

/-- Nothing that a failing release keeps from being carried out would have changed the stream. -/
theorem cancel_snd (feed : Feed) :
    feed.cancel.2 = feed.token.cancel.2.foldl (fun feed hold => feed.release hold)
      { feed with token := feed.token.cancel.1 } := by
  have h_idle (feed : Feed) (h : ∀ hold, feed.release hold = feed) (holds : List Hold) :
      holds.foldl (fun feed hold => feed.release hold) feed = feed := by
    induction holds with
    | nil => rfl
    | cons hold rest ih => rw [List.foldl_cons, h, ih]
  have h_carried (holds : List Hold) (feed : Feed) : (carryOut release alarm holds feed).2 =
      holds.foldl (fun feed hold => feed.release hold) feed := by
    induction holds generalizing feed with
    | nil => rfl
    | cons hold rest ih =>
      rw [carryOut]
      split
      · rename_i f h_alarm
        obtain ⟨h_refused, -⟩ := alarm_eq_some h_alarm
        cases hold with
        | process => cases h_alarm
        | reader => exact (h_idle _ (release_of_refused h_refused) rest).symm
      · exact ih _
  exact h_carried _ _

/-- Cancelling fails only by a failure that asks the program to end. -/
theorem endsProgram_of_cancel {f : Failure} (h : feed.cancel.1 = .error f) : f.endsProgram = true := by
  have h_carried (holds : List Hold) (feed : Feed)
      (h : (carryOut release alarm holds feed).1 = .error f) : f.endsProgram = true := by
    induction holds generalizing feed with
    | nil => cases h
    | cons hold rest ih =>
      rw [carryOut] at h
      split at h
      · rename_i g h_alarm
        cases h
        exact (alarm_eq_some h_alarm).2
      · exact ih _ h
  exact h_carried _ _ h

/-! ## Streams that hold a reader -/

/-- Whether the stream is the reader of a response, under its token. -/
structure Holds (feed : Feed) (g : Guarded) : Prop where
  token : feed.token = g.token
  source : feed.source = .response g.reader

namespace Holds

theorem closed (h : feed.Holds g) : feed.closed = g.reader.closed := by
  unfold Feed.closed
  rw [h.source]

theorem bodyCloses (h : feed.Holds g) : feed.bodyCloses = g.reader.body.closes := by
  unfold Feed.bodyCloses
  rw [h.source]

theorem attach (h : feed.Holds g) : ByteSource.attach feed = .ok () := by
  obtain ⟨token, source, abandoned⟩ := feed
  have h_source : source = .response g.reader := h.source
  subst h_source
  rfl

theorem close (h : feed.Holds g) : feed.close.2.Holds { g with reader := g.reader.close.2 } := by
  unfold Feed.close
  rw [h.source]
  exact ⟨h.token, rfl⟩

theorem foldl_release (h : feed.Holds g) (holds : List Hold) :
    (holds.foldl (fun feed hold => feed.release hold) feed).Holds
      (holds.foldl Guarded.release g) := by
  induction holds generalizing feed g with
  | nil => exact h
  | cons hold rest ih =>
    cases hold with
    | reader => exact ih h.close
    | process => exact ih h

theorem cancel (h : feed.Holds g) : feed.cancel.2.Holds g.cancel := by
  have h_cancelled : { feed with token := g.token.cancel.1 }.Holds
      { g with token := g.token.cancel.1 } := ⟨rfl, h.source⟩
  rw [cancel_snd, h.token]
  exact h_cancelled.foldl_release _

theorem read (h : feed.Holds g) (count : Nat) :
    (feed.read count).2.Holds (g.read count).2 := by
  unfold Feed.read
  rw [h.source, h.token]
  exact ⟨rfl, rfl⟩

end Holds

/-! ## Over time -/

/-- A stream that is the sound reader of a response. -/
def Sound (feed : Feed) : Prop := ∃ g, feed.Holds g ∧ g.Sound

/-- A sound stream as it may be later than another: neither less closed nor less cancelled. -/
structure Later (a b : Feed) : Prop where
  sound : b.Sound
  closed : a.closed = true → b.closed = true
  cancelled : a.token.cancelled = true → b.token.cancelled = true

theorem Later.trans (h₁ : a.Later b) (h₂ : b.Later c) : a.Later c :=
  ⟨h₂.sound, h₂.closed ∘ h₁.closed, h₂.cancelled ∘ h₁.cancelled⟩

theorem later_of_holds {g' : Guarded} (h_a : a.Holds g) (h_sound : g.Sound) (h_b : b.Holds g')
    (h_later : g.Later g') : a.Later b := by
  refine ⟨⟨g', h_b, h_later.sound h_sound⟩, ?_, ?_⟩
  · rw [h_a.closed, h_b.closed]
    exact h_later.closed
  · rw [h_a.token, h_b.token]
    exact h_later.cancelled

namespace Sound

variable (h : feed.Sound)
include h

theorem later_refl : feed.Later feed := ⟨h, id, id⟩

theorem bodyCloses_le : feed.bodyCloses ≤ 1 := by
  obtain ⟨g, h_holds, h_sound⟩ := h
  rw [h_holds.bodyCloses]
  exact h_sound.reader.closes_le

theorem bodyCloses_of_closed (h_closed : feed.closed = true) : feed.bodyCloses = 1 := by
  obtain ⟨g, h_holds, h_sound⟩ := h
  rw [h_holds.closed] at h_closed
  rw [h_holds.bodyCloses]
  exact h_sound.reader.closes_of_closed h_closed

theorem closed_of_cancelled (h_cancelled : feed.token.cancelled = true) : feed.closed = true := by
  obtain ⟨g, h_holds, h_sound⟩ := h
  rw [h_holds.token] at h_cancelled
  rw [h_holds.closed]
  exact h_sound.cancelled h_cancelled

theorem attach : ByteSource.attach feed = .ok () := by
  obtain ⟨g, h_holds, -⟩ := h
  exact h_holds.attach

/-! ### Closing and cancelling -/

theorem later_close : feed.Later feed.close.2 := by
  obtain ⟨g, h_holds, h_sound⟩ := h
  exact later_of_holds h_holds h_sound h_holds.close (Guarded.later_of_reader g.reader.later_close)

theorem closed_close : feed.close.2.closed = true := by
  obtain ⟨g, h_holds, -⟩ := h
  rw [h_holds.close.closed]
  exact g.reader.closed_close

theorem later_cancel : feed.Later feed.cancel.2 := by
  obtain ⟨g, h_holds, h_sound⟩ := h
  exact later_of_holds h_holds h_sound h_holds.cancel g.later_cancel

theorem cancelled_cancel : feed.cancel.2.token.cancelled = true := by
  obtain ⟨g, h_holds, -⟩ := h
  rw [h_holds.cancel.token]
  exact g.cancelled_cancel

theorem later_settle : feed.Later feed.settle := by
  unfold settle
  split
  · obtain ⟨g, h_holds, h_sound⟩ := h
    have h_close := h_holds.close
    exact later_of_holds h_holds h_sound ⟨h_close.token, h_close.source⟩
      (Guarded.later_of_reader g.reader.later_close)
  · exact h.later_refl

/-! ### Classifying -/

theorem later_classify (hint : Int) : feed.Later (feed.classify hint).2 := by
  obtain ⟨abandoned, h_after⟩ := classify_snd h.attach hint
  obtain ⟨g, h_holds, h_sound⟩ := h
  rw [h_after]
  rcases (⟨feed, headerSize, []⟩ : Buffered Feed).source_peek with h_source | h_source
  all_goals rw [h_source]
  · exact later_of_holds h_holds h_sound ⟨h_holds.token, h_holds.source⟩ (.refl g)
  · have h_read := h_holds.read headerSize
    exact later_of_holds h_holds h_sound ⟨h_read.token, h_read.source⟩ (g.later_read headerSize)

theorem classify_of_closed (h_closed : feed.closed = true) (hint : Int) :
    (feed.classify hint).1 = .error (.outside .peekOfClosed) := by
  have h_peek : (⟨feed, headerSize, []⟩ : Buffered Feed).peek.1 =
      .error (.outside .peekOfClosed) := by
    have h_exhausted : (⟨feed, headerSize, []⟩ : Buffered Feed).exhausted = true := by
      unfold Buffered.exhausted
      exact Bool.and_eq_true_iff.mpr ⟨h_closed, rfl⟩
    unfold Buffered.peek
    rw [if_pos h_exhausted]
  have h_shown := Stack.shown_ofSource h.attach hint
  rw [h_peek] at h_shown
  refine Eq.trans ?_ h_shown
  unfold classify
  cases Stack.ofSource feed hint <;> rfl

/-! ### The token of a running process -/

theorem later_register :
    feed.Later { feed with token := (feed.token.register .process).1 } := by
  obtain ⟨g, h_holds, h_sound⟩ := h
  have h_after : { feed with token := (feed.token.register .process).1 }.Holds
      { g with token := (g.token.register .process).1 } := by
    rw [h_holds.token]
    exact ⟨rfl, h_holds.source⟩
  exact later_of_holds h_holds h_sound h_after g.later_register

theorem later_withdraw : feed.Later { feed with token := feed.token.withdraw .process } := by
  obtain ⟨g, h_holds, h_sound⟩ := h
  have h_after : { feed with token := feed.token.withdraw .process }.Holds
      { g with token := g.token.withdraw .process } := by
    rw [h_holds.token]
    exact ⟨rfl, h_holds.source⟩
  exact later_of_holds h_holds h_sound h_after g.later_withdraw

end Sound

end Feed

end ImageIntake
