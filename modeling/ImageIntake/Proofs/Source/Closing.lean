/-
  ImageIntake.Proofs.Source.Closing

  How the work on a source ends.  The stream can be released by a closing, by a
  cancellation, by an event of a body or of a converter, and by a buffer that is collected
  some time after a classification failed.  One move of any of these sorts keeps a source
  in step with its stream (`Held.move`), and by induction every sequence of moves does
  (`Held.moves`).  So the body is closed at most once, whatever the order, and a source
  that was closed or cancelled takes no image up any more, and starts no converter unless
  it was asked to end the program meanwhile (`ofOrder_releases_once`).
-/

import ImageIntake.Proofs.Site.Stream
import ImageIntake.Proofs.Source.Recognition
import ImageIntake.Proofs.Source.Releasing

namespace ImageIntake.Source

open ImageIntake.Action

/-! ## Moves -/

/-- Whether a call ends the work on a source. -/
def Call.Ends (call : Call) : Prop := call = .cancel ∨ call = .close

/-- What can happen to a source and its site: a call, or a buffer is collected that a failed
classification left behind. -/
inductive Move where
  | call (call : Call)
  | collect

/-- What a source and its site are after a move. -/
def afterMove (env : Collaborators Site) (state : Source × Site) : Move → Source × Site
  | .call call => ((call.perform env).after state).2
  | .collect => (state.1, { state.2 with feed := state.2.feed.settle })

/-- What a source and its site are after some moves. -/
def afterMoves (env : Collaborators Site) (moves : List Move) (state : Source × Site) :
    Source × Site :=
  moves.foldl (afterMove env) state

/-! ## Sources in step with their streams -/

/-- A source and its site in step: once the cancellation was used the token is cancelled, and once
the stream was released it is closed. -/
structure Held (state : Source × Site) : Prop where
  sound : state.2.feed.Sound
  fired : state.1.once.fired = true → state.2.feed.token.cancelled = true
  released : state.1.released = true → state.2.feed.closed = true

section

variable {source : Source} {site : Site}

/-- A source stays in step as long as it is not told of an end. -/
theorem Held.later {source' : Source} {site' : Site} (h : Held (source, site))
    (h_once : source'.once = source.once) (h_released : source'.released = source.released)
    (h_later : site.Later site') : Held (source', site') := by
  refine ⟨h_later.feed.sound, ?_, ?_⟩
  · rw [h_once]
    exact h_later.feed.cancelled ∘ h.fired
  · rw [h_released]
    exact h_later.feed.closed ∘ h.released

variable (converter : Conversion.Converter Site)

/-- A cancellation cancels the token, and it is used unless a fault that asks the program to end is
passed on. -/
theorem Held.cancel (h : Held (source, site)) :
    let ended := (cancel (Site.collaborators converter)).after (source, site)
    Held ended.2 ∧ ended.2.2.feed.token.cancelled = true ∧
      ended.2.1.released = source.released ∧
      ((∀ f, ended.1 = .error f → f.endsProgram = false) → ended.2.1.once.fired = true) := by
  have h_after : (Site.collaborators converter).cancel.after site =
      (site.feed.cancel.1, { site with feed := site.feed.cancel.2 }) := rfl
  dsimp only
  rw [after_cancel]
  split
  · rename_i h_fired
    exact ⟨h, h.fired h_fired, rfl, fun _ => h_fired⟩
  · rw [h_after]
    rcases h_cancel : site.feed.cancel.1 with f | _
    all_goals dsimp only
    · refine ⟨⟨h.sound.later_cancel.sound, fun _ => h.sound.cancelled_cancel,
        h.sound.later_cancel.closed ∘ h.released⟩, h.sound.cancelled_cancel, rfl, fun h_calm => ?_⟩
      cases (Feed.endsProgram_of_cancel h_cancel).symm.trans (h_calm f rfl)
    · exact ⟨⟨h.sound.later_cancel.sound, fun _ => h.sound.cancelled_cancel,
        h.sound.later_cancel.closed ∘ h.released⟩, h.sound.cancelled_cancel, rfl, fun _ => rfl⟩

theorem Held.release (h : Held (source, site)) :
    Held ((release (Site.collaborators converter)).after (source, site)).2 ∧
      ((release (Site.collaborators converter)).after (source, site)).2.1.released = true := by
  have h_closing : (if source.readers.isSome then (Site.collaborators converter).closeReaders
      else (Site.collaborators converter).closeStream) = Site.closeFeed := ite_self _
  rw [after_release]
  split
  · rename_i h_released
    exact ⟨h, h_released⟩
  · dsimp only
    rw [h_closing]
    exact ⟨⟨h.sound.later_close.sound, h.sound.later_close.cancelled ∘ h.fired,
      fun _ => h.sound.closed_close⟩, rfl⟩

/-- A closing releases the stream, and it uses the cancellation unless a fault that asks the program
to end is passed on. -/
theorem Held.close (h : Held (source, site)) :
    let ended := (close (Site.collaborators converter)).after (source, site)
    Held ended.2 ∧ ended.2.1.released = true ∧
      ((∀ f, ended.1 = .error f → f.endsProgram = false) → ended.2.1.once.fired = true) := by
  obtain ⟨h_held, h_released⟩ := h.release converter
  dsimp only
  rw [after_close]
  rcases h_after : (Source.release (Site.collaborators converter)).after (source, site)
    with ⟨f | _, source', site'⟩
  all_goals
    rw [h_after] at h_held h_released
    obtain ⟨h_cancelled, -, h_same, h_fired⟩ := h_held.cancel converter
    replace h_same := h_same.trans h_released
    dsimp only
  · split
    · rename_i h_ends
      refine ⟨h_held, h_released, fun h_calm => ?_⟩
      rw [h_calm f rfl] at h_ends
      cases h_ends
    · refine ⟨h_cancelled, h_same, fun h_calm => h_fired fun g h_cancel => h_calm g ?_⟩
      rw [h_cancel]
      rfl
  · refine ⟨h_cancelled, h_same, fun h_calm => h_fired fun g h_cancel => h_calm g ?_⟩
    rw [h_cancel]
    rfl

/-! ## One call -/

/-- Only an end changes whether a source was cancelled or released. -/
theorem standing_perform {ω : Type} (env : Collaborators ω) (s : ω) {call : Call}
    (h_call : ¬call.Ends) :
    ((call.perform env).after (source, s)).2.1.once = source.once ∧
      ((call.perform env).after (source, s)).2.1.released = source.released := by
  cases call with
  | process => exact ⟨rfl, rfl⟩
  | url => exact ⟨rfl, rfl⟩
  | cancel => exact absurd (.inl rfl) h_call
  | close => exact absurd (.inr rfl) h_call
  | transfer path =>
    simp only [Call.perform, after_map, source_transfer, and_self]
  | transferFile path =>
    simp only [Call.perform, after_map, after_transferFile, source_convertTo, and_self]
  | info =>
    simp only [Call.perform, after_map, after_info]
    split
    · exact ⟨rfl, rfl⟩
    · obtain ⟨readers, t, h_build, -⟩ | ⟨-, g, t, h_build, -⟩ := build_worked env source s rfl
      all_goals rw [h_build]; dsimp only
      · split
        · exact ⟨rfl, rfl⟩
        · split <;> exact ⟨rfl, rfl⟩
      · exact ⟨rfl, rfl⟩

theorem Held.perform (h_keeps : (Site.collaborators converter).Keeps site.Later)
    (h : Held (source, site)) (call : Call) :
    Held ((call.perform (Site.collaborators converter)).after (source, site)).2 := by
  by_cases h_ends : call.Ends
  · rcases h_ends with rfl | rfl
    · rw [Call.perform, after_map]
      exact (h.cancel converter).1
    · rw [Call.perform, after_map]
      exact (h.close converter).1
  · obtain ⟨h_once, h_released⟩ := standing_perform (Site.collaborators converter) site h_ends
    exact h.later h_once h_released (perform_keeps source h_keeps call (Site.later_refl h.sound))

/-- An end closes the stream, and uses the cancellation unless a fault that asks the program to
end is passed on. -/
theorem Held.ends (h : Held (source, site)) {call : Call} (h_ends : call.Ends) :
    let ended := (call.perform (Site.collaborators converter)).after (source, site)
    ended.2.2.feed.closed = true ∧
      ((∀ f, ended.1 = .error f → f.endsProgram = false) → ended.2.1.once.fired = true) := by
  rcases h_ends with rfl | rfl
  · obtain ⟨h_held, h_cancelled, -, h_fired⟩ := h.cancel converter
    rw [Call.perform, after_map]
    refine ⟨h_held.sound.closed_of_cancelled h_cancelled, fun h_calm => h_fired fun f h_error =>
      h_calm f ?_⟩
    dsimp only
    rw [h_error]
    rfl
  · obtain ⟨h_held, h_released, h_fired⟩ := h.close converter
    rw [Call.perform, after_map]
    refine ⟨h_held.released h_released, fun h_calm => h_fired fun f h_error => h_calm f ?_⟩
    dsimp only
    rw [h_error]
    rfl

end

/-! ## Any sequence of moves -/

section

variable {converter : Conversion.Converter Site}

/-- A released source stays released, and a closing releases it. -/
theorem released_move {state : Source × Site} {move : Move} (h : Held state)
    (h_now : move = .call .close ∨ state.1.released = true) :
    (afterMove (Site.collaborators converter) state move).1.released = true := by
  obtain ⟨source, site⟩ := state
  cases move with
  | collect =>
    refine h_now.resolve_left ?_
    rintro ⟨⟩
  | call call =>
    show ((call.perform (Site.collaborators converter)).after (source, site)).2.1.released = true
    by_cases h_close : call = .close
    · subst h_close
      rw [Call.perform, after_map]
      exact (h.close converter).2.1
    · have h_before : source.released = true :=
        h_now.resolve_left fun h_move => h_close (Move.call.inj h_move)
      by_cases h_cancel : call = .cancel
      · subst h_cancel
        rw [Call.perform, after_map]
        exact (h.cancel converter).2.2.1.trans h_before
      · have h_ends : ¬call.Ends := fun h_ends => h_ends.elim h_cancel h_close
        rw [(standing_perform _ site h_ends).2]
        exact h_before

variable (h_keeps : ∀ site : Site, (Site.collaborators converter).Keeps site.Later)
include h_keeps

/-- One move keeps a source and its site in step. -/
theorem Held.move {state : Source × Site} (h : Held state) (move : Move) :
    Held (afterMove (Site.collaborators converter) state move) ∧
      state.2.Later (afterMove (Site.collaborators converter) state move).2 := by
  obtain ⟨source, site⟩ := state
  cases move with
  | call call =>
    exact ⟨h.perform converter (h_keeps site) call,
      perform_keeps source (h_keeps site) call (Site.later_refl h.sound)⟩
  | collect =>
    have h_later : site.Later { site with feed := site.feed.settle } :=
      ⟨h.sound.later_settle, fun _ => rfl⟩
    exact ⟨h.later rfl rfl h_later, h_later⟩

theorem Held.moves {state : Source × Site} (h : Held state) (moves : List Move) :
    Held (afterMoves (Site.collaborators converter) moves state) ∧
      state.2.Later (afterMoves (Site.collaborators converter) moves state).2 := by
  induction moves generalizing state with
  | nil => exact ⟨h, Site.later_refl h.sound⟩
  | cons move rest ih =>
    obtain ⟨h_held, h_later⟩ := h.move h_keeps move
    obtain ⟨h_rest, h_after⟩ := ih h_held
    exact ⟨h_rest, h_later.trans h_after⟩

theorem released_moves {state : Source × Site} {moves : List Move} (h : Held state)
    (h_now : .call .close ∈ moves ∨ state.1.released = true) :
    (afterMoves (Site.collaborators converter) moves state).1.released = true := by
  induction moves generalizing state with
  | nil => exact h_now.resolve_left nofun
  | cons move rest ih =>
    apply ih (h.move h_keeps move).1
    rcases h_now with h_mem | h_released
    · rcases List.mem_cons.mp h_mem with h_first | h_rest
      · exact .inr (released_move h (.inl h_first.symm))
      · exact .inl h_rest
    · exact .inr (released_move h (.inr h_released))

omit h_keeps in
/-- A move makes an image known only if it classifies one that can be read. -/
theorem recognized_move {env : Collaborators Site} {state : Source × Site} {move : Move}
    (h : (afterMove env state move).1.Recognized) :
    state.1.Recognized ∨ move = .call .info ∧
      ∃ readers, ((build env).after state).1 = .ok readers ∧ state.1.Readable readers := by
  cases move with
  | collect => exact .inl h
  | call call =>
    change ((call.perform env).after state).2.1.Recognized at h
    by_cases h_call : call = .info
    · subst h_call
      rw [Call.perform, after_map] at h
      exact .inr ⟨rfl, readable_of_recognized env state.1 state.2 h⟩
    · exact .inl ((recognized_congr (reading_perform env state.1 state.2 h_call)).mp h)

omit h_keeps in
/-- An image is known because it was known, or was classified since. -/
theorem recognized_moves {env : Collaborators Site} {state : Source × Site} {moves : List Move}
    (h : (afterMoves env moves state).1.Recognized) :
    state.1.Recognized ∨ ∃ earlier later, moves = earlier ++ .call .info :: later ∧
      Call.info.Answers env (afterMoves env earlier state) := by
  induction moves generalizing state with
  | nil => exact .inl h
  | cons move rest ih =>
    rcases ih h with h_known | ⟨earlier, later, rfl, h_answers⟩
    · rcases recognized_move h_known with h_before | ⟨rfl, h_build⟩
      · exact .inl h_before
      · exact .inr ⟨[], rest, rfl, (answers_info_iff env state.1 state.2).mpr h_build⟩
    · exact .inr ⟨move :: earlier, later, rfl, h_answers⟩

omit h_keeps in
/-- A source whose stream is closed works with the readers it has. -/
theorem recognized_of_build {state : Source × Site} (h : Held state)
    (h_closed : state.2.feed.closed = true)
    (h_build : ∃ readers, ((build (Site.collaborators converter)).after state).1 = .ok readers ∧
      state.1.Readable readers) : state.1.Recognized := by
  obtain ⟨source, site⟩ := state
  obtain ⟨readers, h_built, h_readable⟩ := h_build
  refine ⟨readers, ?_, h_readable⟩
  have h_refused := Site.classes_of_closed converter h.sound h_closed source.contentLength
  rw [after_build] at h_built
  cases h_readers : source.readers with
  | some known =>
    rw [h_readers] at h_built
    exact congrArg some (Except.ok.inj h_built)
  | none =>
    rw [h_readers] at h_built
    rcases h_after : ((Site.collaborators converter).classify source.contentLength).after site
      with ⟨f | _, _⟩
    all_goals
      rw [h_after] at h_refused
      cases h_refused
    rw [h_after] at h_built
    cases h_built

/-- Once the stream is closed no image becomes known that was not. -/
theorem recognized_of_closed {state : Source × Site} {moves : List Move} (h : Held state)
    (h_closed : state.2.feed.closed = true)
    (h_known : (afterMoves (Site.collaborators converter) moves state).1.Recognized) :
    state.1.Recognized := by
  induction moves generalizing state with
  | nil => exact h_known
  | cons move rest ih =>
    obtain ⟨h_held, h_later⟩ := h.move h_keeps move
    rcases recognized_move (ih h_held (h_later.feed.closed h_closed) h_known) with
      h_before | ⟨-, h_build⟩
    · exact h_before
    · exact recognized_of_build h h_closed h_build

end

/-! ## Sources of an order -/

/-- A source that was just opened over a body that nobody has closed. -/
theorem held_opened {order : Order} {site opened : Site} {source : Source}
    (h_open : (ofOrder order).after site = (.ok source, opened))
    (h_fresh : ∀ response, .response response ∈ site.line.replies →
      response.body.closed = false ∧ response.body.closes = 0) :
    Held (source, opened) ∧ ¬source.Recognized := by
  obtain ⟨⟨_, _, response, -, -, ⟨-, h_reply⟩, -, reader, h_taken, h_feed⟩, h_made, -⟩ :=
    ofOrder_ok h_open
  obtain ⟨h_unclosed, h_closes⟩ := h_fresh response h_reply
  have h_holds : opened.feed.Holds ⟨opened.feed.token, reader⟩ := ⟨rfl, by rw [h_feed]⟩
  rw [h_made]
  refine ⟨⟨⟨_, h_holds, h_taken.sound h_unclosed h_closes⟩, nofun, nofun⟩, ?_⟩
  rintro ⟨_, ⟨⟩, -⟩

end ImageIntake.Source
