/-
  ImageIntake.Proofs.Http.Reading

  What the reads of a reader come to, however many bytes each of them asks for and however
  the body is divided.  While no read fails, the bytes that were handed out and the bytes
  that are still held are together the data of the pieces that have passed, and no failure
  is among these (`Guarded.Passed`); a read leaves that so (`Passed.read`), and gives no
  bytes only when nothing is held and nothing is left (`Passed.read_nil`).  Closing and
  cancelling touch no data (`Reader.SameData`), but every later read is refused
  (`serve_of_stopped`).  A reader that nothing disturbs answers every read
  (`Undisturbed.serve`).
-/

import ImageIntake.Proofs.Http.Guarded

namespace ImageIntake.Http

open ImageIntake.Cancellation ImageIntake.Stream

/-! ## Pieces -/

/-- Whether a piece is a failure. -/
def Piece.isFailure : Piece → Bool
  | .failure _ => true
  | .data _ | .cancel => false

namespace Body

theorem dataOf_append (front back : List Piece) :
    dataOf (front ++ back) = dataOf front ++ dataOf back :=
  List.flatMap_append

theorem dataOf_cons (piece : Piece) (rest : List Piece) :
    dataOf (piece :: rest) = dataOf [piece] ++ dataOf rest :=
  dataOf_append [piece] rest

/-- The data that arrives before anything fails. -/
def soundData (pieces : List Piece) : Bytes := dataOf (pieces.takeWhile (!·.isFailure))

theorem soundData_isPrefix (pieces : List Piece) : soundData pieces <+: dataOf pieces := by
  refine ⟨dataOf (pieces.dropWhile (!·.isFailure)), ?_⟩
  rw [soundData, ← dataOf_append, List.takeWhile_append_dropWhile]

theorem isPrefix_soundData {passed left : List Piece}
    (h : ∀ piece ∈ passed, piece.isFailure = false) :
    dataOf passed <+: soundData (passed ++ left) := by
  have h_sound : ∀ piece ∈ passed, (!piece.isFailure) = true := by
    intro piece h_mem
    rw [h piece h_mem]
    rfl
  rw [soundData, List.takeWhile_append_of_pos h_sound, dataOf_append]
  exact List.prefix_append _ _

end Body

/-! ## Closing and cancelling -/

/-- Readers that hold the same data and wait for the same. -/
structure Reader.SameData (a b : Reader) : Prop where
  buffer : b.buffer = a.buffer
  pieces : b.body.pieces = a.body.pieces
  ended : b.body.ended = a.body.ended
  closeFailure : b.body.closeFailure = a.body.closeFailure

namespace Reader

theorem SameData.refl (r : Reader) : r.SameData r := ⟨rfl, rfl, rfl, rfl⟩

theorem SameData.trans {a b c : Reader} (h₁ : a.SameData b) (h₂ : b.SameData c) : a.SameData c :=
  ⟨h₂.buffer.trans h₁.buffer, h₂.pieces.trans h₁.pieces, h₂.ended.trans h₁.ended,
    h₂.closeFailure.trans h₁.closeFailure⟩

theorem sameData_closeBody (r : Reader) : r.SameData { r with body := r.body.close.2 } := by
  unfold Body.close
  split
  · exact .refl r
  · dsimp only
    split <;> exact ⟨rfl, rfl, rfl, rfl⟩

theorem sameData_close (r : Reader) : r.SameData r.close.2 := by
  have h_body := r.sameData_closeBody
  unfold close
  split
  · exact .refl r
  · split
    all_goals
      rename_i h_after
      rw [h_after] at h_body
      exact ⟨h_body.buffer, h_body.pieces, h_body.ended, h_body.closeFailure⟩

end Reader

namespace Guarded

theorem sameData_cancel (g : Guarded) : g.reader.SameData g.cancel.reader := by
  have h_released (holds : List Hold) (g : Guarded) :
      g.reader.SameData (holds.foldl release g).reader := by
    induction holds generalizing g with
    | nil => exact .refl _
    | cons hold rest ih =>
      have h_rest := ih (g.release hold)
      cases hold with
      | reader => exact g.reader.sameData_close.trans h_rest
      | process => exact h_rest
  exact h_released g.token.cancel.2 { g with token := g.token.cancel.1 }

/-! ## Waiting for data -/

/-- What waiting for data comes to if it does not fail: pieces without a failure pass, and their
data is what arrived.  Nothing arrives only if nothing is left. -/
structure Awaited (g : Guarded) (pieces : List Piece) (bytes : Bytes) (g' : Guarded) : Prop where
  buffer : g'.reader.buffer = g.reader.buffer
  closeFailure : g'.reader.body.closeFailure = g.reader.body.closeFailure
  ended : g'.reader.body.ended = g.reader.body.ended ∨ g'.reader.body.pieces = []
  used_up : bytes = [] → g'.reader.body.pieces = []
  passed : ∃ passed, pieces = passed ++ g'.reader.body.pieces ∧
    (∀ piece ∈ passed, piece.isFailure = false) ∧ Body.dataOf passed = bytes

/-- A piece without data and without a failure passes, too. -/
theorem Awaited.cons {g g₁ g' : Guarded} {piece : Piece} {rest : List Piece} {bytes : Bytes}
    (h : Awaited g₁ rest bytes g') (h_same : g.reader.SameData g₁.reader)
    (h_sound : piece.isFailure = false) (h_empty : Body.dataOf [piece] = []) :
    Awaited g (piece :: rest) bytes g' := by
  obtain ⟨passed, h_rest, h_failures, h_data⟩ := h.passed
  refine ⟨h.buffer.trans h_same.buffer, h.closeFailure.trans h_same.closeFailure, ?_, h.used_up,
    piece :: passed, ?_, ?_, ?_⟩
  · rw [← h_same.ended]
    exact h.ended
  · rw [h_rest, List.cons_append]
  · exact List.forall_mem_cons.mpr ⟨h_sound, h_failures⟩
  · rw [Body.dataOf_cons, h_empty, List.nil_append, h_data]

theorem await_ok {g g' : Guarded} {pieces : List Piece} {bytes : Bytes}
    (h : g.await pieces = (.ok bytes, g')) : Awaited g pieces bytes g' := by
  induction pieces generalizing g with
  | nil =>
    have h_same := (g.ended []).reader.sameData_closeBody
    rw [await] at h
    dsimp only at h
    split at h
    · cases h
    · rename_i h_close
      rw [h_close] at h_same
      cases h
      refine ⟨h_same.buffer, h_same.closeFailure, .inr h_same.pieces, fun _ => h_same.pieces,
        [], ?_, fun _ h_mem => absurd h_mem List.not_mem_nil, rfl⟩
      exact h_same.pieces.symm
  | cons piece rest ih =>
    cases piece with
    | data arrived =>
      rw [await] at h
      split at h
      next h_empty =>
        exact (ih h).cons (.refl _) rfl (by rw [List.isEmpty_iff.mp h_empty]; rfl)
      next h_some =>
        cases h
        refine ⟨rfl, rfl, .inl rfl, ?_, [.data bytes], rfl, ?_, List.append_nil bytes⟩
        · intro h_nil
          rw [h_nil] at h_some
          exact absurd rfl h_some
        · intro piece h_mem
          rw [List.mem_singleton.mp h_mem]
          rfl
    | failure f => cases h
    | cancel => exact (ih h).cons g.sameData_cancel rfl rfl

theorem await_error {g g' : Guarded} {pieces : List Piece} {f : Failure}
    (h : g.await pieces = (.error f, g')) :
    .failure f ∈ pieces ∨ g.reader.body.closeFailure = some f := by
  induction pieces generalizing g with
  | nil =>
    rw [await] at h
    unfold Body.close at h
    split at h
    · rename_i h_after
      split at h_after
      · cases h_after
      · dsimp only at h_after
        cases h_failure : (g.ended []).reader.body.closeFailure with
        | none =>
          rw [h_failure] at h_after
          cases h_after
        | some failure =>
          rw [h_failure] at h_after
          cases h_after
          cases h
          exact .inr h_failure
    · cases h
  | cons piece rest ih =>
    cases piece with
    | data arrived =>
      rw [await] at h
      split at h
      · exact (ih h).imp_left (List.mem_cons_of_mem _)
      · cases h
    | failure failure =>
      cases h
      exact .inl List.mem_cons_self
    | cancel =>
      have h_same := g.sameData_cancel.closeFailure
      rw [await] at h
      have h_rest := ih h
      rw [h_same] at h_rest
      exact h_rest.imp_left (List.mem_cons_of_mem _)

/-! ## Reads -/

/-- A reader in use, none of whose reads has failed: so many bytes were handed out, and so many
pieces of its body have passed. -/
structure Passed (pieces : List Piece) (bytes : Bytes) (g : Guarded) : Prop where
  ended : g.reader.body.ended = true → g.reader.body.pieces = []
  passed : ∃ passed, pieces = passed ++ g.reader.body.pieces ∧
    (∀ piece ∈ passed, piece.isFailure = false) ∧
    Body.dataOf passed = bytes ++ g.reader.buffer

theorem Passed.of_sameData {pieces : List Piece} {bytes : Bytes} {g g' : Guarded}
    (h : Passed pieces bytes g) (h_same : g.reader.SameData g'.reader) :
    Passed pieces bytes g' := by
  obtain ⟨h_buffer, h_pieces, h_ended, -⟩ := h_same
  refine ⟨?_, ?_⟩
  · rw [h_ended, h_pieces]
    exact h.ended
  · rw [h_pieces, h_buffer]
    exact h.passed

/-- What has been handed out was among the data before anything failed. -/
theorem Passed.isPrefix {pieces : List Piece} {bytes : Bytes} {g : Guarded}
    (h : Passed pieces bytes g) : bytes <+: Body.soundData pieces := by
  obtain ⟨passed, rfl, h_failures, h_data⟩ := h.passed
  have h_sound : Body.dataOf passed <+: Body.soundData (passed ++ g.reader.body.pieces) :=
    Body.isPrefix_soundData h_failures
  rw [h_data] at h_sound
  exact (List.prefix_append bytes g.reader.buffer).trans h_sound

/-- Once nothing is held and nothing is left, everything was handed out and nothing has failed. -/
theorem Passed.complete {pieces : List Piece} {bytes : Bytes} {g : Guarded}
    (h : Passed pieces bytes g) (h_buffer : g.reader.buffer = [])
    (h_pieces : g.reader.body.pieces = []) :
    bytes = Body.dataOf pieces ∧ ∀ piece ∈ pieces, piece.isFailure = false := by
  obtain ⟨passed, h_all, h_failures, h_data⟩ := h.passed
  rw [h_pieces, List.append_nil] at h_all
  rw [h_buffer, List.append_nil] at h_data
  rw [h_all]
  exact ⟨h_data.symm, h_failures⟩

theorem Passed.fill {pieces : List Piece} {bytes : Bytes} {g g' : Guarded}
    (h : Passed pieces bytes g) (h_fill : g.fill = (.ok (), g')) :
    Passed pieces bytes g' ∧ (g'.reader.buffer = [] → g'.reader.body.pieces = []) := by
  unfold Guarded.fill at h_fill
  split at h_fill
  next h_ready =>
    cases h_fill
    refine ⟨h, fun h_buffer => h.ended ?_⟩
    rw [h_buffer] at h_ready
    exact h_ready
  next h_waits =>
    rw [Bool.not_eq_true, Bool.or_eq_false_iff, Bool.not_eq_false'] at h_waits
    split at h_fill
    next arrived waited h_await =>
      obtain ⟨-, -, h_ended, h_used_up, next, h_pieces, h_sound, h_data⟩ := await_ok h_await
      obtain ⟨passed, h_all, h_failures, h_before⟩ := h.passed
      cases h_fill
      refine ⟨⟨fun h_now => ?_, passed ++ next, ?_, ?_, ?_⟩, h_used_up⟩
      · rcases h_ended with h_same | h_none
        · rw [h_waits.2] at h_same
          exact absurd (h_same.symm.trans h_now) Bool.false_ne_true
        · exact h_none
      · rw [h_all, h_pieces, List.append_assoc]
      · intro piece h_mem
        exact (List.mem_append.mp h_mem).elim (h_failures piece) (h_sound piece)
      · rw [Body.dataOf_append, h_before, h_data, List.isEmpty_iff.mp h_waits.1, List.append_nil]
    next => cases h_fill

/-- A read that does not fail hands out the next of the data. -/
theorem Passed.read {pieces : List Piece} {bytes more : Bytes} {g g' : Guarded} {count : Nat}
    (h : Passed pieces bytes g) (h_read : g.read count = (.ok more, g')) :
    Passed pieces (bytes ++ more) g' := by
  unfold Guarded.read at h_read
  split at h_read
  · cases h_read
  · split at h_read
    · cases h_read
    · rename_i filled h_fill
      obtain ⟨h_ended, passed, h_all, h_failures, h_data⟩ := (h.fill h_fill).1
      cases h_read
      refine ⟨h_ended, passed, h_all, h_failures, ?_⟩
      rw [h_data, List.append_assoc, List.take_append_drop]

/-- A read hands nothing out only if nothing is held and nothing is left. -/
theorem Passed.read_nil {pieces : List Piece} {bytes : Bytes} {g g' : Guarded} {count : Nat}
    (h : Passed pieces bytes g) (h_count : 0 < count) (h_read : g.read count = (.ok [], g')) :
    bytes = Body.dataOf pieces ∧ ∀ piece ∈ pieces, piece.isFailure = false := by
  have h_after := h.read h_read
  rw [List.append_nil] at h_after
  unfold Guarded.read at h_read
  split at h_read
  · cases h_read
  · split at h_read
    · cases h_read
    · rename_i filled h_fill
      obtain ⟨h_taken, h_left⟩ := Prod.mk.inj h_read
      have h_buffer : filled.reader.buffer = [] := by
        have h_none := (List.take_eq_nil_iff).mp (Except.ok.inj h_taken)
        exact h_none.resolve_left (Nat.ne_of_gt h_count)
      have h_pieces := (h.fill h_fill).2 h_buffer
      subst h_left
      refine h_after.complete ?_ h_pieces
      show filled.reader.buffer.drop count = []
      rw [h_buffer, List.drop_nil]

/-! ## Failures -/

/-- A reader as it may be later: pieces may have passed or failed, and its body is closed the same
way. -/
structure Further (a b : Guarded) : Prop where
  pieces : b.reader.body.pieces <:+ a.reader.body.pieces
  closeFailure : b.reader.body.closeFailure = a.reader.body.closeFailure

theorem Further.of_sameData {a b : Guarded} (h : a.reader.SameData b.reader) : Further a b :=
  ⟨h.pieces ▸ List.suffix_refl _, h.closeFailure⟩

theorem Further.trans {a b c : Guarded} (h₁ : Further a b) (h₂ : Further b c) : Further a c :=
  ⟨h₂.pieces.trans h₁.pieces, h₂.closeFailure.trans h₁.closeFailure⟩

theorem further_await (pieces : List Piece) (g : Guarded) :
    (g.await pieces).2.reader.body.pieces <:+ pieces ∧
      (g.await pieces).2.reader.body.closeFailure = g.reader.body.closeFailure := by
  induction pieces generalizing g with
  | nil =>
    have h_same := (g.ended []).reader.sameData_closeBody
    unfold await
    dsimp only
    split
    all_goals
      rename_i h_close
      rw [h_close] at h_same
      refine ⟨?_, h_same.closeFailure⟩
      exact h_same.pieces ▸ List.suffix_refl _
  | cons piece rest ih =>
    have h_rest := List.suffix_cons piece rest
    cases piece with
    | data arrived =>
      unfold await
      split
      · exact ⟨(ih g).1.trans h_rest, (ih g).2⟩
      · exact ⟨h_rest, rfl⟩
    | failure f => exact ⟨h_rest, rfl⟩
    | cancel => exact ⟨(ih g.cancel).1.trans h_rest, (ih g.cancel).2.trans g.sameData_cancel.closeFailure⟩

theorem further_read (count : Nat) (g : Guarded) : Further g (g.read count).2 := by
  have h_await := further_await g.reader.body.pieces g
  have h_fill : Further g g.fill.2 := by
    unfold fill
    split
    · exact .of_sameData (.refl _)
    · split
      all_goals
        rename_i h_after
        rw [h_after] at h_await
        exact ⟨h_await.1, h_await.2⟩
  unfold read
  split
  · exact .of_sameData (.refl _)
  · split
    all_goals
      rename_i h_after
      rw [h_after] at h_fill
      exact ⟨h_fill.pieces, h_fill.closeFailure⟩

/-- How a read fails: it is refused, or something failed that is reported as a failed read if the
exchange failed or the stream was misused, and as it is otherwise. -/
inductive Fails (g : Guarded) : Failure → Prop where
  | refused : Fails g Reader.cancelledRead
  | failed {f : Failure} (h : .failure f ∈ g.reader.body.pieces ∨ g.reader.body.closeFailure = some f)
    (h_ends : (f.fault?.map Fault.endsRead).getD false = true) : Fails g (Reader.failedRead f)
  | other {f : Failure} (h : .failure f ∈ g.reader.body.pieces ∨ g.reader.body.closeFailure = some f)
    (h_other : (f.fault?.map Fault.endsRead).getD false = false) : Fails g f

theorem read_error {g g' : Guarded} {count : Nat} {f : Failure}
    (h : g.read count = (.error f, g')) : Fails g f := by
  unfold read at h
  split at h
  · cases h
    exact .refused
  · split at h
    · rename_i failure waited h_fill
      have h_origin : .failure failure ∈ g.reader.body.pieces ∨
          g.reader.body.closeFailure = some failure := by
        unfold fill at h_fill
        split at h_fill
        · cases h_fill
        · split at h_fill
          · cases h_fill
          · rename_i h_await
            cases h_fill
            exact await_error h_await
      cases h
      unfold readFailure
      split
      next h_ends =>
        split
        · exact .refused
        · exact .failed h_origin h_ends
      next h_other => exact .other h_origin (Bool.not_eq_true _ ▸ h_other)
    · cases h

theorem Fails.of_further {a b : Guarded} {f : Failure} (h : Fails b f) (h_further : Further a b) :
    Fails a f := by
  have h_origin {g : Failure}
      (h_g : .failure g ∈ b.reader.body.pieces ∨ b.reader.body.closeFailure = some g) :
      .failure g ∈ a.reader.body.pieces ∨ a.reader.body.closeFailure = some g := by
    rw [h_further.closeFailure] at h_g
    exact h_g.imp_left fun h_mem => h_further.pieces.subset h_mem
  cases h with
  | refused => exact .refused
  | failed h_g h_ends => exact .failed (h_origin h_g) h_ends
  | other h_g h_other => exact .other (h_origin h_g) h_other

/-- Where only exchanges fail and streams are misused, every failed read is one of the system. -/
theorem Fails.isSystem {g : Guarded} {f : Failure} (h : Fails g f)
    (h_ends : ∀ f, .failure f ∈ g.reader.body.pieces ∨ g.reader.body.closeFailure = some f →
      (f.fault?.map Fault.endsRead).getD false = true) : f.isSystem = true := by
  cases h with
  | refused => rfl
  | failed => rfl
  | other h_origin h_other =>
    rw [h_ends f h_origin] at h_other
    cases h_other

end Guarded

/-! ## Uses in a row -/

/-- One use of a reader: a read of at most so many bytes, a cancellation of its token from
elsewhere, or a closing. -/
inductive Use where
  | read (count : Nat)
  | cancel
  | close

namespace Guarded

/-- Uses a reader again and again: the answers to the reads, in order. -/
def serve : List Use → Guarded → List (Except Failure Bytes) × Guarded
  | [], g => ([], g)
  | .read count :: rest, g =>
    let (answer, g) := g.read count
    let (answers, g) := serve rest g
    (answer :: answers, g)
  | .cancel :: rest, g => serve rest g.cancel
  | .close :: rest, g => serve rest (ByteSource.close g).2

/-- The bytes that are handed out before the first failure. -/
def received : List (Except Failure Bytes) → Bytes
  | .ok bytes :: rest => bytes ++ received rest
  | .error _ :: _ | [] => []

theorem sameData_close (g : Guarded) : g.reader.SameData (ByteSource.close g).2.reader :=
  g.reader.sameData_close

variable {pieces : List Piece} {bytes : Bytes} {g : Guarded}

theorem received_serve (uses : List Use) (h : Passed pieces bytes g) :
    bytes ++ received (g.serve uses).1 <+: Body.soundData pieces := by
  induction uses generalizing bytes g with
  | nil =>
    rw [serve, received, List.append_nil]
    exact h.isPrefix
  | cons use rest ih =>
    cases use with
    | read count =>
      rw [serve]
      rcases h_read : g.read count with ⟨f | more, g'⟩
      · rw [received, List.append_nil]
        exact h.isPrefix
      · rw [received, ← List.append_assoc]
        exact ih (h.read h_read)
    | cancel => exact ih (h.of_sameData g.sameData_cancel)
    | close => exact ih (h.of_sameData g.sameData_close)

/-- A read that hands nothing out after reads that have not failed shows that all of the data was
handed out. -/
theorem complete_of_serve {uses : List Use} (h : Passed pieces bytes g)
    (h_counts : ∀ count, .read count ∈ uses → 0 < count) {before : List Bytes}
    {after : List (Except Failure Bytes)}
    (h_answers : (g.serve uses).1 = before.map .ok ++ .ok [] :: after) :
    bytes ++ before.flatten = Body.dataOf pieces ∧ ∀ piece ∈ pieces, piece.isFailure = false := by
  induction uses generalizing bytes g before with
  | nil => exact absurd h_answers.symm (List.append_ne_nil_of_right_ne_nil _ (List.cons_ne_nil _ _))
  | cons use rest ih =>
    have h_rest : ∀ count, .read count ∈ rest → 0 < count :=
      fun count h_mem => h_counts count (List.mem_cons_of_mem _ h_mem)
    cases use with
    | read count =>
      rw [serve] at h_answers
      rcases h_read : g.read count with ⟨f | more, g'⟩
      all_goals rw [h_read] at h_answers; dsimp only at h_answers
      · cases before with
        | nil => cases h_answers
        | cons => cases h_answers
      · cases before with
        | nil =>
          obtain ⟨h_more, -⟩ := List.cons.inj h_answers
          rw [Except.ok.inj h_more] at h_read
          rw [List.flatten_nil, List.append_nil]
          exact h.read_nil (h_counts count List.mem_cons_self) h_read
        | cons first others =>
          obtain ⟨h_more, h_others⟩ := List.cons.inj h_answers
          rw [Except.ok.inj h_more] at h_read
          rw [List.flatten_cons, ← List.append_assoc]
          exact ih (h.read h_read) h_rest h_others
    | cancel => exact ih (h.of_sameData g.sameData_cancel) h_rest h_answers
    | close => exact ih (h.of_sameData g.sameData_close) h_rest h_answers

theorem fails_of_serve {uses : List Use} {f : Failure} (h : .error f ∈ (g.serve uses).1) :
    Fails g f := by
  induction uses generalizing g with
  | nil => cases h
  | cons use rest ih =>
    cases use with
    | read count =>
      have h_further := g.further_read count
      rw [serve] at h
      rcases h_read : g.read count with ⟨answer, g'⟩
      rw [h_read] at h h_further
      rcases List.mem_cons.mp h with rfl | h_later
      · exact read_error h_read
      · exact (ih h_later).of_further h_further
    | cancel => exact (ih h).of_further (.of_sameData g.sameData_cancel)
    | close => exact (ih h).of_further (.of_sameData g.sameData_close)

/-! ## After a cancellation or a closing -/

/-- A reader that is closed, or whose token is cancelled. -/
def Stopped (g : Guarded) : Prop := g.token.cancelled = true ∨ g.reader.closed = true

theorem Stopped.later {a b : Guarded} (h : a.Stopped) (h_later : a.Later b) : b.Stopped :=
  h.imp h_later.cancelled h_later.closed

theorem later_close (g : Guarded) : g.Later (ByteSource.close g).2 :=
  later_of_reader g.reader.later_close

/-- A reader as it may be after uses: nothing is undone, and it is stopped if its token was
cancelled along with the pieces that have passed. -/
structure Onward (a b : Guarded) : Prop where
  later : a.Later b
  passed : ∃ passed, a.reader.body.pieces = passed ++ b.reader.body.pieces ∧
    (.cancel ∈ passed → b.token.cancelled = true)

theorem Onward.of_sameData {a b : Guarded} (h_later : a.Later b)
    (h_same : a.reader.SameData b.reader) : Onward a b :=
  ⟨h_later, [], h_same.pieces.symm, nofun⟩

theorem Onward.trans {a b c : Guarded} (h₁ : Onward a b) (h₂ : Onward b c) : Onward a c := by
  obtain ⟨h_ab, first, h_first, h_early⟩ := h₁
  obtain ⟨h_bc, second, h_second, h_late⟩ := h₂
  refine ⟨h_ab.trans h_bc, first ++ second, ?_, fun h_mem => ?_⟩
  · rw [h_first, h_second, List.append_assoc]
  · exact (List.mem_append.mp h_mem).elim (fun h => h_bc.cancelled (h_early h)) h_late

theorem passed_await (pieces : List Piece) (g : Guarded) :
    ∃ passed, pieces = passed ++ (g.await pieces).2.reader.body.pieces ∧
      (.cancel ∈ passed → (g.await pieces).2.token.cancelled = true) := by
  induction pieces generalizing g with
  | nil =>
    have h_left : (g.await []).2.reader.body.pieces = [] :=
      List.suffix_nil.mp (further_await [] g).1
    exact ⟨[], h_left.symm, fun h_mem => absurd h_mem List.not_mem_nil⟩
  | cons piece rest ih =>
    cases piece with
    | data arrived =>
      unfold await
      split
      · obtain ⟨passed, h_rest, h_fired⟩ := ih g
        refine ⟨.data arrived :: passed, congrArg _ h_rest, fun h_mem => h_fired ?_⟩
        cases h_mem with
        | tail _ h_passed => exact h_passed
      · refine ⟨[.data arrived], rfl, fun h_mem => ?_⟩
        cases List.mem_singleton.mp h_mem
    | failure f =>
      refine ⟨[.failure f], rfl, fun h_mem => ?_⟩
      cases List.mem_singleton.mp h_mem
    | cancel =>
      obtain ⟨passed, h_rest, -⟩ := ih g.cancel
      refine ⟨.cancel :: passed, congrArg _ h_rest, fun _ => ?_⟩
      exact (later_await rest g.cancel).cancelled g.cancelled_cancel

theorem onward_read (count : Nat) (g : Guarded) : Onward g (g.read count).2 := by
  refine ⟨later_read count g, ?_⟩
  have h_await := passed_await g.reader.body.pieces g
  have h_fill : ∃ passed, g.reader.body.pieces = passed ++ g.fill.2.reader.body.pieces ∧
      (.cancel ∈ passed → g.fill.2.token.cancelled = true) := by
    unfold fill
    split
    · exact ⟨[], rfl, nofun⟩
    · split
      all_goals
        rename_i h_after
        rw [h_after] at h_await
        exact h_await
  unfold read
  split
  · exact ⟨[], rfl, nofun⟩
  · split
    all_goals
      rename_i h_after
      rw [h_after] at h_fill
      exact h_fill

theorem onward_serve (uses : List Use) (g : Guarded) : Onward g (g.serve uses).2 := by
  induction uses generalizing g with
  | nil => exact .of_sameData (.refl g) (.refl _)
  | cons use rest ih =>
    cases use with
    | read count => exact (onward_read count g).trans (ih _)
    | cancel => exact (Onward.of_sameData g.later_cancel g.sameData_cancel).trans (ih _)
    | close => exact (Onward.of_sameData g.later_close g.sameData_close).trans (ih _)

/-- What was cancelled or closed on the way stays so. -/
theorem stopped_of_mem {uses : List Use} (h : .cancel ∈ uses ∨ .close ∈ uses) :
    (g.serve uses).2.Stopped := by
  induction uses generalizing g with
  | nil => exact absurd h (by simp)
  | cons use rest ih =>
    cases use with
    | read count =>
      refine ih (h.imp ?_ ?_)
      all_goals exact fun h_mem => (List.mem_cons.mp h_mem).resolve_left nofun
    | cancel => exact .later (.inl g.cancelled_cancel) (onward_serve rest _).later
    | close => exact .later (.inr g.reader.closed_close) (onward_serve rest _).later

theorem serve_append (before after : List Use) (g : Guarded) :
    (g.serve (before ++ after)).1 =
      (g.serve before).1 ++ ((g.serve before).2.serve after).1 := by
  induction before generalizing g with
  | nil => rfl
  | cons use rest ih =>
    cases use with
    | read count => exact congrArg _ (ih _)
    | cancel => exact ih _
    | close => exact ih _

theorem read_of_stopped (h : g.Stopped) (count : Nat) :
    g.read count = (.error Reader.cancelledRead, g) := by
  have h_refuses : (g.reader.closed || g.token.cancelled) = true :=
    (Bool.or_eq_true _ _).mpr h.symm
  rw [read, if_pos h_refuses]

/-- A stopped reader refuses every read. -/
theorem serve_of_stopped (h : g.Stopped) (uses : List Use) :
    ∀ answer ∈ (g.serve uses).1, answer = .error Reader.cancelledRead := by
  induction uses generalizing g with
  | nil => nofun
  | cons use rest ih =>
    cases use with
    | read count =>
      rw [serve, read_of_stopped h]
      exact List.forall_mem_cons.mpr ⟨rfl, ih h⟩
    | cancel => exact ih (h.later g.later_cancel)
    | close => exact ih (h.later g.later_close)

/-! ## Undisturbed readers -/

/-- A reader that nobody has stopped, over a body that holds data and nothing else. -/
structure Undisturbed (g : Guarded) : Prop where
  token : g.token.cancelled = false
  closed : g.reader.closed = false
  closeFailure : g.reader.body.closeFailure = none
  pieces : ∀ piece ∈ g.reader.body.pieces, ∃ bytes, piece = .data bytes

theorem await_of_data {pieces : List Piece} (h : ∀ piece ∈ pieces, ∃ bytes, piece = .data bytes)
    (h_close : g.reader.body.closeFailure = none) :
    ∃ bytes g', g.await pieces = (.ok bytes, g') ∧ g'.token = g.token ∧
      g'.reader.closed = g.reader.closed := by
  induction pieces with
  | nil =>
    have h_body : (g.ended []).reader.body.close.1 = .ok () := by
      unfold Body.close
      split
      · rfl
      · have h_ended : (g.ended []).reader.body.closeFailure = none := h_close
        rw [h_ended]
    unfold await
    dsimp only
    split
    next h_after =>
      rw [h_after] at h_body
      cases h_body
    next => exact ⟨_, _, rfl, rfl, rfl⟩
  | cons piece rest ih =>
    obtain ⟨⟨arrived, rfl⟩, h_rest⟩ := List.forall_mem_cons.mp h
    unfold await
    split
    · exact ih h_rest
    · exact ⟨_, _, rfl, rfl, rfl⟩

theorem Undisturbed.read (h : g.Undisturbed) (count : Nat) :
    ∃ more g', g.read count = (.ok more, g') ∧ g'.Undisturbed := by
  have h_open : ¬(g.reader.closed || g.token.cancelled) = true := by
    rw [h.closed, h.token]
    exact Bool.false_ne_true
  have h_further := further_read count g
  have h_fill : ∃ filled, g.fill = (.ok (), filled) ∧ filled.token = g.token ∧
      filled.reader.closed = g.reader.closed := by
    unfold fill
    split
    · exact ⟨g, rfl, rfl, rfl⟩
    · obtain ⟨bytes, awaited, h_await, h_token, h_closed⟩ := await_of_data h.pieces h.closeFailure
      rw [h_await]
      exact ⟨_, rfl, h_token, h_closed⟩
  obtain ⟨filled, h_fill, h_token, h_closed⟩ := h_fill
  rw [Guarded.read, if_neg h_open, h_fill] at h_further ⊢
  refine ⟨_, _, rfl, ?_, h_closed.trans h.closed, h_further.closeFailure.trans h.closeFailure, ?_⟩
  · rw [← h.token, ← h_token]
  · intro piece h_mem
    exact h.pieces piece (h_further.pieces.subset h_mem)

/-- An undisturbed reader that is read again and again answers every time. -/
theorem Undisturbed.serve (h : g.Undisturbed) (counts : List Nat) :
    ∃ answers : List Bytes, answers.length = counts.length ∧
      (g.serve (counts.map .read)).1 = answers.map .ok := by
  induction counts generalizing g with
  | nil => exact ⟨[], rfl, rfl⟩
  | cons count rest ih =>
    obtain ⟨more, g', h_read, h_after⟩ := h.read count
    obtain ⟨answers, h_length, h_answers⟩ := ih h_after
    refine ⟨more :: answers, congrArg (· + 1) h_length, ?_⟩
    rw [List.map_cons, Guarded.serve, h_read]
    exact congrArg _ h_answers

theorem received_ok (answers : List Bytes) : received (answers.map .ok) = answers.flatten := by
  induction answers with
  | nil => rfl
  | cons bytes rest ih =>
    rw [List.map_cons, received, ih, List.flatten_cons]

theorem length_le_flatten {answers : List Bytes} (h : [] ∉ answers) :
    answers.length ≤ answers.flatten.length := by
  induction answers with
  | nil => exact Nat.le_refl 0
  | cons bytes rest ih =>
    have h_first : 0 < bytes.length :=
      List.length_pos_iff.mpr fun h_nil => h (h_nil ▸ List.mem_cons_self)
    have h_others := ih fun h_mem => h (List.mem_cons_of_mem _ h_mem)
    rw [List.flatten_cons, List.length_append, List.length_cons]
    omega

/-- If it is read more often than there are bytes, all of the data comes. -/
theorem Undisturbed.received (h : g.Undisturbed) (h_start : Passed pieces [] g) {counts : List Nat}
    (h_counts : ∀ count ∈ counts, 0 < count) (h_often : (Body.dataOf pieces).length < counts.length) :
    received (g.serve (counts.map .read)).1 = Body.dataOf pieces := by
  obtain ⟨answers, h_length, h_answers⟩ := h.serve counts
  have h_prefix : answers.flatten <+: Body.dataOf pieces := by
    have h_sound := received_serve (counts.map .read) h_start
    rw [h_answers, received_ok, List.nil_append] at h_sound
    exact h_sound.trans (Body.soundData_isPrefix pieces)
  have h_end : [] ∈ answers := by
    apply Decidable.byContradiction
    intro h_none
    have h_many := length_le_flatten h_none
    have h_few := h_prefix.length_le
    omega
  obtain ⟨before, after, h_split⟩ := List.append_of_mem h_end
  have h_whole : (g.serve (counts.map .read)).1 =
      before.map .ok ++ .ok [] :: after.map Except.ok := by
    rw [h_answers, h_split, List.map_append, List.map_cons]
  have h_reads : ∀ count, .read count ∈ counts.map Use.read → 0 < count := by
    intro count h_mem
    obtain ⟨count, h_count, ⟨⟩⟩ := List.mem_map.mp h_mem
    exact h_counts count h_count
  have h_before := (complete_of_serve h_start h_reads h_whole).1
  rw [List.nil_append] at h_before
  rw [h_answers, received_ok]
  refine h_prefix.eq_of_length_le ?_
  rw [← h_before, h_split, List.flatten_append, List.length_append]
  exact Nat.le_add_right _ _

/-! ## A reader from its start -/

/-- The reader of a body of which nothing was read yet. -/
def start (token : Token Hold) (body : Body) : Guarded := { token, reader := { body } }

theorem passed_start {token : Token Hold} {body : Body} (h_ended : body.ended = false) :
    Passed body.pieces [] (start token body) := by
  refine ⟨fun h_now => ?_, [], rfl, nofun, rfl⟩
  rw [show body.ended = true from h_now] at h_ended
  cases h_ended

/-- What the reads of a body come to, from its start.  Up to the first failure they hand out the
data of the body in order, and one of them hands nothing out only if all of the data was handed
out and nothing has failed.  A failed exchange or a misused stream leaves them as a failure of the
system.  Once the reader is closed or the token cancelled, from elsewhere or along with the body,
every read is refused.  If nothing of that kind happens, every read answers, and enough of them
hand out all of the data. -/
theorem serve_start (token : Token Hold) (body : Body) (uses : List Use)
    (h_ended : body.ended = false) (h_counts : ∀ count, .read count ∈ uses → 0 < count) :
    let answers := ((start token body).serve uses).1
    received answers <+: Body.soundData body.pieces ∧
    (∀ (before : List Bytes) (after : List (Except Failure Bytes)),
      answers = before.map .ok ++ .ok [] :: after →
      before.flatten = Body.dataOf body.pieces ∧ ∀ piece ∈ body.pieces, piece.isFailure = false) ∧
    (∀ f, .error f ∈ answers → Fails (start token body) f) ∧
    ((∀ f, .failure f ∈ body.pieces ∨ body.closeFailure = some f →
        (f.fault?.map Fault.endsRead).getD false = true) →
      ∀ f, .error f ∈ answers → f.isSystem = true) ∧
    (∀ before after, uses = before ++ after →
      let g := ((start token body).serve before).2
      (∃ passed, body.pieces = passed ++ g.reader.body.pieces ∧
        (token.cancelled = true ∨ .cancel ∈ before ∨ .close ∈ before ∨ .cancel ∈ passed →
          g.Stopped)) ∧
      (g.Stopped → ∃ refused, answers = ((start token body).serve before).1 ++ refused ∧
        ∀ answer ∈ refused, answer = .error Reader.cancelledRead)) ∧
    (∀ counts : List Nat, uses = counts.map .read → token.cancelled = false → body.closeFailure = none →
      (∀ piece ∈ body.pieces, ∃ bytes, piece = .data bytes) →
      (∀ answer ∈ answers, ∃ bytes, answer = .ok bytes) ∧
      ((Body.dataOf body.pieces).length < counts.length →
        received answers = Body.dataOf body.pieces)) := by
  have h_start : Passed body.pieces [] (start token body) := passed_start h_ended
  refine ⟨?_, ?_, fun f => fails_of_serve, ?_, ?_, ?_⟩
  · exact received_serve uses h_start
  · intro before after h_answers
    exact complete_of_serve h_start h_counts h_answers
  · intro h_ends f h_mem
    exact (fails_of_serve h_mem).isSystem h_ends
  · rintro before after rfl
    have h_onward := onward_serve before (start token body)
    obtain ⟨passed, h_passed, h_fired⟩ := h_onward.passed
    refine ⟨⟨passed, h_passed, ?_⟩, fun h_stopped => ?_⟩
    · rintro (h_token | h_cancel | h_close | h_piece)
      · exact .inl (h_onward.later.cancelled h_token)
      · exact stopped_of_mem (.inl h_cancel)
      · exact stopped_of_mem (.inr h_close)
      · exact .inl (h_fired h_piece)
    · exact ⟨_, serve_append before after _, serve_of_stopped h_stopped after⟩
  · rintro counts rfl h_token h_close h_data
    have h_undisturbed : (start token body).Undisturbed := ⟨h_token, rfl, h_close, h_data⟩
    refine ⟨fun answer h_mem => ?_, fun h_often => ?_⟩
    · obtain ⟨answers, -, h_answers⟩ := h_undisturbed.serve counts
      rw [h_answers] at h_mem
      obtain ⟨bytes, -, rfl⟩ := List.mem_map.mp h_mem
      exact ⟨bytes, rfl⟩
    · refine h_undisturbed.received h_start (fun count h_mem => ?_) h_often
      exact h_counts count (List.mem_map_of_mem h_mem)

/-- A body that is lost before its end, read in parts and cancelled after that. -/
theorem serve_start_lost :
    let lost : Failure := .outside (.transport "ReadError" "connection lost")
    let body : Body :=
      { pieces := [.data [1, 2, 3], .data [], .data [4], .failure lost, .data [5]] }
    let uses := [.read 2, .read 2, .read 9, .read 1, .cancel, .read 1]
    let answers := ((start .fresh body).serve uses).1
    answers = [.ok [1, 2], .ok [3], .ok [4], .error (Reader.failedRead lost),
      .error Reader.cancelledRead] ∧
    received answers <+: [1, 2, 3, 4] ∧
    (Reader.failedRead lost).isSystem = true ∧
    ∃ refused, answers = ((start .fresh body).serve (uses.take 5)).1 ++ refused ∧
      ∀ answer ∈ refused, answer = .error Reader.cancelledRead := by
  intro lost body uses answers
  have h_counts : ∀ count, .read count ∈ uses → 0 < count := by
    intro count h_mem
    have h_values : count = 2 ∨ count = 9 ∨ count = 1 := by simpa [uses] using h_mem
    omega
  have h_answers : answers = [.ok [1, 2], .ok [3], .ok [4], .error (Reader.failedRead lost),
      .error Reader.cancelledRead] := rfl
  have h_ends : ∀ f, .failure f ∈ body.pieces ∨ body.closeFailure = some f →
      (f.fault?.map Fault.endsRead).getD false = true := by
    rintro f (h_mem | h_close)
    · have h_lost : f = lost := by simpa [body] using h_mem
      rw [h_lost]
      rfl
    · cases h_close
  obtain ⟨h_received, -, -, h_system, h_stop, -⟩ := serve_start .fresh body uses rfl h_counts
  obtain ⟨⟨passed, h_passed, h_stops⟩, h_refuses⟩ := h_stop (uses.take 5) (uses.drop 5) rfl
  refine ⟨h_answers, h_received, h_system h_ends _ ?_, h_refuses (h_stops ?_)⟩
  · show _ ∈ answers
    rw [h_answers]
    simp
  · exact .inr (.inl (by simp [uses]))

end Guarded

end ImageIntake.Http
