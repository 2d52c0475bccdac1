/-
  ImageIntake.Proofs.Source.Watched

  Collaborators that are watched: whenever they are asked to build readers, to
  probe a path or to convert, the question is kept with what came of it.  Being
  watched changes nothing (`watched_tracks`), so that what a source asks for can
  be told from a run with watched collaborators.
-/

import ImageIntake.Proofs.Source.Tracking

namespace ImageIntake

open ImageIntake.Action

variable {ω α : Type}

/-! ## Questions -/

/-- A question put to a collaborator, with what came of it. -/
inductive Query (ω : Type) where
  | readers (outcome : Except Failure Readers)
  | space (path : String) (outcome : Except Failure Int)
  /-- A conversion was handed over in these surroundings. -/
  | conversion (request : Conversion.Request) (moment : ω)

namespace Query

/-- The request of a conversion. -/
def request? : Query ω → Option Conversion.Request
  | .conversion request _ => some request
  | _ => none

/-- The request of a conversion, with the moment it was handed over at. -/
def conversion? : Query ω → Option (Conversion.Request × ω)
  | .conversion request moment => some (request, moment)
  | _ => none

/-- The outcome of an attempt to build readers. -/
def attempt? : Query ω → Option (Except Failure Readers)
  | .readers outcome => some outcome
  | _ => none

@[simp] theorem request?_readers (outcome : Except Failure Readers) :
    (readers outcome : Query ω).request? = none := rfl

@[simp] theorem request?_space (path : String) (outcome : Except Failure Int) :
    (space path outcome : Query ω).request? = none := rfl

@[simp] theorem request?_conversion (request : Conversion.Request) (moment : ω) :
    (conversion request moment).request? = some request := rfl

@[simp] theorem conversion?_readers (outcome : Except Failure Readers) :
    (readers outcome : Query ω).conversion? = none := rfl

@[simp] theorem conversion?_space (path : String) (outcome : Except Failure Int) :
    (space path outcome : Query ω).conversion? = none := rfl

@[simp] theorem conversion?_conversion (request : Conversion.Request) (moment : ω) :
    (conversion request moment).conversion? = some (request, moment) := rfl

@[simp] theorem attempt?_readers (outcome : Except Failure Readers) :
    (readers outcome : Query ω).attempt? = some outcome := rfl

@[simp] theorem attempt?_space (path : String) (outcome : Except Failure Int) :
    (space path outcome : Query ω).attempt? = none := rfl

@[simp] theorem attempt?_conversion (request : Conversion.Request) (moment : ω) :
    (conversion request moment).attempt? = none := rfl

/-- The readers that were built. -/
def built? (q : Query ω) : Option Readers := q.attempt?.bind (·.toOption)

end Query

/-! ## Watching -/

/-- Surroundings with the questions that were asked in them. -/
abbrev Watched (ω : Type) := ω × List (Query ω)

/-- Does an action that answers a question. -/
def Action.answering (query : ω → Except Failure α → Query ω) (a : Action ω α) :
    Action (Watched ω) α :=
  .of fun (s, asked) => ((a.after s).1, (a.after s).2, asked ++ [query s (a.after s).1])

/-- Does an action that answers none. -/
def Action.unasked (a : Action ω α) : Action (Watched ω) α :=
  a.inside Prod.fst fun s watched => (s, watched.2)

@[simp] theorem Action.after_answering (query : ω → Except Failure α → Query ω) (a : Action ω α)
    (s : ω) (asked : List (Query ω)) :
    (a.answering query).after (s, asked) =
      ((a.after s).1, (a.after s).2, asked ++ [query s (a.after s).1]) := rfl

@[simp] theorem Action.after_unasked (a : Action ω α) (s : ω) (asked : List (Query ω)) :
    a.unasked.after (s, asked) = ((a.after s).1, (a.after s).2, asked) := rfl

namespace Collaborators

/-- The collaborators, watched. -/
def watched (env : Collaborators ω) : Collaborators (Watched ω) where
  record r s := (env.record r s.1, s.2)
  classify length := (env.classify length).answering fun _ outcome => .readers outcome
  closeReaders := env.closeReaders.unasked
  closeStream := env.closeStream.unasked
  usableSpace path := (env.usableSpace path).answering fun _ outcome => .space path outcome
  convert request := (env.convert request).answering fun s _ => .conversion request s
  cancel := env.cancel.unasked

/-- Being watched changes nothing. -/
theorem watched_tracks (env : Collaborators ω) :
    env.watched.Tracks (fun watched s => watched.1 = s) env where
  record _ _ _ h := congrArg _ h
  classify _ := by rintro ⟨s, _⟩ _ rfl; exact ⟨rfl, rfl⟩
  closeReaders := by rintro ⟨s, _⟩ _ rfl; exact ⟨rfl, rfl⟩
  closeStream := by rintro ⟨s, _⟩ _ rfl; exact ⟨rfl, rfl⟩
  usableSpace _ := by rintro ⟨s, _⟩ _ rfl; exact ⟨rfl, rfl⟩
  convert _ := by rintro ⟨s, _⟩ _ rfl; exact ⟨rfl, rfl⟩
  cancel := by rintro ⟨s, _⟩ _ rfl; exact ⟨rfl, rfl⟩

end Collaborators

namespace Source

/-! ## What calls ask for -/

/-- The questions that a call puts to the collaborators. -/
def Call.asked (call : Call) (env : Collaborators ω) (state : Source × ω) : List (Query ω) :=
  ((call.perform env.watched).after (state.1, state.2, [])).2.2.2

variable (env : Collaborators ω) (source : Source) (s : ω)

theorem asked_info :
    Call.info.asked env (source, s) =
      if source.contentType = .kubevirt ∧ source.readers = none then
        [.readers ((env.classify source.contentLength).after s).1]
      else [] := by
  unfold Call.asked
  simp only [Call.perform, after_map, after_info]
  by_cases h_type : source.contentType = .kubevirt
  · simp only [h_type, ne_eq, not_true, if_false, true_and]
    have h_build : ((build env.watched).after (source, s, [])).2.2.2 =
        if source.readers = none then
          [.readers ((env.classify source.contentLength).after s).1] else [] := by
      rw [after_build]
      cases source.readers with
      | some readers => rfl
      | none =>
        simp only [Collaborators.watched, after_answering]
        cases ((env.classify source.contentLength).after s).1 with
        | ok readers => rfl
        | error f => cases h_ends : f.endsProgram <;> simp [h_ends]
    rw [← h_build]
    rcases (build env.watched).after (source, s, []) with ⟨f | readers, state⟩
    · rfl
    · cases h_for : filterFor readers with
      | error f => simp [h_for]
      | ok filter => cases source.endpoint.redacted <;> simp [h_for, Collaborators.watched]
  · simp [h_type]

/-- The question that hands a conversion over, if there can be a request for it. -/
def handing (source : Source) (operation dest : String) (moment : ω) : List (Query ω) :=
  match source.requestFor operation dest with
  | .ok request => [.conversion request moment]
  | .error _ => []

theorem asked_convertTo (operation dest : String) (asked : List (Query ω)) :
    ((convertTo env.watched operation dest).after (source, s, asked)).2.2.2 =
      asked ++ handing source operation dest s := by
  rw [after_convertTo]
  unfold handing
  cases source.requestFor operation dest with
  | error f => simp
  | ok request =>
    simp only [Collaborators.watched, after_answering]
    cases ((env.convert request).after s).1 <;> rfl

theorem asked_transferFile (path : String) :
    (Call.transferFile path).asked env (source, s) = handing source "transfer_file" path s := by
  unfold Call.asked
  simp only [Call.perform, after_map, after_transferFile, asked_convertTo, List.nil_append]

/-- A conversion into a directory is handed over only if the directory has space. -/
theorem asked_transfer (path : String) :
    ∃ rest, (Call.transfer path).asked env (source, s) =
        .space path ((env.usableSpace path).after s).1 :: rest ∧
      (rest = [] ∨ ∃ size moment, ((env.usableSpace path).after s).1 = .ok size ∧ 0 < size ∧
        rest = handing source "transfer" (Files.joinText path source.scratchFileName) moment) := by
  unfold Call.asked
  simp only [Call.perform, after_map, after_transfer]
  simp only [Collaborators.watched, after_answering]
  rcases (env.usableSpace path).after s with ⟨f | size, t⟩
  · exact ⟨[], rfl, .inl rfl⟩
  · by_cases h_size : size ≤ 0
    · exact ⟨[], by simp [h_size], .inl rfl⟩
    · simp only [h_size, if_false]
      refine ⟨_, asked_convertTo env source t _ _ _, .inr ⟨size, t, rfl, by omega, rfl⟩⟩

theorem asked_cancel (w : Watched ω) :
    ((cancel env.watched).after (source, w)).2.2.2 = w.2 := by
  obtain ⟨s, asked⟩ := w
  rw [after_cancel]
  split
  · rfl
  · simp only [Collaborators.watched, after_unasked]
    cases (env.cancel.after s).1 <;> rfl

theorem asked_release (w : Watched ω) :
    ((release env.watched).after (source, w)).2.2.2 = w.2 := by
  rw [after_release]
  split
  · rfl
  · split <;> rfl

theorem asked_close : Call.close.asked env (source, s) = [] := by
  unfold Call.asked
  simp only [Call.perform, after_map, after_close]
  rcases h_after : (release env.watched).after (source, s, []) with ⟨f | _, source', w⟩
  all_goals
    have h_asked : w.2 = [] := by
      have h_release := asked_release env source (s, [])
      rwa [h_after] at h_release
    dsimp only
  · split
    · exact h_asked
    · rw [asked_cancel, h_asked]
  · rw [asked_cancel, h_asked]

/-- No other call asks for anything. -/
theorem asked_others (call : Call)
    (h : call = .process ∨ call = .url ∨ call = .cancel ∨ call = .close) :
    call.asked env (source, s) = [] := by
  rcases h with rfl | rfl | rfl | rfl
  · rfl
  · rfl
  · unfold Call.asked
    simp only [Call.perform, after_map, asked_cancel]
  · exact asked_close env source s

end Source

end ImageIntake
