/-
  ImageIntake.Proofs.Source.Operations

  What each operation of a source comes to, one equation an operation: the
  outcome, the source afterwards and the surroundings afterwards, in terms of
  what the collaborators answer.  Whatever is proved about a source unfolds no
  operation again.
-/

import ImageIntake.Source.Driven

namespace ImageIntake

open ImageIntake.Action

/-- Only a locator that cannot be put together again is not printed. -/
theorem Url.redacted_error {url : Url} {fault : Fault} (h : url.redacted = .error fault) :
    fault = .invalidUrl := by
  unfold redacted withoutPassword at h
  split at h
  · cases h
  · cases h_user : url.withUserinfo url.username redaction with
    | error defect =>
      rw [h_user] at h
      cases h
      rfl
    | ok url =>
      rw [h_user] at h
      cases h

namespace Source

variable {ω : Type} (env : Collaborators ω) (source : Source) (s : ω)

/-- The source once its stream was found to be an image it can read. -/
def located (source : Source) : Source :=
  { source with url := some (source.url.getD source.endpoint) }

@[simp] theorem after_revise (f : Source → Source) (state : Source × ω) :
    (revise f : Operation ω Unit).after state = (.ok (), f state.1, state.2) := rfl

@[simp] theorem after_note (r : Log.Record) (state : Source × ω) :
    (note env r).after state = (.ok (), state.1, env.record r state.2) := rfl

theorem after_build :
    (build env).after (source, s) =
      match source.readers with
      | some readers => (.ok readers, source, s)
      | none =>
        match (env.classify source.contentLength).after s with
        | (.ok readers, s) => (.ok readers, { source with readers := some readers }, s)
        | (.error f, s) =>
          if f.endsProgram then (.error f, source, s)
          else (.error (unclassifiable f), source, env.record (readersFailed f) s) := by
  unfold build
  simp only [after_bind, after_get]
  cases source.readers with
  | some readers => rfl
  | none =>
    simp only [after_bind, after_attempt, after_second]
    rcases (env.classify source.contentLength).after s with ⟨f | readers, t⟩
    · cases h_ends : f.endsProgram <;> simp [after_bind, h_ends]
    · rfl

theorem after_info :
    (info env).after (source, s) =
      if source.contentType ≠ .kubevirt then (.error unsupportedContent, source, s)
      else
        match (build env).after (source, s) with
        | (.error f, state) => (.error f, state)
        | (.ok readers, state) =>
          match filterFor readers with
          | .error f => (.error f, state)
          | .ok _ =>
            match source.endpoint.redacted with
            | .error fault => (.error (.outside fault), located state.1, state.2)
            | .ok url =>
              (.ok .transferDataFile, located state.1,
                env.record (classified url readers source.contentLength) state.2) := by
  unfold info
  simp only [after_bind, after_get]
  by_cases h_type : source.contentType ≠ .kubevirt
  · simp [h_type]
  · simp only [h_type, if_false, after_bind, after_pure]
    rcases (build env).after (source, s) with ⟨f | readers, state⟩
    · rfl
    · simp only [after_give]
      cases filterFor readers with
      | error f => rfl
      | ok filter =>
        cases source.endpoint.redacted <;> rfl

/-- Classifying sets the readers that were built, whatever comes of it afterwards. -/
theorem readers_info (h_type : source.contentType = .kubevirt) :
    ((info env).after (source, s)).2.1.readers = ((build env).after (source, s)).2.1.readers := by
  rw [after_info]
  simp only [h_type, ne_eq, not_true, if_false]
  rcases (build env).after (source, s) with ⟨g | readers, state⟩
  · rfl
  · cases h_for : filterFor readers with
    | error g => simp [h_for]
    | ok filter => cases source.endpoint.redacted <;> simp [h_for, located]

theorem after_convertTo (operation dest : String) :
    (convertTo env operation dest).after (source, s) =
      match source.requestFor operation dest with
      | .error f => (.error f, source, s)
      | .ok request =>
        match (env.convert request).after s with
        | (.ok (), s) => (.ok .resize, source, s)
        | (.error f, s) => (.error (notConverted f), source, s) := by
  unfold convertTo
  simp only [after_bind, after_get, after_give]
  cases source.requestFor operation dest with
  | error f => rfl
  | ok request =>
    simp only [after_attempt, after_second]
    rcases (env.convert request).after s with ⟨_ | _, _⟩ <;> rfl

theorem after_transfer (path : String) :
    (transfer env path).after (source, s) =
      match (env.usableSpace path).after s with
      | (.error f, s) => (.error f, source, s)
      | (.ok size, s) =>
        if size ≤ 0 then (.error (noSpace path), source, s)
        else (convertTo env "transfer"
          (Files.joinText path source.scratchFileName)).after (source, s) := by
  unfold transfer
  simp only [after_bind, after_second]
  rcases (env.usableSpace path).after s with ⟨f | size, t⟩
  · rfl
  · by_cases h_size : size ≤ 0 <;> simp [h_size, after_bind]

theorem after_transferFile (path : String) :
    (transferFile env path).after (source, s) =
      (convertTo env "transfer_file" path).after (source, s) := rfl

theorem after_cancel :
    (cancel env).after (source, s) =
      if source.once.fired then (.ok false, source, s)
      else
        match env.cancel.after s with
        | (.ok (), s) => (.ok true, { source with once := ⟨true⟩ }, s)
        | (.error f, s) => (.error f, source, s) := by
  unfold cancel
  simp only [after_bind, after_get]
  by_cases h_fired : source.once.fired
  · simp [h_fired]
  · simp only [h_fired, Bool.false_eq_true, if_false, after_bind, after_second]
    rcases env.cancel.after s with ⟨f | _, t⟩ <;> rfl

theorem after_release :
    (release env).after (source, s) =
      if source.released then (.ok (), source, s)
      else
        let closing := if source.readers.isSome then env.closeReaders else env.closeStream
        ((closing.after s).1, { source with released := true }, (closing.after s).2) := by
  unfold release
  simp only [after_bind, after_get]
  by_cases h_released : source.released
  · simp [h_released]
  · by_cases h_readers : source.readers.isSome <;> simp [h_released, h_readers, after_bind]

theorem after_close :
    (close env).after (source, s) =
      match (release env).after (source, s) with
      | (.ok (), state) => (((cancel env).after state).1.map fun _ => (), ((cancel env).after state).2)
      | (.error f, state) =>
        if f.endsProgram then (.error f, state)
        else (((cancel env).after state).1.bind fun _ => .error (notReleased f),
          ((cancel env).after state).2) := by
  unfold close
  simp only [after_bind, after_attempt]
  rcases (release env).after (source, s) with ⟨f | _, state⟩
  · cases h_ends : f.endsProgram
    · simp only [h_ends]
      rcases h_cancel : (cancel env).after state with ⟨g | _, state'⟩ <;>
        simp [after_bind, h_cancel] <;> rfl
    · simp [h_ends]
  · rcases h_cancel : (cancel env).after state with ⟨g | _, state'⟩ <;>
      simp [after_bind, h_cancel] <;> rfl

end Source

end ImageIntake
