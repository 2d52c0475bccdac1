/-
  ImageIntake.Proofs.Source.Matching

  Actions that match: done in surroundings that are related, they come to outcomes that
  agree and leave the surroundings related.  What counts as alike about locators and
  failures is left open (`Likeness`), as long as logs show the same of either.
  Collaborators who match make for operations that match, on sources that are the same
  but for locators that are alike.
-/

import ImageIntake.Proofs.Agreement
import ImageIntake.Proofs.Source.Operations

namespace ImageIntake

/-- What counts as alike: locators that are shown alike, and failures that are told and handled
alike. -/
structure Likeness where
  url : Url → Url → Prop
  failure : Failure → Failure → Prop
  redacted : ∀ {u v}, url u v → u.redacted = v.redacted
  refl : ∀ f, failure f f
  text : ∀ {f g}, failure f g → f.text = g.text
  trouble : ∀ {f g}, failure f g → f.trouble? = g.trouble?
  endsProgram : ∀ {f g}, failure f g → f.endsProgram = g.endsProgram
  cause : ∀ {f g} trouble message, failure f g →
    failure (.pipeline trouble message (some f)) (.pipeline trouble message (some g))

namespace Likeness

/-- Nothing but the same counts as alike. -/
def same : Likeness where
  url := Eq
  failure := Eq
  redacted := by rintro u _ rfl; rfl
  refl _ := rfl
  text := by rintro f _ rfl; rfl
  trouble := by rintro f _ rfl; rfl
  endsProgram := by rintro f _ rfl; rfl
  cause := by rintro f _ trouble message rfl; rfl

variable (L : Likeness) {f g : Failure}

theorem isPipeline (h : L.failure f g) : f.isPipeline = g.isPipeline := by
  rw [Failure.isPipeline, Failure.isPipeline, L.trouble h]

theorem kind? (h : L.failure f g) : f.kind? = g.kind? := by
  rw [Failure.kind?, Failure.kind?, L.trouble h]

theorem phase? (h : L.failure f g) : f.phase? = g.phase? := by
  rw [Failure.phase?, Failure.phase?, L.trouble h]

end Likeness

namespace Action

variable {ω τ σ σ' α β γ : Type} {L : Likeness} {V : α → β → Prop} {R : ω → τ → Prop}

/-! ## Actions -/

/-- Two actions come to outcomes that agree in related surroundings, and leave them related. -/
def Matches (L : Likeness) (V : α → β → Prop) (R : ω → τ → Prop) (a : Action ω α)
    (b : Action τ β) : Prop :=
  ∀ s t, R s t → Agree L.failure V (a.after s).1 (b.after t).1 ∧ R (a.after s).2 (b.after t).2

/-- Related values beside related surroundings. -/
def Pairs (Q : σ → σ' → Prop) (R : ω → τ → Prop) (s : σ × ω) (t : σ' × τ) : Prop :=
  Q s.1 t.1 ∧ R s.2 t.2

/-- What two actions come to in related surroundings: values, or failures. -/
theorem Matches.cases {a : Action ω α} {b : Action τ β} (h : Matches L V R a b) {s : ω} {t : τ}
    (h_rel : R s t) :
    (∃ x y s' t', a.after s = (.ok x, s') ∧ b.after t = (.ok y, t') ∧ V x y ∧ R s' t') ∨
      ∃ f g s' t', a.after s = (.error f, s') ∧ b.after t = (.error g, t') ∧ L.failure f g ∧
        R s' t' := by
  obtain ⟨h_outcome, h_after⟩ := h s t h_rel
  rcases h_a : a.after s with ⟨x, s'⟩
  rcases h_b : b.after t with ⟨y, t'⟩
  rw [h_a, h_b] at h_outcome h_after
  dsimp only at h_outcome h_after
  cases h_outcome with
  | ok h_value => exact .inl ⟨_, _, s', t', rfl, rfl, h_value, h_after⟩
  | error h_failure => exact .inr ⟨_, _, s', t', rfl, rfl, h_failure, h_after⟩

theorem matches_give {x : Except Failure α} {y : Except Failure β} (h : Agree L.failure V x y) :
    Matches L V R (give x) (give y) :=
  fun _ _ h_rel => ⟨h, h_rel⟩

theorem Matches.bind {α' β' : Type} {W : α' → β' → Prop} {a : Action ω α} {b : Action τ β}
    {k : α → Action ω α'} {l : β → Action τ β'} (h : Matches L V R a b)
    (h_next : ∀ x y, V x y → Matches L W R (k x) (l y)) : Matches L W R (a >>= k) (b >>= l) := by
  intro s t h_rel
  rw [after_bind, after_bind]
  rcases h.cases h_rel with
    ⟨x, y, s', t', h_a, h_b, h_value, h_rel'⟩ | ⟨f, g, s', t', h_a, h_b, h_alike, h_rel'⟩
  · rw [h_a, h_b]
    exact h_next x y h_value s' t' h_rel'
  · rw [h_a, h_b]
    exact ⟨.error h_alike, h_rel'⟩

end Action

open ImageIntake.Action

/-! ## Sources and requests -/

variable {ω τ : Type}

namespace Source

/-- The same source with other locators. -/
def relocated (endpoint : Url) (url : Option Url) (source : Source) : Source :=
  { source with endpoint, url }

@[simp] theorem relocated_endpoint (endpoint : Url) (url : Option Url) (source : Source) :
    (source.relocated endpoint url).endpoint = endpoint := rfl

@[simp] theorem relocated_contentLength (endpoint : Url) (url : Option Url) (source : Source) :
    (source.relocated endpoint url).contentLength = source.contentLength := rfl

@[simp] theorem relocated_contentType (endpoint : Url) (url : Option Url) (source : Source) :
    (source.relocated endpoint url).contentType = source.contentType := rfl

@[simp] theorem relocated_scratchFileName (endpoint : Url) (url : Option Url) (source : Source) :
    (source.relocated endpoint url).scratchFileName = source.scratchFileName := rfl

@[simp] theorem relocated_readers (endpoint : Url) (url : Option Url) (source : Source) :
    (source.relocated endpoint url).readers = source.readers := rfl

@[simp] theorem relocated_released (endpoint : Url) (url : Option Url) (source : Source) :
    (source.relocated endpoint url).released = source.released := rfl

@[simp] theorem relocated_once (endpoint : Url) (url : Option Url) (source : Source) :
    (source.relocated endpoint url).once = source.once := rfl

/-- Sources that are the same but for locators that are alike. -/
def Alike (L : Likeness) (source other : Source) : Prop :=
  ∃ endpoint url, L.url source.endpoint endpoint ∧ Option.Rel L.url source.url url ∧
    other = source.relocated endpoint url

end Source

/-- Requests that are the same but for sources that are alike. -/
def Conversion.Request.Alike (L : Likeness) (r s : Conversion.Request) : Prop :=
  ∃ source, L.url r.source source ∧ s = { r with source }

/-- Collaborators each of whom matches its counterpart among the others. -/
structure Collaborators.Matches (L : Likeness) (R : ω → τ → Prop) (env : Collaborators ω)
    (other : Collaborators τ) : Prop where
  record : ∀ r s t, R s t → R (env.record r s) (other.record r t)
  classify : ∀ n, (env.classify n).Matches L Eq R (other.classify n)
  closeReaders : env.closeReaders.Matches L Eq R other.closeReaders
  closeStream : env.closeStream.Matches L Eq R other.closeStream
  usableSpace : ∀ path, (env.usableSpace path).Matches L Eq R (other.usableSpace path)
  convert : ∀ request request', request.Alike L request' →
    (env.convert request).Matches L Eq R (other.convert request')
  cancel : env.cancel.Matches L Eq R other.cancel

namespace Source

variable {L : Likeness}

theorem located_alike {source other : Source} (h : source.Alike L other) :
    source.located.Alike L other.located := by
  obtain ⟨endpoint, url, h_endpoint, h_url, rfl⟩ := h
  refine ⟨endpoint, some (url.getD endpoint), h_endpoint, ?_, rfl⟩
  generalize h_known : source.url = known at h_url
  unfold located
  rw [h_known]
  cases h_url with
  | none => exact .some h_endpoint
  | some h_url => exact .some h_url

theorem requestFor_alike {source other : Source} (h : source.Alike L other)
    (operation dest : String) :
    Agree L.failure (Conversion.Request.Alike L) (source.requestFor operation dest)
      (other.requestFor operation dest) := by
  obtain ⟨endpoint, url, h_endpoint, h_url, rfl⟩ := h
  unfold requestFor
  rw [relocated_readers]
  cases source.readers with
  | none => exact .error (L.refl _)
  | some readers =>
    dsimp only
    by_cases h_dest : dest = ""
    · rw [Conversion.Request.make, Conversion.Request.make, dif_pos h_dest, dif_pos h_dest]
      exact .error (L.refl _)
    · rw [Conversion.Request.make, Conversion.Request.make, dif_neg h_dest, dif_neg h_dest]
      dsimp only
      cases filterFor readers with
      | error f => exact .error (L.refl f)
      | ok filter => cases filter <;> exact .ok ⟨endpoint, h_endpoint, rfl⟩

/-! ## Operations -/

variable {R : ω → τ → Prop} {env : Collaborators ω} {other : Collaborators τ}
  (h_env : env.Matches L R other)
include h_env

theorem matches_build :
    (build env).Matches L Eq (Pairs (Source.Alike L) R) (build other) := by
  rintro ⟨source, s⟩ ⟨_, t⟩ ⟨⟨endpoint, url, h_endpoint, h_url, rfl⟩, h_rel⟩
  rw [after_build, after_build, relocated_readers]
  cases source.readers with
  | some readers => exact ⟨.ok rfl, ⟨endpoint, url, h_endpoint, h_url, rfl⟩, h_rel⟩
  | none =>
    dsimp only
    rw [relocated_contentLength]
    rcases (h_env.classify source.contentLength).cases h_rel with
      ⟨readers, _, s', t', h_s, h_t, rfl, h_rel'⟩ | ⟨f, g, s', t', h_s, h_t, h_alike, h_rel'⟩
    · rw [h_s, h_t]
      exact ⟨.ok rfl, ⟨endpoint, url, h_endpoint, h_url, rfl⟩, h_rel'⟩
    · rw [h_s, h_t]
      dsimp only
      rw [← L.endsProgram h_alike]
      by_cases h_ends : f.endsProgram
      · rw [if_pos h_ends, if_pos h_ends]
        exact ⟨.error h_alike, ⟨endpoint, url, h_endpoint, h_url, rfl⟩, h_rel'⟩
      · have h_noted := h_env.record (readersFailed f) _ _ h_rel'
        have h_told : readersFailed g = readersFailed f := by
          rw [readersFailed, readersFailed, L.text h_alike]
        have h_caused := L.cause .classification ("unable to classify image stream: " ++ f.text)
          h_alike
        rw [if_neg h_ends, if_neg h_ends, h_told, unclassifiable, unclassifiable,
          ← L.text h_alike]
        exact ⟨.error h_caused, ⟨endpoint, url, h_endpoint, h_url, rfl⟩, h_noted⟩

theorem matches_info : (info env).Matches L Eq (Pairs (Source.Alike L) R) (info other) := by
  rintro ⟨source, s⟩ ⟨source', t⟩ ⟨h_source, h_rel⟩
  obtain ⟨endpoint, url, h_endpoint, h_url, rfl⟩ := id h_source
  rw [after_info, after_info, relocated_contentType]
  by_cases h_type : source.contentType ≠ .kubevirt
  · rw [if_pos h_type, if_pos h_type]
    exact ⟨.error (L.refl _), h_source, h_rel⟩
  · rw [if_neg h_type, if_neg h_type]
    rcases (matches_build h_env).cases (show Pairs (Source.Alike L) R (source, s) (_, t) from
      ⟨h_source, h_rel⟩) with
      ⟨readers, _, s', t', h_s, h_t, rfl, h_built, h_rel'⟩ |
      ⟨f, g, s', t', h_s, h_t, h_alike, h_rel'⟩
    · rw [h_s, h_t]
      dsimp only
      cases filterFor readers with
      | error f => exact ⟨.error (L.refl f), h_built, h_rel'⟩
      | ok filter =>
        dsimp only
        rw [L.redacted h_endpoint, relocated_endpoint, relocated_contentLength]
        cases endpoint.redacted with
        | error fault => exact ⟨.error (L.refl _), located_alike h_built, h_rel'⟩
        | ok shown => exact ⟨.ok rfl, located_alike h_built, h_env.record _ _ _ h_rel'⟩
    · rw [h_s, h_t]
      exact ⟨.error h_alike, h_rel'⟩

omit h_env in
theorem notConverted_alike {f g : Failure} (h : L.failure f g) :
    L.failure (notConverted f) (notConverted g) := by
  unfold notConverted
  rw [← L.isPipeline h, ← L.endsProgram h]
  split
  · exact h
  · rw [← L.text h]
    exact L.cause _ _ h

theorem matches_convertTo (operation dest : String) :
    (convertTo env operation dest).Matches L Eq (Pairs (Source.Alike L) R)
      (convertTo other operation dest) := by
  rintro ⟨source, s⟩ ⟨source', t⟩ ⟨h_source, h_rel⟩
  have h_request := requestFor_alike h_source operation dest
  rw [after_convertTo, after_convertTo]
  dsimp only at h_source h_request ⊢
  generalize source.requestFor operation dest = x at h_request ⊢
  generalize source'.requestFor operation dest = y at h_request ⊢
  cases h_request with
  | error h_alike => exact ⟨.error h_alike, h_source, h_rel⟩
  | ok h_alike =>
    dsimp only
    rcases (h_env.convert _ _ h_alike).cases h_rel with
      ⟨_, _, s', t', h_s, h_t, -, h_rel'⟩ | ⟨f, g, s', t', h_s, h_t, h_failure, h_rel'⟩
    · rw [h_s, h_t]
      exact ⟨.ok rfl, h_source, h_rel'⟩
    · rw [h_s, h_t]
      exact ⟨.error (notConverted_alike h_failure), h_source, h_rel'⟩

theorem matches_transfer (path : String) :
    (transfer env path).Matches L Eq (Pairs (Source.Alike L) R) (transfer other path) := by
  rintro ⟨source, s⟩ ⟨source', t⟩ ⟨h_source, h_rel⟩
  have h_name : source'.scratchFileName = source.scratchFileName := by
    obtain ⟨endpoint, url, -, -, rfl⟩ := h_source
    exact relocated_scratchFileName endpoint url source
  rw [after_transfer, after_transfer]
  dsimp only at h_source h_name ⊢
  rcases (h_env.usableSpace path).cases h_rel with
    ⟨size, _, s', t', h_s, h_t, rfl, h_rel'⟩ | ⟨f, g, s', t', h_s, h_t, h_alike, h_rel'⟩
  · rw [h_s, h_t, h_name]
    dsimp only
    by_cases h_size : size ≤ 0
    · rw [if_pos h_size, if_pos h_size]
      exact ⟨.error (L.refl _), h_source, h_rel'⟩
    · rw [if_neg h_size, if_neg h_size]
      exact matches_convertTo h_env _ _ (source, s') (source', t') ⟨h_source, h_rel'⟩
  · rw [h_s, h_t]
    exact ⟨.error h_alike, h_source, h_rel'⟩

theorem matches_cancel : (cancel env).Matches L Eq (Pairs (Source.Alike L) R) (cancel other) := by
  rintro ⟨source, s⟩ ⟨_, t⟩ ⟨⟨endpoint, url, h_endpoint, h_url, rfl⟩, h_rel⟩
  rw [after_cancel, after_cancel, relocated_once]
  by_cases h_fired : source.once.fired
  · rw [if_pos h_fired, if_pos h_fired]
    exact ⟨.ok rfl, ⟨endpoint, url, h_endpoint, h_url, rfl⟩, h_rel⟩
  · rw [if_neg h_fired, if_neg h_fired]
    rcases h_env.cancel.cases h_rel with
      ⟨_, _, s', t', h_s, h_t, -, h_rel'⟩ | ⟨f, g, s', t', h_s, h_t, h_alike, h_rel'⟩
    · rw [h_s, h_t]
      exact ⟨.ok rfl, ⟨endpoint, url, h_endpoint, h_url, rfl⟩, h_rel'⟩
    · rw [h_s, h_t]
      exact ⟨.error h_alike, ⟨endpoint, url, h_endpoint, h_url, rfl⟩, h_rel'⟩

theorem matches_release : (release env).Matches L Eq (Pairs (Source.Alike L) R) (release other) := by
  rintro ⟨source, s⟩ ⟨_, t⟩ ⟨⟨endpoint, url, h_endpoint, h_url, rfl⟩, h_rel⟩
  rw [after_release, after_release, relocated_released, relocated_readers]
  by_cases h_released : source.released
  · rw [if_pos h_released, if_pos h_released]
    exact ⟨.ok rfl, ⟨endpoint, url, h_endpoint, h_url, rfl⟩, h_rel⟩
  · rw [if_neg h_released, if_neg h_released]
    by_cases h_readers : source.readers.isSome
    · obtain ⟨h_outcome, h_after⟩ := h_env.closeReaders s t h_rel
      rw [if_pos h_readers, if_pos h_readers]
      exact ⟨h_outcome, ⟨endpoint, url, h_endpoint, h_url, rfl⟩, h_after⟩
    · obtain ⟨h_outcome, h_after⟩ := h_env.closeStream s t h_rel
      rw [if_neg h_readers, if_neg h_readers]
      exact ⟨h_outcome, ⟨endpoint, url, h_endpoint, h_url, rfl⟩, h_after⟩

theorem matches_close : (close env).Matches L Eq (Pairs (Source.Alike L) R) (close other) := by
  rintro ⟨source, s⟩ ⟨source', t⟩ h_rel
  rw [after_close, after_close]
  rcases (matches_release h_env).cases h_rel with
    ⟨_, _, state, state', h_s, h_t, -, h_rel'⟩ | ⟨f, g, state, state', h_s, h_t, h_alike, h_rel'⟩
  all_goals
    rw [h_s, h_t]
    obtain ⟨h_outcome, h_cancelled⟩ := matches_cancel h_env state state' h_rel'
    dsimp only
  · exact ⟨h_outcome.map fun _ _ _ => rfl, h_cancelled⟩
  · rw [← L.endsProgram h_alike]
    by_cases h_ends : f.endsProgram
    · rw [if_pos h_ends, if_pos h_ends]
      exact ⟨.error h_alike, h_rel'⟩
    · rw [if_neg h_ends, if_neg h_ends, notReleased, notReleased, ← L.text h_alike]
      exact ⟨h_outcome.bind fun _ _ _ => .error (L.cause _ _ h_alike), h_cancelled⟩

end Source

end ImageIntake
