/-
  ImageIntake.Proofs.Source.Tracking

  Actions that track each other: done in surroundings that are related, they
  come to the same outcome and leave the surroundings related.  Tracking is matching
  where nothing but the same counts as alike.  Collaborators who track each other make
  for sources that cannot be told apart by any call (`tracks_perform`), nor by any number
  of calls in a row (`beside_afterCalls`).
-/

import ImageIntake.Proofs.Source.Call
import ImageIntake.Proofs.Source.Matching

namespace ImageIntake

namespace Action

variable {ω τ σ α β : Type} {R : ω → τ → Prop}

/-! ## Actions -/

/-- Two actions come to the same in related surroundings, and leave them related. -/
def Tracks (R : ω → τ → Prop) (a : Action ω α) (b : Action τ α) : Prop :=
  ∀ s t, R s t → (a.after s).1 = (b.after t).1 ∧ R (a.after s).2 (b.after t).2

/-- The same value beside related surroundings. -/
def Beside (R : ω → τ → Prop) (s : σ × ω) (t : σ × τ) : Prop := s.1 = t.1 ∧ R s.2 t.2

theorem Tracks.map {a : Action ω α} {b : Action τ α} (k : α → β) (h : Tracks R a b) :
    Tracks R (k <$> a) (k <$> b) := by
  intro s t h_rel
  obtain ⟨h_outcome, h_after⟩ := h s t h_rel
  simp only [after_map]
  exact ⟨congrArg (Except.map k) h_outcome, h_after⟩

theorem Tracks.matches {a : Action ω α} {b : Action τ α} (h : Tracks R a b) :
    Matches .same Eq R a b := by
  intro s t h_rel
  obtain ⟨h_outcome, h_after⟩ := h s t h_rel
  exact ⟨.of_eq (fun _ => rfl) h_outcome, h_after⟩

end Action

open ImageIntake.Action

/-! ## Collaborators -/

variable {ω τ : Type} {R : ω → τ → Prop} {env : Collaborators ω} {other : Collaborators τ}

/-- Collaborators each of whom tracks its counterpart among the others. -/
structure Collaborators.Tracks (R : ω → τ → Prop) (env : Collaborators ω)
    (other : Collaborators τ) : Prop where
  record : ∀ r s t, R s t → R (env.record r s) (other.record r t)
  classify : ∀ n, (env.classify n).Tracks R (other.classify n)
  closeReaders : env.closeReaders.Tracks R other.closeReaders
  closeStream : env.closeStream.Tracks R other.closeStream
  usableSpace : ∀ path, (env.usableSpace path).Tracks R (other.usableSpace path)
  convert : ∀ request, (env.convert request).Tracks R (other.convert request)
  cancel : env.cancel.Tracks R other.cancel

theorem Collaborators.Tracks.matches (h : env.Tracks R other) : env.Matches .same R other where
  record := h.record
  classify n := (h.classify n).matches
  closeReaders := h.closeReaders.matches
  closeStream := h.closeStream.matches
  usableSpace path := (h.usableSpace path).matches
  convert := by
    rintro request _ ⟨_, rfl, rfl⟩
    exact (h.convert request).matches
  cancel := h.cancel.matches

namespace Source

/-! ## Operations of a source -/

theorem eq_of_rel {α : Type} {x y : Option α} (h : Option.Rel Eq x y) : x = y := by
  cases h with
  | none => rfl
  | some h_eq => rw [h_eq]

theorem alike_same (source : Source) : source.Alike .same source := by
  refine ⟨source.endpoint, source.url, rfl, ?_, rfl⟩
  cases source.url with
  | none => exact .none
  | some url => exact .some rfl

theorem eq_of_alike_same {source other : Source} (h : source.Alike .same other) :
    source = other := by
  obtain ⟨endpoint, url, h_endpoint, h_url, rfl⟩ := h
  have h_same : source.url = url := eq_of_rel h_url
  have h_endpoint : source.endpoint = endpoint := h_endpoint
  rw [← h_same, ← h_endpoint]
  rfl

theorem tracks_of_matches {α : Type} {a : Operation ω α} {b : Operation τ α}
    (h : a.Matches .same Eq (Pairs (Source.Alike .same) R) b) : a.Tracks (Beside R) b := by
  rintro ⟨source, s⟩ ⟨_, t⟩ ⟨rfl, h_rel⟩
  obtain ⟨h_outcome, h_source, h_after⟩ := h (source, s) (source, t) ⟨alike_same source, h_rel⟩
  exact ⟨h_outcome.eq, eq_of_alike_same h_source, h_after⟩

/-- A call on a source comes to the same with collaborators who track each other. -/
theorem tracks_perform (h_env : env.Tracks R other) (call : Call) :
    (call.perform env).Tracks (Beside R) (call.perform other) := by
  have h_matches := h_env.matches
  cases call with
  | info => exact (tracks_of_matches (matches_info h_matches)).map _
  | transfer path => exact (tracks_of_matches (matches_transfer h_matches path)).map _
  | transferFile path => exact (tracks_of_matches (matches_convertTo h_matches _ path)).map _
  | process => exact fun _ _ h => ⟨rfl, h⟩
  | url => exact fun s t h => ⟨by rw [after_perform_url, after_perform_url, h.1], h⟩
  | cancel => exact (tracks_of_matches (matches_cancel h_matches)).map _
  | close => exact (tracks_of_matches (matches_close h_matches)).map _

/-- However often a source is called, it is the same with collaborators who track each other. -/
theorem beside_afterCalls (h_env : env.Tracks R other) (calls : List Call) {state : Source × ω}
    {state' : Source × τ} (h : Beside R state state') :
    Beside R (afterCalls env calls state) (afterCalls other calls state') := by
  induction calls generalizing state state' with
  | nil => exact h
  | cons call rest ih =>
    obtain ⟨-, h_after⟩ := tracks_perform h_env call state state' h
    exact ih h_after

end Source

end ImageIntake
