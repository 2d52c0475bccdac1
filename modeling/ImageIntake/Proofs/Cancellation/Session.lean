/-
  ImageIntake.Proofs.Cancellation.Session

  A token and its single-fire action under any sequence of calls.  Until somebody cancels,
  the releases only wait, in the order of their registrations (`Waits`); from then on the
  token holds nothing and a release runs as soon as it is registered (`AtOnce`).  Which of
  the two holds is told by the calls so far (`Sound`), as every call keeps it
  (`Sound.snoc`).  Hence every registration that is not taken back runs once
  (`registrations_run_once`).
-/

import Mathlib.Data.List.Forall2
import Mathlib.Data.List.Induction
import ImageIntake.Proofs.Cancellation.Release

namespace ImageIntake.Cancellation

/-! ## Releases -/

namespace Release

/-- A release that may fail, but does not ask the program to end. -/
def Calm (release : Release) : Prop := ∀ f, release.run.2 = some f → f.endsProgram = false

/-- What comes of a release on a spent token, whatever it does there, and nothing else can. -/
def ComesTo (release : Release) (trail : List String) (failure : Option Failure) : Prop :=
  ∀ ran f token, Enacts .spent (.run release) ran f token ↔
    ran = trail ∧ f = failure ∧ token = .spent

theorem comesTo_run (release : Release) : release.ComesTo release.run.1 release.run.2 := by
  intro ran f token
  rw [enacts_iff, Prod.ext_iff, and_assoc, eq_comm (a := release.run.1), eq_comm (a := release.run.2)]

theorem runEach_of_calm {releases : List Release} (h : ∀ release ∈ releases, release.Calm) :
    runEach releases = (releases.flatMap (·.run.1), none) := by
  induction releases with
  | nil => rfl
  | cons release rest ih =>
    have h_calm : release.run.2.filter (·.endsProgram) = none := by
      cases h_failure : release.run.2 with
      | none => rfl
      | some f =>
        have h_f := h release List.mem_cons_self f h_failure
        rw [Option.filter_some, h_f]
        rfl
    have h_rest := ih fun other h_mem => h other (List.mem_cons_of_mem _ h_mem)
    rw [runEach]
    dsimp only
    rw [h_calm, h_rest]
    rfl

end Release

/-- Of what is pending, the earliest registration of a release is dropped, and nothing if there is
none. -/
def EarliestDropped (release : Release) (pending pending' : List Release) : Prop :=
  (pending' = pending ∧ ∀ other ∈ pending, (other == release) = false) ∨
    ∃ front dropped back, pending = front ++ dropped :: back ∧ (dropped == release) = true ∧
      (∀ other ∈ front, (other == release) = false) ∧ pending' = front ++ back

theorem earliestDropped_erase (release : Release) (pending : List Release) :
    EarliestDropped release pending (pending.erase release) := by
  rw [List.erase_eq_eraseP']
  by_cases h_any : ∃ other ∈ pending, (other == release) = true
  · obtain ⟨other, h_mem, h_same⟩ := h_any
    obtain ⟨dropped, front, back, h_front, h_dropped, h_split, h_erase⟩ :=
      List.exists_of_eraseP (p := (· == release)) h_mem h_same
    refine .inr ⟨front, dropped, back, h_split, h_dropped, fun other h_other => ?_, h_erase⟩
    exact Bool.eq_false_iff.mpr (h_front other h_other)
  · have h_none : ∀ other ∈ pending, (other == release) = false := fun other h_mem =>
      Bool.eq_false_iff.mpr fun h_same => h_any ⟨other, h_mem, h_same⟩
    refine .inl ⟨List.eraseP_of_forall_not fun other h_mem => ?_, h_none⟩
    exact Bool.eq_false_iff.mp (h_none other h_mem)

namespace Session

/-! ## Calls -/

/-- One thing asked of a token or of its single-fire action. -/
inductive Call where
  | register (release : Release)
  | withdraw (release : Release)
  | cancel
  | isCancelled
  | cancelOnce
  | fired

/-- What is answered. -/
inductive Answer where
  | done
  | told (yes : Bool)

/-- What is done on a call. -/
def Call.perform (s : Session) : Call → Except Failure Answer × Session
  | .register release => ((s.register release).1.map fun _ => .done, (s.register release).2)
  | .withdraw release => (.ok .done, s.withdraw release)
  | .cancel => (s.cancel.1.map fun _ => .done, s.cancel.2)
  | .isCancelled => (.ok (.told s.token.cancelled), s)
  | .cancelOnce => (s.cancelOnce.1.map .told, s.cancelOnce.2)
  | .fired => (.ok (.told s.once.fired), s)

/-- Whether a call cancels the token. -/
def Call.Cancels (call : Call) : Prop := call = .cancel ∨ call = .cancelOnce

theorem Call.not_cancels {call : Call} (h_cancel : call ≠ .cancel) (h_once : call ≠ .cancelOnce) :
    ¬call.Cancels :=
  fun h => h.elim h_cancel h_once

/-- A token and its action after some calls, from the beginning. -/
def afterCalls (calls : List Call) : Session :=
  calls.foldl (fun s call => (call.perform s).2) {}

theorem afterCalls_snoc (calls : List Call) (call : Call) :
    afterCalls (calls ++ [call]) = (call.perform (afterCalls calls)).2 := by
  rw [afterCalls, List.foldl_append]
  rfl

/-! ## What calls come to -/

section

variable {s : Session}

theorem register_waiting (h : s.token.cancelled = false) (release : Release) :
    s.register release =
      (.ok (), { s with token := { s.token with pending := s.token.pending ++ [release] } }) := by
  have h_not : ¬s.token.cancelled = true := Bool.eq_false_iff.mp h
  rw [register, Token.register, if_neg h_not]

theorem register_spent (h : s.token = .spent) (release : Release) :
    s.register release =
      (release.run.2.elim (.ok ()) .error, { s with ran := s.ran ++ release.run.1 }) := by
  have h_token : s.token.register release = (s.token, true) := by
    rw [h]
    rfl
  rw [register, h_token]
  dsimp only
  cases release.run.2 <;> rfl

theorem cancel_waiting (h : s.token.cancelled = false)
    (h_calm : ∀ release ∈ s.token.pending, release.Calm) :
    s.cancel = (.ok (),
      { s with token := .spent, ran := s.ran ++ s.token.pending.flatMap (·.run.1) }) := by
  have h_token : s.token.cancel = (.spent, s.token.pending) := by
    rw [Token.cancel, h]
    rfl
  rw [cancel, h_token]
  dsimp only
  rw [Release.runEach_of_calm h_calm]

theorem cancel_spent (h : s.token = .spent) : s.cancel = (.ok (), s) := by
  have h_token : s.token.cancel = (s.token, []) := by
    rw [h]
    rfl
  rw [cancel, h_token]
  dsimp only
  rw [Release.runEach]
  dsimp only
  rw [List.append_nil]

/-- The action cancels the token the first time, and does nothing later. -/
theorem cancelOnce_eq (h_calm : s.token.cancelled = false → ∀ release ∈ s.token.pending, release.Calm)
    (h_spent : s.token.cancelled = true → s.token = .spent) :
    s.cancelOnce =
      if s.once.fired then (.ok false, s) else (.ok true, { s.cancel.2 with once := ⟨true⟩ }) := by
  have h_cancel : s.cancel.1 = .ok () := by
    cases h_token : s.token.cancelled with
    | false => rw [cancel_waiting h_token (h_calm h_token)]
    | true => rw [cancel_spent (h_spent h_token)]
  rw [cancelOnce, Once.cancel]
  by_cases h_fired : s.once.fired = true
  · rw [if_pos h_fired, if_pos h_fired]
    dsimp only
    rw [Release.runEach]
    dsimp only
    rw [List.append_nil]
  · rw [if_neg h_fired, if_neg h_fired]
    dsimp only
    rw [cancel] at h_cancel ⊢
    dsimp only at h_cancel ⊢
    cases h_each : (Release.runEach s.token.cancel.2).2 with
    | none => rfl
    | some f =>
      rw [h_each] at h_cancel
      cases h_cancel

end

/-! ## Any sequence of calls -/

/-- What a token and its action are like after some calls. -/
structure Sound (calls : List Call) (s : Session) : Prop where
  waiting : (∀ call ∈ calls, ¬call.Cancels) → s.token.cancelled = false ∧ s.ran = []
  spent : (∃ call ∈ calls, call.Cancels) → s.token = .spent
  fired : s.once.fired = true ↔ .cancelOnce ∈ calls
  registered : ∀ release ∈ s.token.pending, .register release ∈ calls

namespace Sound

variable {calls : List Call} {s : Session} (h : Sound calls s)
include h

theorem waiting_or_spent :
    ((∀ call ∈ calls, ¬call.Cancels) ∧ s.token.cancelled = false) ∨
      ((∃ call ∈ calls, call.Cancels) ∧ s.token = .spent) := by
  by_cases h_any : ∃ call ∈ calls, call.Cancels
  · exact .inr ⟨h_any, h.spent h_any⟩
  · have h_none : ∀ call ∈ calls, ¬call.Cancels := fun call h_mem h_cancels =>
      h_any ⟨call, h_mem, h_cancels⟩
    exact .inl ⟨h_none, (h.waiting h_none).1⟩

/-- A token that is cancelled was so by one of the calls. -/
theorem spent_of_cancelled (h_token : s.token.cancelled = true) : s.token = .spent := by
  rcases h.waiting_or_spent with ⟨-, h_not⟩ | ⟨-, h_spent⟩
  · rw [h_token] at h_not
    cases h_not
  · exact h_spent

theorem cancelled_of_fired (h_fired : s.once.fired = true) : s.token.cancelled = true := by
  rw [h.spent ⟨.cancelOnce, h.fired.mp h_fired, .inr rfl⟩]
  rfl

/-- A call that does not cancel, and leaves the token as waiting or as spent as it was. -/
theorem snoc_other {call : Call} {s' : Session} (h_call : ¬call.Cancels)
    (h_once : s'.once = s.once)
    (h_waiting : s.token.cancelled = false → s'.token.cancelled = false ∧ s'.ran = s.ran)
    (h_spent : s.token = .spent → s'.token = .spent)
    (h_pending : ∀ release ∈ s'.token.pending,
      release ∈ s.token.pending ∨ call = .register release) : Sound (calls ++ [call]) s' := by
  constructor
  · intro h_none
    obtain ⟨h_token, h_ran⟩ := h.waiting fun other h_mem => h_none other (List.mem_append_left _ h_mem)
    obtain ⟨h_token', h_ran'⟩ := h_waiting h_token
    exact ⟨h_token', h_ran'.trans h_ran⟩
  · rintro ⟨other, h_mem, h_cancels⟩
    rcases List.mem_append.mp h_mem with h_mem | h_last
    · exact h_spent (h.spent ⟨other, h_mem, h_cancels⟩)
    · rw [List.mem_singleton.mp h_last] at h_cancels
      exact absurd h_cancels h_call
  · have h_ne : Call.cancelOnce ≠ call := fun h_eq => h_call (.inr h_eq.symm)
    rw [h_once, h.fired, List.mem_append, List.mem_singleton, or_iff_left h_ne]
  · intro release h_mem
    rw [List.mem_append, List.mem_singleton]
    rcases h_pending release h_mem with h_before | rfl
    · exact .inl (h.registered release h_before)
    · exact .inr rfl

/-- A call that cancels leaves the token spent. -/
theorem snoc_cancels {call : Call} {s' : Session} (h_call : call.Cancels)
    (h_spent : s'.token = .spent)
    (h_fired : s'.once.fired = true ↔ s.once.fired = true ∨ call = .cancelOnce) :
    Sound (calls ++ [call]) s' := by
  have h_last : call ∈ calls ++ [call] := List.mem_append_right _ (List.mem_singleton.mpr rfl)
  constructor
  · intro h_none
    exact absurd h_call (h_none call h_last)
  · exact fun _ => h_spent
  · rw [h_fired, h.fired, List.mem_append, List.mem_singleton, eq_comm]
  · intro release h_mem
    rw [h_spent] at h_mem
    cases h_mem

variable (h_calm : ∀ release, .register release ∈ calls → release.Calm)
include h_calm

theorem calm_pending : ∀ release ∈ s.token.pending, release.Calm :=
  fun release h_mem => h_calm release (h.registered release h_mem)

theorem token_cancel : s.cancel.1 = .ok () ∧ s.cancel.2.token = .spent ∧ s.cancel.2.once = s.once := by
  rcases h.waiting_or_spent with ⟨-, h_waiting⟩ | ⟨-, h_spent⟩
  · rw [cancel_waiting h_waiting (h.calm_pending h_calm)]
    exact ⟨rfl, rfl, rfl⟩
  · rw [cancel_spent h_spent]
    exact ⟨rfl, h_spent, rfl⟩

theorem cancelOnce :
    s.cancelOnce =
      if s.once.fired then (.ok false, s) else (.ok true, { s.cancel.2 with once := ⟨true⟩ }) :=
  cancelOnce_eq (fun _ => h.calm_pending h_calm) h.spent_of_cancelled

/-- One more call keeps a token and its action as the calls say. -/
theorem snoc (call : Call) : Sound (calls ++ [call]) (call.perform s).2 := by
  obtain ⟨-, h_spent, h_once⟩ := h.token_cancel h_calm
  cases call with
  | register release =>
    -- Before the cancellation the release waits; afterwards it runs at once and leaves the token alone.
    rcases h.waiting_or_spent with ⟨-, h_waiting⟩ | ⟨-, h_spent⟩
    · rw [Call.perform, register_waiting h_waiting]
      refine h.snoc_other (Call.not_cancels nofun nofun) rfl (fun _ => ⟨h_waiting, rfl⟩) ?_ ?_
      · intro h_now
        rw [h_now] at h_waiting
        cases h_waiting
      · intro other h_mem
        rcases List.mem_append.mp h_mem with h_before | h_new
        · exact .inl h_before
        · exact .inr (congrArg _ (List.mem_singleton.mp h_new).symm)
    · rw [Call.perform, register_spent h_spent]
      refine h.snoc_other (Call.not_cancels nofun nofun) rfl ?_ id fun _ h_mem => .inl h_mem
      intro h_not
      rw [h_spent] at h_not
      cases h_not
  | withdraw release =>
    refine h.snoc_other (Call.not_cancels nofun nofun) rfl (fun h_not => ⟨h_not, rfl⟩) ?_ ?_
    · intro h_spent
      show s.token.withdraw release = .spent
      rw [h_spent]
      rfl
    · exact fun other h_mem => .inl (List.mem_of_mem_erase h_mem)
  | isCancelled =>
    exact h.snoc_other (Call.not_cancels nofun nofun) rfl (fun h_not => ⟨h_not, rfl⟩) id fun _ => .inl
  | fired =>
    exact h.snoc_other (Call.not_cancels nofun nofun) rfl (fun h_not => ⟨h_not, rfl⟩) id fun _ => .inl
  | cancel =>
    refine h.snoc_cancels (.inl rfl) h_spent ?_
    show s.cancel.2.once.fired = true ↔ _
    rw [h_once]
    exact ⟨.inl, fun h_or => h_or.resolve_right nofun⟩
  | cancelOnce =>
    rw [Call.perform, h.cancelOnce h_calm]
    cases h_fired : s.once.fired with
    | true =>
      refine h.snoc_cancels (.inr rfl) (h.spent_of_cancelled (h.cancelled_of_fired h_fired)) ?_
      exact ⟨.inl, fun _ => h_fired⟩
    | false =>
      refine h.snoc_cancels (.inr rfl) h_spent ?_
      exact ⟨fun _ => .inr rfl, fun _ => rfl⟩

end Sound

/-- Whatever was called, a token and its action are as the calls say. -/
theorem sound_afterCalls {calls : List Call}
    (h_calm : ∀ release, .register release ∈ calls → release.Calm) :
    Sound calls (afterCalls calls) := by
  induction calls using List.reverseRecOn with
  | nil =>
    refine ⟨fun _ => ⟨rfl, rfl⟩, ?_, ⟨nofun, nofun⟩, nofun⟩
    rintro ⟨_, ⟨⟩, _⟩
  | append_singleton calls call ih =>
    have h_before : ∀ release, .register release ∈ calls → release.Calm :=
      fun release h_mem => h_calm release (List.mem_append_left _ h_mem)
    rw [afterCalls_snoc]
    exact (ih h_before).snoc h_before call

/-! ## The law of a call -/

/-- What a call comes to as long as nobody has cancelled. -/
structure Waits (call : Call) (before : Session) (answer : Except Failure Answer)
    (after : Session) : Prop where
  none_ran : before.ran = []
  register : ∀ release, call = .register release → answer = .ok .done ∧ after =
    { before with token := { before.token with pending := before.token.pending ++ [release] } }
  withdraw : ∀ release, call = .withdraw release → answer = .ok .done ∧ ∃ pending',
    EarliestDropped release before.token.pending pending' ∧
      after = { before with token := { before.token with pending := pending' } }
  /-- Each pending registration runs, in order, whatever the others do. -/
  cancel : call.Cancels → answer.isOk = true ∧ after.token = .spent ∧
    (∃ trails, List.Forall₂ (fun release trail => ∃ failure, Release.ComesTo release trail failure)
        before.token.pending trails ∧ after.ran = trails.flatten) ∧
    ((∀ release ∈ before.token.pending, release.registers = []) →
      after.ran = before.token.pending.map (·.name))
  ask : call = .isCancelled ∨ call = .fired → answer = .ok (.told false) ∧ after = before

/-- What a call comes to once somebody has cancelled. -/
structure AtOnce (call : Call) (before : Session) (answer : Except Failure Answer)
    (after : Session) : Prop where
  spent : before.token = .spent ∧ after.token = .spent
  register : ∀ release, call = .register release → ∃ trail failure,
    Release.ComesTo release trail failure ∧ (release.registers = [] → trail = [release.name]) ∧
      after.ran = before.ran ++ trail ∧ answer = failure.elim (.ok .done) .error
  /-- Nothing else runs a release, or fails. -/
  others : (∀ release, call ≠ .register release) → after.ran = before.ran ∧ answer.isOk = true
  ask : call = .isCancelled → answer = .ok (.told true)

section

variable {calls : List Call} {s : Session} (h : Sound calls s)
  (h_calm : ∀ release, .register release ∈ calls → release.Calm)
include h h_calm

theorem Sound.waits (h_none : ∀ call ∈ calls, ¬call.Cancels) (call : Call) :
    Waits call s (call.perform s).1 (call.perform s).2 := by
  obtain ⟨h_waiting, h_ran⟩ := h.waiting h_none
  have h_fired : s.once.fired = false := by
    rw [Bool.eq_false_iff, ne_eq, h.fired]
    exact fun h_mem => h_none _ h_mem (.inr rfl)
  have h_cancelled := cancel_waiting h_waiting (h.calm_pending h_calm)
  -- A release that comes to something does so however the others go on.
  have h_trails : List.Forall₂ (fun release trail => ∃ failure,
      Release.ComesTo release trail failure) s.token.pending (s.token.pending.map (·.run.1)) := by
    rw [List.forall₂_map_right_iff, List.forall₂_same]
    exact fun release _ => ⟨release.run.2, release.comesTo_run⟩
  have h_names : (∀ release ∈ s.token.pending, release.registers = []) →
      s.token.pending.flatMap (·.run.1) = s.token.pending.map (·.name) := by
    intro h_plain
    rw [List.map_eq_flatMap]
    refine List.flatMap_congr fun release h_mem => ?_
    rw [Release.run_of_registers_nil (h_plain release h_mem)]
  refine ⟨h_ran, ?_, ?_, ?_, ?_⟩
  · rintro release rfl
    rw [Call.perform, register_waiting h_waiting]
    exact ⟨rfl, rfl⟩
  · rintro release rfl
    exact ⟨rfl, _, earliestDropped_erase release s.token.pending, rfl⟩
  · rintro (rfl | rfl)
    · rw [Call.perform, h_cancelled]
      refine ⟨rfl, rfl, ⟨_, h_trails, ?_⟩, fun h_plain => ?_⟩
      · rw [h_ran]
        exact (List.flatMap_def ..)
      · rw [h_ran]
        exact h_names h_plain
    · rw [Call.perform, h.cancelOnce h_calm, h_fired, h_cancelled]
      refine ⟨rfl, rfl, ⟨_, h_trails, ?_⟩, fun h_plain => ?_⟩
      · show s.ran ++ _ = _
        rw [h_ran]
        exact (List.flatMap_def ..)
      · show s.ran ++ _ = _
        rw [h_ran]
        exact h_names h_plain
  · rintro (rfl | rfl)
    · rw [Call.perform, h_waiting]
      exact ⟨rfl, rfl⟩
    · rw [Call.perform, h_fired]
      exact ⟨rfl, rfl⟩

theorem Sound.atOnce (h_some : ∃ call ∈ calls, call.Cancels) (call : Call) :
    AtOnce call s (call.perform s).1 (call.perform s).2 := by
  have h_spent := h.spent h_some
  have h_after : (call.perform s).2.token = .spent := by
    obtain ⟨earlier, h_mem, h_cancels⟩ := h_some
    exact (h.snoc h_calm call).spent ⟨earlier, List.mem_append_left _ h_mem, h_cancels⟩
  refine ⟨⟨h_spent, h_after⟩, ?_, fun h_other => ?_, ?_⟩
  · rintro release rfl
    refine ⟨release.run.1, release.run.2, release.comesTo_run, fun h_plain => ?_, ?_⟩
    · rw [Release.run_of_registers_nil h_plain]
    · rw [Call.perform, register_spent h_spent]
      refine ⟨rfl, ?_⟩
      cases release.run.2 <;> rfl
  · cases call with
    | register release => exact absurd rfl (h_other release)
    | withdraw release => exact ⟨rfl, rfl⟩
    | isCancelled => exact ⟨rfl, rfl⟩
    | fired => exact ⟨rfl, rfl⟩
    | cancel =>
      rw [Call.perform, cancel_spent h_spent]
      exact ⟨rfl, rfl⟩
    | cancelOnce =>
      rw [Call.perform, h.cancelOnce h_calm, cancel_spent h_spent]
      split <;> exact ⟨rfl, rfl⟩
  · rintro rfl
    rw [Call.perform, h_spent]
    rfl

end

/-- Every registration that is not taken back runs once.  Before the first cancellation no release
runs, and taking one back drops its earliest pending registration alone; the first cancellation runs
the pending ones in order, whatever they do; later nothing is pending, a release that is registered
runs at once, and nothing else runs any.  The single-fire action says yes the first time only, and
has not fired unless the token is cancelled. -/
theorem registrations_run_once (earlier : List Call) (call : Call)
    (h_calm : ∀ release, .register release ∈ earlier ++ [call] → release.Calm) :
    ((∀ other ∈ earlier, ¬other.Cancels) →
      Waits call (afterCalls earlier) (call.perform (afterCalls earlier)).1
        (afterCalls (earlier ++ [call]))) ∧
    ((∃ other ∈ earlier, other.Cancels) →
      AtOnce call (afterCalls earlier) (call.perform (afterCalls earlier)).1
        (afterCalls (earlier ++ [call]))) ∧
    (call = .cancelOnce → ∃ first, (call.perform (afterCalls earlier)).1 = .ok (.told first) ∧
      (first = true ↔ .cancelOnce ∉ earlier)) ∧
    (call = .fired → ∃ fired, (call.perform (afterCalls earlier)).1 = .ok (.told fired) ∧
      (fired = true ↔ .cancelOnce ∈ earlier)) ∧
    ((afterCalls earlier).once.fired = true → (afterCalls earlier).token.cancelled = true) := by
  have h_before : ∀ release, .register release ∈ earlier → release.Calm :=
    fun release h_mem => h_calm release (List.mem_append_left _ h_mem)
  have h_sound := sound_afterCalls h_before
  rw [afterCalls_snoc]
  refine ⟨fun h_none => h_sound.waits h_before h_none call,
    fun h_some => h_sound.atOnce h_before h_some call, ?_, ?_, h_sound.cancelled_of_fired⟩
  · rintro rfl
    rw [Call.perform, h_sound.cancelOnce h_before, ← h_sound.fired]
    cases (afterCalls earlier).once.fired with
    | true => exact ⟨false, rfl, nofun, fun h => absurd rfl h⟩
    | false => exact ⟨true, rfl, fun _ => nofun, fun _ => rfl⟩
  · rintro rfl
    exact ⟨_, rfl, h_sound.fired⟩

/-- Of two registrations of a release that fails, the earlier is taken back; the other runs behind
a release that cancels the token again. -/
theorem failing_runs_behind_cancelling :
    let failing : Release := .mk "a" [] [] false (some (.outside (.other "RuntimeError" "refused")))
    let cancelling : Release := .mk "b" [] ["a"] true none
    let earlier : List Call :=
      [.register failing, .register cancelling, .register failing, .withdraw failing]
    (∀ release, .register release ∈ earlier ++ [.cancelOnce] → release.Calm) ∧
      (afterCalls earlier).ran = [] ∧ (afterCalls (earlier ++ [.cancelOnce])).ran = ["b", "a"] := by
  intro failing cancelling earlier
  have h_calm : ∀ release, .register release ∈ earlier ++ [.cancelOnce] → release.Calm := by
    intro release h_mem f h_fails
    have h_plain : release = failing ∨ release = cancelling := by
      simp only [earlier, List.cons_append, List.nil_append, List.mem_cons, Call.register.injEq,
        reduceCtorEq, List.not_mem_nil, or_false] at h_mem
      tauto
    rcases h_plain with rfl | rfl
    · rw [Release.run_of_registers_nil rfl] at h_fails
      cases h_fails
      decide
    · rw [Release.run_of_registers_nil rfl] at h_fails
      cases h_fails
  have h_none : ∀ other ∈ earlier, ¬other.Cancels := by
    intro other h_mem h_cancels
    rcases h_cancels with rfl | rfl <;> simp [earlier] at h_mem
  obtain ⟨h_waits, -⟩ := registrations_run_once earlier .cancelOnce h_calm
  obtain ⟨h_ran, -, -, h_cancel, -⟩ := h_waits h_none
  obtain ⟨-, -, -, h_names⟩ := h_cancel (.inr rfl)
  refine ⟨h_calm, h_ran, ?_⟩
  have h_pending : (afterCalls earlier).token.pending = [cancelling, failing] := rfl
  rw [h_names, h_pending]
  · rfl
  · rw [h_pending]
    intro release h_mem
    rcases List.mem_pair.mp h_mem with rfl | rfl <;> rfl

end Session

end ImageIntake.Cancellation
