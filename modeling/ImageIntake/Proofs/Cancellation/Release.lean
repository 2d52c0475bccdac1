/-
  ImageIntake.Proofs.Cancellation.Release

  Releases that work on the token they were registered on.  `Enacts` says what comes
  about when every registration, withdrawal and cancellation of a release goes to the
  token itself: a cancellation hands out whatever is pending just then, and that runs
  before the release goes on.  On a token that is cancelled and holds nothing this is what
  `Release.run` says, and the token stays as it is (`enacts_iff`).
-/

import ImageIntake.Cancellation.Release

namespace ImageIntake.Cancellation

/-! ## What a release does -/

/-- One thing that a release does to its token. -/
inductive Deed where
  | register (release : Release)
  | withdraw (name : String)
  | cancel

/-- The release that a deed registers. -/
def Deed.registered? : Deed → Option Release
  | .register release => some release
  | _ => none

namespace Release

/-- What a release registers. -/
def registers : Release → List Release
  | mk _ registers _ _ _ => registers

/-- How a release fails once it has done everything. -/
def failure : Release → Option Failure
  | mk _ _ _ _ failure => failure

/-- Any release of a name. -/
def ofName (name : String) : Release := mk name [] [] false none

/-- What a release takes back, and whether it cancels. -/
def laterDeeds : Release → List Deed
  | mk _ _ withdraws cancels _ => withdraws.map .withdraw ++ if cancels then [.cancel] else []

/-- What a release does, in turn. -/
def deeds (release : Release) : List Deed :=
  release.registers.map .register ++ release.laterDeeds

theorem run_eq (release : Release) :
    release.run = (release.name :: (runInTurn release.registers).1,
      (runInTurn release.registers).2.or release.failure) := by
  obtain ⟨name, registers, withdraws, cancels, failure⟩ := release
  rw [run]
  rcases h_turn : runInTurn registers with ⟨ran, _ | f⟩
  · simp only [Release.name, Release.registers, Release.failure, h_turn, Option.none_or]
  · simp only [Release.name, Release.registers, h_turn, Option.some_or]

/-- A release that registers nothing runs alone. -/
theorem run_of_registers_nil {release : Release} (h : release.registers = []) :
    release.run = ([release.name], release.failure) := by
  rw [run_eq, h, runInTurn]
  rfl

end Release

/-! ## Releases at work -/

/-- What is to be carried out on a token. -/
inductive Task where
  /-- A release runs. -/
  | run (release : Release)
  /-- Deeds are done one after the other until one fails. -/
  | inTurn (deeds : List Deed)
  /-- Releases that a cancellation handed out run, whatever the others do, unless one asks the
  program to end. -/
  | each (releases : List Release)

/-- Carrying a task out on a token: the names that ran, the failure that left it, and the token
afterwards. -/
inductive Enacts : Token Release → Task → List String → Option Failure → Token Release → Prop where
  | run {token token' : Token Release} {release : Release} {ran : List String}
      {failure : Option Failure} (h_deeds : Enacts token (.inTurn release.deeds) ran failure token') :
      Enacts token (.run release) (release.name :: ran) (failure.or release.failure) token'
  | done {token : Token Release} : Enacts token (.inTurn []) [] none token
  | waits {token token' token'' : Token Release} {release : Release} {rest : List Deed}
      {ran : List String} {failure : Option Failure}
      (h_register : token.register release = (token', false))
      (h_rest : Enacts token' (.inTurn rest) ran failure token'') :
      Enacts token (.inTurn (.register release :: rest)) ran failure token''
  | runs {token token₁ token₂ token₃ : Token Release} {release : Release} {rest : List Deed}
      {ran more : List String} {failure : Option Failure}
      (h_register : token.register release = (token₁, true))
      (h_run : Enacts token₁ (.run release) ran none token₂)
      (h_rest : Enacts token₂ (.inTurn rest) more failure token₃) :
      Enacts token (.inTurn (.register release :: rest)) (ran ++ more) failure token₃
  | fails {token token₁ token₂ : Token Release} {release : Release} {rest : List Deed}
      {ran : List String} {f : Failure} (h_register : token.register release = (token₁, true))
      (h_run : Enacts token₁ (.run release) ran (some f) token₂) :
      Enacts token (.inTurn (.register release :: rest)) ran (some f) token₂
  | withdraws {token token' : Token Release} {name : String} {rest : List Deed}
      {ran : List String} {failure : Option Failure}
      (h_rest : Enacts (token.withdraw (.ofName name)) (.inTurn rest) ran failure token') :
      Enacts token (.inTurn (.withdraw name :: rest)) ran failure token'
  | cancels {token token₁ token₂ token₃ : Token Release} {released : List Release}
      {rest : List Deed} {ran more : List String} {failure : Option Failure}
      (h_cancel : token.cancel = (token₁, released))
      (h_each : Enacts token₁ (.each released) ran none token₂)
      (h_rest : Enacts token₂ (.inTurn rest) more failure token₃) :
      Enacts token (.inTurn (.cancel :: rest)) (ran ++ more) failure token₃
  | ended {token token₁ token₂ : Token Release} {released : List Release} {rest : List Deed}
      {ran : List String} {f : Failure} (h_cancel : token.cancel = (token₁, released))
      (h_each : Enacts token₁ (.each released) ran (some f) token₂) :
      Enacts token (.inTurn (.cancel :: rest)) ran (some f) token₂
  | emptied {token : Token Release} : Enacts token (.each []) [] none token
  | next {token token₁ token₂ : Token Release} {release : Release} {rest : List Release}
      {ran more : List String} {failure failure' : Option Failure}
      (h_run : Enacts token (.run release) ran failure token₁)
      (h_calm : failure.filter (·.endsProgram) = none)
      (h_rest : Enacts token₁ (.each rest) more failure' token₂) :
      Enacts token (.each (release :: rest)) (ran ++ more) failure' token₂
  | stops {token token₁ : Token Release} {release : Release} {rest : List Release}
      {ran : List String} {failure : Option Failure} {f : Failure}
      (h_run : Enacts token (.run release) ran failure token₁)
      (h_ends : failure.filter (·.endsProgram) = some f) :
      Enacts token (.each (release :: rest)) ran (some f) token₁

/-! ## On a cancelled token -/

/-- A token that is cancelled and holds nothing. -/
def Token.spent : Token Release := { cancelled := true, pending := [] }

/-- What a task comes to on a spent token. -/
def Task.outcome : Task → List String × Option Failure
  | .run release => release.run
  | .inTurn deeds => Release.runInTurn (deeds.filterMap Deed.registered?)
  | .each releases => Release.runEach releases

theorem registered_laterDeeds (release : Release) :
    release.laterDeeds.filterMap Deed.registered? = [] := by
  obtain ⟨name, registers, withdraws, cancels, failure⟩ := release
  rw [Release.laterDeeds, List.filterMap_append]
  have h_withdraws : (withdraws.map Deed.withdraw).filterMap Deed.registered? = [] := by
    rw [List.filterMap_map]
    exact List.filterMap_eq_nil_iff.mpr fun _ _ => rfl
  rw [h_withdraws]
  cases cancels <;> rfl

theorem outcome_deeds (release : Release) :
    (Task.inTurn release.deeds).outcome = Release.runInTurn release.registers := by
  have h_registers : (release.registers.map Deed.register).filterMap Deed.registered? =
      release.registers := by
    rw [List.filterMap_map]
    exact List.filterMap_some
  rw [Task.outcome, Release.deeds, List.filterMap_append, h_registers, registered_laterDeeds,
    List.append_nil]

/-- Nothing but its outcome can come of a task on a spent token, which stays as it is. -/
theorem outcome_of_enacts {token token' : Token Release} {task : Task} {ran : List String}
    {failure : Option Failure} (h : Enacts token task ran failure token') (h_spent : token = .spent) :
    task.outcome = (ran, failure) ∧ token' = .spent := by
  induction h with
  | run _ ih =>
    obtain ⟨h_turn, h_after⟩ := ih h_spent
    rw [outcome_deeds] at h_turn
    refine ⟨?_, h_after⟩
    rw [Task.outcome, Release.run_eq, h_turn]
  | done => exact ⟨rfl, h_spent⟩
  | waits h_register _ _ =>
    -- A spent token lets no release wait.
    subst h_spent
    cases h_register
  | @runs _ _ _ _ release rest _ _ _ h_register _ _ ih_run ih_rest =>
    subst h_spent
    cases h_register
    -- A release that is registered runs at once, before the deeds behind it.
    obtain ⟨h_run, h_between⟩ := ih_run rfl
    obtain ⟨h_rest, h_after⟩ := ih_rest h_between
    refine ⟨?_, h_after⟩
    show Release.runInTurn (release :: rest.filterMap Deed.registered?) = _
    rw [Release.runInTurn, show release.run = _ from h_run]
    dsimp only
    rw [show Release.runInTurn (rest.filterMap Deed.registered?) = _ from h_rest]
  | @fails _ _ _ release rest _ _ h_register _ ih_run =>
    subst h_spent
    cases h_register
    obtain ⟨h_run, h_after⟩ := ih_run rfl
    refine ⟨?_, h_after⟩
    show Release.runInTurn (release :: rest.filterMap Deed.registered?) = _
    rw [Release.runInTurn, show release.run = _ from h_run]
  | withdraws _ ih =>
    subst h_spent
    exact ih rfl
  | cancels h_cancel _ _ ih_each ih_rest =>
    -- A second cancellation hands nothing out.
    subst h_spent
    cases h_cancel
    obtain ⟨h_each, h_between⟩ := ih_each rfl
    obtain ⟨h_rest, h_after⟩ := ih_rest h_between
    cases h_each
    exact ⟨h_rest, h_after⟩
  | ended h_cancel _ ih_each =>
    subst h_spent
    cases h_cancel
    obtain ⟨h_each, -⟩ := ih_each rfl
    cases h_each
  | emptied => exact ⟨rfl, h_spent⟩
  | next _ h_calm _ ih_run ih_rest =>
    obtain ⟨h_run, h_between⟩ := ih_run h_spent
    obtain ⟨h_rest, h_after⟩ := ih_rest h_between
    refine ⟨?_, h_after⟩
    rw [Task.outcome, Release.runEach, show Release.run _ = _ from h_run]
    dsimp only
    rw [h_calm]
    dsimp only
    rw [show Release.runEach _ = _ from h_rest]
  | stops _ h_ends ih_run =>
    obtain ⟨h_run, h_after⟩ := ih_run h_spent
    refine ⟨?_, h_after⟩
    rw [Task.outcome, Release.runEach, show Release.run _ = _ from h_run]
    dsimp only
    rw [h_ends]

theorem enacts_laterDeeds (release : Release) :
    Enacts .spent (.inTurn release.laterDeeds) [] none .spent := by
  obtain ⟨name, registers, withdraws, cancels, failure⟩ := release
  rw [Release.laterDeeds]
  have h_cancel : Token.spent.cancel = (.spent, []) := rfl
  induction withdraws with
  | nil =>
    cases cancels with
    | false => exact .done
    | true => exact .cancels h_cancel .emptied .done
  | cons name rest ih => exact .withdraws ih

mutual

theorem enacts_run : ∀ release : Release,
    Enacts .spent (.run release) release.run.1 release.run.2 .spent
  | .mk name registers withdraws cancels failure => by
    have h_deeds := enacts_inTurn registers
      (enacts_laterDeeds (.mk name registers withdraws cancels failure))
    rw [Release.run_eq]
    exact .run h_deeds

theorem enacts_inTurn : ∀ (releases : List Release) {rest : List Deed},
    Enacts .spent (.inTurn rest) [] none .spent →
    Enacts .spent (.inTurn (releases.map .register ++ rest)) (Release.runInTurn releases).1
      (Release.runInTurn releases).2 .spent
  | [], _, h_rest => by
    rw [Release.runInTurn]
    exact h_rest
  | release :: releases, _, h_rest => by
    have h_run := enacts_run release
    have h_more := enacts_inTurn releases h_rest
    rw [Release.runInTurn]
    rcases h_after : release.run with ⟨ran, _ | f⟩
    all_goals rw [h_after] at h_run
    · exact .runs rfl h_run h_more
    · exact .fails rfl h_run

end

/-- Whatever a release does to a spent token comes to what its run says, and leaves the token
alone. -/
theorem enacts_iff {release : Release} {ran : List String} {failure : Option Failure}
    {token : Token Release} :
    Enacts .spent (.run release) ran failure token ↔
      release.run = (ran, failure) ∧ token = .spent := by
  constructor
  · intro h
    exact outcome_of_enacts h rfl
  · rintro ⟨h_run, rfl⟩
    have h_enacted := enacts_run release
    rw [h_run] at h_enacted
    exact h_enacted

end ImageIntake.Cancellation
