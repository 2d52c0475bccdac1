/-
  ImageIntake.Proofs.Import.Account

  What an import does with its data source, and what it reports of that.  A watched import
  (`Import.watched`) keeps a log of what it does with the data source and in its own two
  steps, each entry with what came of it; being watched changes nothing else.

  One phase adds entries of which all but the last went well, and the last one tells which
  phase is next (`Speaks`, `advance_logs`).  By induction so does the whole way through
  the phases (`drive?_driven`).  Settling and closing add the closing and nothing else
  (`watched_settle`, `watched_conclude`), so that the log of a run tells what the run has
  to report or to raise (`run?_account`).
-/

import Mathlib.Data.List.Basic
import ImageIntake.Proofs.Import.Conduct

namespace ImageIntake

open ImageIntake.Action

variable {σ : Type}

namespace Import

/-! ## Deeds -/

/-- What an import does with its data source, and in its own steps. -/
inductive Deed where
  | info
  | transfer (dir : String)
  | transferFile (path : String)
  | process
  | url
  | close
  | resize (path : String)
  | finalize (url : Option Url) (path : String)
deriving DecidableEq

/-- Something that was done, and what came of it: the phase that was named, if one was, or the
failure. -/
structure Entry where
  deed : Deed
  outcome : Except Failure (Option Phase)

namespace Entry

/-- What the phase loop takes from an entry: where no phase was named, the import is done. -/
def verdict (e : Entry) : Except Failure Phase := e.outcome.map (·.getD .done)

/-- Whether something went well. -/
def Well (e : Entry) : Prop := ∃ named, e.outcome = .ok named

end Entry

end Import

/-- Does an action and puts it into the log. -/
def Action.logged {α : Type} (deed : Import.Deed) (named : α → Option Phase) (a : Action σ α) :
    Action (σ × List Import.Entry) α :=
  .of fun (s, log) =>
    ((a.after s).1, (a.after s).2, log ++ [⟨deed, (a.after s).1.map named⟩])

@[simp] theorem Action.after_logged {α : Type} (deed : Import.Deed) (named : α → Option Phase)
    (a : Action σ α) (s : σ) (log : List Import.Entry) :
    (a.logged deed named).after (s, log) =
      ((a.after s).1, (a.after s).2, log ++ [⟨deed, (a.after s).1.map named⟩]) := rfl

namespace Import

/-- The import, with a log of what it does. -/
def watched (i : Import σ) : Import (σ × List Entry) where
  source :=
    { info := i.source.info.logged .info some
      transfer dir := (i.source.transfer dir).logged (.transfer dir) some
      transferFile path := (i.source.transferFile path).logged (.transferFile path) some
      process := i.source.process.logged .process some
      url := i.source.url.logged .url fun _ => none
      close := i.source.close.logged .close fun _ => none }
  record r s := (i.record r s.1, s.2)
  dataFile := i.dataFile
  scratchDir := i.scratchDir
  scratchFileName := i.scratchFileName
  resize path := (i.resize path).logged (.resize path) fun _ => none
  finalize url path := (i.finalize url path).logged (.finalize url path) fun _ => none

/-! ## One phase -/

/-- Entries that say what came of a phase: none is a closing, all but the last went well, and the
last has the outcome of the phase. -/
structure Speaks (entries : List Entry) (outcome : Except Failure Phase) : Prop where
  open_ : ∀ e ∈ entries, e.deed ≠ .close
  well : ∀ e ∈ entries.dropLast, e.Well
  last : ∃ e, entries.getLast? = some e ∧ e.verdict = outcome

/-- An action of a watched import does what it does unwatched, and adds entries that say what came
of it. -/
def Logs (w : Action (Report × σ × List Entry) Phase) (a : Action (Report × σ) Phase) : Prop :=
  ∀ report s log, ∃ entries,
    w.after (report, s, log) =
      ((a.after (report, s)).1, (a.after (report, s)).2.1, (a.after (report, s)).2.2,
        log ++ entries) ∧
    Speaks entries (a.after (report, s)).1

/-- The last entry says what came of the phase. -/
theorem speaks_last {e : Entry} (h_open : e.deed ≠ .close) : Speaks [e] e.verdict := by
  refine ⟨?_, nofun, e, rfl, rfl⟩
  intro d h_mem
  rw [List.mem_singleton.mp h_mem]
  exact h_open

theorem speaks_named {deed : Deed} (outcome : Except Failure Phase) (h_open : deed ≠ .close) :
    Speaks [⟨deed, outcome.map some⟩] outcome := by
  have h_last := speaks_last (e := ⟨deed, outcome.map some⟩) h_open
  have h_verdict : (⟨deed, outcome.map some⟩ : Entry).verdict = outcome := by
    cases outcome <;> rfl
  rw [h_verdict] at h_last
  exact h_last

theorem Speaks.cons {e : Entry} {entries : List Entry} {outcome : Except Failure Phase}
    (h : Speaks entries outcome) (h_open : e.deed ≠ .close) (h_well : e.Well) :
    Speaks (e :: entries) outcome := by
  obtain ⟨last, h_last, h_verdict⟩ := h.last
  have h_ne : entries ≠ [] := by
    rintro rfl
    cases h_last
  refine ⟨?_, ?_, last, ?_, h_verdict⟩
  · intro d h_mem
    rcases List.mem_cons.mp h_mem with rfl | h_later
    · exact h_open
    · exact h.open_ d h_later
  · rw [List.dropLast_cons_of_ne_nil h_ne]
    intro d h_mem
    rcases List.mem_cons.mp h_mem with rfl | h_later
    · exact h_well
    · exact h.well d h_later
  · rw [List.getLast?_cons, h_last]
    rfl

/-! ### What a phase comes to -/

theorem after_resize (i : Import σ) (report : Report) (s : σ) :
    (i.advance .resize).after (report, s) =
      match (i.resize (i.imageOf report)).after s with
      | (.error f, s) => (.error f, report, s)
      | (.ok (), s) => ((i.source.process.after s).1, report, (i.source.process.after s).2) := by
  have h_second : (i.advance .resize).after (report, s) =
      ((Action.second (do i.resize (i.imageOf report); i.source.process)).after (report, s)) := rfl
  rw [h_second, after_second, after_bind]
  rcases (i.resize (i.imageOf report)).after s with ⟨f | _, t⟩ <;> rfl

theorem after_convert (i : Import σ) (report : Report) (s : σ) :
    (i.advance .convert).after (report, s) =
      match i.source.url.after s with
      | (.error f, s) => (.error f, report, s)
      | (.ok url, s) =>
        match (i.finalize url (i.imageOf report)).after s with
        | (.error f, s) => (.error f, report, s)
        | (.ok (), s) => (.ok .done, report, s) := by
  have h_second : (i.advance .convert).after (report, s) =
      ((Action.second (do
        i.finalize (← i.source.url) (i.imageOf report)
        pure Phase.done)).after (report, s)) := rfl
  rw [h_second, after_second, after_bind]
  rcases i.source.url.after s with ⟨f | url, t⟩
  · rfl
  · dsimp only
    rw [after_bind]
    rcases (i.finalize url (i.imageOf report)).after t with ⟨f | _, u⟩ <;> rfl

/-- Every phase that something can be done in is logged. -/
theorem advance_logs (i : Import σ) {phase : Phase} (h_error : phase ≠ .error)
    (h_done : phase ≠ .done) : Logs (i.watched.advance phase) (i.advance phase) := by
  intro report s log
  cases phase with
  | info =>
    refine ⟨_, rfl, speaks_named _ ?_⟩
    exact nofun
  | transferDataFile =>
    rw [after_transferDataFile, after_transferDataFile]
    have h_scratch : i.watched.scratch? = i.scratch? := rfl
    unfold transfer
    rw [h_scratch]
    cases i.scratch? with
    | none =>
      refine ⟨_, rfl, speaks_named _ ?_⟩
      exact nofun
    | some dir =>
      refine ⟨_, rfl, speaks_named _ ?_⟩
      exact nofun
  | resize =>
    have h_resize : (i.watched.resize (i.watched.imageOf report)).after (s, log) =
        (((i.resize (i.imageOf report)).logged (.resize (i.imageOf report)) fun _ => none).after
          (s, log)) := rfl
    rw [after_resize, after_resize, h_resize, after_logged]
    rcases (i.resize (i.imageOf report)).after s with ⟨f | _, t⟩
    · refine ⟨_, rfl, speaks_last ?_⟩
      exact nofun
    · -- The size was adjusted, and the source names the next phase.
      have h_process : i.watched.source.process = i.source.process.logged .process some := rfl
      dsimp only
      rw [h_process, after_logged, List.append_assoc]
      refine ⟨_, rfl, (speaks_named _ ?_).cons ?_ ⟨none, rfl⟩⟩
      all_goals exact nofun
  | convert =>
    have h_url : i.watched.source.url = i.source.url.logged .url fun _ => none := rfl
    rw [after_convert, after_convert, h_url, after_logged]
    rcases i.source.url.after s with ⟨f | url, t⟩
    · refine ⟨_, rfl, speaks_last ?_⟩
      exact nofun
    · have h_finalize : i.watched.finalize url (i.watched.imageOf report) =
          (i.finalize url (i.imageOf report)).logged (.finalize url (i.imageOf report))
            fun _ => none := rfl
      dsimp only
      rw [h_finalize, after_logged]
      rcases (i.finalize url (i.imageOf report)).after t with ⟨f | _, u⟩
      all_goals
        dsimp only
        rw [List.append_assoc]
        refine ⟨_, rfl, (speaks_last ?_).cons ?_ ⟨none, rfl⟩⟩
        all_goals exact nofun
  | error => exact absurd rfl h_error
  | done => exact absurd rfl h_done

/-! ## From phase to phase -/

/-- Where entries lead from a phase: to the phase the last one names, or to its failure. -/
def reached (phase : Phase) (entries : List Entry) : Except Failure Phase :=
  match entries.getLast? with
  | none => .ok phase
  | some e => e.verdict

/-- How the phases end after entries: well in the last phase, and in a fault in any other. -/
def ended (phase : Phase) (entries : List Entry) : Except Failure Unit :=
  match reached phase entries with
  | .error f => .error f
  | .ok next => if next = .done then .ok () else .error (unexpected next)

/-- What a way through the phases comes to, by its log. -/
structure Driven (phase : Phase) (entries : List Entry) (outcome : Except Failure Unit)
    (report report' : Report) : Prop where
  open_ : ∀ e ∈ entries, e.deed ≠ .close
  well : ∀ e ∈ entries.dropLast, e.Well
  ended : ended phase entries = outcome
  failure : report'.failure = report.failure
  entered : report.phases ++ [phase] <+: report'.phases
  done : outcome = .ok () → report'.phases.getLast? = some .done

/-- Without an entry there is none to say anything wrong. -/
theorem driven_nothing {phase : Phase} {outcome : Except Failure Unit} {report report' : Report}
    (h_ended : ended phase [] = outcome) (h_failure : report'.failure = report.failure)
    (h_entered : report.phases ++ [phase] <+: report'.phases)
    (h_done : outcome = .ok () → report'.phases.getLast? = some .done) :
    Driven phase [] outcome report report' :=
  ⟨List.forall_mem_nil _, List.forall_mem_nil _, h_ended, h_failure, h_entered, h_done⟩

theorem finish_driven {phase : Phase} {report report' : Report} {s s' : σ}
    {outcome : Except Failure Unit} (log : List Entry) (h_done : phase = .done)
    (h : some (finish (report, s)) = some (outcome, report', s')) :
    some (finish (report, s, log)) = some (outcome, report', s', log ++ []) ∧
      Driven phase [] outcome report report' := by
  cases h
  rw [h_done, List.append_nil]
  refine ⟨rfl, driven_nothing rfl rfl List.prefix_rfl fun _ => ?_⟩
  rw [Report.visit, List.getLast?_concat]

theorem report_step (i : Import σ) (phase : Phase) (report : Report) (s : σ) :
    ((i.step phase).after (report, s)).2.1.phases = report.phases ++ [phase] ∧
      ((i.step phase).after (report, s)).2.1.failure = report.failure := by
  rw [after_step]
  cases phase with
  | info => exact ⟨rfl, rfl⟩
  | transferDataFile => exact ⟨rfl, rfl⟩
  | resize =>
    rw [after_resize]
    split <;> exact ⟨rfl, rfl⟩
  | convert =>
    rw [after_convert]
    split
    · exact ⟨rfl, rfl⟩
    · split <;> exact ⟨rfl, rfl⟩
  | error => exact ⟨rfl, rfl⟩
  | done => exact ⟨rfl, rfl⟩

theorem Speaks.reached {entries : List Entry} {outcome : Except Failure Phase}
    (h : Speaks entries outcome) (phase : Phase) : reached phase entries = outcome := by
  obtain ⟨last, h_last, h_verdict⟩ := h.last
  rw [Import.reached, h_last]
  exact h_verdict

/-- A phase that was told to go on, and the way from there. -/
theorem Speaks.append {phase next : Phase} {entries later : List Entry}
    {outcome : Except Failure Unit} {report report₁ report' : Report}
    (h : Speaks entries (.ok next)) (h_later : Driven next later outcome report₁ report')
    (h_phases : report₁.phases = report.phases ++ [phase])
    (h_failure : report₁.failure = report.failure) :
    Driven phase (entries ++ later) outcome report report' := by
  obtain ⟨last, h_last, h_verdict⟩ := h.last
  have h_well : ∀ e ∈ entries, e.Well := by
    intro e h_mem
    have h_split := List.dropLast_append_getLast? last h_last
    rw [← h_split] at h_mem
    rcases List.mem_append.mp h_mem with h_early | h_end
    · exact h.well e h_early
    · rw [List.mem_singleton.mp h_end]
      cases h_outcome : last.outcome with
      | error f =>
        rw [Entry.verdict, h_outcome] at h_verdict
        cases h_verdict
      | ok named => exact ⟨named, h_outcome⟩
  -- What was reached is told by the last entry of all, if there is one behind this phase.
  have h_reached : Import.reached phase (entries ++ later) = Import.reached next later := by
    cases h_rest : later.getLast? with
    | none =>
      rw [List.getLast?_eq_none_iff.mp h_rest, List.append_nil, h.reached phase]
      rfl
    | some e =>
      unfold Import.reached
      rw [List.getLast?_append, h_rest]
      rfl
  refine ⟨?_, ?_, ?_, h_later.failure.trans h_failure, ?_, h_later.done⟩
  · intro e h_mem
    rcases List.mem_append.mp h_mem with h_early | h_after
    · exact h.open_ e h_early
    · exact h_later.open_ e h_after
  · intro e h_mem
    cases later with
    | nil =>
      rw [List.append_nil] at h_mem
      exact h.well e h_mem
    | cons first rest =>
      rw [List.dropLast_append_of_ne_nil (List.cons_ne_nil first rest)] at h_mem
      rcases List.mem_append.mp h_mem with h_early | h_after
      · exact h_well e h_early
      · exact h_later.well e h_after
  · rw [← h_later.ended, Import.ended, Import.ended, h_reached]
  · rw [← h_phases]
    exact (List.prefix_append _ _).trans h_later.entered

/-- The watched import goes through the same phases, and its log tells how they ended. -/
theorem drive?_driven (i : Import σ) {fuel : Nat} {phase : Phase} {report report' : Report}
    {s s' : σ} {outcome : Except Failure Unit} (log : List Entry)
    (h : i.drive? fuel phase (report, s) = some (outcome, report', s')) :
    ∃ entries, i.watched.drive? fuel phase (report, s, log) =
        some (outcome, report', s', log ++ entries) ∧
      Driven phase entries outcome report report' := by
  induction fuel generalizing phase report s log with
  | zero =>
    rw [drive?] at h ⊢
    by_cases h_done : phase = .done
    · rw [if_pos h_done] at h ⊢
      exact ⟨[], finish_driven log h_done h⟩
    · rw [if_neg h_done] at h
      cases h
  | succ fuel ih =>
    rw [drive?] at h ⊢
    by_cases h_done : phase = .done
    · rw [if_pos h_done] at h ⊢
      exact ⟨[], finish_driven log h_done h⟩
    rw [if_neg h_done] at h ⊢
    by_cases h_error : phase = .error
    · -- Nothing can be done in this phase, and nothing is.
      subst h_error
      cases h
      refine ⟨[], ?_, ?_⟩
      · rw [List.append_nil]
        rfl
      · exact driven_nothing rfl rfl List.prefix_rfl fun h_ok => by cases h_ok
    · -- The phase is done and logged; if it names a next one, the way from there is by induction.
      obtain ⟨h_phases, h_failure⟩ := report_step i phase report s
      obtain ⟨entries, h_watched, h_speaks⟩ :=
        advance_logs i h_error h_done (report.visit phase) (i.record (entering phase) s) log
      have h_step : (i.watched.step phase).after (report, s, log) =
          (((i.step phase).after (report, s)).1, ((i.step phase).after (report, s)).2.1,
            ((i.step phase).after (report, s)).2.2, log ++ entries) := h_watched
      have h_said : Speaks entries ((i.step phase).after (report, s)).1 := h_speaks
      rw [h_step]
      rcases h_after : (i.step phase).after (report, s) with ⟨f | next, report₁, s₁⟩
      all_goals
        rw [h_after] at h h_phases h_failure h_said
        dsimp only at h h_phases h_failure h_said ⊢
      · cases h
        refine ⟨entries, rfl, h_said.open_, h_said.well, ?_, h_failure, ?_, fun h_ok => ?_⟩
        · rw [ended, h_said.reached phase]
        · exact h_phases ▸ List.prefix_rfl
        · cases h_ok
      · obtain ⟨later, h_rest, h_driven⟩ := ih (log ++ entries) h
        refine ⟨entries ++ later, ?_, h_said.append h_driven h_phases h_failure⟩
        rw [h_rest, List.append_assoc]

/-! ## Settling and closing -/

theorem watched_settle (i : Import σ) (outcome : Except Failure Unit) (report : Report) (s : σ)
    (log : List Entry) :
    i.watched.settle outcome report (s, log) =
      ((i.settle outcome report s).1, (i.settle outcome report s).2.1,
        (i.settle outcome report s).2.2, log) := by
  unfold settle
  cases outcome with
  | ok => rfl
  | error f =>
    dsimp only
    split <;> rfl

theorem watched_conclude (i : Import σ) (report : Report) (s : σ) (log : List Entry) :
    i.watched.conclude report (s, log) =
      ((i.conclude report s).1, (i.conclude report s).2.1, (i.conclude report s).2.2,
        log ++ [⟨.close, (i.source.close.after s).1.map fun _ => none⟩]) := by
  have h_close : i.watched.source.close = i.source.close.logged .close fun _ => none := rfl
  unfold conclude
  rw [h_close, after_logged]
  rcases i.source.close.after s with ⟨f | _, t⟩
  · dsimp only
    split <;> rfl
  · rfl

/-! ## The account of a run -/

/-- The failure of an outcome. -/
def failureOf {α : Type} : Except Failure α → Option Failure
  | .ok _ => none
  | .error f => some f

/-- What a run comes to, by what was done in it and how the closing went. -/
structure Account (deeds : List Entry) (closing : Except Failure Unit)
    (outcome : Except Failure Report) : Prop where
  /-- Nothing before the end is a closing. -/
  open_ : ∀ e ∈ deeds, e.deed ≠ .close
  /-- Nothing but the closing is done after a failure. -/
  well : ∀ e ∈ deeds.dropLast, e.Well
  starts : ∀ report, outcome = .ok report → report.phases.head? = some .info
  ends : ∀ report, outcome = .ok report →
    (report.phases.getLast? = some .done ↔ report.failure = none) ∧
      (report.succeeded = true ↔ report.failure = none) ∧
      (report.failure ≠ none → report.phases.getLast? = some .error)
  /-- The failure of the phases is reported, and that of the closing if they had none. -/
  reports : ∀ report, outcome = .ok report →
    report.failure = (failureOf (ended .info deeds)).or (failureOf closing) ∧
      ∀ f, report.failure = some f → f.isPipeline = true
  /-- What is raised is the failure of the phases, which is not one of the pipeline's. -/
  raises : ∀ f, outcome = .error f → ended .info deeds = .error f ∧ f.isPipeline = false

theorem Report.phases_failed {f : Failure} (h : f.isPipeline = true) (report : Report) :
    (report.failed f).phases = report.phases ++ [.error] := by
  cases f with
  | pipeline => rfl
  | process => cases h
  | outside => cases h

theorem Report.succeeded_iff {report : Report}
    (h : report.phases.getLast? = some .done ↔ report.failure = none) :
    report.succeeded = true ↔ report.failure = none := by
  rw [succeeded, Bool.and_eq_true, Option.isNone_iff_eq_none, beq_iff_eq]
  exact ⟨And.left, fun h_none => ⟨h_none, h.mpr h_none⟩⟩

/-- A report with a failure of the pipeline made out last. -/
theorem Report.failed_ends {f : Failure} (h : f.isPipeline = true) (report : Report) :
    ((report.failed f).phases.getLast? = some .done ↔ (report.failed f).failure = none) ∧
      ((report.failed f).succeeded = true ↔ (report.failed f).failure = none) ∧
      ((report.failed f).failure ≠ none → (report.failed f).phases.getLast? = some .error) := by
  have h_last : (report.failed f).phases.getLast? = some .error := by
    rw [phases_failed h, List.getLast?_concat]
  have h_iff : (report.failed f).phases.getLast? = some .done ↔ (report.failed f).failure = none := by
    rw [h_last]
    exact iff_of_false nofun nofun
  exact ⟨h_iff, succeeded_iff h_iff, fun _ => h_last⟩

section

variable {deeds : List Entry} {report : Report} {closing : Except Failure Unit}

theorem Driven.starts {phases : Except Failure Unit} (h : Driven .info deeds phases {} report) :
    report.phases.head? = some .info := by
  obtain ⟨rest, h_rest⟩ := h.entered
  rw [← h_rest]
  rfl

theorem Driven.starts_failed {phases : Except Failure Unit} {f : Failure}
    (h : Driven .info deeds phases {} report) : (report.failed f).phases.head? = some .info := by
  obtain ⟨rest, h_rest⟩ := h.entered
  rw [Report.failed, Report.visit, ← h_rest]
  rfl

/-- The phases went well and so did the closing. -/
theorem Driven.account_done (h : Driven .info deeds (.ok ()) {} report) :
    Account deeds (.ok ()) (.ok report) := by
  have h_none : report.failure = none := h.failure
  have h_iff : report.phases.getLast? = some .done ↔ report.failure = none :=
    iff_of_true (h.done rfl) h_none
  refine ⟨h.open_, h.well, ?_, ?_, ?_, nofun⟩
  · rintro _ ⟨⟩
    exact h.starts
  · rintro _ ⟨⟩
    exact ⟨h_iff, Report.succeeded_iff h_iff, fun h_some => absurd h_none h_some⟩
  · rintro _ ⟨⟩
    rw [h.ended, h_none]
    exact ⟨rfl, nofun⟩

/-- A failure of the pipeline is reported, be it that of the phases or else that of the closing. -/
theorem Driven.account_failed {phases : Except Failure Unit} {f : Failure}
    (h : Driven .info deeds phases {} report) (h_pipeline : f.isPipeline = true)
    (h_failure : (failureOf phases).or (failureOf closing) = some f) :
    Account deeds closing (.ok (report.failed f)) := by
  refine ⟨h.open_, h.well, ?_, ?_, ?_, nofun⟩
  · rintro _ ⟨⟩
    exact h.starts_failed
  · rintro _ ⟨⟩
    exact Report.failed_ends h_pipeline report
  · rintro _ ⟨⟩
    rw [h.ended, h_failure]
    refine ⟨rfl, ?_⟩
    rintro _ ⟨⟩
    exact h_pipeline

/-- Any other failure of the phases is raised, however the closing goes. -/
theorem Driven.account_raised {f : Failure} (h : Driven .info deeds (.error f) {} report)
    (h_foreign : f.isPipeline = false) : Account deeds closing (.error f) := by
  refine ⟨h.open_, h.well, nofun, nofun, nofun, ?_⟩
  rintro _ ⟨⟩
  exact ⟨h.ended, h_foreign⟩

end

/-- A data source whose closing fails, if it does, as the pipeline fails. -/
def ClosesWithin (i : Import σ) : Prop :=
  ∀ s f, (i.source.close.after s).1 = .error f → f.isPipeline = true

theorem settle_of_pipeline (i : Import σ) {f : Failure} (h : f.isPipeline = true)
    (report : Report) (s : σ) :
    i.settle (.error f) report s = (.ok (), report.failed f, i.record (importFailed f) s) := by
  rw [settle, if_pos h]

theorem settle_of_foreign (i : Import σ) {f : Failure} (h : f.isPipeline = false)
    (report : Report) (s : σ) : i.settle (.error f) report s = (.error f, report, s) := by
  rw [settle, if_neg (Bool.eq_false_iff.mp h)]

/-- What the closing leaves of a report: it fails only if it had not failed yet. -/
theorem conclude_within {i : Import σ} (h_close : i.ClosesWithin) (report : Report) (s : σ) :
    (i.conclude report s).1 = .ok () ∧
      (i.conclude report s).2.1 =
        match (i.source.close.after s).1 with
        | .ok () => report
        | .error g => if report.failure.isNone then report.failed g else report := by
  have h_within := h_close s
  unfold conclude
  rcases h_after : i.source.close.after s with ⟨g | _, t⟩
  · rw [h_after] at h_within
    dsimp only
    rw [if_pos (h_within g rfl)]
    exact ⟨rfl, rfl⟩
  · exact ⟨rfl, rfl⟩

/-- A closing after phases that have been settled. -/
theorem account_concluded {i : Import σ} (h_close : i.ClosesWithin) {deeds : List Entry}
    {phases settled : Except Failure Unit} {report report₁ : Report} {s s₁ : σ}
    (h : Driven .info deeds phases {} report)
    (h_settled : i.settle phases report s = (settled, report₁, s₁)) :
    Account deeds (i.source.close.after s₁).1
      (settled.map fun _ => (i.conclude report₁ s₁).2.1) := by
  have h_none : report.failure = none := h.failure
  have h_within := h_close s₁
  rw [(conclude_within h_close report₁ s₁).2]
  generalize (i.source.close.after s₁).1 = closing at h_within ⊢
  cases phases with
  | ok =>
    cases h_settled
    cases closing with
    | error g =>
      dsimp only
      rw [h_none]
      exact h.account_failed (h_within g rfl) rfl
    | ok => exact h.account_done
  | error f =>
    cases h_pipeline : f.isPipeline with
    | true =>
      -- The failure of the phases is in the report by now, and stays there.
      rw [settle_of_pipeline i h_pipeline] at h_settled
      cases h_settled
      cases closing with
      | error g => exact h.account_failed h_pipeline rfl
      | ok => exact h.account_failed h_pipeline rfl
    | false =>
      rw [settle_of_foreign i h_pipeline] at h_settled
      cases h_settled
      exact h.account_raised h_pipeline

/-- A run closes its data source once, after all else, and its log accounts for its outcome. -/
theorem run?_account {i : Import σ} (h_close : i.ClosesWithin) {fuel : Nat} {s s' : σ}
    {outcome : Except Failure Report} (h_run : i.run? fuel s = some (outcome, s')) :
    ∃ deeds closing, i.watched.run? fuel (s, []) =
        some (outcome, s', deeds ++ [⟨.close, closing.map fun _ => none⟩]) ∧
      Account deeds closing outcome := by
  unfold run? at h_run ⊢
  obtain ⟨⟨phases, report, s₁⟩, h_drive, h_rest⟩ := Option.map_eq_some_iff.mp h_run
  obtain ⟨deeds, h_watched, h_driven⟩ := drive?_driven i [] h_drive
  rcases h_settled : i.settle phases report s₁ with ⟨settled, report₁, s₂⟩
  have h_account := account_concluded h_close h_driven h_settled
  have h_concluded := (conclude_within h_close report₁ s₂).1
  rw [h_watched, Option.map_some, List.nil_append]
  dsimp only at h_rest ⊢
  rw [watched_settle, h_settled]
  rw [h_settled] at h_rest
  dsimp only at h_rest ⊢
  rw [watched_conclude]
  rcases h_end : i.conclude report₁ s₂ with ⟨ended, report₂, s₃⟩
  rw [h_end] at h_rest h_account h_concluded
  dsimp only at h_rest h_account h_concluded ⊢
  subst h_concluded
  refine ⟨deeds, (i.source.close.after s₂).1, ?_, ?_⟩
  all_goals
    cases settled
    all_goals
      cases h_rest
  · rfl
  · rfl
  · exact h_account
  · exact h_account

end Import

/-! ## The phases of a source -/

namespace Source

/-- The phases that the import of a source goes through from one on. -/
def itinerary : Phase → List Phase
  | .info => [.info, .transferDataFile, .resize, .convert, .done]
  | .transferDataFile => [.transferDataFile, .resize, .convert, .done]
  | .resize => [.resize, .convert, .done]
  | .convert => [.convert, .done]
  | .error => [.error, .done]
  | .done => [.done]

theorem itinerary_of_ne_done {phase : Phase} (h : phase ≠ .done) :
    itinerary phase = phase :: itinerary (nextPhase phase) := by
  cases phase with
  | done => exact absurd rfl h
  | _ => rfl

theorem finish_itinerary {phase : Phase} {report report' : Import.Report} {s s' : σ}
    {outcome : Except Failure Unit} (h_done : phase = .done)
    (h : some (Import.finish (report, s)) = some (outcome, report', s')) :
    ∃ visited, report'.phases = report.phases ++ visited ∧ visited <+: itinerary phase := by
  cases h
  subst h_done
  exact ⟨[.done], rfl, List.prefix_rfl⟩

/-- Whatever is done with the image, a source leads through its phases in their order. -/
theorem drive?_itinerary {ω : Type} {env : Collaborators ω} {i : Import (Source × ω)}
    (h_source : i.source = driven env) {fuel : Nat} {phase : Phase}
    {report report' : Import.Report} {s s' : Source × ω} {outcome : Except Failure Unit}
    (h : i.drive? fuel phase (report, s) = some (outcome, report', s')) :
    ∃ visited, report'.phases = report.phases ++ visited ∧ visited <+: itinerary phase := by
  induction fuel generalizing phase report s with
  | zero =>
    rw [Import.drive?] at h
    by_cases h_done : phase = .done
    · rw [if_pos h_done] at h
      exact finish_itinerary h_done h
    · rw [if_neg h_done] at h
      cases h
  | succ fuel ih =>
    rw [Import.drive?] at h
    by_cases h_done : phase = .done
    · rw [if_pos h_done] at h
      exact finish_itinerary h_done h
    rw [if_neg h_done] at h
    have h_phases := (Import.report_step i phase report s).1
    have h_next := answers_step h_source phase (report, s)
    rw [itinerary_of_ne_done h_done]
    rcases h_after : (i.step phase).after (report, s) with ⟨f | next, report₁, s₁⟩
    all_goals
      rw [h_after] at h h_phases h_next
      dsimp only at h h_phases h_next
    · cases h
      exact ⟨[phase], h_phases, List.prefix_append [phase] _⟩
    · obtain ⟨visited, h_visited, h_prefix⟩ := ih h
      refine ⟨phase :: visited, ?_, ?_⟩
      · rw [h_visited, h_phases, List.append_assoc]
        rfl
      · rw [h_next next rfl] at h_prefix
        exact (List.prefix_cons_inj phase).mpr h_prefix

theorem run?_of_drive? {i : Import σ} {fuel : Nat} {s : σ}
    (h : (i.drive? fuel .info ({}, s)).isSome) : (i.run? fuel s).isSome := by
  rw [Import.run?, Option.isSome_map]
  exact h

end Source

/-! ## Every import -/

/-- Every run of an import closes its data source once and after all else, and reports or raises
what its log accounts for; the import of a source is over after four phases, in their order. -/
theorem Import.run_accounted (i : Import σ) (h_close : i.ClosesWithin) :
    (∀ fuel s outcome s', i.run? fuel s = some (outcome, s') →
      ∃ deeds closing, i.watched.run? fuel (s, []) =
          some (outcome, s', deeds ++ [⟨.close, closing.map fun _ => none⟩]) ∧
        Account deeds closing outcome) ∧
    ∀ {ω : Type} (env : Collaborators ω) (j : Import (Source × ω)), j.source = Source.driven env →
      ∀ fuel s, 4 ≤ fuel → (j.run? fuel s).isSome ∧
        ∃ outcome report s', j.drive? fuel .info ({}, s) = some (outcome, report, s') ∧
          report.phases <+: [.info, .transferDataFile, .resize, .convert, .done] := by
  refine ⟨fun fuel s outcome s' h_run => run?_account h_close h_run, ?_⟩
  intro ω env j h_source fuel s h_fuel
  have h_ends := Source.isSome_drive? h_source fuel .info ({}, s) h_fuel
  obtain ⟨⟨outcome, report, s'⟩, h_drive⟩ := Option.isSome_iff_exists.mp h_ends
  obtain ⟨visited, h_visited, h_prefix⟩ := Source.drive?_itinerary h_source h_drive
  refine ⟨Source.run?_of_drive? h_ends, outcome, report, s', h_drive, ?_⟩
  rw [h_visited]
  exact h_prefix

/-- An import whose conversion fails from outside, and whose data source cannot be released. -/
def Import.failing : Import Unit where
  source :=
    { info := pure .transferDataFile
      transfer _ := pure .resize
      transferFile _ := throw (.outside (.value "no converter"))
      process := pure .convert
      url := pure none
      close := throw (.pipeline .resourceRelease "failed to close readers: broken" none) }
  record _ s := s
  dataFile := "/d.img"
  resize _ := pure ()
  finalize _ _ := pure ()

/-- The failure of the conversion is what is raised, and the closing comes last. -/
theorem Import.failing_raises_own_failure :
    ∃ deeds closing outcome, failing.watched.run? 4 ((), []) =
        some (outcome, (), deeds ++ [⟨.close, closing.map fun _ => none⟩]) ∧
      Account deeds closing outcome ∧
      outcome = .error (.outside (.value "no converter")) ∧
      ended .info deeds = .error (.outside (.value "no converter")) := by
  have h_close : failing.ClosesWithin := by
    intro s f h_error
    cases h_error
    rfl
  have h_run : failing.run? 4 () = some (.error (.outside (.value "no converter")), ()) := rfl
  obtain ⟨deeds, closing, h_watched, h_account⟩ := (run_accounted failing h_close).1 4 () _ _ h_run
  obtain ⟨h_own, -⟩ := h_account.raises _ rfl
  exact ⟨deeds, closing, _, h_watched, h_account, rfl, h_own⟩

end ImageIntake
