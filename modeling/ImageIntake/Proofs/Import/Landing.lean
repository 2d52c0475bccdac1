/-
  ImageIntake.Proofs.Import.Landing

  Where the image of a source is, for those who come after its conversion.  The import
  tells its report and its own steps a path below the scratch directory, and the source
  hands the converter a text that it joins itself.  The two name the same file if both
  sides have the name of that file from one place (`landsAt_joinText`).

  An import is followed with notes of what its source hands over and of what it does
  (`Plan.watched`); the notes are not seen by anything else (`seenAs_import`).  Nothing
  is handed over before the image is converted, and after that nothing but the path in
  the report is passed on (`Straight`, `Stage`); each step keeps that (`stage_step`), and
  so does the way through the phases.
-/

import ImageIntake.Cli.Outcome
import ImageIntake.Proofs.Files.Joining
import ImageIntake.Proofs.Import.Projection
import ImageIntake.Proofs.Source.Classification
import ImageIntake.Proofs.Source.Opening
import ImageIntake.Proofs.Source.Watched

namespace ImageIntake

open ImageIntake.Action ImageIntake.Files

variable {ω α : Type}

/-- The path that a step of an import is told. -/
def Import.Deed.image? : Import.Deed → Option String
  | .resize path => some path
  | .finalize _ path => some path
  | _ => none

namespace Source

/-! ## Imports with steps of their own -/

/-- Where the image of a source is to go, and what is done with it there. -/
structure Plan (ω : Type) where
  dataFile : String
  scratchDir : Option String
  scratchFileName : String
  resize : String → Operation ω Unit
  finalize : Option Url → String → Operation ω Unit

/-- Does something that turns to no collaborators in surroundings where they are watched. -/
def unasking (a : Operation ω α) : Operation (Watched ω) α :=
  a.inside (fun s => (s.1, s.2.1)) fun after s => (after.1, after.2, s.2.2)

@[simp] theorem after_unasking (a : Operation ω α) (source : Source) (s : ω)
    (asked : List (Query ω)) :
    (unasking a).after (source, s, asked) =
      ((a.after (source, s)).1, (a.after (source, s)).2.1, (a.after (source, s)).2.2, asked) := rfl

/-- An import whose collaborators are watched, and that keeps a log of what it does. -/
abbrev Followed (ω : Type) := (Source × Watched ω) × List Import.Entry

namespace Plan

/-- The scratch directory, if there is one. -/
def scratch? (plan : Plan ω) : Option String := plan.scratchDir.filter (· ≠ "")

/-- Where the image is, for the report and the steps of the import. -/
def image (plan : Plan ω) : String :=
  match plan.scratch? with
  | some dir => pathBelow dir plan.scratchFileName
  | none => plan.dataFile

/-- The import of a source. -/
def toImport (plan : Plan ω) (env : Collaborators ω) : Import (Source × ω) :=
  { importTo env plan.dataFile plan.scratchDir plan.scratchFileName with
    resize := plan.resize
    finalize := plan.finalize }

/-- The same plan where collaborators are watched. -/
def unasking (plan : Plan ω) : Plan (Watched ω) :=
  { plan with
    resize := fun path => Source.unasking (plan.resize path)
    finalize := fun url path => Source.unasking (plan.finalize url path) }

/-- The import of a source, followed. -/
def watched (plan : Plan ω) (env : Collaborators ω) : Import (Followed ω) :=
  (plan.unasking.toImport env.watched).watched

/-- Whether what is written to a destination is what the report and the steps are told of: the
path in plain form where there is scratch space, the data file itself where there is none. -/
def LandsAt (plan : Plan ω) (dest : String) : Prop :=
  match plan.scratch? with
  | some _ => plainPath dest = plan.image
  | none => dest = plan.dataFile ∧ plan.image = plan.dataFile

theorem landsAt_joinText {plan : Plan ω} {dir : String} (h_dir : plan.scratch? = some dir) :
    plan.LandsAt (joinText dir plan.scratchFileName) := by
  unfold LandsAt image
  rw [h_dir]
  exact plainPath_joinText dir plan.scratchFileName

theorem landsAt_dataFile {plan : Plan ω} (h_none : plan.scratch? = none) :
    plan.LandsAt plan.dataFile := by
  unfold LandsAt image
  rw [h_none]
  exact ⟨rfl, rfl⟩

/-- What is in the report is what the steps of the import are told. -/
theorem imageOf_image {plan : Plan ω} {env : Collaborators ω} {report : Import.Report}
    (h : report.imagePath = some plan.image) :
    (plan.watched env).imageOf report = plan.image := by
  unfold Import.imageOf
  rw [h]
  dsimp only
  split
  next h_empty =>
    -- Only the data file can have an empty text.
    show plan.dataFile = plan.image
    unfold image at h_empty ⊢
    split
    next dir h_dir =>
      rw [h_dir] at h_empty
      exact absurd h_empty (pathBelow_ne_empty dir plan.scratchFileName)
    next => rfl
  next => rfl

/-! ## Following changes nothing -/

/-- What is seen of an import by those who do not follow it. -/
def seen (state : Followed ω) : Source × ω := (state.1.1, state.1.2.1)

theorem seenAs_logged {deed : Import.Deed} {named : α → Option Phase} {a : Operation (Watched ω) α}
    {b : Operation ω α} (h : a.Tracks (Beside fun w s => w.1 = s) b) :
    (a.logged deed named).SeenAs seen b := by
  rintro ⟨⟨source, s, asked⟩, log⟩
  obtain ⟨h_outcome, h_source, h_after⟩ := h (source, s, asked) (source, s) ⟨rfl, rfl⟩
  exact Prod.ext h_outcome.symm (Prod.ext h_source.symm h_after.symm)

theorem seenAs_unasking (deed : Import.Deed) (named : α → Option Phase) (a : Operation ω α) :
    ((Source.unasking a).logged deed named).SeenAs seen a := fun _ => rfl

/-- An import that is followed is seen as the import. -/
theorem seenAs_import (plan : Plan ω) (env : Collaborators ω) :
    (plan.watched env).SeenAs seen (plan.toImport env) :=
  have h_matches := env.watched_tracks.matches
  { record := fun _ _ => rfl
    info := seenAs_logged (tracks_of_matches (matches_info h_matches))
    transfer := fun dir => seenAs_logged (tracks_of_matches (matches_transfer h_matches dir))
    transferFile := fun path =>
      seenAs_logged (tracks_of_matches (matches_convertTo h_matches _ path))
    process := fun _ => rfl
    url := fun _ => rfl
    close := seenAs_logged (tracks_of_matches (matches_close h_matches))
    resize := fun path => seenAs_unasking _ _ (plan.resize path)
    finalize := fun url path => seenAs_unasking _ _ (plan.finalize url path)
    dataFile := rfl
    scratchDir := rfl
    scratchFileName := rfl }

end Plan

/-! ## What is handed over -/

/-- The requests among questions. -/
def requestsOf (asked : List (Query ω)) : List Conversion.Request := asked.filterMap Query.request?

section

variable (env : Collaborators ω) (source : Source) (s : ω) (asked : List (Query ω))

theorem requestsOf_info :
    requestsOf ((info env.watched).after (source, s, asked)).2.2.2 = requestsOf asked := by
  refine info_keeps (P := fun w : Watched ω => requestsOf w.2 = requestsOf asked) source ?_ ?_ rfl
  · exact fun _ _ h => h
  · intro length w h
    have h_asked : requestsOf ((env.watched.classify length).after w).2.2 = requestsOf w.2 ++ [] :=
      List.filterMap_append
    rw [h_asked, List.append_nil, h]

theorem scratchFileName_info :
    ((info env).after (source, s)).2.1.scratchFileName = source.scratchFileName := by
  have h_built : ((build env).after (source, s)).2.1.scratchFileName = source.scratchFileName := by
    rw [after_build]
    split
    · rfl
    · split
      · rfl
      · split <;> rfl
  rw [after_info]
  split
  · rfl
  · rcases h_after : (build env).after (source, s) with ⟨f | readers, built, t⟩
    all_goals rw [h_after] at h_built
    · exact h_built
    · dsimp only
      split
      · exact h_built
      · split <;> exact h_built

theorem requestsOf_close :
    requestsOf ((close env.watched).after (source, s, asked)).2.2.2 = requestsOf asked := by
  refine close_keeps (P := fun w : Watched ω => requestsOf w.2 = requestsOf asked) source
    ?_ ?_ ?_ rfl
  all_goals exact fun _ h => h

/-- A conversion is handed over for its destination, and one that went well was handed over. -/
theorem requestsOf_convertTo (operation dest : String) :
    ∃ more, requestsOf ((convertTo env.watched operation dest).after (source, s, asked)).2.2.2 =
        requestsOf asked ++ more ∧
      (∀ request ∈ more, request.dest = dest) ∧
      (∀ phase, ((convertTo env.watched operation dest).after (source, s, asked)).1 = .ok phase →
        more ≠ []) := by
  rw [asked_convertTo]
  refine ⟨requestsOf (handing source operation dest s), List.filterMap_append, ?_, ?_⟩
  · intro request h_mem
    unfold handing at h_mem
    cases h_request : source.requestFor operation dest with
    | error f =>
      rw [h_request] at h_mem
      cases h_mem
    | ok only =>
      obtain ⟨-, -, -, -, h_dest, -⟩ := requestFor_ok h_request
      rw [h_request] at h_mem
      rw [List.mem_singleton.mp h_mem, h_dest]
  · intro phase h_ok
    rw [after_convertTo] at h_ok
    unfold handing
    cases h_request : source.requestFor operation dest with
    | error f =>
      rw [h_request] at h_ok
      cases h_ok
    | ok only => exact List.cons_ne_nil only []

/-- A conversion into scratch space is handed over for the joined text. -/
theorem requestsOf_transfer (dir : String) :
    ∃ more, requestsOf ((transfer env.watched dir).after (source, s, asked)).2.2.2 =
        requestsOf asked ++ more ∧
      (∀ request ∈ more, request.dest = joinText dir source.scratchFileName) ∧
      (∀ phase, ((transfer env.watched dir).after (source, s, asked)).1 = .ok phase →
        more ≠ []) := by
  have h_probe : (env.watched.usableSpace dir).after (s, asked) =
      (((env.usableSpace dir).after s).1, ((env.usableSpace dir).after s).2,
        asked ++ [.space dir ((env.usableSpace dir).after s).1]) := rfl
  have h_probed : requestsOf (asked ++ [.space dir ((env.usableSpace dir).after s).1]) =
      requestsOf asked := by
    have h_split : requestsOf (asked ++ [.space dir ((env.usableSpace dir).after s).1]) =
        requestsOf asked ++ [] := List.filterMap_append
    rw [h_split, List.append_nil]
  have h_nothing : requestsOf asked = requestsOf asked ++ [] := (List.append_nil _).symm
  rw [after_transfer, h_probe]
  generalize asked ++ [.space dir ((env.usableSpace dir).after s).1] = asked' at h_probed ⊢
  rcases (env.usableSpace dir).after s with ⟨f | size, t⟩
  · exact ⟨[], h_probed.trans h_nothing, fun _ h => absurd h List.not_mem_nil, nofun⟩
  · dsimp only
    split
    · exact ⟨[], h_probed.trans h_nothing, fun _ h => absurd h List.not_mem_nil, nofun⟩
    · obtain ⟨more, h_more, h_dest, h_some⟩ := requestsOf_convertTo env source t asked' "transfer"
        (joinText dir source.scratchFileName)
      exact ⟨more, h_more.trans (congrArg (· ++ more) h_probed), h_dest, h_some⟩

end

/-! ## The command line -/

/-- The command line gives a source and its import the name of the file from one place. -/
theorem scratchFileName_of_command {c : Cli.ImportCommand} {settings : Settings}
    {site opened : Site} {source : Source}
    (h : (ofOwnedOrder (c.order settings) settings.ownerUid).after site = (.ok source, opened)) :
    source.scratchFileName = settings.scratchFileName := by
  unfold ofOwnedOrder at h
  rw [after_bind] at h
  rcases h_order : (ofOrder (c.order settings)).after site with ⟨f | made, site₁⟩
  all_goals rw [h_order] at h
  · cases h
  · have h_made := (ofOrder_ok h_order).made
    have h_source : made = source := by
      simp only [after_bind] at h
      split at h
      · exact Except.ok.inj (congrArg Prod.fst h)
      · cases h
    rw [← h_source, h_made]
    rfl

/-! ## From phase to phase -/

/-- What holds at every moment of an import: what was handed over lands where the report says,
which says nothing only as long as nothing was handed over; and no step is told of another path,
or of any before something was handed over. -/
structure Straight (plan : Plan ω) (reported : Option String) (asked : List (Query ω))
    (log : List Import.Entry) : Prop where
  dest : ∀ request ∈ requestsOf asked, plan.LandsAt request.dest
  path : requestsOf asked = [] ∧ reported = none ∨ reported = some plan.image
  told : ∀ e ∈ log, ∀ path, e.deed.image? = some path → path = plan.image ∧ requestsOf asked ≠ []

/-- What holds when a phase is entered: before the conversion the source has the name that was
planned, and afterwards something was handed over and the report says where it is. -/
def Stage (plan : Plan ω) (phase : Phase) (report : Import.Report) (state : Followed ω) : Prop :=
  match phase with
  | .info | .transferDataFile =>
    state.1.1.scratchFileName = plan.scratchFileName ∧ report.imagePath = none
  | .resize | .convert | .done =>
    report.imagePath = some plan.image ∧ requestsOf state.1.2.2 ≠ []
  | .error => False

namespace Straight

variable {plan : Plan ω} {reported : Option String} {asked asked' : List (Query ω)}
  {log : List Import.Entry} {e : Import.Entry}

theorem start (plan : Plan ω) : Straight plan none [] [] :=
  ⟨fun _ h_mem => absurd h_mem List.not_mem_nil, .inl ⟨rfl, rfl⟩,
    fun _ h_mem => absurd h_mem List.not_mem_nil⟩

/-- One more deed that is told of no image, and by which nothing is handed over. -/
theorem further (h : Straight plan reported asked log)
    (h_handed : requestsOf asked' = requestsOf asked) (h_untold : e.deed.image? = none) :
    Straight plan reported asked' (log ++ [e]) := by
  refine ⟨?_, ?_, ?_⟩
  · rw [h_handed]
    exact h.dest
  · rw [h_handed]
    exact h.path
  · intro d h_mem path h_path
    rw [h_handed]
    rcases List.mem_append.mp h_mem with h_earlier | h_new
    · exact h.told d h_earlier path h_path
    · rw [List.mem_singleton.mp h_new, h_untold] at h_path
      cases h_path

/-- One more deed that is told where the image is, after something was handed over. -/
theorem passed_on (h : Straight plan reported asked log) (h_some : requestsOf asked ≠ [])
    (h_told : e.deed.image? = some plan.image) : Straight plan reported asked (log ++ [e]) := by
  refine ⟨h.dest, h.path, ?_⟩
  intro d h_mem path h_path
  rcases List.mem_append.mp h_mem with h_earlier | h_new
  · exact h.told d h_earlier path h_path
  · rw [List.mem_singleton.mp h_new, h_told] at h_path
    exact ⟨(Option.some.inj h_path).symm, h_some⟩

/-- The conversion: the report says where the image is, and what is handed over lands there. -/
theorem converted (h : Straight plan none asked log) {more : List Conversion.Request}
    (h_handed : requestsOf asked' = requestsOf asked ++ more)
    (h_dest : ∀ request ∈ more, plan.LandsAt request.dest) (h_untold : e.deed.image? = none) :
    Straight plan (some plan.image) asked' (log ++ [e]) := by
  have h_nothing : requestsOf asked = [] := by
    rcases h.path with ⟨h_nothing, -⟩ | h_some
    · exact h_nothing
    · cases h_some
  refine ⟨?_, .inr rfl, ?_⟩
  · intro request h_mem
    rw [h_handed, h_nothing, List.nil_append] at h_mem
    exact h_dest request h_mem
  · intro d h_mem path h_told
    rcases List.mem_append.mp h_mem with h_earlier | h_new
    · -- Before the conversion no step was told of an image.
      exact absurd h_nothing (h.told d h_earlier path h_told).2
    · rw [List.mem_singleton.mp h_new, h_untold] at h_told
      cases h_told

end Straight

section

variable (plan : Plan ω) (env : Collaborators ω)

/-- The conversion is handed over for the place where the image lands, be it in scratch space or in
the data file. -/
theorem transfer_lands {source : Source} (h_name : source.scratchFileName = plan.scratchFileName)
    (s : ω) (asked : List (Query ω)) :
    ∃ (a : Operation (Watched ω) Phase) (deed : Import.Deed) (more : List Conversion.Request),
      (plan.watched env).transfer = a.logged deed some ∧ deed.image? = none ∧
      requestsOf (a.after (source, s, asked)).2.2.2 = requestsOf asked ++ more ∧
      (∀ request ∈ more, plan.LandsAt request.dest) ∧
      ∀ next, (a.after (source, s, asked)).1 = .ok next → next = .resize ∧ more ≠ [] := by
  have h_scratch : (plan.watched env).scratch? = plan.scratch? := rfl
  unfold Import.transfer
  rw [h_scratch]
  cases h_dir : plan.scratch? with
  | none =>
    obtain ⟨more, h_more, h_dest, h_some⟩ :=
      requestsOf_convertTo env source s asked "transfer_file" plan.dataFile
    refine ⟨convertTo env.watched "transfer_file" plan.dataFile, .transferFile plan.dataFile, more,
      rfl, rfl, h_more, ?_, ?_⟩
    · intro request h_mem
      rw [h_dest request h_mem]
      exact Plan.landsAt_dataFile h_dir
    · intro next h_ok
      exact ⟨answers_convertTo env.watched _ _ _ next h_ok, h_some next h_ok⟩
  | some dir =>
    obtain ⟨more, h_more, h_dest, h_some⟩ := requestsOf_transfer env source s asked dir
    refine ⟨transfer env.watched dir, .transfer dir, more, rfl, rfl, h_more, ?_, ?_⟩
    · intro request h_mem
      rw [h_dest request h_mem, h_name]
      exact Plan.landsAt_joinText h_dir
    · intro next h_ok
      exact ⟨answers_transfer env.watched _ _ next h_ok, h_some next h_ok⟩

/-- One phase keeps everything straight, and the phase it names finds what it needs. -/
theorem stage_step {phase : Phase} (h_phase : phase ≠ .done) (report : Import.Report)
    (source : Source) (s : ω) (asked : List (Query ω)) (log : List Import.Entry)
    (h : Straight plan report.imagePath asked log)
    (h_stage : Stage plan phase report ((source, s, asked), log)) :
    let after := ((plan.watched env).step phase).after (report, (source, s, asked), log)
    Straight plan after.2.1.imagePath after.2.2.1.2.2 after.2.2.2 ∧
      ∀ next, after.1 = .ok next → Stage plan next after.2.1 after.2.2 := by
  intro after
  have h_after : after = ((plan.watched env).advance phase).after
      (report.visit phase, (source, env.record (Import.entering phase) s, asked), log) :=
    Import.after_step _ _ _ _
  rw [h_after]
  clear h_after after
  generalize env.record (Import.entering phase) s = t
  cases phase with
  | info =>
    -- Asking for the image converts nothing.
    obtain ⟨h_name, h_none⟩ := h_stage
    have h_named := scratchFileName_info env.watched source (t, asked)
    have h_next := answers_info env.watched (source, t, asked)
    rw [Import.after_info]
    refine ⟨h.further (requestsOf_info env source t asked) rfl, ?_⟩
    intro next h_ok
    rw [h_next next h_ok]
    exact ⟨h_named.trans h_name, h_none⟩
  | transferDataFile =>
    obtain ⟨h_name, h_none⟩ := h_stage
    obtain ⟨a, deed, more, h_transfer, h_untold, h_more, h_dest, h_next⟩ :=
      transfer_lands plan env h_name t asked
    rw [h_none] at h
    rw [Import.after_transferDataFile, h_transfer, after_logged]
    -- The conversion that was made is the one that the phase tells of.
    refine ⟨h.converted h_more h_dest h_untold, ?_⟩
    intro next h_ok
    obtain ⟨rfl, h_some⟩ := h_next next h_ok
    refine ⟨rfl, ?_⟩
    show requestsOf (a.after (source, t, asked)).2.2.2 ≠ []
    rw [h_more]
    exact fun h_nil => h_some (List.append_eq_nil_iff.mp h_nil).2
  | resize =>
    obtain ⟨h_path, h_handed⟩ := h_stage
    have h_image : (plan.watched env).imageOf (report.visit .resize) = plan.image :=
      Plan.imageOf_image h_path
    -- The hook is handed the image; its own doings ask nothing of the source.
    have h_resize : (plan.watched env).resize plan.image =
        (Source.unasking (plan.resize plan.image)).logged (.resize plan.image) fun _ => none := rfl
    rw [Import.after_resize, h_image, h_resize, after_logged, after_unasking]
    rcases (plan.resize plan.image).after (source, t) with ⟨f | _, source', u⟩
    · exact ⟨h.passed_on h_handed rfl, nofun⟩
    · refine ⟨(h.passed_on h_handed rfl).further rfl rfl, ?_⟩
      rintro next ⟨⟩
      exact ⟨h_path, h_handed⟩
  | convert =>
    obtain ⟨h_path, h_handed⟩ := h_stage
    have h_image : (plan.watched env).imageOf (report.visit .convert) = plan.image :=
      Plan.imageOf_image h_path
    have h_url : (plan.watched env).source.url.after ((source, t, asked), log) =
        (.ok source.url, (source, t, asked), log ++ [⟨.url, .ok none⟩]) := rfl
    have h_finalize : (plan.watched env).finalize source.url plan.image =
        (Source.unasking (plan.finalize source.url plan.image)).logged
          (.finalize source.url plan.image) fun _ => none := rfl
    -- The question for the locator asks for no conversion either.
    have h_located : Straight plan report.imagePath asked (log ++ [⟨.url, .ok none⟩]) :=
      h.further rfl rfl
    rw [Import.after_convert, h_url, h_image]
    dsimp only
    rw [h_finalize, after_logged, after_unasking]
    rcases (plan.finalize source.url plan.image).after (source, t) with ⟨f | _, source', u⟩
    · exact ⟨h_located.passed_on h_handed rfl, nofun⟩
    · refine ⟨h_located.passed_on h_handed rfl, ?_⟩
      rintro next ⟨⟩
      exact ⟨h_path, h_handed⟩
  | error => cases h_stage
  | done => exact absurd rfl h_phase

/-- The phases keep everything straight until the last. -/
theorem straight_drive? (fuel : Nat) {phase : Phase} {report report' : Import.Report}
    {state state' : Followed ω} {outcome : Except Failure Unit}
    (h : Straight plan report.imagePath state.1.2.2 state.2)
    (h_stage : Stage plan phase report state)
    (h_drive : (plan.watched env).drive? fuel phase (report, state) =
      some (outcome, report', state')) :
    Straight plan report'.imagePath state'.1.2.2 state'.2 := by
  induction fuel generalizing phase report state with
  | zero =>
    rw [Import.drive?] at h_drive
    by_cases h_done : phase = .done
    · rw [if_pos h_done] at h_drive
      cases h_drive
      exact h
    · rw [if_neg h_done] at h_drive
      cases h_drive
  | succ fuel ih =>
    rw [Import.drive?] at h_drive
    by_cases h_done : phase = .done
    · rw [if_pos h_done] at h_drive
      cases h_drive
      exact h
    · rw [if_neg h_done] at h_drive
      obtain ⟨⟨source, s, asked⟩, log⟩ := state
      obtain ⟨h_after, h_next⟩ := stage_step plan env h_done report source s asked log h h_stage
      rcases h_step : ((plan.watched env).step phase).after (report, (source, s, asked), log)
        with ⟨f | next, report₁, state₁⟩
      all_goals rw [h_step] at h_drive h_after h_next
      · cases h_drive
        exact h_after
      · exact ih h_after (h_next next rfl) h_drive

/-! ## The whole import -/

theorem straight_settle {report : Import.Report} {state : Followed ω}
    (h : Straight plan report.imagePath state.1.2.2 state.2) (outcome : Except Failure Unit) :
    let settled := (plan.watched env).settle outcome report state
    Straight plan settled.2.1.imagePath settled.2.2.1.2.2 settled.2.2.2 := by
  unfold Import.settle
  cases outcome with
  | ok => exact h
  | error f =>
    dsimp only
    split
    · exact h
    · exact h

theorem straight_conclude {report : Import.Report} {state : Followed ω}
    (h : Straight plan report.imagePath state.1.2.2 state.2) :
    let concluded := (plan.watched env).conclude report state
    Straight plan concluded.2.1.imagePath concluded.2.2.1.2.2 concluded.2.2.2 := by
  obtain ⟨⟨source, s, asked⟩, log⟩ := state
  have h_close : (plan.watched env).source.close =
      (close env.watched).logged .close fun _ => none := rfl
  have h_closed : ∀ outcome, Straight plan report.imagePath
      ((close env.watched).after (source, s, asked)).2.2.2 (log ++ [⟨.close, outcome⟩]) :=
    fun _ => h.further (requestsOf_close env source s asked) rfl
  unfold Import.conclude
  rw [h_close, after_logged]
  rcases h_after : (close env.watched).after (source, s, asked) with ⟨f | _, t⟩
  all_goals rw [h_after] at h_closed
  · dsimp only
    by_cases h_pipeline : f.isPipeline = true
    · rw [if_pos h_pipeline]
      by_cases h_none : report.failure.isNone = true
      · rw [if_pos h_none]
        exact h_closed _
      · rw [if_neg h_none]
        exact h_closed _
    · rw [if_neg h_pipeline]
      exact h_closed _
  · exact h_closed _

/-- However an import ends, everything was straight, and so is what it reports. -/
theorem straight_run? {source : Source} (h_name : source.scratchFileName = plan.scratchFileName)
    {s : ω} {fuel : Nat} {outcome : Except Failure Import.Report} {state : Followed ω}
    (h_run : (plan.watched env).run? fuel ((source, s, []), []) = some (outcome, state)) :
    ∃ reported, Straight plan reported state.1.2.2 state.2 ∧
      ∀ report, outcome = .ok report → report.imagePath = reported := by
  unfold Import.run? at h_run
  obtain ⟨⟨phases, report, state₁⟩, h_drive, h_rest⟩ := Option.map_eq_some_iff.mp h_run
  have h_stage : Stage plan .info {} ((source, s, []), []) := ⟨h_name, rfl⟩
  have h_driven := straight_drive? plan env fuel (Straight.start plan) h_stage h_drive
  have h_settled := straight_settle plan env h_driven phases
  dsimp only at h_rest
  rcases h_settle : (plan.watched env).settle phases report state₁ with ⟨settled, report₁, state₂⟩
  rw [h_settle] at h_settled h_rest
  have h_concluded := straight_conclude plan env h_settled
  dsimp only at h_rest
  rcases h_conclude : (plan.watched env).conclude report₁ state₂ with ⟨closing, report₂, state₃⟩
  rw [h_conclude] at h_concluded h_rest
  refine ⟨report₂.imagePath, ?_⟩
  rcases closing with f | _
  all_goals rcases settled with f | _
  all_goals cases h_rest
  · exact ⟨h_concluded, nofun⟩
  · exact ⟨h_concluded, nofun⟩
  · exact ⟨h_concluded, nofun⟩
  · refine ⟨h_concluded, ?_⟩
    rintro _ ⟨⟩
    rfl

/-- Where an import says that the image of a source is, there the source had it converted to: the
report and the steps of the import are told the plain form of the destination that was handed to the
converter, and the data file itself where there is no scratch space. -/
theorem image_lands_where_converted (source : Source)
    (h_name : source.scratchFileName = plan.scratchFileName) (s : ω) :
    ∃ outcome source' s' asked log,
      (plan.watched env).run? 4 ((source, s, []), []) =
        some (outcome, (source', s', asked), log) ∧
      (plan.toImport env).run? 4 (source, s) = some (outcome, source', s') ∧
      (∀ request ∈ requestsOf asked,
        (∀ dir, plan.scratchDir = some dir → dir ≠ "" → plainPath request.dest = plan.image) ∧
        (plan.scratchDir = none ∨ plan.scratchDir = some "" →
          request.dest = plan.dataFile ∧ plan.image = plan.dataFile)) ∧
      (∀ e ∈ log, ∀ path, e.deed.image? = some path →
        path = plan.image ∧ requestsOf asked ≠ []) ∧
      (∀ report, outcome = .ok report →
        requestsOf asked = [] ∧ report.imagePath = none ∨ report.imagePath = some plan.image) := by
  have h_seen := (plan.seenAs_import env).run? 4 ((source, s, []), [])
  have h_ends : ((plan.toImport env).run? 4 (source, s)).isSome := by
    have h_source : (plan.toImport env).source = driven env := rfl
    exact run?_of_drive? (isSome_drive? h_source 4 .info ({}, source, s) (by decide))
  obtain ⟨⟨outcome, state⟩, h_run⟩ : ∃ result,
      (plan.watched env).run? 4 ((source, s, []), []) = some result := by
    have h_map := h_seen ▸ h_ends
    rw [Option.isSome_map] at h_map
    exact Option.isSome_iff_exists.mp h_map
  obtain ⟨reported, h_straight, h_reported⟩ := straight_run? plan env h_name h_run
  rw [h_run] at h_seen
  obtain ⟨⟨source', s', asked⟩, log⟩ := state
  refine ⟨outcome, source', s', asked, log, h_run, h_seen, ?_, h_straight.told, ?_⟩
  · intro request h_mem
    have h_lands := h_straight.dest request h_mem
    unfold Plan.LandsAt at h_lands
    constructor
    · intro dir h_dir h_some
      have h_scratch : plan.scratch? = some dir := by
        rw [Plan.scratch?, h_dir]
        simp [Option.filter, h_some]
      rwa [h_scratch] at h_lands
    · intro h_none
      have h_scratch : plan.scratch? = none := by
        rcases h_none with h_none | h_empty
        · rw [Plan.scratch?, h_none]
          rfl
        · rw [Plan.scratch?, h_empty]
          rfl
      rwa [h_scratch] at h_lands
  · intro report h_ok
    rw [h_reported report h_ok]
    exact h_straight.path

end

/-- Collaborators who find an image without compression and do whatever they are asked for. -/
def obliging : Collaborators Unit where
  record _ s := s
  classify _ := pure ⟨none⟩
  closeReaders := pure ()
  closeStream := pure ()
  usableSpace _ := pure 1
  convert _ := pure ()
  cancel := pure ()

/-- A plan by way of a scratch directory whose name and file name hold dots and slashes. -/
def winding : Plan Unit where
  dataFile := "/d.img"
  scratchDir := some "./scratch//"
  scratchFileName := "../a//b.img"
  resize _ := pure ()
  finalize _ _ := pure ()

/-- The image is handed over for a joined text, and reported in plain form. -/
theorem winding_lands :
    let source : Source :=
      { endpoint := { scheme := "http", host := "h", path := "/i" }
        contentLength := 0
        contentType := .kubevirt
        scratchFileName := "../a//b.img" }
    ∃ outcome source' s' asked log,
      (winding.watched obliging).run? 4 ((source, (), []), []) =
        some (outcome, (source', s', asked), log) ∧
      (requestsOf asked).map (·.dest) = ["./scratch//../a//b.img"] ∧
      (∀ request ∈ requestsOf asked, plainPath request.dest = winding.image) ∧
      winding.image = "scratch/../a/b.img" := by
  intro source
  obtain ⟨outcome, source', s', asked, log, h_run, -, h_dest, -, -⟩ :=
    image_lands_where_converted winding obliging source rfl ()
  have h_requests : ((winding.watched obliging).run? 4 ((source, (), []), [])).map
      (fun result => (requestsOf result.2.1.2.2).map (·.dest)) =
        some ["./scratch//../a//b.img"] := by decide +kernel
  refine ⟨outcome, source', s', asked, log, h_run, ?_, ?_, by decide⟩
  · rw [h_run] at h_requests
    exact Option.some.inj h_requests
  · intro request h_mem
    exact (h_dest request h_mem).1 "./scratch//" rfl (by decide)

end Source

end ImageIntake
