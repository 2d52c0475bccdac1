/-
  ImageIntake.Proofs.Source.Escape

  Which failures leave a call on a source although they are not the pipeline's.
  A driver records a failure of the pipeline, with the error phase; any other
  passes it by.  Failures of classifying, of converting and of releasing are
  turned into the pipeline's, whatever they were; three sorts of faults arise
  outside of that and leave as they are (`perform_escapes_iff`).  Faults that ask
  the program to end are left alone on purpose and do not count.
-/

import ImageIntake.Proofs.Feed
import ImageIntake.Proofs.Source.Call
import ImageIntake.Proofs.Space
import ImageIntake.Source.Opening

namespace ImageIntake

open ImageIntake.Action

/-! ## Failures that escape -/

/-- Whether an outcome is a failure that no driver records: it comes with no error phase, nor does
it ask the program to end. -/
def Escapes {α : Type} (outcome : Except Failure α) (f : Failure) : Prop :=
  outcome = .error f ∧ f.phase? ≠ some .error ∧ f.endsProgram = false

section

variable {α β : Type} {f g : Failure}

@[simp] theorem not_escapes_ok (x : α) : ¬Escapes (.ok x) f := by
  rintro ⟨h, -⟩
  cases h

@[simp] theorem not_escapes_pipeline (trouble : Trouble) (message : String)
    (cause : Option Failure) :
    ¬Escapes (.error (.pipeline trouble message cause) : Except Failure α) f := by
  rintro ⟨h, h_phase, -⟩
  cases h
  exact h_phase rfl

theorem escapes_map {outcome : Except Failure α} (k : α → β) :
    Escapes (outcome.map k) f ↔ Escapes outcome f := by
  cases outcome <;> simp [Escapes, Except.map]

theorem not_escapes_of_endsProgram (h : g.endsProgram = true) :
    ¬Escapes (.error g : Except Failure α) f := by
  rintro ⟨h_eq, -, h_ends⟩
  cases h_eq
  simp [h] at h_ends

theorem escapes_outside (fault : Fault) (h : fault.endsProgram = false) :
    Escapes (.error (.outside fault) : Except Failure α) f ↔ f = .outside fault := by
  constructor
  · rintro ⟨h_eq, -⟩
    cases h_eq
    rfl
  · rintro rfl
    exact ⟨rfl, by simp [Failure.phase?, Failure.trouble?],
      by simpa [Failure.endsProgram, Failure.fault?]⟩

end

namespace Source

/-! ## What is turned into a failure of the pipeline -/

section

variable {α : Type} (f g : Failure)

theorem not_escapes_unclassifiable : ¬Escapes (.error (unclassifiable g) : Except Failure α) f :=
  not_escapes_pipeline _ _ _

theorem not_escapes_notReleased : ¬Escapes (.error (notReleased g) : Except Failure α) f :=
  not_escapes_pipeline _ _ _

theorem not_escapes_notConverted : ¬Escapes (.error (notConverted g) : Except Failure α) f := by
  unfold notConverted
  split
  · rename_i h
    rcases Bool.or_eq_true_iff.mp h with h_pipeline | h_ends
    · cases g with
      | pipeline => exact not_escapes_pipeline _ _ _
      | process => cases h_pipeline
      | outside => cases h_pipeline
    · exact not_escapes_of_endsProgram h_ends
  · exact not_escapes_pipeline _ _ _

end

theorem not_escapes_filterFor (readers : Readers) (f : Failure) :
    ¬Escapes (filterFor readers) f := by
  unfold filterFor
  split
  · exact not_escapes_ok _
  · split
    · exact not_escapes_ok _
    · split
      · exact not_escapes_ok _
      · split
        · exact not_escapes_ok _
        · exact not_escapes_pipeline _ _ _

/-- The fault of a conversion without a destination. -/
def noDestination : Fault := .value "conversion destination must not be empty"

theorem requestFor_escapes_iff (source : Source) (operation dest : String) (f : Failure) :
    Escapes (source.requestFor operation dest) f ↔
      source.readers.isSome ∧ dest = "" ∧ f = .outside noDestination := by
  unfold requestFor
  cases source.readers with
  | none => simp [tooEarly]
  | some readers =>
    by_cases h_dest : dest = ""
    · simp only [Conversion.Request.make, h_dest, dif_pos]
      simpa [noDestination] using escapes_outside noDestination (by decide)
    · simp only [Conversion.Request.make, h_dest, dif_neg, not_false_iff, escapes_map,
        not_escapes_filterFor]
      simp

/-! ## Operations -/

variable {ω : Type} (env : Collaborators ω) (source : Source) (s : ω) (f : Failure)

theorem build_not_escapes : ¬Escapes ((build env).after (source, s)).1 f := by
  rw [after_build]
  cases source.readers with
  | some readers => exact not_escapes_ok _
  | none =>
    rcases (env.classify source.contentLength).after s with ⟨g | readers, t⟩
    · by_cases h_ends : g.endsProgram
      · simp only [h_ends, if_true]
        exact not_escapes_of_endsProgram h_ends
      · simp only [h_ends]
        exact not_escapes_unclassifiable f g
    · exact not_escapes_ok _

theorem convertTo_escapes_iff (operation dest : String) :
    Escapes ((convertTo env operation dest).after (source, s)).1 f ↔
      source.readers.isSome ∧ dest = "" ∧ f = .outside noDestination := by
  rw [after_convertTo, ← requestFor_escapes_iff source operation dest]
  cases source.requestFor operation dest with
  | error g => simp [Escapes]
  | ok request =>
    simp only [not_escapes_ok, iff_false]
    rcases (env.convert request).after s with ⟨g | _, t⟩
    · exact not_escapes_notConverted f g
    · exact not_escapes_ok _

section

variable (h_cancel : ∀ s g, (env.cancel.after s).1 = .error g → g.endsProgram = true)
include h_cancel

theorem cancel_not_escapes : ¬Escapes ((cancel env).after (source, s)).1 f := by
  rw [after_cancel]
  split
  · exact not_escapes_ok _
  · have h_ends := h_cancel s
    rcases h_after : env.cancel.after s with ⟨g | _, t⟩
    · exact not_escapes_of_endsProgram (h_ends g (congrArg Prod.fst h_after))
    · exact not_escapes_ok _

theorem close_not_escapes : ¬Escapes ((close env).after (source, s)).1 f := by
  rw [after_close]
  rcases (release env).after (source, s) with ⟨g | _, source', t⟩
  all_goals
    have h_cancelled := cancel_not_escapes env source' t f h_cancel
  · by_cases h_ends : g.endsProgram
    · simp only [h_ends, if_true]
      exact not_escapes_of_endsProgram h_ends
    · simp only [h_ends, Bool.false_eq_true, if_false]
      rcases h_after : (cancel env).after (source', t) with ⟨g' | _, state⟩
      · rw [h_after] at h_cancelled
        rintro ⟨h_eq, h_other⟩
        exact h_cancelled ⟨by cases h_eq; rfl, h_other⟩
      · exact not_escapes_notReleased f g
  · dsimp only
    rwa [escapes_map]

end

theorem info_escapes_iff :
    Escapes ((info env).after (source, s)).1 f ↔
      source.contentType = .kubevirt ∧
        (∃ readers filter, ((build env).after (source, s)).1 = .ok readers ∧
          filterFor readers = .ok filter) ∧
        source.endpoint.redacted = .error .invalidUrl ∧ f = .outside .invalidUrl := by
  have h_build := build_not_escapes env source s f
  rw [after_info]
  by_cases h_type : source.contentType = .kubevirt
  · simp only [h_type, ne_eq, not_true, if_false, true_and]
    rcases h_after : (build env).after (source, s) with ⟨g | readers, state⟩
    · rw [h_after] at h_build
      simpa [Escapes] using h_build
    · have h_filter := not_escapes_filterFor readers f
      cases h_for : filterFor readers with
      | error g =>
        rw [h_for] at h_filter
        simpa [Escapes, h_for] using h_filter
      | ok filter =>
        -- All that can fail now is printing the locator for the log.
        cases h_redacted : source.endpoint.redacted with
        | ok url => simp [h_for]
        | error fault =>
          cases Url.redacted_error h_redacted
          simp [escapes_outside .invalidUrl (by decide), h_for]
  · simp [h_type, unsupportedContent]

end Source

namespace Site

variable (converter : Conversion.Converter Site) (source : Source) (site : Site) (f : Failure)

theorem after_usableSpace (path : String) :
    (usableSpace path).after site =
      ((Space.available path (Space.examine site.tree site.space path)).1,
        site.recordAll (Space.available path (Space.examine site.tree site.space path)).2) := rfl

theorem transfer_escapes_iff (path : String) :
    Escapes ((Source.transfer (collaborators converter) path).after (source, site)).1 f ↔
      '\x00' ∈ path.toList ∧ f = .outside .embeddedNul := by
  have h_space : (collaborators converter).usableSpace path = usableSpace path := rfl
  rw [Source.after_transfer, h_space, after_usableSpace]
  by_cases h_nul : '\x00' ∈ path.toList
  · simp only [Space.available_of_nul _ _ h_nul, h_nul, true_and]
    exact escapes_outside _ (by decide)
  · obtain ⟨size, h_size⟩ := Space.isOk_available site.tree site.space h_nul
    rw [h_size]
    simp only [h_nul, false_and, iff_false]
    by_cases h_room : size ≤ 0
    · simp only [h_room, if_true]
      exact not_escapes_pipeline _ _ _
    · -- The empty path has no space, and any other directory gives its file a name.
      have h_path : path ≠ "" := by
        rintro rfl
        rw [Space.available_empty] at h_size
        cases h_size
        omega
      simp only [h_room, if_false, Source.convertTo_escapes_iff]
      rintro ⟨-, h_dest, -⟩
      exact Files.joinText_ne_empty h_path _ h_dest

end Site

/-! ## Calls -/

namespace Source

/-- What leaves a call although the pipeline does not know it: the refusal to probe a path that
holds a NUL, the refusal to convert into the empty path, and the refusal to print a locator
without its password. -/
def Call.Leak {ω : Type} (env : Collaborators ω) (source : Source) (s : ω) :
    Call → Failure → Prop
  | .transfer path, f => '\x00' ∈ path.toList ∧ f = .outside .embeddedNul
  | .transferFile path, f => source.readers.isSome ∧ path = "" ∧ f = .outside noDestination
  | .info, f =>
    source.contentType = .kubevirt ∧
      (∃ readers filter, ((build env).after (source, s)).1 = .ok readers ∧
        filterFor readers = .ok filter) ∧
      source.endpoint.redacted = .error .invalidUrl ∧ f = .outside .invalidUrl
  | .process, _ | .url, _ | .cancel, _ | .close, _ => False

/-- A call on a source of a site, in whatever state the two are, comes to an answer, to a failure
of the pipeline with the error phase, to a fault that asks the program to end, or to exactly one
of the three refusals that the pipeline does not know. -/
theorem perform_escapes_iff (converter : Conversion.Converter Site) (call : Call) (source : Source)
    (site : Site) (f : Failure) :
    Escapes ((call.perform (Site.collaborators converter)).after (source, site)).1 f ↔
      call.Leak (Site.collaborators converter) source site f := by
  have h_cancel (s : Site) (g : Failure) (h : (Site.cancel.after s).1 = .error g) :
      g.endsProgram = true := Feed.endsProgram_of_cancel h
  cases call with
  | info =>
    simp only [Call.perform, after_map, escapes_map]
    exact info_escapes_iff _ _ _ _
  | transfer path =>
    simp only [Call.perform, after_map, escapes_map]
    exact Site.transfer_escapes_iff _ _ _ _ _
  | transferFile path =>
    simp only [Call.perform, after_map, escapes_map, after_transferFile]
    exact convertTo_escapes_iff _ _ _ _ _ _
  | process => exact iff_of_false (not_escapes_ok _) not_false
  | url => exact iff_of_false (not_escapes_ok _) not_false
  | cancel =>
    simp only [Call.perform, after_map, escapes_map]
    exact iff_of_false (cancel_not_escapes _ _ _ _ h_cancel) not_false
  | close =>
    simp only [Call.perform, after_map, escapes_map]
    exact iff_of_false (close_not_escapes _ _ _ _ h_cancel) not_false

/-- Calls on a source that was just opened: a path to probe that holds a NUL, and the empty path
once the image is classified. -/
theorem paths_escape :
    let env := Site.collaborators (Site.converter none)
    let opened : Source × Site :=
      (make { scheme := "https", host := "h", path := "/d.img" } 0 .kubevirt none "tmpimage",
        { tree := {}, now := ⟨2025, 1, 1, 0, 0, 0, 0⟩
          feed := { source := .response { body := { pieces := [.data [1]] } } } })
    Escapes (((Call.transfer "a\x00b").perform env).after opened).1 (.outside .embeddedNul) ∧
      Escapes (((Call.transferFile "").perform env).after (afterCalls env [.info] opened)).1
        (.outside noDestination) := by
  refine ⟨⟨rfl, by decide, by decide⟩, ?_⟩
  simp only [Call.perform, after_map, escapes_map]
  refine (convertTo_escapes_iff _ _ _ _ _ _).2 ⟨?_, rfl, rfl⟩
  simp only [Call.perform, after_map]
  rw [readers_info _ _ _ rfl]
  decide

end Source

end ImageIntake
