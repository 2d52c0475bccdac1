/-
  ImageIntake.Proofs.Import.Outcome

  What an import leaves behind.  While a source is driven, others may cancel its
  token at any moment between two things that are done for it; a script says
  when (`Collaborators.amid`), and the empty script gives the import as it is
  (`after_runAmid_nil`).  Inside a body and inside a process the moments are part of
  what happens there.  Whatever the moments: an import that succeeded ran one
  converter to a good end, and one that failed early did nothing but take notes.
-/

import ImageIntake.Proofs.Feed
import ImageIntake.Proofs.Import.Tracking
import ImageIntake.Proofs.Site
import ImageIntake.Proofs.Source.Watched

namespace ImageIntake

open ImageIntake.Action ImageIntake.Source

variable {ω α : Type}

/-! ## Others who meddle -/

/-- Surroundings, and whether others meddle with them before the next thing that is done, before
the one after it, and so on. -/
abbrev Meddled (ω : Type) := ω × List Bool

/-- The surroundings once others have had their turn. -/
def Meddled.turn (meddle : ω → ω) : Meddled ω → Meddled ω
  | (s, []) => (s, [])
  | (s, false :: rest) => (s, rest)
  | (s, true :: rest) => (meddle s, rest)

/-- Does an action once others have had their turn. -/
def Action.amid (meddle : ω → ω) (a : Action ω α) : Action (Meddled ω) α :=
  .of fun m =>
    ((a.after (m.turn meddle).1).1, (a.after (m.turn meddle).1).2, (m.turn meddle).2)

namespace Collaborators

/-- The collaborators, with others who meddle before each of them. -/
def amid (meddle : ω → ω) (env : Collaborators ω) : Collaborators (Meddled ω) where
  record r m := (env.record r (m.turn meddle).1, (m.turn meddle).2)
  classify length := (env.classify length).amid meddle
  closeReaders := env.closeReaders.amid meddle
  closeStream := env.closeStream.amid meddle
  usableSpace path := (env.usableSpace path).amid meddle
  convert request := (env.convert request).amid meddle
  cancel := env.cancel.amid meddle

/-- Where nobody meddles the collaborators are as they were. -/
theorem amid_tracks (meddle : ω → ω) (env : Collaborators ω) :
    (env.amid meddle).Tracks (fun m s => m = (s, [])) env where
  record _ _ _ h := by rw [h]; rfl
  classify _ := by rintro _ s rfl; exact ⟨rfl, rfl⟩
  closeReaders := by rintro _ s rfl; exact ⟨rfl, rfl⟩
  closeStream := by rintro _ s rfl; exact ⟨rfl, rfl⟩
  usableSpace _ := by rintro _ s rfl; exact ⟨rfl, rfl⟩
  convert _ := by rintro _ s rfl; exact ⟨rfl, rfl⟩
  cancel := by rintro _ s rfl; exact ⟨rfl, rfl⟩

theorem turn_keeps {P : ω → Prop} {meddle : ω → ω} (h_meddle : ∀ s, P s → P (meddle s))
    (m : Meddled ω) (h : P m.1) : P (m.turn meddle).1 := by
  obtain ⟨s, _ | ⟨_ | _, rest⟩⟩ := m
  · exact h
  · exact h
  · exact h_meddle s h

/-- Collaborators keep to their conduct although others meddle, if these do too. -/
theorem Conduct.amid {Before After : ω → Prop} {env : Collaborators ω}
    (h : env.Conduct Before After) {meddle : ω → ω} (h_before : ∀ s, Before s → Before (meddle s))
    (h_after : ∀ s, After s → After (meddle s)) :
    (env.amid meddle).Conduct (fun m => Before m.1) (fun m => After m.1) where
  record r m h_m := h.record r _ (turn_keeps h_before m h_m)
  record_after r m h_m := h.record_after r _ (turn_keeps h_after m h_m)
  classify n m h_m := h.classify n _ (turn_keeps h_before m h_m)
  usableSpace path m h_m := h.usableSpace path _ (turn_keeps h_before m h_m)
  closeReaders m h_m := h.closeReaders _ (turn_keeps h_before m h_m)
  closeReaders_after m h_m := h.closeReaders_after _ (turn_keeps h_after m h_m)
  closeStream m h_m := h.closeStream _ (turn_keeps h_before m h_m)
  closeStream_after m h_m := h.closeStream_after _ (turn_keeps h_after m h_m)
  cancel m h_m := h.cancel _ (turn_keeps h_before m h_m)
  cancel_after m h_m := h.cancel_after _ (turn_keeps h_after m h_m)
  uncancelled m f h_error := h.uncancelled _ f h_error
  converted request m m' h_m h_convert := by
    obtain ⟨h_ok, h_state⟩ := Prod.mk.inj h_convert
    exact h.converted request _ m'.1 (turn_keeps h_before m h_m)
      (Prod.ext h_ok (congrArg Prod.fst h_state))
  unconverted request m f h_error := h.unconverted request _ f h_error

end Collaborators

/-! ## What a site is like during an import -/

namespace Site

variable (settings : Settings) (site : Site)

/-- Before the conversion nothing was done but take notes, and no conversion was asked for. -/
def Unconverted (w : Watched Site) : Prop :=
  OnlyNoted site w.1 ∧ w.2.filterMap Query.conversion? = []

/-- After the conversion one was asked for, when nothing had been done but take notes, and it is
what happened. -/
def ConvertedOnce (w : Watched Site) : Prop :=
  ∃ request moment, w.2.filterMap Query.conversion? = [(request, moment)] ∧
    OnlyNoted site moment ∧ Converted settings request moment w.1

variable {settings site}

theorem Unconverted.noted {w : Watched Site} {after : Site} (h : Unconverted site w)
    (h_noted : OnlyNoted w.1 after) : Unconverted site (after, w.2) :=
  ⟨h.1.trans h_noted, h.2⟩

theorem ConvertedOnce.noted {w : Watched Site} {after : Site} (h : ConvertedOnce settings site w)
    (h_noted : OnlyNoted w.1 after) : ConvertedOnce settings site (after, w.2) := by
  obtain ⟨request, moment, h_asked, h_moment, h_uncancelled, arguments, shown, h_arguments, h_shown,
    h_reasons, h_history⟩ := h
  refine ⟨request, moment, h_asked, h_moment, h_uncancelled, arguments, shown, h_arguments, h_shown,
    h_reasons, ?_⟩
  rw [h_noted.launcher]
  exact h_history

theorem onlyNoted_classes (converter : Conversion.Converter Site) (length : Int) (site : Site) :
    OnlyNoted site (((collaborators converter).classify length).after site).2 :=
  .bind (onlyNoted_classify length site) fun _ after => .refl after

/-- What a site does for a source keeps to what it is like before and after a conversion. -/
theorem conduct_collaborators (settings : Settings) (site : Site) :
    (collaborators (settledConverter settings)).watched.Conduct (Unconverted site)
      (ConvertedOnce settings site) where
  record r _ h := h.noted (.record r _)
  record_after r _ h := h.noted (.record r _)
  classify length w h :=
    ⟨h.1.trans (onlyNoted_classes _ length w.1), by simp [Collaborators.watched, answering, h.2]⟩
  usableSpace path w h :=
    ⟨h.1.trans (onlyNoted_usableSpace path w.1), by simp [Collaborators.watched, answering, h.2]⟩
  closeReaders w h := h.noted (onlyNoted_closeFeed w.1)
  closeReaders_after w h := h.noted (onlyNoted_closeFeed w.1)
  closeStream w h := h.noted (onlyNoted_closeFeed w.1)
  closeStream_after w h := h.noted (onlyNoted_closeFeed w.1)
  cancel w h := h.noted (onlyNoted_cancel w.1)
  cancel_after w h := h.noted (onlyNoted_cancel w.1)
  uncancelled w f h_error :=
    Failure.not_isEarly_of_none (Failure.kind?_of_endsProgram (Feed.endsProgram_of_cancel h_error))
  converted request w w' h h_convert := by
    obtain ⟨h_ok, h_state⟩ := Prod.mk.inj h_convert
    refine ⟨request, w.1, ?_, h.1, converted_of_ok (Prod.ext h_ok (congrArg Prod.fst h_state))⟩
    rw [← h_state]
    simp [h.2]
  unconverted request w f h_error := by
    rcases Conversion.Converter.kind?_of_convert _ request w.1 h_error with h_kind | h_kind
    · exact Failure.not_isEarly_of_none h_kind
    · exact Failure.not_isEarly_of_some h_kind (by decide)

end Site

/-! ## Errands -/

/-- An import that is ordered: what is to be imported and for whom, the settings it goes by, and
where the image is to go. -/
structure Errand where
  order : Order
  owner : String
  settings : Settings
  dataFile : String
  scratchDir : Option String := none
  imageName : String := "tmpimage"

namespace Errand

variable (e : Errand) (site : Site)

/-- Who does what the source needs. -/
def collaborators : Collaborators Site :=
  Site.collaborators (Site.settledConverter e.settings)

/-- Opens the source and imports its image. -/
def run : Action Site Import.Report := do
  let source ← Source.ofOwnedOrder e.order e.owner
  source.fetch e.collaborators e.dataFile e.scratchDir e.imageName

/-- Opens the source and imports its image, watched, while others cancel the token at moments of
their choice. -/
def runAmid : Action (Meddled (Watched Site)) Import.Report := do
  let source ← (Source.ofOwnedOrder e.order e.owner).unasked.inside Prod.fst fun w m => (w, m.2)
  source.fetch (e.collaborators.watched.amid fun w => (e.collaborators.watched.cancel.after w).2)
    e.dataFile e.scratchDir e.imageName

theorem after_runAmid (script : List Bool) :
    e.runAmid.after ((site, []), script) =
      match (Source.ofOwnedOrder e.order e.owner).after site with
      | (.ok source, opened) =>
        (source.fetch (e.collaborators.watched.amid fun w => (e.collaborators.watched.cancel.after w).2)
          e.dataFile e.scratchDir e.imageName).after ((opened, []), script)
      | (.error f, opened) => (.error f, (opened, []), script) := by
  unfold runAmid
  rw [after_bind, after_inside, after_unasked]
  rcases (Source.ofOwnedOrder e.order e.owner).after site with ⟨f | source, opened⟩ <;> rfl

/-- With nobody else about, the import is as it is. -/
theorem after_runAmid_nil :
    (e.runAmid.after ((site, []), [])).1 = (e.run.after site).1 ∧
      (e.runAmid.after ((site, []), [])).2.1.1 = (e.run.after site).2 := by
  rw [after_runAmid]
  unfold run
  rw [after_bind]
  rcases (Source.ofOwnedOrder e.order e.owner).after site with ⟨f | source, opened⟩
  · exact ⟨rfl, rfl⟩
  · obtain ⟨h_alone, h_script⟩ :=
      tracks_fetch (e.collaborators.watched.amid_tracks fun w =>
        (e.collaborators.watched.cancel.after w).2) e.dataFile e.scratchDir e.imageName source
        ((opened, []), []) (opened, []) rfl
    obtain ⟨h_watched, h_after⟩ := tracks_fetch e.collaborators.watched_tracks e.dataFile
      e.scratchDir e.imageName source (opened, []) opened rfl
    refine ⟨h_alone.trans h_watched, ?_⟩
    rw [← h_after, h_script]

/-- An import concludes with one conversion, or without any. -/
theorem concluded_runAmid (script : List Bool) :
    Concluded (fun m : Meddled (Watched Site) => Site.Unconverted site m.1)
      (fun m => Site.ConvertedOnce e.settings site m.1)
      (e.runAmid.after ((site, []), script)).1 (e.runAmid.after ((site, []), script)).2 := by
  have h_opened := Source.onlyNoted_ofOwnedOrder e.order e.owner site
  have h_conduct := (Site.conduct_collaborators e.settings site).amid
    (fun w h_w => h_w.noted (Site.onlyNoted_cancel w.1))
    (fun w h_w => h_w.noted (Site.onlyNoted_cancel w.1))
  rw [after_runAmid]
  -- Until the source is open nothing was asked for, and nobody else knows its token.
  rcases h_open : (Source.ofOwnedOrder e.order e.owner).after site with ⟨f | source, opened⟩
  all_goals rw [h_open] at h_opened
  · exact concluded_of_failure rfl fun _ => ⟨h_opened, rfl⟩
  · exact concluded_fetch h_conduct e.dataFile e.scratchDir e.imageName source ⟨h_opened, rfl⟩

end Errand

end ImageIntake
