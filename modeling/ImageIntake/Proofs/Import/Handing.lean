/-
  ImageIntake.Proofs.Import.Handing

  Which commands an import without scratch space hands over.  The import is watched, and
  its converter keeps a note of its commands.  At every moment the readers of the source
  are those that were detected, and every command so far is for the image of the source,
  with the filters that these readers imply (`Handing`).  Each operation of a source keeps
  that, and so does an import (`handing_fetch`).
-/

import ImageIntake.Proofs.Conversion.Noting
import ImageIntake.Proofs.Import.Keeping
import ImageIntake.Proofs.Import.Tracking
import ImageIntake.Proofs.Source.History

namespace ImageIntake.Source

open ImageIntake.Action ImageIntake.Conversion

variable {ω : Type}

/-! ## Watched sources that note commands -/

/-- A request to convert the image of a source into a file, where readers show how it is
compressed. -/
structure Wanted (opened : Source) (dataFile : String) (readers : Readers)
    (request : Conversion.Request) : Prop where
  filters : Implied readers request.filters
  source : request.source = opened.endpoint
  dest : request.dest = dataFile
  certDir : request.certDir = opened.certDir
  plugins : request.plugins = []
  accessKey : request.accessKey = none
  secretKey : request.secretKey = none

theorem wanted_of_requestFor {opened source : Source} {operation dataFile : String}
    {request : Conversion.Request} (h_fixed : source.fixed = opened.fixed)
    (h : source.requestFor operation dataFile = .ok request) :
    ∃ readers, source.readers = some readers ∧ Wanted opened dataFile readers request := by
  obtain ⟨readers, h_readers, h_filters, h_source, h_dest, h_certDir, h_plugins, h_access, h_secret⟩ :=
    requestFor_ok h
  have h_endpoint : source.endpoint = opened.endpoint := congrArg (·.1) h_fixed
  have h_trust : source.certDir = opened.certDir := congrArg (·.2.2.2.1) h_fixed
  refine ⟨readers, h_readers, h_filters, ?_, h_dest, ?_, h_plugins, h_access, h_secret⟩
  · rw [h_source, h_endpoint]
  · rw [h_certDir, h_trust]

/-- What holds of a source and of the notes at every moment of an import. -/
structure Handing (c : Converter ω) (opened : Source) (dataFile : String)
    (state : Source × Watched (Noted ω)) : Prop where
  fixed : state.1.fixed = opened.fixed
  /-- The readers are those that were detected. -/
  built : state.2.2.filterMap Query.built? = state.1.readers.toList
  /-- Every command is for a request that these readers call for. -/
  commands : ∀ command ∈ state.2.1.2, ∃ readers request, state.1.readers = some readers ∧
    Wanted opened dataFile readers request ∧ command ∈ c.commands request

variable {env : Collaborators ω} {c : Converter ω} {opened source : Source} {dataFile : String}
  {w : Watched (Noted ω)}

theorem handing_opened (h_readers : opened.readers = none) (s : ω) :
    Handing c opened dataFile (opened, (s, []), []) where
  fixed := rfl
  built := by rw [h_readers]; rfl
  commands _ h_mem := absurd h_mem List.not_mem_nil

namespace Handing

/-- Nothing was handed over as long as nothing was detected. -/
theorem commands_eq_nil (h : Handing c opened dataFile (source, w)) (h_readers : source.readers = none) :
    w.1.2 = [] := by
  refine List.eq_nil_iff_forall_not_mem.mpr fun command h_mem => ?_
  obtain ⟨readers, request, h_some, -⟩ := h.commands command h_mem
  rw [h_readers] at h_some
  cases h_some

/-- What changes neither what the source reads nor the notes keeps to what was handed over. -/
theorem of_same {source' : Source} {w' : Watched (Noted ω)}
    (h : Handing c opened dataFile (source, w)) (h_reading : source'.reading = source.reading)
    (h_handed : w'.1.2 = w.1.2) (h_asked : w'.2 = w.2) :
    Handing c opened dataFile (source', w') := by
  have h_readers : source'.readers = source.readers := congrArg (·.2.1) h_reading
  refine ⟨(congrArg (·.1) h_reading).trans h.fixed, ?_, ?_⟩
  · rw [h_asked, h_readers]
    exact h.built
  · rw [h_handed, h_readers]
    exact h.commands

/-! ## Operations -/

theorem record (h : Handing c opened dataFile (source, w)) (r : Log.Record) :
    Handing c opened dataFile (source, (env.noting c).watched.record r w) :=
  h.of_same rfl rfl rfl

variable (env) in
theorem build (h : Handing c opened dataFile (source, w)) :
    Handing c opened dataFile ((Source.build (env.noting c).watched).after (source, w)).2 := by
  rw [after_build]
  cases h_readers : source.readers with
  | some readers => exact h
  | none =>
    obtain ⟨⟨s, handed⟩, asked⟩ := w
    have h_handed : handed = [] := h.commands_eq_nil h_readers
    have h_built : asked.filterMap Query.built? = [] := by
      have h_all := h.built
      rwa [h_readers] at h_all
    -- The question is kept with its outcome, and no command is handed over.
    have h_asked : ((env.noting c).watched.classify source.contentLength).after ((s, handed), asked) =
        (((env.classify source.contentLength).after s).1,
          (((env.classify source.contentLength).after s).2, handed),
          asked ++ [.readers ((env.classify source.contentLength).after s).1]) := rfl
    rw [h_asked]
    rcases (env.classify source.contentLength).after s with ⟨f | readers, t⟩
    · have h_kept : Handing c opened dataFile
          (source, (t, handed), asked ++ [.readers (.error f)]) := by
        refine ⟨h.fixed, ?_, h.commands⟩
        rw [List.filterMap_append, h_built, h_readers]
        rfl
      dsimp only
      split
      · exact h_kept
      · exact h_kept.record _
    · refine ⟨h.fixed, ?_, ?_⟩
      · rw [List.filterMap_append, h_built]
        rfl
      · rw [h_handed]
        exact fun command h_mem => absurd h_mem List.not_mem_nil

theorem info (h : Handing c opened dataFile (source, w)) :
    Handing c opened dataFile ((Source.info (env.noting c).watched).after (source, w)).2 := by
  have h_built := h.build env
  rw [after_info]
  split
  · exact h
  · rcases h_after : (Source.build (env.noting c).watched).after (source, w)
      with ⟨f | readers, built, v⟩
    all_goals rw [h_after] at h_built
    · exact h_built
    · -- Once the locator is known the source still reads what it read.
      have h_located : Handing c opened dataFile (located built, v) :=
        ⟨h_built.fixed, h_built.built, h_built.commands⟩
      dsimp only
      split
      · exact h_built
      · split
        · exact h_located
        · exact h_located.record _

theorem convertTo (h : Handing c opened dataFile (source, w)) (operation : String) :
    Handing c opened dataFile
      ((Source.convertTo (env.noting c).watched operation dataFile).after (source, w)).2 := by
  rw [after_convertTo]
  cases h_request : source.requestFor operation dataFile with
  | error f => exact h
  | ok request =>
    obtain ⟨⟨s, handed⟩, asked⟩ := w
    obtain ⟨readers, h_readers, h_wanted⟩ := wanted_of_requestFor h.fixed h_request
    have h_convert : ((env.noting c).watched.convert request).after ((s, handed), asked) =
        (((c.convert request).after s).1,
          (((c.convert request).after s).2, handed ++ c.commands request),
          asked ++ [.conversion request (s, handed)]) := by
      have h_noted := c.after_convert_noting request s handed
      exact congrArg (fun result => (result.1, result.2, asked ++ [.conversion request (s, handed)]))
        h_noted
    have h_kept : Handing c opened dataFile
        (source, (((c.convert request).after s).2, handed ++ c.commands request),
          asked ++ [.conversion request (s, handed)]) := by
      refine ⟨h.fixed, ?_, ?_⟩
      · rw [List.filterMap_append]
        exact (List.append_nil _).trans h.built
      · intro command h_mem
        rcases List.mem_append.mp h_mem with h_earlier | h_new
        · exact h.commands command h_earlier
        · exact ⟨readers, request, h_readers, h_wanted, h_new⟩
    dsimp only
    rw [h_convert]
    cases ((c.convert request).after s).1 with
    | error f => exact h_kept
    | ok => exact h_kept

theorem close (h : Handing c opened dataFile (source, w)) :
    Handing c opened dataFile ((Source.close (env.noting c).watched).after (source, w)).2 := by
  have h_notes : ((Source.close (env.noting c).watched).after (source, w)).2.2.1.2 = w.1.2 ∧
      ((Source.close (env.noting c).watched).after (source, w)).2.2.2 = w.2 := by
    refine close_keeps (P := fun v : Watched (Noted ω) => v.1.2 = w.1.2 ∧ v.2 = w.2) source ?_ ?_ ?_
      ⟨rfl, rfl⟩
    all_goals exact fun _ h_v => h_v
  exact h.of_same (reading_close _ source w) h_notes.1 h_notes.2

end Handing

/-! ## Imports -/

/-- An import without scratch space keeps to what was handed over. -/
theorem keeps_handing (scratchFileName : String) :
    (importTo (env.noting c).watched dataFile none scratchFileName).Keeps
      (Handing c opened dataFile) where
  record r _ h := h.record r
  info _ h := h.info
  transfer _ h := h.convertTo "transfer_file"
  process _ h := h
  url _ h := h
  close _ h := h.close
  resize _ _ h := h.record _
  finalize _ _ _ h := h.record _

variable (env c dataFile) in
/-- Whatever comes of an import without scratch space: its commands are for the image of the source,
with the filters that the readers imply which were detected. -/
theorem handing_fetch (h_readers : opened.readers = none) (scratchFileName : String) (s : ω) :
    ∃ source, Handing c opened dataFile
      (source, ((opened.fetch (env.noting c).watched dataFile none scratchFileName).after
        ((s, []), [])).2) := by
  have h_run := Option.eq_some_of_isSome
    (isSome_run? (env.noting c).watched dataFile none scratchFileName (opened, (s, []), []))
  exact ⟨_, (keeps_handing scratchFileName).run? (handing_opened h_readers s) h_run⟩

variable (env dataFile) in
/-- Neither being watched nor keeping the note changes what comes of an import. -/
theorem fetch_noting (h : env.convert = c.convert) (source : Source) (scratchDir : Option String)
    (scratchFileName : String) (s : ω) :
    (source.fetch env dataFile scratchDir scratchFileName).after s =
      (((source.fetch (env.noting c).watched dataFile scratchDir scratchFileName).after
          ((s, []), [])).1,
        ((source.fetch (env.noting c).watched dataFile scratchDir scratchFileName).after
          ((s, []), [])).2.1.1) := by
  obtain ⟨h_watched, h_noted⟩ := tracks_fetch (env.noting c).watched_tracks dataFile scratchDir
    scratchFileName source ((s, []), []) (s, []) rfl
  obtain ⟨h_plain, h_after⟩ := tracks_fetch (Collaborators.noting_tracks h) dataFile scratchDir
    scratchFileName source (s, []) s rfl
  refine Prod.ext (h_watched.trans h_plain).symm ?_
  rw [← h_after, ← h_noted]

end ImageIntake.Source
