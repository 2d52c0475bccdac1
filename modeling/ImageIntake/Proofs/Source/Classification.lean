/-
  ImageIntake.Proofs.Source.Classification

  What classifying an image comes to, and the requests that are made once it is
  classified: the compression implies the filters of a request, and the rest of
  it is the source's own.
-/

import ImageIntake.Proofs.Source.Watched

namespace ImageIntake.Source

open ImageIntake.Action

variable {ω : Type}

/-! ## Filters -/

/-- The filters that a compression implies; there are none for other compressions. -/
inductive Implied : Readers → List Filter → Prop where
  | plain : Implied ⟨none⟩ []
  | blank : Implied ⟨some ""⟩ []
  | gzip : Implied ⟨some "gz"⟩ [.gzip]
  | xz : Implied ⟨some "xz"⟩ [.xz]

theorem implied_of_filterFor {readers : Readers} {filter : Option Filter}
    (h : filterFor readers = .ok filter) : Implied readers filter.toList := by
  obtain ⟨_ | word⟩ := readers
  · cases h
    exact .plain
  · unfold filterFor at h
    dsimp only at h
    split at h
    · rename_i h_word
      cases h
      cases h_word
      exact .xz
    · split at h
      · rename_i h_word
        cases h
        cases h_word
        exact .gzip
      · split at h
        · rename_i h_word
          cases h
          cases h_word
          exact .blank
        · cases h

theorem filterFor_of_implied {readers : Readers} {filters : List Filter}
    (h : Implied readers filters) : ∃ filter, filterFor readers = .ok filter := by
  cases h
  · exact ⟨none, rfl⟩
  · exact ⟨none, rfl⟩
  · exact ⟨some .gzip, rfl⟩
  · exact ⟨some .xz, rfl⟩

theorem filterFor_error {readers : Readers} {f : Failure} (h : filterFor readers = .error f) :
    f ≠ .outside .invalidUrl := by
  rintro rfl
  unfold filterFor at h
  split at h
  · cases h
  · split at h
    · cases h
    · split at h
      · cases h
      · split at h <;> cases h

/-! ## Requests -/

theorem requestFor_ok {source : Source} {operation dest : String} {request : Conversion.Request}
    (h : source.requestFor operation dest = .ok request) :
    ∃ readers, source.readers = some readers ∧ Implied readers request.filters ∧
      request.source = source.endpoint ∧ request.dest = dest ∧
      request.certDir = source.certDir ∧ request.plugins = [] ∧ request.accessKey = none ∧
      request.secretKey = none := by
  unfold requestFor at h
  cases h_readers : source.readers with
  | none =>
    rw [h_readers] at h
    cases h
  | some readers =>
    rw [h_readers] at h
    by_cases h_dest : dest = ""
    · simp [Conversion.Request.make, h_dest] at h
    · simp only [Conversion.Request.make, h_dest, dif_neg, not_false_iff] at h
      cases h_filter : filterFor readers with
      | error f =>
        rw [h_filter] at h
        cases h
      | ok filter =>
        rw [h_filter] at h
        have h_implied := implied_of_filterFor h_filter
        cases filter <;> cases h <;> exact ⟨readers, rfl, h_implied, rfl, rfl, rfl, rfl, rfl, rfl⟩

theorem handing_of_ok {source : Source} {operation dest : String} {request : Conversion.Request}
    {moment : ω} (h : source.requestFor operation dest = .ok request) :
    handing source operation dest moment = [.conversion request moment] := by
  simp [handing, h]

theorem attempts_handing (source : Source) (operation dest : String) (moment : ω) :
    (handing source operation dest moment).filterMap Query.attempt? = [] := by
  unfold handing
  cases source.requestFor operation dest <;> simp

/-! ## Classifying -/

/-- The readers a source works with once it was asked to classify: those it had, or new ones. -/
def Worked (source : Source) (asked : List (Query ω)) (readers : Readers) : Prop :=
  (source.readers = some readers ∧ asked = []) ∨
    (source.readers = none ∧ asked = [.readers (.ok readers)])

/-- What classifying can come to: the questions, the source afterwards, and the outcome. -/
inductive Classified (source : Source) :
    List (Query ω) → Source → Except Failure Answer → Prop where
  | refused (h_type : source.contentType ≠ .kubevirt) :
    Classified source [] source (.error unsupportedContent)
  | unreadable {f g} (h_readers : source.readers = none) (h_other : g ≠ .outside .invalidUrl) :
    Classified source [.readers (.error f)] source (.error g)
  | unsupported {asked readers f} (h_type : source.contentType = .kubevirt)
    (h_worked : Worked source asked readers) (h_filter : filterFor readers = .error f) :
    Classified source asked { source with readers := some readers } (.error f)
  | located {asked readers filter outcome} (h_type : source.contentType = .kubevirt)
    (h_worked : Worked source asked readers) (h_filter : filterFor readers = .ok filter)
    (h_outcome : outcome = .ok (.phase .transferDataFile) ∨
      outcome = .error (.outside .invalidUrl)) :
    Classified source asked (located { source with readers := some readers }) outcome

theorem unsupportedContent_ne : unsupportedContent ≠ .outside .invalidUrl := by
  unfold unsupportedContent
  exact Failure.noConfusion

/-- Building readers gives those there are, new ones, or a failure of its own. -/
theorem build_worked (env : Collaborators ω) (source : Source) (s : ω) {asked : List (Query ω)}
    (h_asked : asked = if source.readers = none then
      [.readers ((env.classify source.contentLength).after s).1] else []) :
    (∃ readers t, (build env).after (source, s) =
        (.ok readers, { source with readers := some readers }, t) ∧ Worked source asked readers) ∨
      ∃ f g t, (build env).after (source, s) = (.error g, source, t) ∧ source.readers = none ∧
        asked = [.readers (.error f)] ∧ g ≠ .outside .invalidUrl := by
  rw [after_build]
  cases h_readers : source.readers with
  | some readers =>
    rw [h_readers, if_neg (Option.some_ne_none readers)] at h_asked
    have h_same : { source with readers := some readers } = source := by rw [← h_readers]
    exact .inl ⟨readers, s, by rw [h_same], .inl ⟨h_readers, h_asked⟩⟩
  | none =>
    rw [h_readers, if_pos rfl] at h_asked
    rcases h_classify : (env.classify source.contentLength).after s with ⟨f | readers, t⟩
    all_goals rw [h_classify] at h_asked
    · -- What asks the program to end is left as it is, and is no refusal of a locator either.
      by_cases h_ends : f.endsProgram
      · refine .inr ⟨f, f, t, by simp [h_ends], rfl, h_asked, ?_⟩
        rintro rfl
        cases h_ends
      · exact .inr ⟨f, unclassifiable f, env.record (readersFailed f) t, by simp [h_ends], rfl,
          h_asked, by simp [unclassifiable]⟩
    · exact .inl ⟨readers, t, rfl, .inr ⟨h_readers, h_asked⟩⟩

theorem info_classified (env : Collaborators ω) (source : Source) (s : ω) :
    Classified source (Call.info.asked env (source, s))
      ((Call.info.perform env).after (source, s)).2.1
      ((Call.info.perform env).after (source, s)).1 := by
  rw [asked_info]
  simp only [Call.perform, after_map, after_info]
  by_cases h_type : source.contentType = .kubevirt
  · simp only [h_type, ne_eq, not_true, if_false, true_and]
    obtain ⟨readers, t, h_build, h_worked⟩ | ⟨f, g, t, h_build, h_readers, h_asked, h_other⟩ :=
      build_worked env source s rfl
    · rw [h_build]
      dsimp only
      cases h_filter : filterFor readers with
      | error f => exact .unsupported h_type h_worked h_filter
      | ok filter =>
        cases h_redacted : source.endpoint.redacted with
        | ok url => exact .located h_type h_worked h_filter (.inl rfl)
        | error fault =>
          cases Url.redacted_error h_redacted
          exact .located h_type h_worked h_filter (.inr rfl)
    · rw [h_build, h_asked]
      exact .unreadable h_readers h_other
  · simp only [h_type, false_and, if_false, ne_eq, not_false_iff, if_true]
    exact .refused h_type

end ImageIntake.Source
