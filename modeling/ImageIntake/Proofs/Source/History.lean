/-
  ImageIntake.Proofs.Source.History

  What a source asks of its collaborators in any sequence of calls.  A history
  has an entry a call: the call, the questions asked in it, and what it came to.
  One call keeps what the entries so far say about the source (`Kept`) and its
  entry is in order given those before it (`Orderly`); by induction on the calls
  every entry of every history is.
-/

import ImageIntake.Proofs.Source.Classification

namespace ImageIntake.Source

open ImageIntake.Action

variable {ω : Type}

/-! ## Histories -/

/-- A call, the questions asked in it, and what it came to. -/
structure Entry (ω : Type) where
  call : Call
  asked : List (Query ω)
  outcome : Except Failure Answer

/-- What is entered for a call. -/
def entry (env : Collaborators ω) (call : Call) (state : Source × ω) : Entry ω where
  call := call
  asked := call.asked env state
  outcome := ((call.perform env).after state).1

/-- What is entered for calls made one after the other. -/
def history (env : Collaborators ω) : List Call → Source × ω → List (Entry ω)
  | [], _ => []
  | call :: rest, state =>
    entry env call state :: history env rest ((call.perform env).after state).2

namespace Entry

/-- The requests handed to the converter. -/
def requests (e : Entry ω) : List Conversion.Request := e.asked.filterMap Query.request?

/-- The outcomes of building readers. -/
def attempts (e : Entry ω) : List (Except Failure Readers) := e.asked.filterMap Query.attempt?

/-- The readers that were built. -/
def built (e : Entry ω) : List Readers := e.asked.filterMap Query.built?

/-- Whether an image was classified: from there on only printing its locator can fail. -/
def Located (e : Entry ω) : Prop :=
  e.call = .info ∧
    (e.outcome = .ok (.phase .transferDataFile) ∨ e.outcome = .error (.outside .invalidUrl))

theorem not_located_of_error {e : Entry ω} {f : Failure} (h_outcome : e.outcome = .error f)
    (h_other : f ≠ .outside .invalidUrl) : ¬e.Located := by
  rintro ⟨-, h_located | h_located⟩
  · rw [h_outcome] at h_located
    cases h_located
  · rw [h_outcome] at h_located
    exact h_other (Except.error.inj h_located)

end Entry

/-! ## Entries in order -/

/-- Whether an entry on a source is in order after others. -/
structure Orderly (opened : Source) (earlier : List (Entry ω)) (e : Entry ω) : Prop where
  /-- At most one request is handed over. -/
  requests_le : e.requests.length ≤ 1
  /-- A request is for the image of the source, which an earlier call has classified. -/
  request : ∀ request ∈ e.requests,
    opened.contentType = .kubevirt ∧
    (∃ prior ∈ earlier, prior.call = .info ∧ ∃ readers ∈ prior.built,
      Implied readers request.filters) ∧
    request.source = opened.endpoint ∧ request.certDir = opened.certDir ∧
    request.plugins = [] ∧ request.accessKey = none ∧ request.secretKey = none
  /-- A request is for the file that was named, or for one in a directory that was found to have
  space; nothing else is asked for. -/
  destination : ∀ request ∈ e.requests, ∃ moment,
    (e.call = .transferFile request.dest ∧ e.asked = [.conversion request moment]) ∨
    ∃ path size, e.call = .transfer path ∧ 0 < size ∧
      e.asked = [.space path (.ok size), .conversion request moment] ∧
      request.dest = Files.joinText path opened.scratchFileName
  /-- Only classifying builds readers, at most once a call. -/
  attempts : e.attempts.length ≤ 1 ∧ (e.attempts ≠ [] → e.call = .info)
  /-- Readers that were built are not built again. -/
  built : (∃ prior ∈ earlier, prior.built ≠ []) → e.attempts = []
  /-- An image is classified as soon as there are readers whose compression can be undone. -/
  located : e.call = .info → (e.Located ↔ opened.contentType = .kubevirt ∧
    ∃ prior ∈ earlier ++ [e], ∃ readers ∈ prior.built, ∃ filters, Implied readers filters)
  /-- The locator is known once the image was classified. -/
  known : e.call = .url → (∃ prior ∈ earlier, prior.Located) →
    e.outcome = .ok (.url (some opened.endpoint))
  unknown : e.call = .url → (¬∃ prior ∈ earlier, prior.Located) → e.outcome = .ok (.url none)

/-! ## What a source keeps -/

/-- What no call changes about a source. -/
def fixed (source : Source) : Url × Int × ContentType × Option String × String :=
  (source.endpoint, source.contentLength, source.contentType, source.certDir,
    source.scratchFileName)

/-- What a source reads, and from where. -/
def reading (source : Source) :=
  (source.fixed, source.readers, source.url)

/-- What the entries so far say about a source. -/
structure Kept (opened : Source) (earlier : List (Entry ω)) (source : Source) : Prop where
  fixed : source.fixed = opened.fixed
  readers : ∀ r, source.readers = some r ↔ ∃ prior ∈ earlier, r ∈ prior.built
  info : ∀ prior ∈ earlier, prior.built ≠ [] → prior.call = .info
  kubevirt : source.readers.isSome → opened.contentType = .kubevirt
  known : (∃ prior ∈ earlier, prior.Located) → source.url = some opened.endpoint
  unknown : (¬∃ prior ∈ earlier, prior.Located) → source.url = none

theorem kept_nil {opened : Source} (h_readers : opened.readers = none) (h_url : opened.url = none) :
    Kept opened ([] : List (Entry ω)) opened where
  fixed := rfl
  readers r := by simp [h_readers]
  info := by simp
  kubevirt := by simp [h_readers]
  known := by simp
  unknown _ := h_url

namespace Kept

variable {opened source : Source} {earlier : List (Entry ω)} (h : Kept opened earlier source)
include h

theorem endpoint : source.endpoint = opened.endpoint := congrArg (·.1) h.fixed

theorem contentType : source.contentType = opened.contentType := congrArg (·.2.2.1) h.fixed

theorem certDir : source.certDir = opened.certDir := congrArg (·.2.2.2.1) h.fixed

theorem scratchFileName : source.scratchFileName = opened.scratchFileName :=
  congrArg (·.2.2.2.2) h.fixed

/-- A request is for the image of the source, which an earlier call has classified. -/
theorem request {operation dest : String} {request : Conversion.Request}
    (h_request : source.requestFor operation dest = .ok request) :
    opened.contentType = .kubevirt ∧
    (∃ prior ∈ earlier, prior.call = .info ∧ ∃ readers ∈ prior.built,
      Implied readers request.filters) ∧
    request.source = opened.endpoint ∧ request.certDir = opened.certDir ∧
    request.plugins = [] ∧ request.accessKey = none ∧ request.secretKey = none := by
  obtain ⟨readers, h_readers, h_implied, h_source, -, h_certDir, h_plain⟩ := requestFor_ok h_request
  obtain ⟨prior, h_prior, h_built⟩ := (h.readers readers).mp h_readers
  have h_info : prior.call = .info := h.info prior h_prior (List.ne_nil_of_mem h_built)
  refine ⟨h.kubevirt (by simp [h_readers]), ⟨prior, h_prior, h_info, readers, h_built, h_implied⟩,
    ?_, ?_, h_plain⟩
  · rw [h_source, h.endpoint]
  · rw [h_certDir, h.certDir]

end Kept

/-! ## Calls that build no readers -/

theorem Entry.built_eq (e : Entry ω) : e.built = e.attempts.filterMap (·.toOption) := by
  unfold built attempts
  rw [List.filterMap_filterMap]
  rfl

theorem Entry.built_of_attempts {e : Entry ω} (h : e.attempts = []) : e.built = [] := by
  rw [built_eq, h]
  rfl

section

variable (env : Collaborators ω) (source : Source) (s : ω)

theorem source_convertTo (operation dest : String) :
    ((convertTo env operation dest).after (source, s)).2.1 = source := by
  rw [after_convertTo]
  split
  · rfl
  · split <;> rfl

theorem source_transfer (path : String) : ((transfer env path).after (source, s)).2.1 = source := by
  rw [after_transfer]
  split
  · rfl
  · split
    · rfl
    · exact source_convertTo env source _ _ _

theorem reading_cancel : ((cancel env).after (source, s)).2.1.reading = source.reading := by
  rw [after_cancel]
  split
  · rfl
  · split <;> rfl

theorem reading_release : ((release env).after (source, s)).2.1.reading = source.reading := by
  rw [after_release]
  split <;> rfl

theorem reading_close : ((close env).after (source, s)).2.1.reading = source.reading := by
  have h_release := reading_release env source s
  rw [after_close]
  rcases h_after : (release env).after (source, s) with ⟨f | _, source', s'⟩
  all_goals rw [h_after] at h_release
  · dsimp only
    split
    · exact h_release
    · rw [reading_cancel, h_release]
  · dsimp only
    rw [reading_cancel, h_release]

/-- Only classifying changes what is read. -/
theorem reading_perform {call : Call} (h_call : call ≠ .info) :
    ((call.perform env).after (source, s)).2.1.reading = source.reading := by
  cases call with
  | info => exact absurd rfl h_call
  | transfer path => simp only [Call.perform, after_map, source_transfer]
  | transferFile path => simp only [Call.perform, after_map, after_transferFile, source_convertTo]
  | process => rfl
  | url => rfl
  | cancel => simp only [Call.perform, after_map, reading_cancel]
  | close => simp only [Call.perform, after_map, reading_close]

/-- Only classifying builds readers. -/
theorem attempts_entry {call : Call} (h_call : call ≠ .info) :
    (entry env call (source, s)).attempts = [] := by
  unfold Entry.attempts entry
  cases call with
  | info => exact absurd rfl h_call
  | transfer path =>
    obtain ⟨rest, h_asked, rfl | ⟨size, moment, h_space, h_size, rfl⟩⟩ :=
      asked_transfer env source s path
    · simp [h_asked]
    · rw [h_asked, List.filterMap_cons_none rfl, attempts_handing]
  | transferFile path => simp [asked_transferFile, attempts_handing]
  | process => simp [asked_others]
  | url => simp [asked_others]
  | cancel => simp [asked_others]
  | close => simp [asked_others]

end

/-! ## Requests in an entry -/

section

variable (env : Collaborators ω) (call : Call) (source : Source) (s : ω)

/-- How a request got into an entry: the call named its destination, or a directory for it that was
found to have space. -/
def Handed (request : Conversion.Request) : Prop :=
  ∃ moment,
    (call = .transferFile request.dest ∧
      call.asked env (source, s) = [.conversion request moment]) ∨
    ∃ path size, call = .transfer path ∧ 0 < size ∧
      call.asked env (source, s) = [.space path (.ok size), .conversion request moment] ∧
      request.dest = Files.joinText path source.scratchFileName

/-- An entry has no request, or one. -/
theorem requests_entry :
    (entry env call (source, s)).requests = [] ∨
    ∃ request operation, (entry env call (source, s)).requests = [request] ∧
      source.requestFor operation request.dest = .ok request ∧
      Handed env call source s request := by
  unfold Entry.requests entry Handed
  dsimp only
  cases call with
  | info =>
    rw [asked_info]
    split <;> exact .inl rfl
  | transfer path =>
    obtain ⟨rest, h_asked, rfl | ⟨size, moment, h_space, h_size, rfl⟩⟩ :=
      asked_transfer env source s path
    · exact .inl (by simp [h_asked])
    · cases h_for :
        source.requestFor "transfer" (Files.joinText path source.scratchFileName) with
      | error f => exact .inl (by simp [h_asked, handing, h_for])
      | ok request =>
        obtain ⟨-, -, -, -, h_dest, -⟩ := requestFor_ok h_for
        rw [h_asked, h_space, handing_of_ok h_for]
        rw [← h_dest] at h_for
        exact .inr ⟨request, _, rfl, h_for, moment, .inr ⟨path, size, rfl, h_size, rfl, h_dest⟩⟩
  | transferFile path =>
    cases h_for : source.requestFor "transfer_file" path with
    | error f => exact .inl (by simp [asked_transferFile, handing, h_for])
    | ok request =>
      obtain ⟨-, -, -, -, rfl, -⟩ := requestFor_ok h_for
      rw [asked_transferFile, handing_of_ok h_for]
      exact .inr ⟨request, _, rfl, h_for, s, .inl ⟨rfl, rfl⟩⟩
  | process => exact .inl (by simp [asked_others])
  | url => exact .inl (by simp [asked_others])
  | cancel => exact .inl (by simp [asked_others])
  | close => exact .inl (by simp [asked_others])

theorem handed {request : Conversion.Request}
    (h : request ∈ (entry env call (source, s)).requests) :
    (∃ operation, source.requestFor operation request.dest = .ok request) ∧
      Handed env call source s request := by
  obtain h_none | ⟨other, operation, h_one, h_for, h_handed⟩ := requests_entry env call source s
  · rw [h_none] at h
    cases h
  · rw [h_one] at h
    cases List.mem_singleton.mp h
    exact ⟨⟨operation, h_for⟩, h_handed⟩

theorem handed_once : (entry env call (source, s)).requests.length ≤ 1 := by
  obtain h_none | ⟨request, operation, h_one, -⟩ := requests_entry env call source s
  · rw [h_none]
    exact Nat.zero_le 1
  · rw [h_one]
    exact Nat.le_refl 1

end

/-! ## One call -/

section

variable {opened source : Source} {earlier : List (Entry ω)} (h : Kept opened earlier source)
  (env : Collaborators ω) (s : ω)
include h

/-- Entries without new readers leave a source as it is known. -/
theorem Kept.snoc {e : Entry ω} {source' : Source} (h_reading : source'.reading = source.reading)
    (h_built : e.built = []) (h_located : ¬e.Located) : Kept opened (earlier ++ [e]) source' := by
  obtain ⟨h_fixed, h_readers, h_url⟩ : source'.fixed = source.fixed ∧
      source'.readers = source.readers ∧ source'.url = source.url := by
    simpa [reading] using h_reading
  have h_known : (∃ prior ∈ earlier ++ [e], prior.Located) ↔ ∃ prior ∈ earlier, prior.Located := by
    simp [h_located]
  constructor
  · rw [h_fixed, h.fixed]
  · intro r
    rw [h_readers, h.readers r]
    simp [h_built]
  · intro prior h_prior h_some
    rcases List.mem_append.mp h_prior with h_prior | h_prior
    · exact h.info prior h_prior h_some
    · cases List.mem_singleton.mp h_prior
      exact absurd h_built h_some
  · rw [h_readers]
    exact h.kubevirt
  · rw [h_known, h_url]
    exact h.known
  · rw [h_known, h_url]
    exact h.unknown

/-- The readers a source works with are those that were built, earlier or now. -/
theorem Kept.worked {e : Entry ω} {readers : Readers} (h_worked : Worked source e.asked readers)
    (r : Readers) : some readers = some r ↔ ∃ prior ∈ earlier ++ [e], r ∈ prior.built := by
  rcases h_worked with ⟨h_readers, h_asked⟩ | ⟨h_readers, h_asked⟩
  · have h_built : e.built = [] := by simp [Entry.built, h_asked]
    rw [← h_readers, h.readers r]
    simp [h_built]
  · have h_built : e.built = [readers] := by
      simp [Entry.built, h_asked, Query.built?, Except.toOption]
    -- There were no readers before, so that no earlier entry has any.
    have h_none : ¬∃ prior ∈ earlier, r ∈ prior.built := by
      rw [← h.readers r, h_readers]
      simp
    constructor
    · rintro ⟨⟩
      exact ⟨e, by simp, by simp [h_built]⟩
    · rintro ⟨prior, h_prior, h_mem⟩
      rcases List.mem_append.mp h_prior with h_prior | h_prior
      · exact absurd ⟨prior, h_prior, h_mem⟩ h_none
      · cases List.mem_singleton.mp h_prior
        rw [h_built] at h_mem
        rw [List.mem_singleton.mp h_mem]

/-- An entry of classifying that found readers leaves a source as it is known. -/
theorem Kept.snoc_worked {e : Entry ω} {source' : Source} {readers : Readers}
    (h_type : source.contentType = .kubevirt) (h_call : e.call = .info)
    (h_worked : Worked source e.asked readers) (h_fixed : source'.fixed = source.fixed)
    (h_readers : source'.readers = some readers)
    (h_known : e.Located → source'.url = some (source.url.getD source.endpoint))
    (h_unknown : ¬e.Located → source'.url = source.url) : Kept opened (earlier ++ [e]) source' := by
  constructor
  · rw [h_fixed, h.fixed]
  · rw [h_readers]
    exact h.worked h_worked
  · intro prior h_prior h_some
    rcases List.mem_append.mp h_prior with h_prior | h_prior
    · exact h.info prior h_prior h_some
    · cases List.mem_singleton.mp h_prior
      exact h_call
  · intro _
    rw [← h.contentType, h_type]
  · rintro ⟨prior, h_prior, h_located⟩
    -- The locator was known before, or becomes known by this entry.
    have h_before : source.url = some opened.endpoint ∨ source.url = none :=
      (Classical.em _).imp h.known h.unknown
    by_cases h_now : e.Located
    · rw [h_known h_now, h.endpoint]
      rcases h_before with h_url | h_url <;> rw [h_url] <;> rfl
    · rcases List.mem_append.mp h_prior with h_prior | h_prior
      · rw [h_unknown h_now, h.known ⟨prior, h_prior, h_located⟩]
      · cases List.mem_singleton.mp h_prior
        exact absurd h_located h_now
  · intro h_none
    have h_now : ¬e.Located := fun h_located => h_none ⟨e, by simp, h_located⟩
    rw [h_unknown h_now]
    refine h.unknown ?_
    rintro ⟨prior, h_prior, h_located⟩
    exact h_none ⟨prior, by simp [h_prior], h_located⟩

/-- An entry of classifying leaves a source as it is known. -/
theorem Kept.snoc_classified {e : Entry ω} {source' : Source} (h_call : e.call = .info)
    (h_case : Classified source e.asked source' e.outcome) :
    Kept opened (earlier ++ [e]) source' := by
  obtain ⟨call, asked, outcome⟩ := e
  cases h_case with
  | refused h_type =>
    exact h.snoc rfl rfl (Entry.not_located_of_error rfl unsupportedContent_ne)
  | unreadable h_readers h_other => exact h.snoc rfl rfl (Entry.not_located_of_error rfl h_other)
  | unsupported h_type h_worked h_filter =>
    have h_none := Entry.not_located_of_error (e := ⟨call, asked, _⟩) rfl (filterFor_error h_filter)
    exact h.snoc_worked h_type h_call h_worked rfl rfl (fun h_located => absurd h_located h_none)
      fun _ => rfl
  | located h_type h_worked h_filter h_outcome =>
    exact h.snoc_worked h_type h_call h_worked rfl rfl (fun _ => rfl) fun h_none =>
      absurd ⟨h_call, h_outcome⟩ h_none

/-- One call keeps what the entries say about the source. -/
theorem Kept.step (call : Call) :
    Kept opened (earlier ++ [entry env call (source, s)])
      ((call.perform env).after (source, s)).2.1 := by
  by_cases h_call : call = .info
  · subst h_call
    exact h.snoc_classified rfl (info_classified env source s)
  · have h_built := Entry.built_of_attempts (attempts_entry env source s h_call)
    exact h.snoc (reading_perform env source s h_call) h_built fun h_located =>
      absurd h_located.1 h_call

theorem Kept.built_of_none (h_none : source.readers = none) :
    ¬∃ prior ∈ earlier, prior.built ≠ [] := by
  rintro ⟨prior, h_prior, h_built⟩
  obtain ⟨r, h_mem⟩ := List.exists_mem_of_ne_nil _ h_built
  have h_some := (h.readers r).mpr ⟨prior, h_prior, h_mem⟩
  rw [h_none] at h_some
  cases h_some

theorem Kept.attempts_worked {e : Entry ω} {readers : Readers}
    (h_worked : Worked source e.asked readers) :
    e.attempts.length ≤ 1 ∧ ((∃ prior ∈ earlier, prior.built ≠ []) → e.attempts = []) := by
  rcases h_worked with ⟨-, h_asked⟩ | ⟨h_readers, h_asked⟩
  · simp [Entry.attempts, h_asked]
  · refine ⟨by simp [Entry.attempts, h_asked], fun h_built => ?_⟩
    exact absurd h_built (h.built_of_none h_readers)

/-- What classifying asks for and comes to is in order. -/
theorem Kept.orderly_classified {e : Entry ω} {source' : Source} (h_call : e.call = .info)
    (h_case : Classified source e.asked source' e.outcome) :
    (e.attempts.length ≤ 1 ∧ ((∃ prior ∈ earlier, prior.built ≠ []) → e.attempts = [])) ∧
    (e.Located ↔ opened.contentType = .kubevirt ∧
      ∃ prior ∈ earlier ++ [e], ∃ readers ∈ prior.built, ∃ filters, Implied readers filters) := by
  obtain ⟨call, asked, outcome⟩ := e
  cases h_case with
  | refused h_type =>
    refine ⟨⟨Nat.zero_le 1, fun _ => rfl⟩,
      iff_of_false (Entry.not_located_of_error rfl unsupportedContent_ne) ?_⟩
    · rintro ⟨h_kubevirt, -⟩
      exact h_type (h.contentType.trans h_kubevirt)
  | unreadable h_readers h_other =>
    have h_none := h.built_of_none h_readers
    refine ⟨⟨Nat.le_refl 1, fun h_built => absurd h_built h_none⟩,
      iff_of_false (Entry.not_located_of_error rfl h_other) ?_⟩
    · rintro ⟨-, prior, h_prior, readers, h_mem, -⟩
      rcases List.mem_append.mp h_prior with h_prior | h_prior
      · exact h_none ⟨prior, h_prior, List.ne_nil_of_mem h_mem⟩
      · cases List.mem_singleton.mp h_prior
        cases h_mem
  | unsupported h_type h_worked h_filter =>
    refine ⟨h.attempts_worked h_worked,
      iff_of_false (Entry.not_located_of_error rfl (filterFor_error h_filter)) ?_⟩
    · rintro ⟨-, prior, h_prior, readers, h_mem, filters, h_implied⟩
      obtain ⟨filter, h_ok⟩ := filterFor_of_implied h_implied
      cases (h.worked h_worked readers).mpr ⟨prior, h_prior, h_mem⟩
      rw [h_filter] at h_ok
      cases h_ok
  | located h_type h_worked h_filter h_outcome =>
    refine ⟨h.attempts_worked h_worked, iff_of_true ⟨h_call, h_outcome⟩ ?_⟩
    obtain ⟨prior, h_prior, h_mem⟩ := (h.worked h_worked _).mp rfl
    exact ⟨h.contentType.symm.trans h_type, prior, h_prior, _, h_mem, _,
      implied_of_filterFor h_filter⟩

/-- The entry of a call is in order. -/
theorem Kept.orderly (call : Call) : Orderly opened earlier (entry env call (source, s)) := by
  have h_attempts : ((entry env call (source, s)).attempts.length ≤ 1 ∧
      ((∃ prior ∈ earlier, prior.built ≠ []) → (entry env call (source, s)).attempts = [])) ∧
      ((entry env call (source, s)).attempts ≠ [] → call = .info) := by
    by_cases h_call : call = .info
    · subst h_call
      exact ⟨(h.orderly_classified rfl (info_classified env source s)).1, fun _ => rfl⟩
    · have h_none := attempts_entry env source s h_call
      exact ⟨⟨by simp [h_none], fun _ => h_none⟩, fun h_some => absurd h_none h_some⟩
  constructor
  · exact handed_once env call source s
  · intro request h_mem
    obtain ⟨⟨operation, h_for⟩, -⟩ := handed env call source s h_mem
    exact h.request h_for
  · intro request h_mem
    rw [← h.scratchFileName]
    exact (handed env call source s h_mem).2
  · exact ⟨h_attempts.1.1, h_attempts.2⟩
  · exact h_attempts.1.2
  · intro h_call
    cases h_call
    exact (h.orderly_classified rfl (info_classified env source s)).2
  · intro h_call h_located
    cases h_call
    rw [← h.known h_located]
    rfl
  · intro h_call h_none
    cases h_call
    rw [← h.unknown h_none]
    rfl

end

/-! ## Any sequence of calls -/

theorem Kept.orderly_history {opened : Source} (env : Collaborators ω) (calls : List Call) :
    ∀ {before : List (Entry ω)} {source : Source} {s : ω} {earlier later : List (Entry ω)}
      {e : Entry ω}, Kept opened before source →
      history env calls (source, s) = earlier ++ e :: later →
      Orderly opened (before ++ earlier) e := by
  induction calls with
  | nil =>
    intro before source s earlier later e h h_split
    cases earlier <;> cases h_split
  | cons call rest ih =>
    intro before source s earlier later e h h_split
    cases earlier with
    | nil =>
      cases h_split
      rw [List.append_nil]
      exact h.orderly env s call
    | cons first earlier =>
      -- The first call is over; its entry joins those before.
      obtain ⟨rfl, h_rest⟩ := List.cons.inj h_split
      rw [List.append_cons]
      exact ih (h.step env s call) h_rest

/-- In whatever order a source is called, and whatever its collaborators answer: what it asks of
them in a call, and what it answers, is in order given the calls before. -/
theorem history_orderly (env : Collaborators ω) (endpoint : Url) (contentLength : Int)
    (contentType : ContentType) (certDir : Option String) (scratchFileName : String) (s : ω)
    (calls : List Call) {earlier later : List (Entry ω)} {e : Entry ω}
    (h : history env calls
        (make endpoint contentLength contentType certDir scratchFileName, s) =
      earlier ++ e :: later) :
    Orderly (make endpoint contentLength contentType certDir scratchFileName) earlier e :=
  (kept_nil rfl rfl).orderly_history env calls h

/-- Collaborators without surroundings, for an image of a compression. -/
def collaboratorsFor (compression : Option String) : Collaborators Unit where
  record _ := id
  classify _ := pure ⟨compression⟩
  closeReaders := pure ()
  closeStream := pure ()
  usableSpace _ := pure 1
  convert _ := pure ()
  cancel := pure ()

/-- A compressed image is converted into a file once it was classified. -/
theorem gzip_orderly :
    let env := collaboratorsFor (some "gz")
    let opened := make { scheme := "https", host := "h" } 0 .kubevirt none "tmpimage"
    let state := ((Call.info.perform env).after (opened, ())).2
    (entry env (.transferFile "disk.img") state).requests ≠ [] ∧
      Orderly opened [entry env .info (opened, ())]
        (entry env (.transferFile "disk.img") state) := by
  intro env opened state
  have h_state : state = (located { opened with readers := some ⟨some "gz"⟩ }, ()) := by
    change ((Call.info.perform env).after (opened, ())).2 = _
    simp only [Call.perform, after_map, after_info, after_build]
    cases opened.endpoint.redacted <;> rfl
  have h_history : history env [.info, .transferFile "disk.img"] (opened, ()) =
      [entry env .info (opened, ())] ++ entry env (.transferFile "disk.img") state :: [] := rfl
  refine ⟨?_, history_orderly env _ _ _ _ _ () _ h_history⟩
  rw [h_state]
  exact List.cons_ne_nil _ _

end ImageIntake.Source
