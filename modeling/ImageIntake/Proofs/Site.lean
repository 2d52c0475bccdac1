/-
  ImageIntake.Proofs.Site

  What the operations of a site leave alone.  Everything a source needs of its
  site, converting apart, only puts things on record: no process is started, and
  files change by nothing but the log (`OnlyNoted`).  A conversion that succeeds
  is one run that ended well; one that fails is reported as such.
-/

import ImageIntake.Proofs.Job.Success
import ImageIntake.Source.Opening

namespace ImageIntake

open ImageIntake.Action ImageIntake.Log

/-! ## The log and the files -/

namespace Log.Logbook

/-- Whether the log writes into files. -/
def writesFiles (book : Logbook) : Bool :=
  book.handlers.any fun handler =>
    match handler.sink with
    | .file .. => true
    | _ => false

variable (now : Instant) (r : Record)

theorem handle_handlers (state : Logbook × Files.Tree) (handler : Handler) :
    (handle now r state handler).1.handlers = state.1.handlers := by
  obtain ⟨book, tree⟩ := state
  unfold handle
  cases handler.sink <;> rfl

theorem foldl_handle_handlers (handlers : List Handler) (state : Logbook × Files.Tree) :
    (handlers.foldl (handle now r) state).1.handlers = state.1.handlers := by
  induction handlers generalizing state with
  | nil => rfl
  | cons handler rest ih => rw [List.foldl_cons, ih, handle_handlers]

theorem foldl_handle_tree {handlers : List Handler} (state : Logbook × Files.Tree)
    (h : ∀ handler ∈ handlers, ∀ path limit, handler.sink ≠ .file path limit) :
    (handlers.foldl (handle now r) state).2 = state.2 := by
  induction handlers generalizing state with
  | nil => rfl
  | cons handler rest ih =>
    rw [List.foldl_cons, ih _ fun other h_mem => h other (List.mem_cons_of_mem _ h_mem)]
    have h_sink := h handler List.mem_cons_self
    obtain ⟨book, tree⟩ := state
    unfold handle
    cases h_eq : handler.sink with
    | file path limit => exact absurd h_eq (h_sink path limit)
    | console => rfl
    | foreign => rfl

/-- No record changes who the records go to. -/
theorem offer_handlers (book : Logbook) (tree : Files.Tree) :
    (book.offer tree now r).1.handlers = book.handlers := by
  unfold offer
  dsimp only
  split
  · split
    · split <;> rfl
    · exact foldl_handle_handlers now r _ _
  · rfl

theorem offer_writesFiles (book : Logbook) (tree : Files.Tree) :
    (book.offer tree now r).1.writesFiles = book.writesFiles := by
  unfold writesFiles
  rw [offer_handlers]

/-- A log that writes into no file leaves the files as they are. -/
theorem offer_tree {book : Logbook} (h : book.writesFiles = false) (tree : Files.Tree) :
    (book.offer tree now r).2 = tree := by
  have h_sinks : ∀ handler ∈ book.handlers, ∀ path limit, handler.sink ≠ .file path limit := by
    intro handler h_mem path limit h_sink
    have h_any := List.any_eq_false.mp h handler h_mem
    simp [h_sink] at h_any
  unfold offer
  dsimp only
  split
  · split
    · split <;> rfl
    · exact foldl_handle_tree now r _ h_sinks
  · rfl

end Log.Logbook

namespace Site

/-! ## Records -/

theorem recordAll_append (notes more : List Record) (site : Site) :
    site.recordAll (notes ++ more) = (site.recordAll notes).recordAll more :=
  List.foldl_append

theorem recordAll_cons (r : Record) (notes : List Record) (site : Site) :
    site.recordAll (r :: notes) = (site.record r).recordAll notes := rfl

theorem recordAll_launcher (notes : List Record) (site : Site) :
    (site.recordAll notes).launcher = site.launcher := by
  induction notes generalizing site with
  | nil => rfl
  | cons r rest ih => rw [recordAll_cons, ih]; rfl

theorem recordAll_now (notes : List Record) (site : Site) :
    (site.recordAll notes).now = site.now := by
  induction notes generalizing site with
  | nil => rfl
  | cons r rest ih => rw [recordAll_cons, ih]; rfl

/-- What records do to the log and the files depends on these and on the time alone. -/
theorem recordAll_congr {a b : Site} (h_book : b.book = a.book) (h_tree : b.tree = a.tree)
    (h_now : b.now = a.now) (notes : List Record) :
    (b.recordAll notes).book = (a.recordAll notes).book ∧
      (b.recordAll notes).tree = (a.recordAll notes).tree := by
  induction notes generalizing a b with
  | nil => exact ⟨h_book, h_tree⟩
  | cons r rest ih =>
    rw [recordAll_cons, recordAll_cons]
    have h_offer : b.book.offer b.tree b.now r = a.book.offer a.tree a.now r := by
      rw [h_book, h_tree, h_now]
    exact ih (congrArg (·.1) h_offer) (congrArg (·.2) h_offer) h_now

/-- A log that writes into no file leaves the files of a site as they are. -/
theorem recordAll_tree (notes : List Record) {site : Site} (h : site.book.writesFiles = false) :
    (site.recordAll notes).tree = site.tree := by
  induction notes generalizing site with
  | nil => rfl
  | cons r rest ih =>
    have h_same : (site.record r).book.writesFiles = false :=
      (Logbook.offer_writesFiles site.now r site.book site.tree).trans h
    rw [recordAll_cons, ih h_same]
    exact Logbook.offer_tree site.now r h site.tree

/-! ## Sites where things were only noted -/

/-- A site as it is after another, with no process started since, and files changed by nothing but
records. -/
structure OnlyNoted (a b : Site) : Prop where
  launcher : b.launcher = a.launcher
  now : b.now = a.now
  notes : ∃ notes, b.book = (a.recordAll notes).book ∧ b.tree = (a.recordAll notes).tree

theorem OnlyNoted.of_eq {a b : Site} (h_launcher : b.launcher = a.launcher)
    (h_now : b.now = a.now) (h_book : b.book = a.book) (h_tree : b.tree = a.tree) :
    OnlyNoted a b :=
  ⟨h_launcher, h_now, [], h_book, h_tree⟩

theorem OnlyNoted.refl (a : Site) : OnlyNoted a a := .of_eq rfl rfl rfl rfl

theorem OnlyNoted.trans {a b c : Site} (h₁ : OnlyNoted a b) (h₂ : OnlyNoted b c) :
    OnlyNoted a c := by
  obtain ⟨h_launcher₁, h_now₁, notes, h_book₁, h_tree₁⟩ := h₁
  obtain ⟨h_launcher₂, h_now₂, more, h_book₂, h_tree₂⟩ := h₂
  -- The later notes fall on a log and on files that are those after the earlier notes.
  refine ⟨h_launcher₂.trans h_launcher₁, h_now₂.trans h_now₁, notes ++ more, ?_⟩
  obtain ⟨h_book, h_tree⟩ :=
    recordAll_congr h_book₁ h_tree₁ (h_now₁.trans (recordAll_now notes a).symm) more
  rw [recordAll_append, h_book₂, h_tree₂]
  exact ⟨h_book, h_tree⟩

theorem OnlyNoted.bind {α β : Type} {x : Action Site α} {k : α → Action Site β} {site : Site}
    (h_first : OnlyNoted site (x.after site).2)
    (h_rest : ∀ a s, OnlyNoted s ((k a).after s).2) : OnlyNoted site ((x >>= k).after site).2 := by
  rw [after_bind]
  rcases h_after : x.after site with ⟨f | a, s⟩
  · rwa [h_after] at h_first
  · rw [h_after] at h_first
    exact h_first.trans (h_rest a s)

theorem OnlyNoted.recordAll (notes : List Record) (a : Site) : OnlyNoted a (a.recordAll notes) :=
  ⟨recordAll_launcher notes a, recordAll_now notes a, notes, rfl, rfl⟩

theorem OnlyNoted.record (r : Record) (a : Site) : OnlyNoted a (a.record r) :=
  .recordAll [r] a

/-- Without a log file the files are as they were. -/
theorem OnlyNoted.tree {a b : Site} (h : OnlyNoted a b) (h_log : a.book.writesFiles = false) :
    b.tree = a.tree := by
  obtain ⟨-, -, notes, -, h_tree⟩ := h
  rw [h_tree, recordAll_tree notes h_log]

/-! ## What operations leave alone -/

theorem onlyNoted_feed (site : Site) (feed : Feed) : OnlyNoted site { site with feed } :=
  .of_eq rfl rfl rfl rfl

theorem onlyNoted_cancel (site : Site) : OnlyNoted site (cancel.after site).2 :=
  onlyNoted_feed site _

theorem onlyNoted_closeFeed (site : Site) : OnlyNoted site (closeFeed.after site).2 :=
  onlyNoted_feed site _

theorem onlyNoted_usableSpace (path : String) (site : Site) :
    OnlyNoted site ((usableSpace path).after site).2 :=
  .recordAll _ site

theorem onlyNoted_classify (contentLength : Int) (site : Site) :
    OnlyNoted site ((classify contentLength).after site).2 := by
  unfold classify
  simp only [after_of]
  rcases site.feed.classify contentLength with ⟨f | shown, feed⟩
  · exact onlyNoted_feed site feed
  · exact (onlyNoted_feed site feed).trans (.record _ _)

theorem onlyNoted_makeReporter (owner : String) (site : Site) :
    OnlyNoted site ((makeReporter owner).after site).2 := by
  unfold makeReporter
  simp only [after_of]
  rcases Metrics.Reporter.make owner site.registry with ⟨f | reporter, registry⟩ <;>
    exact .of_eq rfl rfl rfl rfl

theorem onlyNoted_openStream (d : Http.Demand) (site : Site) :
    OnlyNoted site ((openStream d).after site).2 := by
  unfold openStream
  simp only [after_of]
  rcases Http.Opening.perform { line := site.line, token := site.feed.token } site.tree d
    with ⟨outcome, o⟩
  have h_opened : OnlyNoted site
      { site with line := o.line, feed := { site.feed with token := o.token } } :=
    .of_eq rfl rfl rfl rfl
  have h_noted := h_opened.trans (.recordAll o.notes _)
  rcases outcome with f | ⟨reader, length⟩
  · dsimp only
    split
    · exact h_noted.trans (onlyNoted_cancel _)
    · exact h_noted
  · exact h_noted.trans (onlyNoted_feed _ _)

end Site

/-- Opening a source starts no process and changes no file but by records. -/
theorem Source.onlyNoted_ofOwnedOrder (order : Order) (owner : String) (site : Site) :
    Site.OnlyNoted site ((ofOwnedOrder order owner).after site).2 := by
  unfold ofOwnedOrder ofOrder
  refine .bind (.bind (.refl _) fun url site => .bind (Site.onlyNoted_feed site {}) fun _ site =>
    .bind (Site.onlyNoted_openStream _ site) fun length site => .bind (.refl _) fun endpoint site =>
    .refl site) fun source site => .bind (Site.onlyNoted_makeReporter owner site) fun _ site =>
    .refl site

/-! ## Conversions -/

namespace Conversion.Converter

variable {ω : Type} (c : Converter ω) (request : Request) (s : ω)

theorem after_convert :
    (c.convert request).after s =
      match request.arguments c.qemuImg with
      | .error fault => (.error (.outside fault), s)
      | .ok arguments =>
        match request.effectiveUrl.bind (·.redacted) with
        | .error fault => (.error (.outside fault), s)
        | .ok source =>
          match (c.run c.limits c.nbdkit arguments).after
            (c.record (converting request source) s) with
          | (.ok (), s) => (.ok (), s)
          | (.error f, s) =>
            if f.endsProgram then (.error f, s) else (c.fail request.dest f).after s := by
  unfold convert raiseFault
  cases request.arguments c.qemuImg with
  | error fault => rfl
  | ok arguments =>
    cases request.effectiveUrl.bind (·.redacted) with
    | error fault => rfl
    | ok source =>
      simp only [after_bind, after_change, after_attempt]
      rcases (c.run c.limits c.nbdkit arguments).after (c.record (converting request source) s)
        with ⟨f | _, t⟩
      · dsimp only
        split <;> rfl
      · rfl

/-- Clearing a destination away always ends in a failure, reported as one to convert unless the
clearing fails itself. -/
theorem fail_error (dest : String) (f : Failure) :
    ∃ g, ((c.fail dest f).after s).1 = .error g ∧
      (g.kind? = none ∨ g.kind? = some .conversionFailed) := by
  unfold fail
  simp only [after_of]
  split
  · exact ⟨_, rfl, .inl rfl⟩
  · exact ⟨_, rfl, .inr rfl⟩

/-- A conversion that fails is not reported as anything else. -/
theorem kind?_of_convert {f : Failure} (h : ((c.convert request).after s).1 = .error f) :
    f.kind? = none ∨ f.kind? = some .conversionFailed := by
  rw [after_convert] at h
  split at h
  · cases h
    exact .inl rfl
  · split at h
    · cases h
      exact .inl rfl
    · split at h
      · cases h
      · split at h
        · rename_i h_ends
          cases h
          exact .inl (Failure.kind?_of_endsProgram h_ends)
        · obtain ⟨g, h_fail, h_kind⟩ := c.fail_error _ request.dest _
          rw [h_fail] at h
          cases h
          exact h_kind

end Conversion.Converter

namespace Site

/-- How an image was converted: the token was not cancelled at that moment, and the one process
that was started, once the conversion was on record, was left alone and ended with status 0. -/
structure Converted (settings : Settings) (request : Conversion.Request) (moment after : Site) :
    Prop where
  uncancelled : moment.feed.token.cancelled = false
  run : ∃ arguments shown, request.arguments settings.qemuImg = .ok arguments ∧
    request.effectiveUrl.bind (·.redacted) = .ok shown ∧
    (Job.Running.read (observer report) settings.limits (settings.nbdkit :: arguments)
      moment.launcher (moment.record (Conversion.converting request shown))).2.reasons = [] ∧
    after.launcher.history = moment.launcher.history ++
      Job.goodActs settings.limits (settings.nbdkit :: arguments)

theorem runJob_ok {take : String → Site → Except Failure Unit × Site} {limits : Option Job.Limits}
    {program : String} {arguments : List String} {site after : Site}
    (h : (runJob take limits program arguments).after site = (.ok (), after)) :
    site.feed.token.cancelled = false ∧
    (Job.Running.read (observer take) (limits.getD {}) (program :: arguments) site.launcher
      site).2.reasons = [] ∧
    after.launcher.history =
      site.launcher.history ++ Job.goodActs (limits.getD {}) (program :: arguments) := by
  unfold runJob at h
  simp only [after_of] at h
  rcases h_run : Job.run (observer take) (limits.getD {}) program arguments site.launcher site
    with ⟨f | text, launcher, around⟩
  · rw [h_run] at h
    cases h
  · rw [h_run] at h
    cases h
    exact Job.run_ok h_run

theorem converted_of_ok {settings : Settings} {request : Conversion.Request} {moment after : Site}
    (h : ((settledConverter settings).convert request).after moment = (.ok (), after)) :
    Converted settings request moment after := by
  rw [Conversion.Converter.after_convert] at h
  split at h
  · cases h
  · rename_i arguments h_arguments
    split at h
    · cases h
    · rename_i shown h_shown
      split at h
      · rename_i s h_run
        cases h
        obtain ⟨h_token, h_reasons, h_history⟩ := runJob_ok h_run
        exact ⟨h_token, arguments, shown, h_arguments, h_shown, h_reasons, h_history⟩
      · rename_i f s h_run
        split at h
        · cases h
        · -- Clearing up after a failure never turns it into a success.
          obtain ⟨g, h_fail, -⟩ := (settledConverter settings).fail_error s request.dest f
          rw [h] at h_fail
          cases h_fail

end Site

end ImageIntake
