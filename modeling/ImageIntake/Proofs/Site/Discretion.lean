/-
  ImageIntake.Proofs.Site.Discretion

  What a site does for two imports that differ in a password.  Nothing that it does
  depends on the requests that were sent or on the processes that were started
  (`Blind`), and these are all that tells the two sites apart (`Site.Alike`).  Opening
  the stream and converting are asked for in two ways and answered in one
  (`openStream_matches`, `convert_matches`), so that the collaborators of the two imports
  match (`collaborators_matches`).
-/

import ImageIntake.Proofs.Http.Alike
import ImageIntake.Proofs.Job.Matching
import ImageIntake.Proofs.Site
import ImageIntake.Proofs.Source.Matching

namespace ImageIntake

open ImageIntake.Action

/-- What a discreet import keeps to itself: passwords, the causes of failures and the command lines
of processes. -/
def Likeness.discreet : Likeness where
  url := Url.Alike
  failure := Failure.ToldAlike
  redacted := Url.Alike.redacted
  refl _ := rfl
  text := Failure.ToldAlike.text
  trouble := Failure.ToldAlike.trouble?
  endsProgram := Failure.ToldAlike.endsProgram
  cause _ _ _ := rfl

namespace Site

/-! ## Sites that are alike -/

/-- The same site with other requests on its line, and other processes in its history. -/
def traced (requests : List Http.Request) (history : List Job.Act) (site : Site) : Site :=
  { site with
    line := { site.line with requests }
    launcher := site.launcher.retold history }

/-- Sites that are the same but for the requests that were sent and the processes that were
started. -/
def Alike (a b : Site) : Prop := ∃ requests history, b = a.traced requests history

theorem Alike.refl (site : Site) : site.Alike site :=
  ⟨site.line.requests, site.launcher.history, rfl⟩

theorem Alike.record {a b : Site} (h : a.Alike b) (r : Log.Record) :
    (a.record r).Alike (b.record r) := by
  obtain ⟨requests, history, rfl⟩ := h
  exact ⟨requests, history, rfl⟩

theorem recordAll_traced (notes : List Log.Record) (requests : List Http.Request)
    (history : List Job.Act) (site : Site) :
    (site.traced requests history).recordAll notes =
      (site.recordAll notes).traced requests history := by
  induction notes generalizing site with
  | nil => rfl
  | cons r rest ih => exact ih (site.record r)

/-- An action that neither looks at what tells alike sites apart nor changes it. -/
def Blind {α : Type} (a : Action Site α) : Prop :=
  ∀ requests history site, a.after (site.traced requests history) =
    ((a.after site).1, (a.after site).2.traced requests history)

theorem Blind.matches {α : Type} {a : Action Site α} (h : Blind a) :
    a.Matches .discreet Eq Alike a := by
  rintro site _ ⟨requests, history, rfl⟩
  rw [h requests history site]
  exact ⟨.refl Likeness.discreet.refl (fun _ => rfl) _, requests, history, rfl⟩

theorem blind_classify (contentLength : Int) : Blind (classify contentLength) := by
  intro requests history site
  have h_feed : (site.traced requests history).feed = site.feed := rfl
  unfold classify
  rw [after_of, after_of, h_feed]
  rcases site.feed.classify contentLength with ⟨f | shown, feed⟩ <;> rfl

theorem blind_closeFeed : Blind closeFeed := fun _ _ _ => rfl

theorem blind_usableSpace (path : String) : Blind (usableSpace path) := by
  intro requests history site
  unfold usableSpace
  rw [after_of, after_of]
  exact congrArg (Prod.mk _) (recordAll_traced _ requests history site)

theorem blind_makeReporter (owner : String) : Blind (makeReporter owner) := by
  intro requests history site
  have h_registry : (site.traced requests history).registry = site.registry := rfl
  unfold makeReporter
  rw [after_of, after_of, h_registry]
  rcases Metrics.Reporter.make owner site.registry with ⟨f | reporter, registry⟩ <;> rfl

theorem report_traced (line : String) (requests : List Http.Request) (history : List Job.Act)
    (site : Site) :
    report line (site.traced requests history) =
      ((report line site).1, (report line site).2.traced requests history) := by
  have h_reporter : (site.traced requests history).reporter = site.reporter := rfl
  have h_registry : (site.traced requests history).registry = site.registry := rfl
  unfold report
  rw [h_reporter]
  cases site.reporter with
  | none => rfl
  | some reporter =>
    dsimp only
    rw [h_registry]
    rcases reporter.report line site.registry with ⟨f | _ | _, reporter, registry⟩ <;> rfl

/-! ## Opening the stream -/

theorem openStream_matches {d e : Http.Demand} (h : d.Alike e) :
    (openStream d).Matches .discreet Eq Alike (openStream e) := by
  rintro site _ ⟨requests, history, rfl⟩
  obtain ⟨requests', h_asked⟩ := Http.Opening.perform_asking
    { line := site.line, token := site.feed.token } site.tree h requests
  have h_perform : Http.Opening.perform
      { line := (site.traced requests history).line
        token := (site.traced requests history).feed.token }
      (site.traced requests history).tree e = _ := h_asked
  unfold openStream
  rw [after_of, after_of, h_perform]
  rcases Http.Opening.perform { line := site.line, token := site.feed.token } site.tree d
    with ⟨outcome, o⟩
  have h_noted : recordAll (o.asking requests').notes
      { site.traced requests history with
        line := (o.asking requests').line
        feed := { (site.traced requests history).feed with token := (o.asking requests').token } } =
      (recordAll o.notes
        { site with line := o.line, feed := { site.feed with token := o.token } }).traced requests'
          history :=
    recordAll_traced o.notes requests' history
      { site with line := o.line, feed := { site.feed with token := o.token } }
  dsimp only
  rw [h_noted]
  cases outcome with
  | ok opened => exact ⟨.ok rfl, requests', history, rfl⟩
  | error f =>
    dsimp only
    split
    · exact ⟨.refl Likeness.discreet.refl (fun _ => rfl) _, requests', history, rfl⟩
    · exact ⟨.error (Likeness.discreet.refl f), requests', history, rfl⟩

/-! ## Converting -/

theorem observer_respects : (observer report).Respects Alike where
  started _ _ h := h.record startedProcess
  line := by
    rintro line site _ ⟨requests, history, rfl⟩
    have h_line : (observer report).hand line (site.traced requests history) = _ :=
      report_traced line requests history site
    rw [h_line]
    exact ⟨rfl, requests, history, rfl⟩
  token := by
    rintro site _ ⟨requests, history, rfl⟩
    rfl
  setToken := by
    rintro token site _ ⟨requests, history, rfl⟩
    exact ⟨requests, history, rfl⟩
  release := by
    rintro hold site _ ⟨requests, history, rfl⟩
    exact ⟨requests, history, rfl⟩

/-- A program is run on two command lines. -/
theorem runJob_matches (limits : Option Job.Limits) (program : String)
    (arguments arguments' : List String) :
    (runJob report limits program arguments).Matches .discreet Eq Alike
      (runJob report limits program arguments') := by
  rintro site _ ⟨requests, history, rfl⟩
  have h_agree := Job.run_agree observer_respects (limits.getD {}) program arguments arguments'
    site.launcher history (show Alike site (site.traced requests history) from
      ⟨requests, history, rfl⟩)
  have h_launcher : (site.traced requests history).launcher = site.launcher.retold history := rfl
  unfold runJob
  rw [after_of, after_of, h_launcher]
  generalize Job.run (observer report) (limits.getD {}) program arguments site.launcher site = x
    at h_agree ⊢
  generalize Job.run (observer report) (limits.getD {}) program arguments'
    (site.launcher.retold history) (site.traced requests history) = y at h_agree ⊢
  obtain ⟨outcome, launcher, s⟩ := x
  obtain ⟨outcome', _, _⟩ := y
  obtain ⟨h_outcome, ⟨history', rfl⟩, requests', _, rfl⟩ := h_agree
  exact ⟨h_outcome.map fun _ _ _ => rfl, requests', history', rfl⟩

end Site

namespace Conversion

/-- Whatever the keys, requests that are alike hand locators over that are alike. -/
theorem Request.effectiveUrl_agree {r s : Request} (h : r.Alike .discreet s) :
    Agree Eq Url.Alike r.effectiveUrl s.effectiveUrl := by
  obtain ⟨source, h_source, rfl⟩ := h
  have h_alike : r.source.Alike source := h_source
  unfold effectiveUrl
  dsimp only
  rcases h_alike with h_same | h_apart
  · rw [h_same]
    exact .of_eq Url.Alike.refl rfl
  · obtain ⟨h_left, h_right⟩ := h_apart.userinfo_ne_empty
    rw [if_pos h_left, if_pos h_right]
    exact .ok (.inr h_apart)

theorem Request.arguments_agree {r s : Request} (h : r.Alike .discreet s) (qemuImg : String) :
    Agree Eq (fun _ _ => True) (r.arguments qemuImg) (s.arguments qemuImg) :=
  (effectiveUrl_agree h).map fun _ _ _ => trivial

/-- Logs show the same of both. -/
theorem Request.redacted_eq {r s : Request} (h : r.Alike .discreet s) :
    r.effectiveUrl.bind (·.redacted) = s.effectiveUrl.bind (·.redacted) :=
  ((effectiveUrl_agree h).bind fun _ _ h_alike => .of_eq (R := Eq) (fun _ => rfl) h_alike.redacted).eq

theorem fail_matches (settings : Settings) (dest : String) (f g : Failure) :
    ((Site.settledConverter settings).fail dest f).Matches .discreet Eq Site.Alike
      ((Site.settledConverter settings).fail dest g) := by
  rintro site _ ⟨requests, history, rfl⟩
  have h_tree : (Site.settledConverter settings).tree (site.traced requests history) =
      (Site.settledConverter settings).tree site := rfl
  unfold Converter.fail
  rw [after_of, after_of, h_tree]
  rcases clearAway ((Site.settledConverter settings).tree site) dest with fault | ⟨tree, notes⟩
  · exact ⟨.error rfl, requests, history, rfl⟩
  · exact ⟨.error rfl, requests, history,
      Site.recordAll_traced notes requests history { site with tree }⟩

/-- A conversion is asked for with two passwords. -/
theorem convert_matches (settings : Settings) {r s : Request} (h : r.Alike .discreet s) :
    ((Site.settledConverter settings).convert r).Matches .discreet Eq Site.Alike
      ((Site.settledConverter settings).convert s) := by
  intro site site' h_rel
  have h_arguments := Request.arguments_agree h (Site.settledConverter settings).qemuImg
  rw [Converter.after_convert, Converter.after_convert, Request.redacted_eq h]
  generalize r.arguments _ = x at h_arguments ⊢
  generalize s.arguments _ = y at h_arguments ⊢
  cases h_arguments with
  | error h_same =>
    rw [h_same]
    exact ⟨.error rfl, h_rel⟩
  | ok =>
    rename_i arguments arguments' _
    dsimp only
    cases s.effectiveUrl.bind (·.redacted) with
    | error fault => exact ⟨.error rfl, h_rel⟩
    | ok shown =>
      -- What is recorded of the request does not hold its locator in the clear.
      have h_told : s.dest = r.dest ∧ converting s shown = converting r shown := by
        obtain ⟨source, -, rfl⟩ := h
        exact ⟨rfl, rfl⟩
      have h_run : ((Site.settledConverter settings).run (Site.settledConverter settings).limits
            (Site.settledConverter settings).nbdkit arguments).Matches .discreet Eq Site.Alike
          ((Site.settledConverter settings).run (Site.settledConverter settings).limits
            (Site.settledConverter settings).nbdkit arguments') :=
        Site.runJob_matches _ _ arguments arguments'
      have h_noted : Site.Alike
          ((Site.settledConverter settings).record (converting r shown) site)
          ((Site.settledConverter settings).record (converting r shown) site') :=
        h_rel.record _
      dsimp only
      rw [h_told.1, h_told.2]
      rcases h_run.cases h_noted with
        ⟨_, _, t, t', h_s, h_t, -, h_after⟩ | ⟨f, g, t, t', h_s, h_t, h_alike, h_after⟩
      · rw [h_s, h_t]
        exact ⟨.ok rfl, h_after⟩
      · rw [h_s, h_t]
        dsimp only
        rw [← Likeness.discreet.endsProgram h_alike]
        split
        · exact ⟨.error h_alike, h_after⟩
        · exact fail_matches settings r.dest f g t t' h_after

end Conversion

/-! ## The collaborators -/

/-- What a site does for a source comes to the same for sources that are alike. -/
theorem Site.collaborators_matches (settings : Settings) :
    (collaborators (settledConverter settings)).Matches .discreet Alike
      (collaborators (settledConverter settings)) where
  record r _ _ h := h.record r
  classify length := by
    refine Matches.bind (blind_classify length).matches ?_
    rintro shown _ rfl
    exact matches_give (.ok rfl)
  closeReaders := blind_closeFeed.matches
  closeStream := blind_closeFeed.matches
  usableSpace path := (blind_usableSpace path).matches
  convert _ _ h := Conversion.convert_matches settings h
  cancel := by
    rintro site _ ⟨requests, history, rfl⟩
    exact ⟨.refl Likeness.discreet.refl (fun _ => rfl) _, requests, history, rfl⟩

end ImageIntake
