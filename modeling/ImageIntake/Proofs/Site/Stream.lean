/-
  ImageIntake.Proofs.Site.Stream

  What the operations of a site do to the stream of the image.  All of them leave it as it
  may be later (`Feed.Later`), converting included: a running converter shares the token
  of the stream, and a token that is cancelled lets no converter be started.
-/

import ImageIntake.Proofs.Feed
import ImageIntake.Proofs.Job.Keeping
import ImageIntake.Proofs.Source.Keeping
import ImageIntake.Proofs.Source.Opening

namespace ImageIntake

open ImageIntake.Action

/-- A conversion keeps what running the converter, records and changes of the files keep. -/
theorem Conversion.Converter.convert_keeps {ω : Type} {c : Converter ω} {P : ω → Prop}
    (h_record : ∀ r s, P s → P (c.record r s)) (h_set : ∀ tree s, P s → P (c.setTree tree s))
    (h_run : ∀ limits program arguments s, P s → P ((c.run limits program arguments).after s).2)
    (request : Request) (s : ω) (h_now : P s) : P ((c.convert request).after s).2 := by
  have h_notes (notes : List Log.Record) (s : ω) (h_now : P s) :
      P (notes.foldl (fun s r => c.record r s) s) := by
    induction notes generalizing s with
    | nil => exact h_now
    | cons r rest ih => exact ih _ (h_record r s h_now)
  rw [after_convert]
  split
  · exact h_now
  · rename_i arguments _
    split
    · exact h_now
    · rename_i shown _
      have h_ran := h_run c.limits c.nbdkit arguments _ (h_record (converting request shown) s h_now)
      split
      all_goals
        rename_i h_after
        rw [h_after] at h_ran
      · exact h_ran
      · split
        · exact h_ran
        · unfold fail
          rw [after_of]
          split
          · exact h_ran
          · exact h_notes _ _ (h_set _ _ h_ran)

/-- A reader of a body that nobody has closed is sound under the token that took it. -/
theorem Http.Reader.Taken.sound {token : Cancellation.Token Http.Hold} {body : Http.Body}
    {reader : Http.Reader} (h : reader.Taken token body) (h_open : body.closed = false)
    (h_closes : body.closes = 0) : (⟨token, reader⟩ : Http.Guarded).Sound := by
  have h_counted : body.Counted := by
    rw [Http.Body.Counted, h_open, h_closes]
    rfl
  cases h with
  | waiting ownsClient h_uncancelled h_pending =>
    refine ⟨⟨h_counted, nofun⟩, fun _ => h_pending, fun h_cancelled => ?_⟩
    rw [h_uncancelled] at h_cancelled
    cases h_cancelled
  | closed ownsClient h_cancelled =>
    have h_shut := Http.Reader.closed_close { body, ownsClient }
    refine ⟨(Http.Reader.later_close _).sound ⟨h_counted, nofun⟩, fun h_not => ?_, fun _ => h_shut⟩
    rw [h_cancelled] at h_not
    cases h_not

namespace Site

/-! ## Running a converter -/

theorem feed_report (line : String) (site : Site) : (report line site).2.feed = site.feed := by
  unfold report
  split
  · rfl
  · dsimp only
    split <;> rfl

theorem foldl_release (holds : List Http.Hold) (site : Site) :
    holds.foldl (fun site hold => site.release hold) site =
      { site with feed := holds.foldl (fun feed hold => feed.release hold) site.feed } := by
  induction holds generalizing site with
  | nil => rfl
  | cons hold rest ih => exact ih (site.release hold)

/-- A converter whose token is cancelled while it runs has cancelled the token of the site. -/
theorem cancel_observer (site : Site) :
    ((observer report).cancel site).2 = (cancel.after site).2 := by
  have h_feed : (cancel.after site).2 = { site with feed := site.feed.cancel.2 } := rfl
  rw [h_feed, site.feed.cancel_snd]
  exact foldl_release site.feed.token.cancel.2 _

theorem keeps_observer (feed : Feed) :
    (observer report).Keeps fun site => feed.Later site.feed where
  started _ h := h
  line line site h := by
    have h_feed : ((observer report).hand line site).2.feed = site.feed := feed_report line site
    rw [h_feed]
    exact h
  register _ h := h.trans h.sound.later_register
  withdraw _ h := h.trans h.sound.later_withdraw
  cancel site h := by
    rw [cancel_observer]
    exact h.trans h.sound.later_cancel

/-! ## A site over time -/

/-- A site as it may be later than another: its stream is, and no converter was started since if
the token was cancelled then. -/
structure Later (a b : Site) : Prop where
  feed : a.feed.Later b.feed
  launcher : a.feed.token.cancelled = true → b.launcher = a.launcher

variable {a b c : Site}

theorem later_refl (h : a.feed.Sound) : a.Later a := ⟨h.later_refl, fun _ => rfl⟩

theorem Later.trans (h₁ : a.Later b) (h₂ : b.Later c) : a.Later c :=
  ⟨h₁.feed.trans h₂.feed, fun h =>
    (h₂.launcher (h₁.feed.cancelled h)).trans (h₁.launcher h)⟩

/-- Where no process is started, only the stream counts. -/
theorem Later.step (h : a.Later b) (h_feed : b.feed.Later c.feed)
    (h_launcher : c.launcher = b.launcher) : a.Later c :=
  h.trans ⟨h_feed, fun _ => h_launcher⟩

theorem Later.record (h : a.Later b) (r : Log.Record) : a.Later (b.record r) :=
  h.step h.feed.sound.later_refl rfl

theorem Later.runJob (h : a.Later b) (limits : Option Job.Limits) (program : String)
    (arguments : List String) :
    a.Later ((Site.runJob report limits program arguments).after b).2 := by
  constructor
  · exact Job.run_keeps (keeps_observer a.feed) _ program arguments b.launcher h.feed
  · intro h_cancelled
    have h_now : (observer report).cancelled b = true := h.feed.cancelled h_cancelled
    have h_run : Job.run (observer report) (limits.getD {}) program arguments b.launcher b = _ :=
      Job.run_of_cancelled h_now
    have h_launcher : ((Site.runJob report limits program arguments).after b).2.launcher =
        b.launcher := congrArg (·.2.1) h_run
    rw [h_launcher, h.launcher h_cancelled]

theorem Later.classify (h : a.Later b) (hint : Int) :
    a.Later ((Site.classify hint).after b).2 := by
  have h_classified : a.Later { b with feed := (b.feed.classify hint).2 } :=
    h.step (h.feed.sound.later_classify hint) rfl
  unfold Site.classify
  rw [after_of]
  rcases h_after : b.feed.classify hint with ⟨f | shown, feed⟩
  all_goals rw [h_after] at h_classified
  · exact h_classified
  · exact h_classified.record _

/-- What a site does for a source leaves it as it may be later. -/
theorem keeps_collaborators (settings : Settings) (site : Site) :
    (collaborators (settledConverter settings)).Keeps site.Later where
  record r _ h := h.record r
  classify n s h := by
    have h_classified := h.classify n
    unfold collaborators
    rw [after_bind]
    rcases h_after : (Site.classify n).after s with ⟨f | shown, t⟩
    all_goals
      rw [h_after] at h_classified
      exact h_classified
  closeReaders _ h := h.step h.feed.sound.later_close rfl
  closeStream _ h := h.step h.feed.sound.later_close rfl
  usableSpace path s h := by
    have h_feed := recordAll_feed
      (Space.available path (Space.examine s.tree s.space path)).2 s
    refine h.step ?_ (recordAll_launcher _ s)
    unfold collaborators Site.usableSpace
    rw [after_of, h_feed]
    exact h.feed.sound.later_refl
  convert := Conversion.Converter.convert_keeps (fun r _ h => h.record r)
    (fun _ _ h => h.step h.feed.sound.later_refl rfl)
    fun limits program arguments _ h => h.runJob limits program arguments
  cancel _ h := h.step h.feed.sound.later_cancel rfl

/-- A stream that is closed is classified no more. -/
theorem classes_of_closed (converter : Conversion.Converter Site) {site : Site}
    (h_sound : site.feed.Sound) (h_closed : site.feed.closed = true) (hint : Int) :
    (((collaborators converter).classify hint).after site).1 =
      .error (.outside .peekOfClosed) := by
  have h_refused := h_sound.classify_of_closed h_closed hint
  unfold collaborators Site.classify
  rw [after_bind, after_of]
  rcases h_after : site.feed.classify hint with ⟨f | shown, feed⟩
  all_goals
    rw [h_after] at h_refused
    cases h_refused
  rfl

end Site

end ImageIntake
