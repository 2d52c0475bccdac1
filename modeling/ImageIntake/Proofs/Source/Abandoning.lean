/-
  ImageIntake.Proofs.Source.Abandoning

  What is left of a source that could not be opened.  Nothing is left (`Site.Cleared`)
  when every body that was answered has been closed and the token has no reader to
  release.  A failure of the pipeline leaves nothing.  A fault from outside leaves the
  body of the last answer open in these cases and no others (`Order.Strands`): the answer
  was not taken, its locator could not be told in logs, or the reader was open already
  when the keys did not fit into the locator or the progress could not be published
  (`Source.ofOwnedOrder_cleared_iff`).
-/

import ImageIntake.Proofs.Agreement
import ImageIntake.Proofs.Http.Settling
import ImageIntake.Proofs.Site.Stream
import ImageIntake.Proofs.Url.Credentials

namespace ImageIntake

open ImageIntake.Action ImageIntake.Text

/-! ## What may be left -/

/-- Nothing is left open since an earlier site: as many bodies were closed as were answered, and
the token has no reader to release. -/
structure Site.Cleared (site left : Site) : Prop where
  bodies : left.line.closes + left.feed.bodyCloses =
    site.line.closes + (site.line.bodiesTo left.line).length
  token : .reader ∉ left.feed.token.pending

/-- An order that failed had been answered, and nobody closes the answer: it was not taken for want
of a scheme; or it had status 200, and its locator could not be told in logs, or its reader waits
under a token that nobody cancelled while what came next has failed. -/
def Order.Strands (order : Order) (owner : String) (site left : Site) : Prop :=
  ∃ q r, site.line.LastAnswer left.line q r ∧
    ((∃ f, Http.takesFrom q.url = .error f) ∨
      r.status = 200 ∧ ∃ url, Endpoint.read order.endpoint = .ok url ∧
        ((∃ fault, url.redacted = .error fault) ∨
          left.feed.token.cancelled = false ∧
            ((∃ fault, url.withKeys order.accessKey order.secretKey = .error fault) ∨
              ∃ f registry, Metrics.Reporter.make owner site.registry = (.error f, registry))))

/-- User information that is too long is refused. -/
theorem Url.withUserinfo_of_long {user : String} (password : String)
    (h : Url.lengthLimit < (percentEncode Url.credentialSafe user).toList.length) (url : Url) :
    url.withUserinfo user password = .error .text := by
  have h_join : (percentEncode Url.credentialSafe user).toList.length ≤
      (Url.joinUserinfo user password).toList.length := by
    unfold Url.joinUserinfo
    dsimp only
    split
    · exact le_rfl
    · rw [String.toList_append, String.toList_append, List.append_assoc, List.length_append]
      exact Nat.le_add_right _ _
  have h_unreadable : Url.isReadable (Url.joinUserinfo user password).toList = false := by
    rw [Url.isReadable, decide_eq_false (by omega), Bool.false_and]
  rw [Url.withUserinfo, h_unreadable]
  rfl

namespace Source

/-! ## Failing to open a stream -/

theorem recordAll_registry (notes : List Log.Record) (site : Site) :
    (site.recordAll notes).registry = site.registry := by
  induction notes generalizing site with
  | nil => rfl
  | cons r rest ih => rw [Site.recordAll_cons, ih]; rfl

/-- Cancelling the token of a stream that was not opened releases nothing, and cannot fail. -/
theorem cancel_of_unopened {feed : Feed} (h : feed.source = .unopened) :
    feed.cancel = (.ok (), { feed with token := feed.token.cancel.1 }) := by
  have h_carried (holds : List Http.Hold) (feed : Feed) (h : feed.source = .unopened) :
      Cancellation.carryOut Feed.release Feed.alarm holds feed = (.ok (), feed) := by
    induction holds with
    | nil => rfl
    | cons hold rest ih =>
      have h_close : feed.close = (.ok (), feed) := by
        rw [Feed.close, h]
      have h_quiet : feed.alarm hold = none := by
        cases hold with
        | reader =>
          unfold Feed.alarm
          rw [h_close]
        | process => rfl
      have h_same : feed.release hold = feed := by
        cases hold with
        | reader => rw [Feed.release, h_close]
        | process => rfl
      rw [Cancellation.carryOut, h_quiet, h_same]
      exact ih
  exact h_carried _ _ h

theorem openStream_error {d : Http.Demand} {site left : Site} {f : Failure}
    (h : (Site.openStream d).after site = (.error f, left)) (h_source : site.feed.source = .unopened) :
    ∃ o, Http.Opening.perform { line := site.line, token := site.feed.token } site.tree d =
        (.error f, o) ∧
      left.line = o.line ∧ left.feed.source = .unopened ∧
      (left.feed.token = o.token ∨ left.feed.token = o.token.cancel.1) := by
  unfold Site.openStream at h
  simp only [after_of] at h
  rcases h_perform : Http.Opening.perform { line := site.line, token := site.feed.token } site.tree d
    with ⟨g | ⟨reader, length⟩, o⟩
  all_goals
    rw [h_perform] at h
    dsimp only at h
  · have h_unopened : ((Site.recordAll o.notes { site with
        line := o.line, feed := { site.feed with token := o.token } }).feed).source =
        .unopened := by
      rw [Site.recordAll_feed]
      exact h_source
    split at h
    · rw [cancel_of_unopened h_unopened, Site.recordAll_feed] at h
      cases h
      exact ⟨o, rfl, Site.recordAll_line .., h_source, .inr rfl⟩
    · cases h
      refine ⟨o, rfl, Site.recordAll_line .., h_unopened, .inl ?_⟩
      rw [Site.recordAll_feed]
  · cases h

theorem openStream_registry (d : Http.Demand) (site : Site) :
    ((Site.openStream d).after site).2.registry = site.registry := by
  unfold Site.openStream
  rw [after_of]
  rcases Http.Opening.perform { line := site.line, token := site.feed.token } site.tree d
    with ⟨f | ⟨reader, length⟩, o⟩
  all_goals dsimp only
  · split <;> exact recordAll_registry o.notes _
  · exact recordAll_registry o.notes _

/-! ## Failing to open a source -/

theorem isPipeline_of_make {owner : String} {registry after : Metrics.Registry Number.Binary64}
    {f : Failure} (h : Metrics.Reporter.make owner registry = (.error f, after)) :
    f.isPipeline = false := by
  unfold Metrics.Reporter.make at h
  split at h
  · cases h
  · split at h
    · cases h
      rfl
    · split at h <;> cases h
      rfl

/-- How an order comes to fail: its endpoint cannot be read, its stream cannot be opened, or what
comes next fails. -/
inductive FailsAt (order : Order) (owner : String) (site left : Site) (f : Failure) : Prop where
  | read (h_read : Endpoint.read order.endpoint = .error f) (h_left : left = site)
  | stream {url : Url} (h_read : Endpoint.read order.endpoint = .ok url)
      (h_stream : (Site.openStream (order.demand url)).after { site with feed := {} } =
        (.error f, left))
  | later {url : Url} {length : Int} {opened : Site}
      (h_read : Endpoint.read order.endpoint = .ok url)
      (h_stream : (Site.openStream (order.demand url)).after { site with feed := {} } =
        (.ok length, opened))
      (h_left : left.line = opened.line ∧ left.feed = opened.feed) (h_foreign : f.isPipeline = false)
      (h_cause : (∃ fault, url.withKeys order.accessKey order.secretKey = .error fault) ∨
        ∃ f registry, Metrics.Reporter.make owner site.registry = (.error f, registry))

theorem ofOwnedOrder_error {order : Order} {owner : String} {site left : Site} {f : Failure}
    (h : (ofOwnedOrder order owner).after site = (.error f, left)) :
    FailsAt order owner site left f := by
  unfold ofOwnedOrder ofOrder at h
  simp only [after_bind, after_give, after_change, after_pure] at h
  cases h_read : Endpoint.read order.endpoint with
  | error g =>
    rw [h_read] at h
    cases h
    exact .read h_read rfl
  | ok url =>
    rw [h_read] at h
    dsimp only at h
    have h_registry := openStream_registry (order.demand url) { site with feed := {} }
    rcases h_stream : (Site.openStream (order.demand url)).after { site with feed := {} }
      with ⟨g | length, opened⟩
    all_goals
      rw [h_stream] at h h_registry
      dsimp only at h h_registry
    · cases h
      exact .stream h_read h_stream
    · cases h_keys : url.withKeys order.accessKey order.secretKey with
      | error fault =>
        rw [h_keys] at h
        cases h
        exact .later h_read h_stream ⟨rfl, rfl⟩ rfl (.inl ⟨fault, h_keys⟩)
      | ok endpoint =>
        rw [h_keys] at h
        dsimp only [Except.mapError] at h
        unfold Site.makeReporter at h
        rw [after_of, h_registry] at h
        rcases h_make : Metrics.Reporter.make owner site.registry with ⟨g | reporter, registry⟩
        all_goals
          rw [h_make] at h
          cases h
        exact .later h_read h_stream ⟨rfl, rfl⟩ (isPipeline_of_make h_make)
          (.inr ⟨_, _, h_make⟩)

/-! ## What is left -/

section

variable {order : Order} {owner : String} {site left : Site} {f : Failure}

/-- An order that failed has left nothing, or it strands and fails with a fault from outside. -/
def ClearedOrStrands (order : Order) (owner : String) (site left : Site) (f : Failure) : Prop :=
  (site.Cleared left ∧ ¬order.Strands owner site left) ∨
    (¬site.Cleared left ∧ order.Strands owner site left ∧ f.isPipeline = false)

theorem clearedOrStrands_of_stream {url : Url} (h_fresh : site.line.Fresh)
    (h_read : Endpoint.read order.endpoint = .ok url)
    (h_stream : (Site.openStream (order.demand url)).after { site with feed := {} } =
      (.error f, left)) : ClearedOrStrands order owner site left f := by
  obtain ⟨o, h_perform, h_line, h_source, h_token⟩ := openStream_error h_stream rfl
  obtain ⟨h_pending, h_bodies⟩ := Http.Opening.perform_error h_perform h_fresh
  have h_closes : left.feed.bodyCloses = 0 := by
    rw [Feed.bodyCloses, h_source]
  have h_unheld : .reader ∉ left.feed.token.pending := by
    have h_none (h_mem : .reader ∈ o.token.pending) : False :=
      List.not_mem_nil (h_pending .reader h_mem)
    rcases h_token with h_same | h_same
    all_goals rw [h_same]
    · exact h_none
    · exact fun h_mem => h_none (Http.mem_pending_of_cancel h_mem)
  rcases h_bodies with ⟨h_settled, h_foreign, q, r, h_last, h_open⟩ | ⟨h_settled, h_shut⟩
  · -- One body more was opened than was closed.
    refine .inr ⟨fun h_cleared => ?_, ⟨q, r, h_line ▸ h_last, ?_⟩, h_foreign⟩
    · have h_bodies := h_cleared.bodies
      have h_count := h_settled.closes
      rw [h_line, h_closes] at h_bodies
      dsimp only at h_count
      omega
    · rcases h_open with h_untaken | ⟨h_status, h_untold⟩
      · exact .inl h_untaken
      · exact .inr ⟨h_status, url, h_read, .inl h_untold⟩
  · -- Everything is closed, and none of what would strand the answer has happened to it.
    refine .inl ⟨⟨?_, h_unheld⟩, ?_⟩
    · rw [h_line, h_closes]
      exact h_settled.closes
    · rintro ⟨q, r, h_last, h_open⟩
      rw [h_line] at h_last
      obtain ⟨h_takes, h_told⟩ := h_shut q r h_last
      rcases h_open with ⟨g, h_untaken⟩ | ⟨h_status, url', h_read', h_untold | ⟨h_waits, -⟩⟩
      · rw [h_takes] at h_untaken
        cases h_untaken
      · obtain ⟨⟨text, h_text⟩, -⟩ := h_told h_status
        obtain ⟨fault, h_fault⟩ := h_untold
        rw [h_read] at h_read'
        cases h_read'
        rw [Order.demand] at h_text
        rw [h_text] at h_fault
        cases h_fault
      · obtain ⟨-, h_cancelled⟩ := h_told h_status
        rcases h_token with h_same | h_same
        all_goals rw [h_same] at h_waits
        · rw [h_cancelled] at h_waits
          cases h_waits
        · rw [Cancellation.Token.cancelled_cancel] at h_waits
          cases h_waits

theorem clearedOrStrands_of_later {url : Url} {length : Int} {opened : Site}
    (h_fresh : site.line.Fresh) (h_read : Endpoint.read order.endpoint = .ok url)
    (h_stream : (Site.openStream (order.demand url)).after { site with feed := {} } =
      (.ok length, opened))
    (h_line : left.line = opened.line) (h_feed : left.feed = opened.feed)
    (h_foreign : f.isPipeline = false)
    (h_cause : (∃ fault, url.withKeys order.accessKey order.secretKey = .error fault) ∨
      ∃ f registry, Metrics.Reporter.make owner site.registry = (.error f, registry)) :
    ClearedOrStrands order owner site left f := by
  obtain ⟨reader, o, h_perform, h_line', -, h_feed'⟩ := openStream_ok h_stream
  obtain ⟨⟨text, h_text⟩, h_settled, q, r, h_last, h_takes, h_status, h_body, h_taken, h_pending⟩ :=
    Http.Opening.perform_exchanged h_perform h_fresh
  rw [← h_line', ← h_line] at h_last
  have h_token : left.feed.token = o.token := by
    rw [h_feed, h_feed']
  have h_closes : left.feed.bodyCloses = reader.body.closes := by
    rw [h_feed, h_feed']
    rfl
  rw [← h_line', ← h_line] at h_settled
  cases h_taken with
  | waiting ownsClient h_uncancelled h_waits =>
    -- The reader waits for a cancellation that does not come.
    refine .inr ⟨fun h_cleared => h_cleared.token ?_, ⟨q, r, h_last, .inr ⟨h_status, url, h_read,
      .inr ⟨?_, h_cause⟩⟩⟩, h_foreign⟩
    · rw [h_token]
      exact h_waits
    · rw [h_token]
      exact h_uncancelled
  | closed ownsClient h_cancelled =>
    -- The reader was closed as it was made, the token being cancelled already.
    have h_once : (Http.Reader.close { body := r.body, ownsClient }).2.body.closes = 1 := by
      have h_sound := (Http.Reader.later_close { body := r.body, ownsClient }).sound
        ⟨h_body.counted, nofun⟩
      exact h_sound.closes_of_closed (Http.Reader.closed_close _)
    refine .inl ⟨⟨?_, ?_⟩, ?_⟩
    · rw [h_closes, h_once]
      exact h_settled.closes
    · rw [h_token]
      exact fun h_mem => List.not_mem_nil (h_pending h_cancelled .reader h_mem)
    · rintro ⟨q', r', h_last', h_open⟩
      obtain ⟨rfl, rfl⟩ := h_last'.unique h_last
      rcases h_open with ⟨g, h_untaken⟩ | ⟨-, url', h_read', ⟨fault, h_fault⟩ | ⟨h_open, -⟩⟩
      · rw [h_takes] at h_untaken
        cases h_untaken
      · rw [h_read] at h_read'
        cases h_read'
        rw [Order.demand] at h_text
        rw [h_text] at h_fault
        cases h_fault
      · rw [h_token, h_cancelled] at h_open
        cases h_open

/-- An order that fails leaves every body closed and no reader under its token, unless it strands
at its last answer; and then it fails with a fault from outside. -/
theorem ofOwnedOrder_cleared_iff (h_fresh : site.line.Fresh) (h_feed : site.feed = {})
    (h : (ofOwnedOrder order owner).after site = (.error f, left)) :
    (f.isPipeline = true → site.Cleared left) ∧
      (site.Cleared left ↔ ¬order.Strands owner site left) := by
  have h_either : ClearedOrStrands order owner site left f := by
    cases ofOwnedOrder_error h with
    | read h_read h_left =>
      rw [h_left]
      refine .inl ⟨⟨?_, ?_⟩, ?_⟩
      · rw [h_feed]
        exact site.line.settled_self.closes
      · rw [h_feed]
        exact List.not_mem_nil
      · rintro ⟨q, r, h_last, -⟩
        exact Http.Line.not_lastAnswer_self h_last
    | stream h_read h_stream => exact clearedOrStrands_of_stream h_fresh h_read h_stream
    | later h_read h_stream h_left h_foreign h_cause =>
      exact clearedOrStrands_of_later h_fresh h_read h_stream h_left.1 h_left.2 h_foreign h_cause
  rcases h_either with ⟨h_cleared, h_no⟩ | ⟨h_open, h_strands, h_foreign⟩
  · exact ⟨fun _ => h_cleared, iff_of_true h_cleared h_no⟩
  · refine ⟨fun h_pipeline => ?_, iff_of_false h_open (not_not_intro h_strands)⟩
    rw [h_foreign] at h_pipeline
    cases h_pipeline

end

/-- A redirect that was followed to an image that is not there: both bodies are closed. -/
theorem missing_image_cleared :
    let site : Site :=
      { tree := {}, now := ⟨2025, 1, 1, 0, 0, 0, 0⟩
        line := { replies := [
          .response { status := 302, headers := [("Location", "/e.img")]
                      body := { pieces := [.data [0x1F]] } },
          .response { status := 404, headers := [], body := { pieces := [] } }] } }
    ∃ f left, (ofOwnedOrder { endpoint := "https://h/d.img" } "owner").after site =
      (.error f, left) ∧ site.Cleared left ∧ (site.line.bodiesTo left.line).length = 2 := by
  intro site
  have h_fresh : site.line.Fresh := by
    intro response h_mem
    rcases List.mem_cons.mp h_mem with h_first | h_second
    · cases h_first
      exact ⟨rfl, rfl⟩
    · cases List.mem_singleton.mp h_second
      exact ⟨rfl, rfl⟩
  have h_result : let result := (ofOwnedOrder { endpoint := "https://h/d.img" } "owner").after site
      (match result.1 with
        | .ok _ => none
        | .error f => f.kind?) = some .transportFailed ∧
        (site.line.bodiesTo result.2.line).length = 2 := by
    decide +kernel
  rcases h_after : (ofOwnedOrder { endpoint := "https://h/d.img" } "owner").after site
    with ⟨f | source, left⟩
  all_goals
    rw [h_after] at h_result
    obtain ⟨h_kind, h_bodies⟩ := h_result
  · have h_pipeline : f.isPipeline = true := by
      cases f with
      | pipeline => rfl
      | process => cases h_kind
      | outside => cases h_kind
    exact ⟨f, left, rfl, (ofOwnedOrder_cleared_iff h_fresh rfl h_after).1 h_pipeline, h_bodies⟩
  · cases h_kind

/-! ## A key that is too long -/

/-- A key of one letter over and over. -/
def repeatedKey (count : Nat) : String := String.ofList (List.replicate count 'a')

theorem percentEncode_repeatedKey (count : Nat) :
    percentEncode Url.credentialSafe (repeatedKey count) = repeatedKey count := by
  have h_safe : ∀ c ∈ List.replicate count 'a', Url.credentialSafe c = true := by
    intro c h_mem
    rw [List.eq_of_mem_replicate h_mem]
    decide
  rw [percentEncode, repeatedKey, String.toList_ofList, flatMap_percentChar_of_safe h_safe]

theorem withKeys_repeatedKey {count : Nat} (h : Url.lengthLimit < count) (url : Url) :
    url.withKeys (some (repeatedKey count)) (some "s") = .error .invalidUrl := by
  have h_length : (repeatedKey count).toList.length = count := by
    rw [repeatedKey, String.toList_ofList, List.length_replicate]
  have h_ne : repeatedKey count ≠ "" := by
    intro h_empty
    rw [h_empty] at h_length
    exact absurd h (by rw [← h_length]; decide)
  have h_long : Url.lengthLimit <
      (percentEncode Url.credentialSafe (repeatedKey count)).toList.length := by
    rw [percentEncode_repeatedKey, h_length]
    exact h
  rw [Url.withKeys, if_pos ⟨h_ne, by decide⟩, Url.withUserinfo_of_long _ h_long]
  rfl

/-- An answer with status 200. -/
def found : Http.Response where
  status := 200
  headers := []
  body := { pieces := [.data [0xFD]] }

/-- Surroundings in which an image is found. -/
def imageThere : Site where
  tree := {}
  now := ⟨2025, 1, 1, 0, 0, 0, 0⟩
  line := { replies := [.response found] }

/-- An image that is found is opened, whatever the keys are. -/
theorem openStream_imageThere (accessKey secretKey : Option String) :
    let url : Url := { scheme := "https", host := "h", path := "/d.img" }
    ∃ opened, (Site.openStream { url, accessKey, secretKey }).after imageThere = (.ok 0, opened) ∧
      opened.line.closes = 0 ∧ opened.line.replies = [] ∧ opened.feed.bodyCloses = 0 := by
  intro url
  have h_target : Http.Opening.firstTarget url = .ok url := ok_of_toOption (by decide +kernel)
  have h_takes : Http.takesFrom url = .ok () := ok_of_toOption (by decide +kernel)
  have h_told : url.redacted = .ok "https://h/d.img" := ok_of_toOption (by decide +kernel)
  have h_stays : found.location? = none := by decide
  let d : Http.Demand := { url, accessKey, secretKey }
  let asked : Http.Opening :=
    { line := ⟨[], [⟨url, d.authorization? url⟩], 0⟩, token := .fresh }
  have h_exchange : Http.Opening.exchange { line := imageThere.line, token := .fresh } d =
      (.ok found, asked) := by
    unfold Http.Opening.exchange
    rw [show d.url = url from rfl, h_target]
    unfold Http.requestLimit Http.follow
    dsimp only [imageThere, Http.Line.send]
    rw [h_takes, h_stays]
    rfl
  have h_accept : asked.accept d found = (.ok ({ body := found.body }, 0),
      { asked with
        token := { pending := [.reader] }, notes := [Http.Opening.opened "https://h/d.img" 0] }) := by
    unfold Http.Opening.accept
    rw [show d.url = url from rfl, h_told]
    rfl
  have h_perform : Http.Opening.perform
      { line := imageThere.line, token := imageThere.feed.token } imageThere.tree d =
      (.ok ({ body := found.body }, 0),
        { asked with
          token := { pending := [.reader] }, notes := [Http.Opening.opened "https://h/d.img" 0] }) := by
    unfold Http.Opening.perform
    rw [show Http.Opening.makeClient { line := imageThere.line, token := imageThere.feed.token }
      imageThere.tree d = (.ok (), { line := imageThere.line, token := .fresh }) from rfl]
    dsimp only
    rw [h_exchange]
    exact h_accept
  unfold Site.openStream
  rw [after_of, h_perform]
  exact ⟨_, rfl, rfl, rfl, rfl⟩

/-- An image that is found for an order whose key is too long stays open. -/
theorem ofOwnedOrder_imageThere {count : Nat} (h : Url.lengthLimit < count) (owner : String) :
    ∃ opened, (ofOwnedOrder
      { endpoint := "https://h/d.img", accessKey := some (repeatedKey count), secretKey := some "s" }
      owner).after imageThere = (.error (.outside .invalidUrl), opened) ∧
      opened.line.closes = 0 ∧ opened.line.replies = [] ∧ opened.feed.bodyCloses = 0 := by
  have h_read : Endpoint.read "https://h/d.img" =
      .ok { scheme := "https", host := "h", path := "/d.img" } := ok_of_toOption (by decide +kernel)
  obtain ⟨opened, h_stream, h_left⟩ := openStream_imageThere (some (repeatedKey count)) (some "s")
  refine ⟨opened, ?_, h_left⟩
  unfold ofOwnedOrder ofOrder Order.demand
  simp only [after_bind, after_give, after_change, h_read]
  rw [show { imageThere with feed := {} } = imageThere from rfl, h_stream]
  dsimp only
  rw [withKeys_repeatedKey h]
  rfl

/-- A key that is too long: the image is answered, and nobody closes its body. -/
theorem long_key_strands :
    let order : Order :=
      { endpoint := "https://h/d.img", accessKey := some (repeatedKey 65537), secretKey := some "s" }
    ∃ f left, (ofOwnedOrder order "owner").after imageThere = (.error f, left) ∧
      (imageThere.line.bodiesTo left.line).length = 1 ∧
      left.line.closes + left.feed.bodyCloses = 0 := by
  intro order
  obtain ⟨opened, h_after, h_closes, h_replies, h_body⟩ :=
    ofOwnedOrder_imageThere (show Url.lengthLimit < 65537 by decide) "owner"
  refine ⟨_, opened, h_after, ?_, ?_⟩
  · rw [Http.Line.bodiesTo, h_replies]
    rfl
  · rw [h_closes, h_body]

end Source

end ImageIntake
