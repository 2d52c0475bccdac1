/-
  ImageIntake.Proofs.Source.Opening

  What opening a source leaves behind.  A request that is answered was the first of
  those the exchange sent, and the answer is one of the replies of the line
  (`Http.follow_ok`).  The reader of the answer waits under the token, or is closed
  already if that was cancelled on the way (`Http.Opening.guard_ok`).  From these,
  `Source.ofOrder_ok` says what an order that comes to a source has done.
-/

import ImageIntake.Proofs.Agreement
import ImageIntake.Proofs.Site
import ImageIntake.Source.Opening

namespace ImageIntake

open ImageIntake.Action ImageIntake.Cancellation ImageIntake.Log

/-! ## Exchanges -/

namespace Http

theorem send_ok {line sent : Line} {request : Request} {response : Response}
    (h : line.send request = (.ok response, sent)) :
    sent.requests = line.requests ++ [request] ∧
      line.replies = .response response :: sent.replies := by
  unfold Line.send at h
  dsimp only at h
  split at h <;> cases h
  exact ⟨rfl, by assumption⟩

/-- What an exchange that was answered has done to the line. -/
structure Answered (request : Request) (line : Line) (response : Response) (line' : Line) :
    Prop where
  requests : ∃ rest, line'.requests = line.requests ++ request :: rest
  reply : .response response ∈ line.replies

theorem follow_ok {left : Nat} {request : Request} {token token' : Token Hold} {line line' : Line}
    {response : Response} (h : follow left request token line = (.ok response, token', line')) :
    Answered request line response line' := by
  induction left generalizing request token line with
  | zero => cases h
  | succ left ih =>
    unfold follow at h
    rcases h_send : line.send request with ⟨f | answer, sent⟩
    all_goals rw [h_send] at h; dsimp only at h
    · cases h
    · obtain ⟨h_requests, h_replies⟩ := send_ok h_send
      split at h
      · cases h
      · split at h
        · cases h
          refine ⟨⟨[], h_requests⟩, ?_⟩
          rw [h_replies]
          exact List.mem_cons_self
        · split at h
          · cases h
          · -- The exchange goes on with the request the redirect leads to.
            rename_i next _
            split at h
            · cases h
            · rename_i token body _
              obtain ⟨⟨rest, h_rest⟩, h_reply⟩ := ih h
              have h_given : (sent.giveUp body).requests = line.requests ++ [request] := h_requests
              rw [h_given, List.append_assoc] at h_rest
              refine ⟨⟨next :: rest, h_rest⟩, ?_⟩
              rw [h_replies]
              exact List.mem_cons_of_mem _ h_reply

/-! ## Opening a reader -/

/-- A reader that was put under a token: it waits there, or the token was cancelled already and
has closed it. -/
inductive Reader.Taken (token : Token Hold) (body : Body) : Reader → Prop where
  | waiting (ownsClient : Bool) (h_uncancelled : token.cancelled = false)
      (h_pending : .reader ∈ token.pending) : Taken token body { body, ownsClient }
  | closed (ownsClient : Bool) (h_cancelled : token.cancelled = true) :
      Taken token body (Reader.close { body, ownsClient }).2

namespace Opening

theorem exchange_ok {o o' : Opening} {d : Demand} {response : Response}
    (h : o.exchange d = (.ok response, o')) :
    ∃ target, firstTarget d.url = .ok target ∧
      Answered ⟨target, d.authorization? target⟩ o.line response o'.line := by
  unfold exchange at h
  split at h
  · cases h
  · rename_i target h_target
    refine ⟨target, h_target, ?_⟩
    split at h
    rename_i outcome token line h_follow
    dsimp only at h
    split at h
    · cases h
      exact follow_ok h_follow
    · split at h <;> cases h

theorem guard_ok {o o' : Opening} {response : Response} {reader : Reader}
    (h : o.guard response = (.ok reader, o')) :
    o'.line = o.line ∧ reader.Taken o'.token response.body := by
  unfold guard Token.register at h
  cases h_token : o.token.cancelled with
  | false =>
    simp only [h_token, Bool.false_eq_true, if_false] at h
    cases h
    exact ⟨rfl, .waiting _ rfl (List.mem_append_right _ List.mem_cons_self)⟩
  | true =>
    simp only [h_token, if_true] at h
    split at h <;> cases h
    exact ⟨rfl, .closed _ h_token⟩

theorem accept_ok {o o' : Opening} {d : Demand} {response : Response} {reader : Reader}
    {length : Int} (h : o.accept d response = (.ok (reader, length), o')) :
    o'.line = o.line ∧ reader.Taken o'.token response.body := by
  unfold accept at h
  split at h
  · cases h
  · dsimp only at h
    split at h
    · cases h
    · rename_i h_guard
      cases h
      obtain ⟨h_line, h_taken⟩ := guard_ok h_guard
      exact ⟨h_line, h_taken⟩

theorem makeClient_line (o : Opening) (tree : Files.Tree) (d : Demand) :
    (o.makeClient tree d).2.line = o.line := by
  unfold makeClient
  split
  · split
    · rfl
    · split <;> rfl
  · rfl

/-- What opening a reader has done that came about. -/
theorem perform_ok {o o' : Opening} {tree : Files.Tree} {d : Demand} {reader : Reader}
    {length : Int} (h : o.perform tree d = (.ok (reader, length), o')) :
    ∃ target response, firstTarget d.url = .ok target ∧
      Answered ⟨target, d.authorization? target⟩ o.line response o'.line ∧
      reader.Taken o'.token response.body := by
  have h_line := makeClient_line o tree d
  unfold perform at h
  split at h
  · cases h
  · rename_i o₁ h_client
    rw [h_client] at h_line
    dsimp only at h_line
    split at h
    · cases h
    · rename_i response o₂ h_exchange
      obtain ⟨target, h_target, h_answered⟩ := exchange_ok h_exchange
      split at h
      · obtain ⟨h_same, h_taken⟩ := accept_ok h
        rw [← h_same, h_line] at h_answered
        exact ⟨target, response, h_target, h_answered, h_taken⟩
      · cases h

end Opening

end Http

/-! ## Records -/

namespace Site

theorem recordAll_line (notes : List Record) (site : Site) :
    (site.recordAll notes).line = site.line := by
  induction notes generalizing site with
  | nil => rfl
  | cons r rest ih => rw [recordAll_cons, ih]; rfl

theorem recordAll_feed (notes : List Record) (site : Site) :
    (site.recordAll notes).feed = site.feed := by
  induction notes generalizing site with
  | nil => rfl
  | cons r rest ih => rw [recordAll_cons, ih]; rfl

end Site

/-! ## Opening a source -/

namespace Source

/-- What an order that comes to a source has done. -/
structure Opened (order : Order) (site : Site) (source : Source) (opened : Site) : Prop where
  /-- The first request goes to the endpoint, with the authorization of the demand. -/
  answered : ∃ url target response, Endpoint.read order.endpoint = .ok url ∧
    Http.Opening.firstTarget url = .ok target ∧
    Http.Answered ⟨target, (order.demand url).authorization? target⟩ site.line response
      opened.line ∧
    url.withKeys order.accessKey order.secretKey = .ok source.endpoint ∧
    ∃ reader, reader.Taken opened.feed.token response.body ∧
      opened.feed = { token := opened.feed.token, source := .response reader }
  made : source = make source.endpoint source.contentLength order.contentType order.certDir
    order.scratchFileName
  launcher : opened.launcher = site.launcher

theorem openStream_ok {d : Http.Demand} {site opened : Site} {length : Int}
    (h : (Site.openStream d).after site = (.ok length, opened)) :
    ∃ reader o, Http.Opening.perform { line := site.line, token := site.feed.token } site.tree d =
        (.ok (reader, length), o) ∧
      opened.line = o.line ∧ opened.launcher = site.launcher ∧
      opened.feed = { site.feed with token := o.token, source := .response reader } := by
  unfold Site.openStream at h
  simp only [after_of] at h
  rcases h_perform : Http.Opening.perform { line := site.line, token := site.feed.token } site.tree d
    with ⟨f | ⟨reader, answered⟩, o⟩
  all_goals rw [h_perform] at h; dsimp only at h
  · split at h
    · generalize (Feed.cancel _).1 = cancelled at h
      cases cancelled <;> cases h
    · cases h
  · cases h
    refine ⟨reader, o, rfl, ?_, ?_, ?_⟩
    · exact Site.recordAll_line o.notes _
    · exact Site.recordAll_launcher o.notes _
    · rw [Site.recordAll_feed]

theorem ofOrder_ok {order : Order} {site opened : Site} {source : Source}
    (h : (ofOrder order).after site = (.ok source, opened)) : Opened order site source opened := by
  unfold ofOrder at h
  simp only [after_bind, after_give, after_change, after_pure] at h
  split at h
  · rename_i url site₁ h_read
    obtain ⟨h_url, rfl⟩ := Prod.mk.inj h_read
    split at h
    · rename_i length site₂ h_stream
      obtain ⟨reader, o, h_perform, h_line, h_launcher, h_feed⟩ := openStream_ok h_stream
      obtain ⟨target, response, h_target, h_answered, h_taken⟩ := Http.Opening.perform_ok h_perform
      split at h
      · rename_i endpoint site₃ h_keys
        obtain ⟨h_endpoint, rfl⟩ := Prod.mk.inj h_keys
        cases h
        have h_answered : Http.Answered ⟨target, (order.demand url).authorization? target⟩
            site.line response opened.line := by
          rw [h_line]
          exact h_answered
        refine ⟨⟨url, target, response, h_url, h_target, h_answered, ok_of_mapError h_endpoint,
          reader, ?_, ?_⟩, rfl, h_launcher⟩
        · rw [h_feed]
          exact h_taken
        · rw [h_feed]
      · cases h
    · cases h
  · cases h

end Source

end ImageIntake
