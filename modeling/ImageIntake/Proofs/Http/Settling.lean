/-
  ImageIntake.Proofs.Http.Settling

  The bodies an exchange is answered with, and which of them are closed.  A line is
  settled (`Line.Settled`) when it has counted a closing for each body answered but those
  still held, and a body that is read to its end or given up on the way is closed
  (`Body.Fresh.closes_finish`).  So an exchange holds one body when it comes to an answer, one when
  it does not take the answer for want of a scheme, and none otherwise (`follow_exchanged`).

  Opening a reader that fails holds a body in that case, and where the answer has status
  200 but its locator cannot be told in logs (`Opening.perform_error`).
-/

import ImageIntake.Proofs.Http.Guarded
import ImageIntake.Proofs.Source.Opening

namespace ImageIntake.Http

open ImageIntake.Cancellation

/-! ## Closing one body -/

namespace Body

/-- A body nobody has read or closed. -/
structure Fresh (b : Body) : Prop where
  closed : b.closed = false
  closes : b.closes = 0

theorem Fresh.counted {b : Body} (h : b.Fresh) : b.Counted := by
  rw [Counted, h.closed, h.closes]
  rfl

theorem Fresh.closes_close {b : Body} (h : b.Fresh) : b.close.2.closes = 1 := by
  have h_counted := b.later_close.counted h.counted
  rw [Counted, b.closed_close] at h_counted
  exact h_counted

theorem Fresh.closes_closeAfter {b : Body} (h : b.Fresh) (f : Failure) :
    (closeAfter f b).2.closes = 1 := by
  have h_closes := h.closes_close
  unfold closeAfter
  rcases h_close : b.close with ⟨g | _, closed⟩
  all_goals
    rw [h_close] at h_closes
    exact h_closes

/-- A body that is read to its end is closed, whether that goes well or not. -/
theorem Fresh.closes_finish {b : Body} (h : b.Fresh) (token : Token Hold) (pieces : List Piece) :
    (finish token b pieces).2.2.closes = 1 := by
  induction pieces generalizing token with
  | nil => exact h.closes_close
  | cons piece rest ih =>
    cases piece with
    | data bytes => exact ih token
    | cancel => exact ih token.cancel.1
    | failure f => exact h.closes_closeAfter f

end Body

/-! ## Ledgers of bodies -/

/-- The body an answer comes with. -/
def Reply.body? : Reply → Option Body
  | .response r => some r.body
  | .failure _ => none

namespace Line

/-- A line whose bodies nobody has read or closed. -/
def Fresh (line : Line) : Prop := ∀ r, .response r ∈ line.replies → r.body.Fresh

/-- The bodies answered on a line until it has become another. -/
def bodiesTo (line later : Line) : List Body :=
  (line.replies.take (line.replies.length - later.replies.length)).filterMap Reply.body?

/-- A line counts a closing for each body answered since an earlier one, but for those still
held. -/
structure Settled (line later : Line) (held : Nat) : Prop where
  replies : later.replies <:+ line.replies
  closes : later.closes + held = line.closes + (line.bodiesTo later).length

/-- The last request between two lines was answered, and by this response. -/
def LastAnswer (line later : Line) (q : Request) (r : Response) : Prop :=
  ∃ sent earlier, later.requests = line.requests ++ sent ++ [q] ∧
    line.replies = earlier ++ .response r :: later.replies ∧ sent.length = earlier.length

variable {line next later : Line} {q : Request} {r : Response}

theorem bodiesTo_of_append (taken : List Reply) (h : line.replies = taken ++ later.replies) :
    line.bodiesTo later = taken.filterMap Reply.body? := by
  have h_count : line.replies.length - later.replies.length = taken.length := by
    rw [h, List.length_append]
    omega
  rw [bodiesTo, h_count, h, List.take_left]

theorem settled_self (line : Line) : line.Settled line 0 :=
  ⟨List.suffix_rfl, by rw [bodiesTo_of_append [] rfl]; rfl⟩

theorem Settled.of_append (taken : List Reply) {held : Nat}
    (h : line.replies = taken ++ later.replies)
    (h_closes : later.closes + held = line.closes + (taken.filterMap Reply.body?).length) :
    line.Settled later held :=
  ⟨⟨taken, h.symm⟩, by rw [bodiesTo_of_append taken h, h_closes]⟩

theorem Settled.trans {m n : Nat} (h₁ : line.Settled next m) (h₂ : next.Settled later n) :
    line.Settled later (m + n) := by
  obtain ⟨first, h_first⟩ := h₁.replies
  obtain ⟨second, h_second⟩ := h₂.replies
  have h_closes₁ := h₁.closes
  have h_closes₂ := h₂.closes
  rw [bodiesTo_of_append first h_first.symm] at h_closes₁
  rw [bodiesTo_of_append second h_second.symm] at h_closes₂
  refine .of_append (first ++ second) ?_ ?_
  · rw [List.append_assoc, h_second, h_first]
  · rw [List.filterMap_append, List.length_append]
    omega

/-- One request more was sent, and answered by this response. -/
structure Step (line next : Line) (q : Request) (r : Response) : Prop where
  requests : next.requests = line.requests ++ [q]
  replies : line.replies = .response r :: next.replies

theorem Step.fresh (h : line.Step next q r) (h_fresh : line.Fresh) : next.Fresh := by
  intro s h_mem
  apply h_fresh
  rw [h.replies]
  exact List.mem_cons_of_mem _ h_mem

theorem Step.body_fresh (h : line.Step next q r) (h_fresh : line.Fresh) : r.body.Fresh := by
  apply h_fresh
  rw [h.replies]
  exact List.mem_cons_self

theorem Step.settled (h : line.Step next q r) {held : Nat}
    (h_closes : next.closes + held = line.closes + 1) : line.Settled next held :=
  .of_append [.response r] h.replies h_closes

theorem Step.lastAnswer (h : line.Step next q r) : line.LastAnswer next q r :=
  ⟨[], [], by rw [h.requests, List.append_nil], h.replies, rfl⟩

theorem not_lastAnswer_self : ¬line.LastAnswer line q r := by
  rintro ⟨sent, earlier, h_requests, -, -⟩
  have h_length := congrArg List.length h_requests
  simp only [List.length_append, List.length_singleton] at h_length
  omega

theorem LastAnswer.cons {q₀ : Request} {r₀ : Response} (h : next.LastAnswer later q r)
    (h_step : line.Step next q₀ r₀) : line.LastAnswer later q r := by
  obtain ⟨sent, earlier, h_requests, h_replies, h_length⟩ := h
  refine ⟨q₀ :: sent, .response r₀ :: earlier, ?_, ?_, ?_⟩
  · rw [h_requests, h_step.requests]
    simp only [List.append_assoc, List.cons_append, List.nil_append]
  · rw [h_step.replies, h_replies, List.cons_append]
  · rw [List.length_cons, List.length_cons, h_length]

theorem LastAnswer.unique {q₀ : Request} {r₀ : Response} (h : line.LastAnswer later q r)
    (h₀ : line.LastAnswer later q₀ r₀) : q = q₀ ∧ r = r₀ := by
  obtain ⟨sent, earlier, h_requests, h_replies, -⟩ := h
  obtain ⟨sent₀, earlier₀, h_requests₀, h_replies₀, -⟩ := h₀
  constructor
  · have h_same := List.append_inj_right' (h_requests.symm.trans h_requests₀) rfl
    exact List.singleton_inj.mp h_same
  · have h_same := List.append_inj_right' (h_replies.symm.trans h_replies₀) rfl
    exact Reply.response.inj (List.cons_eq_cons.mp h_same).1

/-- The last answer after a step is that of the step, or comes later. -/
theorem LastAnswer.uncons {q₀ : Request} {r₀ : Response} (h : line.LastAnswer later q r)
    (h_step : line.Step next q₀ r₀) (h_sent : next.requests <+: later.requests) :
    (q = q₀ ∧ r = r₀) ∨ next.LastAnswer later q r := by
  obtain ⟨sent, earlier, h_requests, h_replies, h_length⟩ := h
  obtain ⟨more, h_more⟩ := h_sent
  have h_both : line.requests ++ (q₀ :: more) = line.requests ++ (sent ++ [q]) := by
    rw [← List.append_assoc, ← h_requests, ← h_more, h_step.requests, List.append_assoc,
      List.singleton_append]
  have h_rest := List.append_cancel_left h_both
  rw [h_step.replies] at h_replies
  cases sent with
  | nil =>
    have h_none : earlier = [] := List.eq_nil_of_length_eq_zero h_length.symm
    rw [h_none, List.nil_append] at h_replies
    obtain ⟨h_reply, -⟩ := List.cons_eq_cons.mp h_replies
    obtain ⟨h_request, -⟩ := List.cons_eq_cons.mp h_rest
    exact .inl ⟨h_request.symm, (Reply.response.inj h_reply).symm⟩
  | cons p sent =>
    cases earlier with
    | nil => cases h_length
    | cons reply earlier =>
      obtain ⟨-, h_left⟩ := List.cons_eq_cons.mp h_replies
      obtain ⟨-, h_after⟩ := List.cons_eq_cons.mp h_rest
      refine .inr ⟨sent, earlier, ?_, h_left, Nat.succ.inj h_length⟩
      rw [← h_more, h_after, List.append_assoc]
      rfl

end Line

/-! ## Sending -/

variable {line sent : Line} {request : Request}

theorem send_closes (line : Line) (request : Request) :
    (line.send request).2.closes = line.closes := by
  unfold Line.send
  dsimp only
  split <;> rfl

theorem step_of_send {response : Response} (h : line.send request = (.ok response, sent)) :
    line.Step sent request response :=
  ⟨(send_ok h).1, (send_ok h).2⟩

/-- A request that fails was answered by no response. -/
theorem send_error {f : Failure} (h : line.send request = (.error f, sent)) :
    sent.requests = line.requests ++ [request] ∧ line.Settled sent 0 ∧
      ∀ q r, ¬line.LastAnswer sent q r := by
  have h_closes := send_closes line request
  rw [h] at h_closes
  have h_unanswered (h_requests : sent.requests = line.requests ++ [request])
      (h_first : ∀ r, line.replies.head? ≠ some (.response r)) (q : Request) (r : Response) :
      ¬line.LastAnswer sent q r := by
    rintro ⟨more, earlier, h_more, h_replies, h_length⟩
    rw [h_requests, List.append_assoc] at h_more
    have h_one := congrArg List.length (List.append_cancel_left h_more)
    simp only [List.length_append, List.length_singleton] at h_one
    have h_none : earlier = [] := List.eq_nil_of_length_eq_zero (by omega)
    apply h_first r
    rw [h_replies, h_none]
    rfl
  unfold Line.send at h
  dsimp only at h
  split at h
  · rename_i h_replies
    cases h
    refine ⟨rfl, .of_append [] rfl rfl, h_unanswered rfl fun r => ?_⟩
    rw [h_replies]
    nofun
  · rename_i h_replies
    cases h
    refine ⟨rfl, .of_append [.failure f] h_replies rfl, h_unanswered rfl fun r => ?_⟩
    rw [h_replies]
    nofun
  · cases h

/-! ## Exchanges -/

/-- How an exchange ends: with an answer, whose body it holds; at an answer it does not take,
because it was asked for without a scheme; or with no body left open. -/
inductive Exchanged (line later : Line) : Except Failure Response → Prop where
  | answered {q : Request} {r : Response} (h_last : line.LastAnswer later q r)
      (h_takes : takesFrom q.url = .ok ()) (h_fresh : r.body.Fresh)
      (h_settled : line.Settled later 1) : Exchanged line later (.ok r)
  | untaken {q : Request} {r : Response} {f : Failure} (h_last : line.LastAnswer later q r)
      (h_takes : takesFrom q.url = .error f) (h_settled : line.Settled later 1) :
      Exchanged line later (.error f)
  | failed {f : Failure}
      (h_last : ∀ q r, line.LastAnswer later q r → takesFrom q.url = .ok () ∧ r.status ≠ 200)
      (h_settled : line.Settled later 0) : Exchanged line later (.error f)

/-- An answer that is not taken is a fault from outside, and no failed exchange. -/
theorem takesFrom_error {url : Url} {f : Failure} (h : takesFrom url = .error f) :
    f.isTransport = false ∧ f.isPipeline = false := by
  unfold takesFrom at h
  dsimp only at h
  split at h
  · cases h
  · cases h
    exact ⟨rfl, rfl⟩

theorem Response.status_ne_of_location? {r : Response} {location : String}
    (h : r.location? = some location) : r.status ≠ 200 := by
  intro h_status
  have h_stays : redirectStatuses.contains r.status = false := by
    rw [h_status]
    decide
  rw [location?, h_stays] at h
  cases h

theorem mem_pending_of_cancel {α : Type} {token : Token α} {x : α}
    (h : x ∈ token.cancel.1.pending) : x ∈ token.pending := by
  unfold Token.cancel at h
  split at h
  · exact h
  · cases h

theorem mem_pending_of_finish {token : Token Hold} {body : Body} {pieces : List Piece} {hold : Hold}
    (h : hold ∈ (finish token body pieces).2.1.pending) : hold ∈ token.pending := by
  induction pieces generalizing token with
  | nil => exact h
  | cons piece rest ih =>
    cases piece with
    | data bytes => exact ih h
    | cancel => exact mem_pending_of_cancel (ih h)
    | failure f => exact h

/-- What holds of every exchange, be it answered or not. -/
structure Sends (line later : Line) (token token' : Token Hold) : Prop where
  requests : line.requests <+: later.requests
  pending : ∀ hold ∈ token'.pending, hold ∈ token.pending

theorem follow_sends (left : Nat) (request : Request) (token : Token Hold) (line : Line) :
    Sends line (follow left request token line).2.2 token
      (follow left request token line).2.1 := by
  induction left generalizing request token line with
  | zero => exact ⟨List.prefix_rfl, fun _ h => h⟩
  | succ left ih =>
    unfold follow
    rcases h_send : line.send request with ⟨f | response, sent⟩
    all_goals dsimp only
    · exact ⟨⟨[request], (send_error h_send).1.symm⟩, fun _ h => h⟩
    · have h_step := step_of_send h_send
      have h_sent : line.requests <+: sent.requests := ⟨[request], h_step.requests.symm⟩
      split
      · exact ⟨h_sent, fun _ h => h⟩
      · split
        · exact ⟨h_sent, fun _ h => h⟩
        · split
          · exact ⟨h_sent, fun _ h => h⟩
          · rename_i next _
            have h_pending (hold : Hold)
                (h : hold ∈ (finish token response.body response.body.pieces).2.1.pending) :
                hold ∈ token.pending := mem_pending_of_finish h
            split
            all_goals
              rename_i token' body h_finish
              rw [h_finish] at h_pending
            · exact ⟨h_sent, h_pending⟩
            · obtain ⟨h_more, h_kept⟩ := ih next token' (sent.giveUp body)
              exact ⟨h_sent.trans h_more, fun hold h => h_pending hold (h_kept hold h)⟩

/-- An exchange that sends on after a redirect ends as the rest of it does, once the body of the
redirect is closed. -/
theorem Exchanged.cons {next later : Line} {q₀ : Request} {r₀ : Response}
    {outcome : Except Failure Response} (h : Exchanged next later outcome) (h_step : line.Step next q₀ r₀)
    (h_sent : next.requests <+: later.requests) (h_takes : takesFrom q₀.url = .ok ())
    (h_status : r₀.status ≠ 200) (h_closes : next.closes = line.closes + 1) :
    Exchanged line later outcome := by
  have h_first : line.Settled next 0 := h_step.settled h_closes
  cases h with
  | answered h_last h_from h_fresh h_settled =>
    exact .answered (h_last.cons h_step) h_from h_fresh (h_first.trans h_settled)
  | untaken h_last h_from h_settled =>
    exact .untaken (h_last.cons h_step) h_from (h_first.trans h_settled)
  | failed h_last h_settled =>
    refine .failed (fun q r h_now => ?_) (h_first.trans h_settled)
    rcases h_now.uncons h_step h_sent with ⟨rfl, rfl⟩ | h_later
    · exact ⟨h_takes, h_status⟩
    · exact h_last q r h_later

theorem exchanged_of_step {next : Line} {q : Request} {r : Response} (h_step : line.Step next q r)
    (h_takes : takesFrom q.url = .ok ()) (h_status : r.status ≠ 200)
    (h_closes : next.closes = line.closes + 1) (f : Failure) : Exchanged line next (.error f) :=
  Exchanged.cons (.failed (fun _ _ h => absurd h Line.not_lastAnswer_self) next.settled_self) h_step
    List.prefix_rfl h_takes h_status h_closes

/-- What an exchange leaves open, whichever way it ends. -/
theorem follow_exchanged (left : Nat) (request : Request) (token : Token Hold) {line : Line}
    (h_fresh : line.Fresh) :
    Exchanged line (follow left request token line).2.2
      (follow left request token line).1 := by
  induction left generalizing request token line with
  | zero => exact .failed (fun _ _ h => absurd h Line.not_lastAnswer_self) line.settled_self
  | succ left ih =>
    unfold follow
    have h_same := send_closes line request
    rcases h_send : line.send request with ⟨f | response, sent⟩
    all_goals
      rw [h_send] at h_same
      dsimp only at h_same ⊢
    · -- Nothing was answered.
      obtain ⟨-, h_settled, h_none⟩ := send_error h_send
      exact .failed (fun q r h => absurd h (h_none q r)) h_settled
    · have h_step := step_of_send h_send
      have h_body := h_step.body_fresh h_fresh
      have h_held : line.Settled sent 1 := h_step.settled (by rw [h_same])
      split
      · rename_i h_takes
        exact .untaken h_step.lastAnswer h_takes h_held
      · rename_i h_takes
        split
        · exact .answered h_step.lastAnswer h_takes h_body h_held
        · -- The body of a redirect is closed before anything else is sent.
          rename_i location h_location
          have h_status := Response.status_ne_of_location? h_location
          have h_given (body : Body) : line.Step (sent.giveUp body) request response :=
            ⟨h_step.requests, h_step.replies⟩
          have h_counts {body : Body} (h : body.closes = 1) :
              (sent.giveUp body).closes = line.closes + 1 := by
            rw [Line.giveUp, h, h_same]
          split
          · exact exchanged_of_step (h_given _) h_takes h_status
              (h_counts (h_body.closes_closeAfter _)) _
          · rename_i next _
            have h_finished := h_body.closes_finish token response.body.pieces
            split
            all_goals
              rename_i token' body h_finish
              rw [h_finish] at h_finished
            · exact exchanged_of_step (h_given body) h_takes h_status (h_counts h_finished) _
            · refine (ih next token' ((h_given body).fresh h_fresh)).cons (h_given body)
                (follow_sends ..).requests h_takes h_status (h_counts h_finished)

/-! ## Opening a reader -/

namespace Opening

theorem makeClient_token (o : Opening) (tree : Files.Tree) (d : Demand) :
    (o.makeClient tree d).2.token = o.token := by
  unfold makeClient
  split
  · split
    · rfl
    · split <;> rfl
  · rfl

theorem exchange_exchanged (o : Opening) (d : Demand) (h_fresh : o.line.Fresh) :
    Exchanged o.line (o.exchange d).2.line (o.exchange d).1 ∧
      Sends o.line (o.exchange d).2.line o.token (o.exchange d).2.token := by
  unfold exchange
  split
  · exact ⟨.failed (fun _ _ h => absurd h Line.not_lastAnswer_self) o.line.settled_self,
      List.prefix_rfl, fun _ h => h⟩
  · rename_i target _
    have h_exchanged := follow_exchanged requestLimit ⟨target, d.authorization? target⟩ o.token h_fresh
    have h_sends := follow_sends requestLimit ⟨target, d.authorization? target⟩ o.token o.line
    split
    rename_i outcome token line h_follow
    rw [h_follow] at h_exchanged h_sends
    dsimp only
    split
    · exact ⟨h_exchanged, h_sends⟩
    · split
      · rename_i f h_transport
        refine ⟨?_, h_sends⟩
        cases h_exchanged with
        | untaken h_last h_takes h_settled =>
          rw [(takesFrom_error h_takes).1] at h_transport
          cases h_transport
        | failed h_last h_settled => exact .failed h_last h_settled
      · exact ⟨h_exchanged, h_sends⟩

/-- A line on which the body that was held has been closed. -/
structure Released (line released : Line) : Prop where
  replies : released.replies = line.replies
  requests : released.requests = line.requests
  closes : released.closes = line.closes + 1

theorem Released.settled {start line released : Line} (h : Released line released) {held : Nat}
    (h_held : start.Settled line (held + 1)) : start.Settled released held := by
  obtain ⟨⟨taken, h_taken⟩, h_count⟩ := h_held
  have h_closes := h.closes
  rw [Line.bodiesTo_of_append taken h_taken.symm] at h_count
  refine .of_append taken ?_ (by omega)
  rw [h.replies, h_taken]

theorem Released.lastAnswer_iff {start line released : Line} (h : Released line released)
    {q : Request} {r : Response} :
    start.LastAnswer released q r ↔ start.LastAnswer line q r := by
  unfold Line.LastAnswer
  rw [h.replies, h.requests]

/-- A reader whose closing failed was put under a token that was cancelled, and its body is
closed. -/
theorem guard_error {o o' : Opening} {response : Response} {f : Failure}
    (h : o.guard response = (.error f, o')) (h_fresh : response.body.Fresh) :
    o'.token = o.token ∧ o.token.cancelled = true ∧ Released o.line o'.line := by
  unfold guard Token.register at h
  cases h_token : o.token.cancelled with
  | false =>
    simp only [h_token, Bool.false_eq_true, if_false] at h
    cases h
  | true =>
    simp only [h_token, if_true] at h
    have h_sound := (Reader.later_close { body := response.body, ownsClient := o.ownClient.isSome }).sound
      ⟨h_fresh.counted, nofun⟩
    have h_closes := h_sound.closes_of_closed (Reader.closed_close _)
    split at h
    · cases h
    · cases h
      exact ⟨rfl, rfl, rfl, rfl, congrArg _ h_closes⟩

theorem register_of_cancelled {α : Type} {token : Token α} {release : α}
    (h : (token.register release).1.cancelled = true) : (token.register release).1 = token := by
  unfold Token.register at h ⊢
  split at h
  · rename_i h_cancelled
    rw [if_pos h_cancelled]
  · contradiction

/-- A token that is cancelled takes no reader in. -/
theorem accept_token {o o' : Opening} {d : Demand} {response : Response} {reader : Reader}
    {length : Int} (h : o.accept d response = (.ok (reader, length), o'))
    (h_cancelled : o'.token.cancelled = true) : o'.token = o.token := by
  unfold accept at h
  split at h
  · cases h
  · dsimp only at h
    have h_kept : o'.token = (o.token.register .reader).1 := by
      unfold guard at h
      dsimp only at h
      split at h
      · cases h
      · rename_i h_guard
        cases h
        split at h_guard
        · split at h_guard <;> cases h_guard
          rfl
        · cases h_guard
          rfl
    rw [h_kept] at h_cancelled ⊢
    exact register_of_cancelled h_cancelled

/-- A response that is refused is closed, whether that goes well or not. -/
theorem refuse_released (o : Opening) {response : Response} (h_fresh : response.body.Fresh) :
    (o.refuse response).2.token = o.token ∧ Released o.line (o.refuse response).2.line := by
  have h_closes := h_fresh.closes_close
  unfold refuse
  rcases h_close : response.body.close with ⟨f | _, body⟩
  all_goals
    rw [h_close] at h_closes
    exact ⟨rfl, rfl, rfl, congrArg _ h_closes⟩

/-- What an opening that fails leaves behind. -/
structure Failed (d : Demand) (o o' : Opening) (f : Failure) : Prop where
  token : ∀ hold ∈ o'.token.pending, hold ∈ o.token.pending
  bodies :
    -- One body is open: that of an answer which was not taken, or not told of in logs.
    (o.line.Settled o'.line 1 ∧ f.isPipeline = false ∧ ∃ q r, o.line.LastAnswer o'.line q r ∧
      ((∃ g, takesFrom q.url = .error g) ∨
        r.status = 200 ∧ ∃ fault, d.url.redacted = .error fault)) ∨
    -- No body is open; an answer with status 200 was closed by the token.
    (o.line.Settled o'.line 0 ∧ ∀ q r, o.line.LastAnswer o'.line q r →
      takesFrom q.url = .ok () ∧
        (r.status = 200 → (∃ text, d.url.redacted = .ok text) ∧ o'.token.cancelled = true))

theorem accept_error {o o' : Opening} {d : Demand} {response : Response} {f : Failure}
    (h : o.accept d response = (.error f, o')) (h_fresh : response.body.Fresh) :
    o'.token = o.token ∧
      ((∃ fault, d.url.redacted = .error fault) ∧ f.isPipeline = false ∧ o'.line = o.line ∨
        (∃ text, d.url.redacted = .ok text) ∧ o.token.cancelled = true ∧
          Released o.line o'.line) := by
  unfold accept at h
  split at h
  · rename_i fault h_told
    cases h
    exact ⟨rfl, .inl ⟨⟨fault, h_told⟩, rfl, rfl⟩⟩
  · rename_i text h_told
    dsimp only at h
    split at h
    · rename_i h_guard
      cases h
      obtain ⟨h_token, h_cancelled, h_released⟩ := guard_error h_guard h_fresh
      exact ⟨h_token, .inr ⟨⟨text, h_told⟩, h_cancelled, h_released⟩⟩
    · cases h

/-- What opening a reader leaves open that fails. -/
theorem perform_error {o o' : Opening} {tree : Files.Tree} {d : Demand} {f : Failure}
    (h : o.perform tree d = (.error f, o')) (h_fresh : o.line.Fresh) : Failed d o o' f := by
  have h_line := makeClient_line o tree d
  have h_token := makeClient_token o tree d
  unfold perform at h
  split at h
  · rename_i o₁ h_client
    -- Without a client nothing is sent.
    cases h
    rw [h_client] at h_line h_token
    refine ⟨fun hold h_mem => ?_, .inr ?_⟩
    · rw [← h_token]
      exact h_mem
    · rw [h_line]
      exact ⟨o.line.settled_self, fun _ _ h_last => absurd h_last Line.not_lastAnswer_self⟩
  · rename_i o₁ h_client
    rw [h_client] at h_line h_token
    dsimp only at h_line h_token
    rw [← h_line] at h_fresh
    obtain ⟨h_exchanged, h_sends⟩ := o₁.exchange_exchanged d h_fresh
    rw [h_line, h_token] at h_sends
    rw [h_line] at h_exchanged
    split at h
    · rename_i o₂ h_exchange
      cases h
      rw [h_exchange] at h_exchanged h_sends
      refine ⟨h_sends.pending, ?_⟩
      -- The exchange failed: its last answer stays open only if it could not be taken.
      cases h_exchanged with
      | untaken h_last h_takes h_settled =>
        exact .inl ⟨h_settled, (takesFrom_error h_takes).2, _, _, h_last, .inl ⟨_, h_takes⟩⟩
      | failed h_last h_settled =>
        refine .inr ⟨h_settled, fun q r h_now => ?_⟩
        obtain ⟨h_takes, h_status⟩ := h_last q r h_now
        exact ⟨h_takes, fun h_ok => absurd h_ok h_status⟩
    · rename_i response o₂ h_exchange
      rw [h_exchange] at h_exchanged h_sends
      cases h_exchanged with
      | answered h_last h_takes h_body h_settled =>
        split at h
        · rename_i h_status
          -- A good answer that is not accepted: either it was not told of and stays open, or it is closed.
          obtain ⟨h_same, h_told⟩ := accept_error h h_body
          refine ⟨fun hold h_mem => h_sends.pending hold (h_same ▸ h_mem), ?_⟩
          rcases h_told with ⟨h_fault, h_foreign, h_kept⟩ | ⟨h_text, h_cancelled, h_released⟩
          · rw [h_kept]
            exact .inl ⟨h_settled, h_foreign, _, _, h_last, .inr ⟨h_status, h_fault⟩⟩
          · refine .inr ⟨h_released.settled h_settled, fun q r h_now => ?_⟩
            obtain ⟨rfl, rfl⟩ := (h_released.lastAnswer_iff.mp h_now).unique h_last
            rw [h_same]
            exact ⟨h_takes, fun _ => ⟨h_text, h_cancelled⟩⟩
        · rename_i h_status
          obtain ⟨h_same, h_released⟩ := o₂.refuse_released h_body
          cases h
          refine ⟨fun hold h_mem => h_sends.pending hold (h_same ▸ h_mem), .inr ?_⟩
          refine ⟨h_released.settled h_settled, fun q r h_now => ?_⟩
          obtain ⟨rfl, rfl⟩ := (h_released.lastAnswer_iff.mp h_now).unique h_last
          exact ⟨h_takes, fun h_ok => absurd h_ok h_status⟩

/-- What opening a reader holds that comes about: the body of the last answer. -/
theorem perform_exchanged {o o' : Opening} {tree : Files.Tree} {d : Demand} {reader : Reader}
    {length : Int} (h : o.perform tree d = (.ok (reader, length), o')) (h_fresh : o.line.Fresh) :
    (∃ text, d.url.redacted = .ok text) ∧ o.line.Settled o'.line 1 ∧
      ∃ q r, o.line.LastAnswer o'.line q r ∧ takesFrom q.url = .ok () ∧ r.status = 200 ∧
        r.body.Fresh ∧ reader.Taken o'.token r.body ∧
        (o'.token.cancelled = true → ∀ hold ∈ o'.token.pending, hold ∈ o.token.pending) := by
  have h_line := makeClient_line o tree d
  have h_token := makeClient_token o tree d
  unfold perform at h
  split at h
  · cases h
  · rename_i o₁ h_client
    rw [h_client] at h_line h_token
    dsimp only at h_line h_token
    rw [← h_line] at h_fresh
    obtain ⟨h_exchanged, h_sends⟩ := o₁.exchange_exchanged d h_fresh
    rw [h_token] at h_sends
    rw [h_line] at h_exchanged
    split at h
    · cases h
    · rename_i response o₂ h_exchange
      rw [h_exchange] at h_exchanged h_sends
      cases h_exchanged with
      | answered h_last h_takes h_body h_settled =>
        split at h
        · rename_i h_status
          have h_told : ∃ text, d.url.redacted = .ok text := by
            unfold accept at h
            split at h
            · cases h
            · exact ⟨_, by assumption⟩
          obtain ⟨h_same, h_taken⟩ := accept_ok h
          rw [h_same]
          refine ⟨h_told, h_settled, _, _, h_last, h_takes, h_status, h_body, h_taken,
            fun h_cancelled hold h_mem => h_sends.pending hold ?_⟩
          rw [← accept_token h h_cancelled]
          exact h_mem
        · cases h

end Opening

end ImageIntake.Http
