/-
  ImageIntake.Proofs.Http.Alike

  Requests for locators that are alike.  A redirect leads them to locators that are alike
  again (`redirected_alike`), so that by induction over the redirects they have the same
  answers, whatever credentials they carry (`follow_alike`).  Opening the readers of
  demands that are alike therefore comes to the same outcome, token and records, and
  leaves the line the same but for the requests on it (`Opening.perform_asking`).
-/

import ImageIntake.Http.Opening
import ImageIntake.Proofs.Url.Alike

namespace ImageIntake.Http

open ImageIntake.Cancellation

/-! ## Targets of redirects -/

theorem readableHost_alike {u v : Url} (h : u.Alike v) : readableHost u = readableHost v := by
  rw [readableHost, readableHost, h.unicodeHost]

theorem badUrl_agree {x y : Except Url.Defect Url} (h : Agree Eq Url.Alike x y) :
    Agree Eq Url.Alike (badUrl x) (badUrl y) :=
  h.mapError fun _ _ _ => rfl

/-- The locator a redirect names; a missing host is that of the request. -/
def namedTarget (base : Url) (location : String) : Except Failure Url :=
  ((Url.parse location).mapError fun _ => badLocation) >>= fun url =>
    if url.scheme ≠ "" then
      readableHost url >>= fun host =>
        if host = "" then readableHost base >>= fun host => badUrl (url.withHost host) else .ok url
    else .ok url

/-- The locator a redirect leads to, given the one it names. -/
def resolvedTarget (base named : Url) : Except Failure Url :=
  (if named.isRelative then badUrl (base.join named) else .ok named) >>= fun url =>
    if base.plainFragment ≠ "" ∧ url.plainFragment = "" then
      badUrl (url.withFragment base.plainFragment)
    else .ok url

theorem redirectTarget_eq (base : Url) (location : String) :
    redirectTarget base location = namedTarget base location >>= resolvedTarget base := by
  have h_resolved (named : Url) (k : Url → Except Failure Url) :
      (if named.isRelative then badUrl (base.join named) >>= k else Except.ok named >>= k) =
        (if named.isRelative then badUrl (base.join named) else .ok named) >>= k := by
    split <;> rfl
  unfold redirectTarget namedTarget resolvedTarget
  simp only [h_resolved, bind_assoc]
  cases Url.parse location with
  | error defect => rfl
  | ok url =>
    dsimp only [Except.mapError, bind, Except.bind]
    split
    · cases readableHost url with
      | error f => rfl
      | ok host =>
        dsimp only
        split
        · cases readableHost base <;> rfl
        · rfl
    · rfl

theorem redirectTarget_alike {u v : Url} (h : u.Alike v) (location : String) :
    Agree Eq Url.Alike (redirectTarget u location) (redirectTarget v location) := by
  have h_named : namedTarget u location = namedTarget v location := by
    rw [namedTarget, namedTarget, readableHost_alike h]
  rw [redirectTarget_eq, redirectTarget_eq, h_named]
  refine (Agree.of_eq (R := Eq) (fun _ => rfl) rfl).bind ?_
  rintro named _ rfl
  unfold resolvedTarget
  rw [h.plainFragment]
  refine Agree.bind (R := Url.Alike) ?_ fun target other h_target => ?_
  · split
    · exact badUrl_agree (Url.join_alike h named)
    · exact .ok (.refl named)
  · rw [h_target.plainFragment]
    split
    · exact badUrl_agree (h_target.withFragment _)
    · exact .ok h_target

/-! ## Redirects -/

theorem sameOrigin_alike {base base' url url' : Url} (h_base : base.Alike base')
    (h_url : url.Alike url') : sameOrigin base url = sameOrigin base' url' := by
  unfold sameOrigin
  rw [h_base.scheme, h_url.scheme, readableHost_alike h_base, readableHost_alike h_url,
    h_base.effectivePort, h_url.effectivePort]

theorem addsEncryption_alike {base base' url url' : Url} (h_base : base.Alike base')
    (h_url : url.Alike url') : addsEncryption base url = addsEncryption base' url' := by
  unfold addsEncryption
  rw [h_base.scheme, h_url.scheme, readableHost_alike h_base, readableHost_alike h_url,
    h_base.effectivePort, h_url.effectivePort]

theorem namesPlace_alike {u v : Url} (h : u.Alike v) : namesPlace u = namesPlace v := by
  rw [namesPlace, namesPlace, h.place]

/-- A redirect leads requests for locators that are alike to such locators. -/
theorem redirected_alike {q r : Request} (h : q.url.Alike r.url) (location : String) :
    Agree Eq (fun next other => next.url.Alike other.url) (redirected q location)
      (redirected r location) := by
  unfold redirected
  refine (redirectTarget_alike h location).bind fun target other h_target => ?_
  rw [sameOrigin_alike h h_target, addsEncryption_alike h h_target]
  refine (Agree.of_eq (R := Eq) (fun _ => rfl) rfl).bind ?_
  rintro same _ rfl
  split
  · exact .ok h_target
  · refine (Agree.of_eq (R := Eq) (fun _ => rfl) rfl).bind ?_
    rintro keeps _ rfl
    rw [namesPlace_alike h_target]
    refine (Agree.of_eq (R := Eq) (fun _ => rfl) rfl).bind ?_
    rintro _ _ -
    exact .ok h_target

/-! ## Where a response comes from -/

theorem beforeFragment_at (body : List Char) {rest : List Char} (h : '#' ∉ rest) :
    beforeFragment (body ++ '#' :: rest) = (body, rest.isEmpty) := by
  have h_length : (body ++ '#' :: rest).length = body.length + rest.length + 1 := by
    rw [List.length_append, List.length_cons]
    omega
  have h_count : body.length + rest.length + 1 - rest.length - 1 = body.length := by omega
  unfold beforeFragment
  simp only [Text.reverse_takeWhile_at body h, h_length]
  rw [if_neg (by omega), h_count, List.take_left]

theorem beforeFragment_none {cs : List Char} (h : '#' ∉ cs) : beforeFragment cs = (cs, false) := by
  have h_reach : ∀ c ∈ cs.reverse, decide (c ≠ '#') = true :=
    Text.ne_of_not_mem fun h_mem => h (List.mem_reverse.mp h_mem)
  unfold beforeFragment
  rw [List.takeWhile_eq_self_iff.mpr h_reach, List.reverse_reverse]
  simp

/-- What holds no number sign stands before the fragment. -/
theorem beforeFragment_append {head : List Char} (h : '#' ∉ head) (rest : List Char) :
    ∃ more bare, beforeFragment (head ++ rest) = (head ++ more, bare) := by
  by_cases h_mem : '#' ∈ rest
  · obtain ⟨before, after, rfl, h_last⟩ := Text.exists_last h_mem
    refine ⟨before, after.isEmpty, ?_⟩
    rw [← List.append_assoc, beforeFragment_at _ h_last]
  · have h_none : '#' ∉ head ++ rest := by
      rw [List.mem_append]
      tauto
    exact ⟨rest, false, beforeFragment_none h_none⟩

/-- A locator of the web has a scheme that a response can come from. -/
theorem takesFrom_web {url : Url} (h_scheme : url.scheme ∈ Url.webSchemes)
    (h_info : url.userinfo ≠ "") : takesFrom url = .ok () := by
  have h_head : '#' ∉ url.scheme.toList ++ [':'] ∧
      ∀ more, namesScheme (url.scheme.toList ++ [':'] ++ more) = true := by
    rcases Url.web_cases h_scheme with h | h
    all_goals
      rw [h]
      exact ⟨by decide, fun _ => rfl⟩
  obtain ⟨rest, h_print⟩ : ∃ rest, url.print.toList = url.scheme.toList ++ [':'] ++ rest := by
    rw [Url.print_of_userinfo h_scheme h_info, Url.textOf]
    exact ⟨_, List.append_cons _ _ _⟩
  obtain ⟨more, bare, h_before⟩ := beforeFragment_append h_head.1 rest
  unfold takesFrom
  dsimp only
  rw [h_print, h_before]
  dsimp only
  rw [h_head.2, if_pos rfl]

theorem takesFrom_alike {u v : Url} (h : u.Alike v) : takesFrom u = takesFrom v := by
  rcases h with rfl | h
  · rfl
  · have h_scheme : v.scheme ∈ Url.webSchemes := by
      rw [h.rest]
      exact h.scheme
    obtain ⟨h_u, h_v⟩ := h.userinfo_ne_empty
    rw [takesFrom_web h.scheme h_u, takesFrom_web h_scheme h_v]

/-! ## Exchanges -/

/-- Requests for locators that are alike have the same answers, and leave the line the same but for
the requests on it. -/
theorem follow_alike {q r : Request} (h : q.url.Alike r.url) (left : Nat) (token : Token Hold)
    (line : Line) (requests : List Request) :
    ∃ requests', follow left r token { line with requests } =
      ((follow left q token line).1, (follow left q token line).2.1,
        { (follow left q token line).2.2 with requests := requests' }) := by
  induction left generalizing q r token line requests with
  | zero => exact ⟨requests, rfl⟩
  | succ left ih =>
    have h_send : ({ line with requests } : Line).send r =
        ((line.send q).1, { (line.send q).2 with requests := requests ++ [r] }) := by
      unfold Line.send
      rcases line.replies with _ | ⟨_ | _, rest⟩ <;> rfl
    unfold follow
    rw [h_send]
    rcases line.send q with ⟨f | response, sent⟩
    · exact ⟨_, rfl⟩
    · dsimp only
      rw [takesFrom_alike h]
      cases takesFrom r.url with
      | error f => exact ⟨_, rfl⟩
      | ok =>
        dsimp only
        cases response.location? with
        | none => exact ⟨_, rfl⟩
        | some location =>
          have h_redirected := redirected_alike h location
          dsimp only
          generalize redirected q location = x at h_redirected ⊢
          generalize redirected r location = y at h_redirected ⊢
          cases h_redirected with
          | error h_same =>
            rw [h_same]
            exact ⟨_, rfl⟩
          | ok h_next =>
            dsimp only
            rcases finish token response.body response.body.pieces with ⟨f | _, token, body⟩
            · exact ⟨_, rfl⟩
            · exact ih h_next token (sent.giveUp body) (requests ++ [r])


/-! ## Opening -/

/-- Demands for locators that are alike, whatever the keys. -/
structure Demand.Alike (d e : Demand) : Prop where
  url : d.url.Alike e.url
  certDir : d.certDir = e.certDir
  ownsClient : d.ownsClient = e.ownsClient

namespace Opening

/-- The same opening with other requests on its line. -/
def asking (requests : List Request) (o : Opening) : Opening :=
  { o with line := { o.line with requests } }

theorem firstTarget_alike {u v : Url} (h : u.Alike v) :
    Agree Eq Url.Alike (firstTarget u) (firstTarget v) := by
  have h_target : Agree Eq Url.Alike
      (badUrl u.requestTarget >>= fun target => namesPlace target >>= fun _ => pure target)
      (badUrl v.requestTarget >>= fun target => namesPlace target >>= fun _ => pure target) := by
    refine (badUrl_agree h.requestTarget).bind fun target other h_target => ?_
    rw [namesPlace_alike h_target]
    refine (Agree.of_eq (R := Eq) (fun _ => rfl) rfl).bind ?_
    rintro _ _ -
    exact .ok h_target
  unfold firstTarget
  rw [h.scheme, readableHost_alike h]
  split
  · refine (Agree.of_eq (R := Eq) (fun _ => rfl) rfl).bind ?_
    rintro _ _ -
    exact h_target
  · exact h_target

theorem exchangeFailed_alike {d e : Demand} (h : d.Alike e) (f : Failure) :
    exchangeFailed d f = exchangeFailed e f := by
  rw [exchangeFailed, exchangeFailed, h.url.redacted]

theorem makeClient_asking (o : Opening) (tree : Files.Tree) {d e : Demand} (h : d.Alike e)
    (requests : List Request) :
    (o.asking requests).makeClient tree e =
      ((o.makeClient tree d).1, (o.makeClient tree d).2.asking requests) := by
  unfold makeClient
  rw [← h.certDir, ← h.ownsClient]
  split
  · cases Trust.ofDirectory tree d.certDir with
    | ok trust => rfl
    | error fault =>
      dsimp only
      split <;> rfl
  · rfl

theorem exchange_asking (o : Opening) {d e : Demand} (h : d.Alike e) (requests : List Request) :
    ∃ requests', (o.asking requests).exchange e =
      ((o.exchange d).1, (o.exchange d).2.asking requests') := by
  have h_first := firstTarget_alike h.url
  unfold exchange
  generalize firstTarget d.url = x at h_first ⊢
  generalize firstTarget e.url = y at h_first ⊢
  cases h_first with
  | error h_same =>
    rw [h_same]
    exact ⟨requests, rfl⟩
  | ok h_target =>
    rename_i target other
    obtain ⟨requests', h_follow⟩ := follow_alike (q := ⟨target, d.authorization? target⟩)
      (r := ⟨other, e.authorization? other⟩) h_target requestLimit o.token o.line requests
    have h_asked : follow requestLimit ⟨other, e.authorization? other⟩ (o.asking requests).token
        (o.asking requests).line = _ := h_follow
    dsimp only
    rw [h_asked]
    refine ⟨requests', ?_⟩
    rcases follow requestLimit ⟨target, d.authorization? target⟩ o.token o.line
      with ⟨f | response, token, line⟩
    · dsimp only
      rw [exchangeFailed_alike h]
      split <;> rfl
    · rfl

theorem refuse_asking (o : Opening) (response : Response) (requests : List Request) :
    (o.asking requests).refuse response =
      ((o.refuse response).1, (o.refuse response).2.asking requests) := by
  unfold refuse
  rcases response.body.close with ⟨f | _, body⟩ <;> rfl

theorem guard_asking (o : Opening) (response : Response) (requests : List Request) :
    (o.asking requests).guard response =
      ((o.guard response).1, (o.guard response).2.asking requests) := by
  have h_token : (o.asking requests).token = o.token := rfl
  unfold guard
  rw [h_token]
  rcases o.token.register Hold.reader with ⟨token, _ | _⟩
  · rfl
  · have h_client : (o.asking requests).ownClient = o.ownClient := rfl
    dsimp only
    rw [h_client, if_pos rfl, if_pos rfl]
    rcases Reader.close _ with ⟨f | _, reader⟩ <;> rfl

theorem accept_asking (o : Opening) {d e : Demand} (h : d.Alike e) (response : Response)
    (requests : List Request) :
    (o.asking requests).accept e response =
      ((o.accept d response).1, (o.accept d response).2.asking requests) := by
  unfold accept
  rw [h.url.redacted]
  cases e.url.redacted with
  | error fault => rfl
  | ok url =>
    have h_guard := guard_asking { o with notes := o.notes ++ [opened url (contentLength response)] }
      response requests
    dsimp only
    rw [show ({ o.asking requests with
        notes := (o.asking requests).notes ++ [opened url (contentLength response)] } : Opening) =
      asking requests { o with notes := o.notes ++ [opened url (contentLength response)] } from rfl,
      h_guard]
    rcases guard { o with notes := o.notes ++ [opened url (contentLength response)] } response
      with ⟨f | reader, o'⟩ <;> rfl

/-- Opening the readers of demands that are alike comes to the same, the requests apart. -/
theorem perform_asking (o : Opening) (tree : Files.Tree) {d e : Demand} (h : d.Alike e)
    (requests : List Request) :
    ∃ requests', (o.asking requests).perform tree e =
      ((o.perform tree d).1, (o.perform tree d).2.asking requests') := by
  unfold perform
  rw [makeClient_asking o tree h]
  rcases o.makeClient tree d with ⟨f | _, made⟩
  · exact ⟨requests, rfl⟩
  · obtain ⟨requests', h_exchange⟩ := exchange_asking made h requests
    refine ⟨requests', ?_⟩
    dsimp only
    rw [h_exchange]
    rcases made.exchange d with ⟨f | response, answered⟩
    · rfl
    · dsimp only
      split
      · exact accept_asking answered h response requests'
      · rw [refuse_asking]

end Opening

end ImageIntake.Http
