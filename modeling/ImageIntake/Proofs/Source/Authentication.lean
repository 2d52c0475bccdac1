/-
  ImageIntake.Proofs.Source.Authentication

  Whom a source authenticates as.  The request for its stream carries a header over
  the keys as they were given, while its locator, which the converter is run with,
  carries them in escaped form, and an escape that a key holds already is kept.  So
  the two name the same user with the same password exactly if no key in use holds
  an escape (`Source.ofOrder_authenticates_iff`).  Without keys both are what the
  endpoint carries.
-/

import ImageIntake.Proofs.Endpoint
import ImageIntake.Proofs.Source.History
import ImageIntake.Proofs.Source.Opening
import ImageIntake.Proofs.Text.Base64
import ImageIntake.Proofs.Url.Credentials

namespace ImageIntake

open ImageIntake.Text

/-! ## Headers -/

namespace Http

/-- The user and the password, a colon between them, that a header authenticates. -/
def basicCredentials? (header : String) : Option String :=
  match header.toList with
  | 'B' :: 'a' :: 's' :: 'i' :: 'c' :: ' ' :: letters => (bytesOfBase64? letters).map ofUtf8
  | _ => none

theorem basicCredentials?_basicAuthorization (user password : String) :
    basicCredentials? (basicAuthorization user password) = some (user ++ ":" ++ password) := by
  have h_header : (basicAuthorization user password).toList =
      'B' :: 'a' :: 's' :: 'i' :: 'c' :: ' ' :: base64Chars (utf8 (user ++ ":" ++ password)) := by
    rw [basicAuthorization, base64, String.toList_append, String.toList_ofList,
      String.toList_ofList]
    rfl
  rw [basicCredentials?, h_header]
  exact (congrArg (Option.map ofUtf8) (bytesOfBase64?_base64Chars _)).trans
    (congrArg some (ofUtf8_utf8 _))

end Http

/-! ## Endpoints -/

theorem Url.not_isRelative_of_read {text : String} {url : Url}
    (h : Endpoint.read text = .ok url) : url.isRelative = false := by
  obtain ⟨-, h_scheme, host, h_host, h_named⟩ := Endpoint.read_ok h
  have h_scheme_ne : url.scheme ≠ "" := by
    intro h_empty
    rw [h_empty] at h_scheme
    revert h_scheme
    decide
  have h_host_ne : url.host ≠ "" := by
    intro h_empty
    rw [Url.unicodeHost, h_empty] at h_host
    exact h_named (Except.ok.inj h_host).symm
  simp [isRelative, h_scheme_ne, h_host_ne]

/-- The request for the stream goes to the endpoint itself. -/
theorem Http.Opening.firstTarget_eq {text : String} {url target : Url}
    (h_read : Endpoint.read text = .ok url) (h_target : firstTarget url = .ok target) :
    target = url := by
  have h_relative := Url.not_isRelative_of_read h_read
  have h_scheme : url.scheme ≠ "" := by
    intro h_empty
    rw [Url.isRelative, h_empty] at h_relative
    cases h_relative
  have h_request : badUrl url.requestTarget = .ok url := by
    rw [Url.requestTarget, h_relative]
    rfl
  rw [firstTarget, h_request, if_pos h_scheme] at h_target
  cases h_host : readableHost url with
  | error f =>
    rw [h_host] at h_target
    cases h_target
  | ok host =>
    rw [h_host] at h_target
    dsimp only [bind, Except.bind] at h_target
    cases h_place : namesPlace url with
    | error f =>
      rw [h_place] at h_target
      cases h_target
    | ok _ =>
      rw [h_place] at h_target
      exact (Except.ok.inj h_target).symm

/-! ## Keys -/

namespace Order

/-- Whether a key in use holds an escape. -/
def KeysHoldEscape (order : Order) : Prop :=
  ∃ access secret, (order.demand default).keys? = some (access, secret) ∧
    (holdsEscape access.toList = true ∨ holdsEscape secret.toList = true)

end Order

theorem Url.withKeys_eq (url : Url) (d : Http.Demand) :
    url.withKeys d.accessKey d.secretKey =
      match d.keys? with
      | some (access, secret) => (url.withUserinfo access secret).mapError fun _ => .invalidUrl
      | none => .ok url := by
  unfold Url.withKeys Http.Demand.keys?
  rcases d.accessKey with _ | access
  · rfl
  · rcases d.secretKey with _ | secret
    · rfl
    · dsimp only
      split <;> rfl

theorem Http.Demand.ne_empty_of_keys? {d : Http.Demand} {access secret : String}
    (h : d.keys? = some (access, secret)) : access ≠ "" ∧ secret ≠ "" := by
  unfold Http.Demand.keys? at h
  split at h
  · split at h
    · rename_i h_ne
      cases h
      exact h_ne
    · cases h
  · cases h

/-- The locator of a source carries the keys unescaped, or else what the endpoint carried. -/
theorem Url.keyed_or_plain {url endpoint : Url} {d : Http.Demand}
    (h : url.withKeys d.accessKey d.secretKey = .ok endpoint) :
    (∃ access secret, d.keys? = some (access, secret) ∧
      endpoint.username = percentDecode access ∧ endpoint.password = percentDecode secret) ∨
    (d.keys? = none ∧ endpoint = url) := by
  rw [withKeys_eq] at h
  split at h
  · rename_i access secret h_keys
    have h_changed := ok_of_mapError h
    exact .inl ⟨access, secret, h_keys, username_of_withUserinfo h_changed,
      password_of_withUserinfo h_changed⟩
  · rename_i h_keys
    exact .inr ⟨h_keys, (Except.ok.inj h).symm⟩

/-- Two texts with a colon between them stay the same when they are unescaped exactly if neither
holds an escape, since an escape is longer than what it stands for. -/
theorem joined_eq_decoded_iff (user password : String) :
    user ++ ":" ++ password = percentDecode user ++ ":" ++ percentDecode password ↔
      holdsEscape user.toList = false ∧ holdsEscape password.toList = false := by
  have h_user := length_percentDecode_le user
  have h_password := length_percentDecode_le password
  constructor
  · intro h_same
    have h_length := congrArg String.length h_same
    simp only [String.length_append] at h_length
    constructor
    · by_contra h_escape
      have h_lt := length_percentDecode_lt (Bool.eq_true_of_not_eq_false h_escape)
      omega
    · by_contra h_escape
      have h_lt := length_percentDecode_lt (Bool.eq_true_of_not_eq_false h_escape)
      omega
  · rintro ⟨h_user, h_password⟩
    rw [percentDecode_of_not_holdsEscape h_user, percentDecode_of_not_holdsEscape h_password]

/-! ## Sources -/

namespace Source

theorem authorization?_eq_none_iff {url endpoint : Url} {d : Http.Demand}
    (h : url.withKeys d.accessKey d.secretKey = .ok endpoint) :
    d.authorization? url = none ↔ endpoint.username = "" ∧ endpoint.password = "" := by
  unfold Http.Demand.authorization?
  rcases Url.keyed_or_plain h with ⟨access, secret, h_keys, h_user, -⟩ | ⟨h_keys, rfl⟩
  · have h_access := (Http.Demand.ne_empty_of_keys? h_keys).1
    have h_ne : endpoint.username ≠ "" := by
      rw [h_user]
      exact fun h_empty => h_access ((percentDecode_eq_empty_iff access).mp h_empty)
    rw [h_keys]
    constructor
    · rintro ⟨⟩
    · rintro ⟨h_empty, -⟩
      exact absurd h_empty h_ne
  · rw [h_keys]
    dsimp only
    split
    · rename_i h_carries
      constructor
      · rintro ⟨⟩
      · rintro ⟨h_user, h_password⟩
        rcases h_carries with h_ne | h_ne
        · exact absurd h_user h_ne
        · exact absurd h_password h_ne
    · rename_i h_bare
      rw [not_or, not_not, not_not] at h_bare
      exact iff_of_true rfl h_bare

theorem credentials_iff {url endpoint : Url} {d : Http.Demand} {header : String}
    (h : url.withKeys d.accessKey d.secretKey = .ok endpoint)
    (h_header : d.authorization? url = some header) :
    Http.basicCredentials? header = some (endpoint.username ++ ":" ++ endpoint.password) ↔
      ¬∃ access secret, d.keys? = some (access, secret) ∧
        (holdsEscape access.toList = true ∨ holdsEscape secret.toList = true) := by
  unfold Http.Demand.authorization? at h_header
  rcases Url.keyed_or_plain h with ⟨access, secret, h_keys, h_user, h_password⟩ | ⟨h_keys, rfl⟩
  · rw [h_keys] at h_header ⊢
    cases h_header
    rw [Http.basicCredentials?_basicAuthorization, h_user, h_password, Option.some_inj,
      joined_eq_decoded_iff]
    constructor
    · rintro ⟨h_access, h_secret⟩ ⟨_, _, h_same, h_escape⟩
      cases h_same
      rw [h_access, h_secret] at h_escape
      exact absurd h_escape (by decide)
    · intro h_none
      constructor
      · by_contra h_escape
        exact h_none ⟨access, secret, rfl, .inl (Bool.eq_true_of_not_eq_false h_escape)⟩
      · by_contra h_escape
        exact h_none ⟨access, secret, rfl, .inr (Bool.eq_true_of_not_eq_false h_escape)⟩
  · rw [h_keys] at h_header ⊢
    dsimp only at h_header
    split at h_header
    · cases h_header
      rw [Http.basicCredentials?_basicAuthorization]
      refine iff_of_true rfl ?_
      rintro ⟨_, _, ⟨⟩, -⟩
    · cases h_header

theorem effectiveUrl_of_requestFor {source : Source} {operation dest : String}
    {request : Conversion.Request} (h : source.requestFor operation dest = .ok request) :
    request.effectiveUrl = .ok source.endpoint := by
  obtain ⟨_, _, _, h_source, _, _, _, h_access, h_secret⟩ := requestFor_ok h
  unfold Conversion.Request.effectiveUrl
  rw [h_source, h_access]
  split <;> rfl

theorem Kept.after {ω : Type} {opened source : Source} {earlier : List (Entry ω)}
    (h : Kept opened earlier source) (env : Collaborators ω) (calls : List Call) (s : ω) :
    ∃ entries : List (Entry ω), Kept opened entries (afterCalls env calls (source, s)).1 := by
  induction calls generalizing source earlier s with
  | nil => exact ⟨earlier, h⟩
  | cons call rest ih => exact ih (h.step env s call) _

/-- The first request for the stream of a source has a header exactly if the locator of the source
carries a user name or a password.  What the header authenticates is that user with that password
exactly if no key in use holds an escape.  The locator is the one every conversion is run with,
whatever was asked of the source before. -/
theorem ofOrder_authenticates_iff {order : Order} {site opened : Site} {source : Source}
    (h : (ofOrder order).after site = (.ok source, opened)) :
    ∃ first rest, opened.line.requests = site.line.requests ++ first :: rest ∧
      (first.authorization = none ↔
        source.endpoint.username = "" ∧ source.endpoint.password = "") ∧
      (∀ header, first.authorization = some header →
        (Http.basicCredentials? header =
            some (source.endpoint.username ++ ":" ++ source.endpoint.password) ↔
          ¬order.KeysHoldEscape)) ∧
      ∀ (converter : Conversion.Converter Site) calls operation dest request,
        (afterCalls (Site.collaborators converter) calls (source, opened)).1.requestFor operation
          dest = .ok request →
        request.effectiveUrl = .ok source.endpoint := by
  obtain ⟨⟨url, target, response, h_read, h_target, ⟨⟨rest, h_requests⟩, -⟩, h_keys, -⟩, h_made, -⟩ :=
    ofOrder_ok h
  have h_same := Http.Opening.firstTarget_eq h_read h_target
  subst h_same
  refine ⟨_, rest, h_requests, authorization?_eq_none_iff (d := order.demand target) h_keys,
    fun header h_header => credentials_iff (d := order.demand target) h_keys h_header, ?_⟩
  intro converter calls operation dest request h_request
  have h_kept : Kept source ([] : List (Entry Site)) source := by
    rw [h_made]
    exact kept_nil rfl rfl
  obtain ⟨_, h_later⟩ := h_kept.after (Site.collaborators converter) calls opened
  rw [effectiveUrl_of_requestFor h_request, h_later.endpoint]

/-- An answer for the stream of an order. -/
def answering : Site :=
  { tree := {}, now := ⟨2025, 1, 1, 0, 0, 0, 0⟩
    line := { replies := [.response { status := 200, headers := [], body := { pieces := [] } }] } }

/-- Keys with a colon, a percent sign and a letter beyond ASCII take the place of what the endpoint
carries, for the request as for the conversion. -/
theorem colon_authenticates :
    let order : Order :=
      { endpoint := "https://old:pw@h/d.img", accessKey := some "us:er", secretKey := some "5%é" }
    ∃ source opened, (ofOrder order).after answering = (.ok source, opened) ∧
      ∃ first rest, opened.line.requests = first :: rest ∧ ∃ header,
        first.authorization = some header ∧ Http.basicCredentials? header =
          some (source.endpoint.username ++ ":" ++ source.endpoint.password) := by
  intro order
  have h_user : (((ofOrder order).after answering).1.map (·.endpoint.username)).toOption =
      some "us:er" := by decide +kernel
  rcases h_after : (ofOrder order).after answering with ⟨f | source, opened⟩
  all_goals rw [h_after] at h_user
  · cases h_user
  · obtain ⟨first, rest, h_requests, h_none, h_some, -⟩ := ofOrder_authenticates_iff h_after
    have h_named : source.endpoint.username = "us:er" := Option.some.inj h_user
    refine ⟨source, opened, rfl, first, rest, h_requests, ?_⟩
    cases h_header : first.authorization with
    | none =>
      have h_empty := (h_none.mp h_header).1
      rw [h_named] at h_empty
      contradiction
    | some header =>
      refine ⟨header, rfl, (h_some header h_header).mpr ?_⟩
      rintro ⟨access, secret, h_keys, h_escape⟩
      have h_both : access = "us:er" ∧ secret = "5%é" := by
        cases h_keys
        exact ⟨rfl, rfl⟩
      rw [h_both.1, h_both.2] at h_escape
      exact absurd h_escape (by decide)

/-- A key that holds an escape is sent as it is, and is another user in the locator. -/
theorem escaped_key_disagrees :
    let order : Order :=
      { endpoint := "https://h/d.img", accessKey := some "%41", secretKey := some "s" }
    let result := (ofOrder order).after answering
    result.2.line.requests.map (·.authorization.bind Http.basicCredentials?) = [some "%41:s"] ∧
      (result.1.map fun source => source.endpoint.username ++ ":" ++ source.endpoint.password).toOption =
        some "A:s" := by
  decide +kernel

end Source

end ImageIntake
