/-
  ImageIntake.Proofs.Import.Disclosure

  What the failure to open a source gives away of a password in its endpoint.  Endpoints
  that can be read with one password can be read with another, and from there on nothing
  that is said depends on it (`Source.ofOwnedOrder_matches`).  So only a refusal to read
  the endpoint can show the password, and it does so exactly where it quotes the endpoint
  (`Source.ofOwnedOrder_tells_iff`).
-/

import ImageIntake.Cli.Outcome
import ImageIntake.Proofs.Endpoint.Password
import ImageIntake.Proofs.Import.Discretion

namespace ImageIntake

open ImageIntake.Action ImageIntake.Text

/-- What is complained about differs exactly if the failures are worded differently. -/
theorem Cli.complain?_eq_iff {f g : Failure} (h_kind : f.kind? = g.kind?)
    (h_pipeline : f.isPipeline = true) : complain? f = complain? g ↔ f.text = g.text := by
  obtain ⟨trouble, h_trouble⟩ := Option.isSome_iff_exists.mp h_pipeline
  have h_f : f.kind? = some trouble.kind := by rw [Failure.kind?, h_trouble, Option.map_some]
  unfold complain? complaint
  rw [← h_kind, h_f]
  constructor
  · intro h
    exact String.append_right_inj _ |>.mp (Closing.complained.inj (Except.ok.inj h))
  · intro h
    rw [h]

namespace Source

theorem outcome_of_unread {order : Order} {f : Failure}
    (h : Endpoint.read order.endpoint = .error f) (owner : String) (site : Site) :
    ((ofOwnedOrder order owner).after site).1 = .error f := by
  unfold ofOwnedOrder ofOrder
  simp only [after_bind, after_give, h]

/-- Whatever fails behind an endpoint that was read is told alike for either password. -/
theorem told_of_passwordApart {order other : Order} (h : order.PasswordApart other) {owner : String}
    {site : Site} {f : Failure} (h_f : ((ofOwnedOrder order owner).after site).1 = .error f) :
    ∃ g, ((ofOwnedOrder other owner).after site).1 = .error g ∧ f.kind? = g.kind? ∧
      f.text = g.text := by
  have h_agree := (ofOwnedOrder_matches h.alike owner site site (.refl site)).1
  rw [h_f] at h_agree
  generalize ((ofOwnedOrder other owner).after site).1 = outcome at h_agree ⊢
  cases h_agree with
  | error h_alike =>
    exact ⟨_, rfl, Likeness.discreet.kind? h_alike, Likeness.discreet.text h_alike⟩

/-- Of two orders whose endpoints differ in the password only, equally long and made of letters and
digits, either both come to a source or both fail.  The failures are of one kind, and they are
worded alike unless they quote the endpoint; so is what is complained about. -/
theorem ofOwnedOrder_tells_iff {a : Endpoint.Around} (h : a.Sound) {p q : List Char}
    (h_p : ∀ c ∈ p, c.isAlphanum = true) (h_q : ∀ c ∈ q, c.isAlphanum = true)
    (h_length : p.length = q.length) {order : Order} (h_order : order.endpoint = a.text p)
    (owner : String) (site : Site) {f : Failure}
    (h_f : ((ofOwnedOrder order owner).after site).1 = .error f) :
    ∃ g, ((ofOwnedOrder { order with endpoint := a.text q } owner).after site).1 = .error g ∧
      f.kind? = g.kind? ∧
      (f.text = g.text ↔ p = q ∨ ¬Endpoint.Quotes order.endpoint) ∧
      (f.isPipeline = true → (Cli.complain? f = Cli.complain? g ↔
        p = q ∨ ¬Endpoint.Quotes order.endpoint)) := by
  obtain ⟨other, h_other⟩ : ∃ other : Order, other = { order with endpoint := a.text q } := ⟨_, rfl⟩
  have h_endpoint : other.endpoint = a.text q := by rw [h_other]
  rw [← h_other]
  -- The complaint follows the wording.
  suffices ∃ g, ((ofOwnedOrder other owner).after site).1 = .error g ∧ f.kind? = g.kind? ∧
      (f.text = g.text ↔ p = q ∨ ¬Endpoint.Quotes order.endpoint) by
    obtain ⟨g, h_g, h_kind, h_text⟩ := this
    exact ⟨g, h_g, h_kind, h_text, fun h_pipeline =>
      (Cli.complain?_eq_iff h_kind h_pipeline).trans h_text⟩
  by_cases h_none : p = []
  · have h_same : p = q := by
      rw [h_none, List.eq_nil_of_length_eq_zero (h_length.symm.trans (congrArg _ h_none))]
    have h_order : other = order := by rw [h_other, ← h_same, ← h_order]
    rw [h_order]
    exact ⟨f, h_f, rfl, iff_of_true rfl (.inl h_same)⟩
  have h_some : q ≠ [] := fun h_empty =>
    h_none (List.eq_nil_of_length_eq_zero (h_length.trans (congrArg _ h_empty)))
  have h_apart := a.readApart h h_p h_q h_length
  rw [← h_order, ← h_endpoint] at h_apart
  cases h_apart with
  | locators h_left h_right h_rest h_given h_put h_silent =>
    have h_password : order.PasswordApart other := by
      refine .embedded h_left h_right h_rest ?_ ?_ ?_ (by rw [h_other])
      · rw [h_given, h_put]
      · rw [h_given, h_put]
        exact ⟨h_none, h_some⟩
      · rw [h_given, h_put]
        exact h_length
    obtain ⟨g, h_g, h_kind, h_text⟩ := told_of_passwordApart h_password h_f
    exact ⟨g, h_g, h_kind, iff_of_true h_text (.inr h_silent)⟩
  | same h_left h_right h_silent =>
    rw [outcome_of_unread h_left] at h_f
    cases h_f
    exact ⟨_, outcome_of_unread h_right owner site, rfl, iff_of_true rfl (.inr h_silent)⟩
  | @quoted before after cause h_left h_right h_quotes =>
    rw [outcome_of_unread h_left] at h_f
    cases h_f
    have h_wording : before ++ quoted order.endpoint ++ after =
        before ++ quoted other.endpoint ++ after ↔ p = q := by
      rw [String.append_left_inj, String.append_right_inj, h_order, h_endpoint]
      exact ⟨Endpoint.Around.quoted_text_inj h_p h_q, fun h_same => by rw [h_same]⟩
    refine ⟨_, outcome_of_unread h_right owner site, rfl, h_wording.trans ?_⟩
    exact (or_iff_left fun h_silent => h_silent h_quotes).symm

/-- An image that is not there, asked for with either of two passwords. -/
theorem missing_image_told_alike :
    let a : Endpoint.Around :=
      { scheme := ['h', 't', 't', 'p', ':'], user := ['u'], rest := ['h', '/', 'd'] }
    let order : Order := { endpoint := "http://u:one@h/d" }
    let reply : Http.Response := { status := 404, headers := [], body := { pieces := [] } }
    let site : Site :=
      { tree := {}, now := ⟨2025, 1, 1, 0, 0, 0, 0⟩, line := { replies := [.response reply] } }
    order.endpoint = a.text ['o', 'n', 'e'] ∧
      ∃ f g, ((ofOwnedOrder order "owner").after site).1 = .error f ∧
        ((ofOwnedOrder { order with endpoint := a.text ['t', 'w', 'o'] } "owner").after site).1 =
          .error g ∧
        f.kind? = some .transportFailed ∧ g.kind? = some .transportFailed ∧ f.text = g.text := by
  intro a order reply site
  have h_scheme : Endpoint.IsScheme ('h' :: ['t', 't', 'p'] ++ [':']) :=
    .named (by decide) (List.all_eq_true.mp (by decide))
  have h_user : ∀ c ∈ ['u'], c ≠ ':' ∧ Endpoint.inAuthority c = true :=
    List.forall_mem_singleton.mpr (by decide)
  have h_sound : a.Sound := ⟨nofun, h_scheme, h_user, by decide⟩
  have h_readable : ¬Endpoint.Quotes order.endpoint := by
    have h_parse : Url.parse (trim order.endpoint) =
        .ok { scheme := "http", userinfo := "u:one", host := "h", path := "/d" } :=
      ok_of_toOption (by decide +kernel)
    rintro (⟨defect, h_defect⟩ | ⟨url, h_url, -, h_empty⟩)
    · cases h_parse.symm.trans h_defect
    · cases h_parse.symm.trans h_url
      exact absurd (congrArg Except.toOption h_empty) (by decide)
  have h_kind : (match ((ofOwnedOrder order "owner").after site).1 with
      | .ok _ => none
      | .error f => f.kind?) = some .transportFailed := by
    decide +kernel
  have h_order : order.endpoint = a.text ['o', 'n', 'e'] := by decide +kernel
  have h_one : ∀ c ∈ ['o', 'n', 'e'], c.isAlphanum = true := List.all_eq_true.mp (by decide)
  have h_two : ∀ c ∈ ['t', 'w', 'o'], c.isAlphanum = true := List.all_eq_true.mp (by decide)
  refine ⟨h_order, ?_⟩
  cases h_f : ((ofOwnedOrder order "owner").after site).1 with
  | ok source =>
    rw [h_f] at h_kind
    cases h_kind
  | error f =>
    rw [h_f] at h_kind
    obtain ⟨g, h_g, h_same, h_text, -⟩ :=
      ofOwnedOrder_tells_iff h_sound h_one h_two rfl h_order "owner" site h_f
    exact ⟨f, g, rfl, h_g, h_kind, h_same ▸ h_kind, h_text.mpr (.inr h_readable)⟩

/-- A port that is no number: both orders are refused, and what is complained about tells the
passwords. -/
theorem unread_port_discloses :
    let order : Order := { endpoint := "http://u:one@h:x/d" }
    let other : Order := { order with endpoint := "http://u:two@h:x/d" }
    ∀ owner site, ∃ f g, ((ofOwnedOrder order owner).after site).1 = .error f ∧
      ((ofOwnedOrder other owner).after site).1 = .error g ∧
      f.kind? = some .invalidEndpoint ∧ g.kind? = some .invalidEndpoint ∧
      f.text = "unable to parse endpoint 'http://u:one@h:x/d'" ∧
      g.text = "unable to parse endpoint 'http://u:two@h:x/d'" ∧
      Cli.complain? f ≠ Cli.complain? g := by
  intro order other owner site
  have h_unread {text : String} (h_parse : (Url.parse (trim text)).toOption = none) :
      Endpoint.read text =
        .error (Endpoint.invalid ("unable to parse endpoint " ++ quoted text)
          (some (.outside .invalidUrl))) := by
    cases h_url : Url.parse (trim text) with
    | ok url =>
      rw [h_url] at h_parse
      cases h_parse
    | error defect => exact (Endpoint.Reading.unparsed h_url).eq
  have h_left := h_unread (show (Url.parse (trim order.endpoint)).toOption = none by decide +kernel)
  have h_right := h_unread (show (Url.parse (trim other.endpoint)).toOption = none by decide +kernel)
  have h_one : "unable to parse endpoint " ++ quoted order.endpoint =
      "unable to parse endpoint 'http://u:one@h:x/d'" := by decide +kernel
  have h_two : "unable to parse endpoint " ++ quoted other.endpoint =
      "unable to parse endpoint 'http://u:two@h:x/d'" := by decide +kernel
  rw [h_one] at h_left
  rw [h_two] at h_right
  refine ⟨_, _, outcome_of_unread h_left owner site, outcome_of_unread h_right owner site, rfl, rfl,
    rfl, rfl, fun h_same => ?_⟩
  have h_complaint {left right : String} {cause : Option Failure}
      (h_same : Cli.complain? (Endpoint.invalid left cause) =
        Cli.complain? (Endpoint.invalid right cause)) : left = right := by
    have h_kind : (Endpoint.invalid left cause).kind? = (Endpoint.invalid right cause).kind? := rfl
    exact (Cli.complain?_eq_iff h_kind rfl).mp h_same
  exact absurd (h_complaint h_same) (by decide)

end Source

end ImageIntake
