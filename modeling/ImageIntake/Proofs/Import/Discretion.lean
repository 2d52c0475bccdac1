/-
  ImageIntake.Proofs.Import.Discretion

  Two imports that differ in a password cannot be told apart by what they say.  The
  password stands in the endpoint or is the secret key (`Order.PasswordApart`); either way
  the locators of the image are alike, and so are the sources that are opened
  (`ofOwnedOrder_matches`).  Sources that are alike are fetched alike by a site, so that
  the two imports put the same on record and end with the same failure
  (`Errand.run_hides_password`).
-/

import ImageIntake.Proofs.Import.Matching
import ImageIntake.Proofs.Import.Outcome
import ImageIntake.Proofs.Site.Discretion
import ImageIntake.Proofs.Source.Authentication

namespace ImageIntake

open ImageIntake.Action ImageIntake.Text

/-! ## Orders that differ in a password -/

/-- Orders that are the same but for a password that is given in both: inside an endpoint that can
be read, or as the secret key.  The escaped forms of the two passwords, which is how a locator
carries them, are equally long. -/
inductive Order.PasswordApart (a b : Order) : Prop
  | embedded {u v : Url} (h_left : Endpoint.read a.endpoint = .ok u)
      (h_right : Endpoint.read b.endpoint = .ok v) (h_rest : v = { u with userinfo := v.userinfo })
      (h_user : u.userinfoParts.1 = v.userinfoParts.1)
      (h_given : u.userinfoParts.2 ≠ [] ∧ v.userinfoParts.2 ≠ [])
      (h_length : u.userinfoParts.2.length = v.userinfoParts.2.length)
      (h_order : b = { a with endpoint := b.endpoint })
  | key {s t : String} (h_left : a.secretKey = some s) (h_right : b.secretKey = some t)
      (h_given : s ≠ "" ∧ t ≠ "")
      (h_length : (percentEncode Url.credentialSafe s).length =
        (percentEncode Url.credentialSafe t).length)
      (h_order : b = { a with secretKey := b.secretKey })

/-- Orders for locators that are alike, and stay so when they are given the keys. -/
structure Order.Alike (a b : Order) : Prop where
  rest : b = { a with endpoint := b.endpoint, secretKey := b.secretKey }
  locator : Agree Failure.ToldAlike
    (fun u v => u.Alike v ∧ Agree Eq Url.Alike (u.withKeys a.accessKey a.secretKey)
      (v.withKeys b.accessKey b.secretKey))
    (Endpoint.read a.endpoint) (Endpoint.read b.endpoint)

theorem Order.PasswordApart.alike {a b : Order} (h : a.PasswordApart b) : a.Alike b := by
  cases h with
  | embedded h_left h_right h_rest h_user h_given h_length h_order =>
    rename_i u v
    obtain ⟨h_parse, h_scheme, -⟩ := Endpoint.read_ok h_left
    obtain ⟨h_parse', -⟩ := Endpoint.read_ok h_right
    have h_info := Url.infoApart_of_parts (Url.userinfoSafe_of_parse h_parse)
      (Url.userinfoSafe_of_parse h_parse') h_user h_given.1 h_given.2 h_length
    have h_alike : u.Alike v := .inr ⟨h_scheme, h_info, h_rest⟩
    have h_keys : b.accessKey = a.accessKey ∧ b.secretKey = a.secretKey := by
      rw [h_order]
      exact ⟨rfl, rfl⟩
    refine ⟨?_, ?_⟩
    · rw [h_keys.2]
      exact h_order
    · rw [h_left, h_right, h_keys.1, h_keys.2]
      exact .ok ⟨h_alike, Url.withKeys_alike h_alike _ _⟩
  | key h_left h_right h_given h_length h_order =>
    have h_same : b.endpoint = a.endpoint ∧ b.accessKey = a.accessKey := by
      rw [h_order]
      exact ⟨rfl, rfl⟩
    refine ⟨?_, ?_⟩
    · rw [h_same.1]
      exact h_order
    · rw [h_same.1, h_same.2, h_left, h_right]
      cases h_read : Endpoint.read a.endpoint with
      | error f => exact .error rfl
      | ok url =>
        have h_scheme := (Endpoint.read_ok h_read).2.1
        exact .ok ⟨.refl url, Url.withKeys_secret h_scheme _ h_given.1 h_given.2 h_length⟩

/-! ## Opening their sources -/

namespace Source

theorem ofOrder_matches {a b : Order} (h : a.Alike b) :
    (ofOrder a).Matches .discreet (Source.Alike .discreet) Site.Alike (ofOrder b) := by
  have h_unopened : Site.Blind (.change fun site => { site with feed := {} }) := fun _ _ _ => rfl
  have h_rest := h.rest
  unfold ofOrder
  refine (matches_give h.locator).bind ?_
  rintro u v ⟨h_url, h_keys⟩
  refine h_unopened.matches.bind ?_
  rintro _ _ -
  have h_demand : (a.demand u).Alike (b.demand v) := by
    rw [h_rest]
    exact ⟨h_url, rfl, rfl⟩
  refine (Site.openStream_matches h_demand).bind ?_
  rintro length _ rfl
  refine (matches_give (L := .discreet) (h_keys.mapError (T := Failure.ToldAlike) ?_)).bind ?_
  · rintro fault _ rfl
    rfl
  · intro endpoint endpoint' h_endpoint
    rw [h_rest]
    exact matches_give (.ok ⟨endpoint', none, h_endpoint, .none, rfl⟩)

theorem ofOwnedOrder_matches {a b : Order} (h : a.Alike b) (owner : String) :
    (ofOwnedOrder a owner).Matches .discreet (Source.Alike .discreet) Site.Alike
      (ofOwnedOrder b owner) := by
  unfold ofOwnedOrder
  refine (ofOrder_matches h).bind fun source other h_source => ?_
  refine (Site.blind_makeReporter owner).matches.bind ?_
  rintro _ _ -
  exact matches_give (.ok h_source)

end Source

/-! ## What an import says -/

/-- What a record says: how weighty it is, the stage, the message and the fields. -/
def Log.Record.said (r : Record) :
    Level × Json × Message × Option (List (Json.Wording × Datum)) :=
  (r.level, r.stage, r.message, r.fields)

/-- What the records of a log say that are not merely for debugging. -/
def Log.Logbook.announced (book : Logbook) :
    List (Level × Json × Message × Option (List (Json.Wording × Datum))) :=
  (book.records.filter fun r => Level.info.number ≤ r.level.number).map Record.said

/-- What is told of a failure: its kind, its name and its wording. -/
def Failure.told (f : Failure) : Option FailureKind × String × String :=
  (f.kind?, f.name, f.text)

theorem Failure.ToldAlike.told {f g : Failure} (h : f.ToldAlike g) : f.told = g.told := by
  rw [Failure.told, Failure.told, Failure.kind?, Failure.kind?, h.trouble?, h.name, h.text]

/-- Imports that agree end with failures that are told alike. -/
theorem Import.ending_told {outcome outcome' : Except Failure Report}
    (h : Agree Failure.ToldAlike (Report.Alike .discreet) outcome outcome') :
    (ending outcome).map Failure.told = (ending outcome').map Failure.told := by
  cases h with
  | error h_alike => exact congrArg some h_alike.told
  | ok h_report =>
    rename_i report report'
    have h_failure : Option.Rel Failure.ToldAlike report.failure report'.failure :=
      h_report.failure
    unfold ending
    dsimp only
    generalize report.failure = x at h_failure ⊢
    generalize report'.failure = y at h_failure ⊢
    cases h_failure with
    | none => rfl
    | some h_alike => exact congrArg some h_alike.told

namespace Errand

/-- Imports for orders that are alike match. -/
theorem run_matches (e : Errand) {order : Order} (h : e.order.Alike order) :
    e.run.Matches .discreet (Import.Report.Alike .discreet) Site.Alike { e with order }.run := by
  unfold run
  refine (Source.ofOwnedOrder_matches h e.owner).bind fun source source' h_source => ?_
  exact matches_fetch (Site.collaborators_matches e.settings) e.dataFile e.scratchDir e.imageName
    h_source

/-- Two imports that differ in nothing but a password announce the same, record by record, and end
with a failure of the same kind, name and wording, or both without one. -/
theorem run_hides_password (e : Errand) {order : Order} (h : e.order.PasswordApart order)
    (site : Site) :
    (e.run.after site).2.book.announced = ({ e with order }.run.after site).2.book.announced ∧
      (Import.ending (e.run.after site).1).map Failure.told =
        (Import.ending ({ e with order }.run.after site).1).map Failure.told := by
  obtain ⟨h_outcome, requests, history, h_after⟩ := e.run_matches h.alike site site (.refl site)
  refine ⟨?_, Import.ending_told h_outcome⟩
  rw [h_after]
  rfl

/-- An image is asked for with one of two passwords and converted; three records are announced, and
nothing tells the passwords apart but the request. -/
theorem endpoint_password_hidden :
    let e : Errand :=
      { order := { endpoint := "https://u:one@h/d.img.gz" }, owner := "", settings := {}
        dataFile := "/d.img" }
    let order : Order := { endpoint := "https://u:two@h/d.img.gz" }
    let body : Http.Body := { pieces := [.data [0x1F, 0x8B]] }
    let site : Site :=
      { tree := {}, now := ⟨2025, 1, 1, 0, 0, 0, 0⟩
        line := { replies := [.response { status := 200, headers := [], body }] } }
    e.order.PasswordApart order ∧
      (e.run.after site).2.book.announced = ({ e with order }.run.after site).2.book.announced ∧
      (Import.ending (e.run.after site).1).map Failure.told =
        (Import.ending ({ e with order }.run.after site).1).map Failure.told ∧
      (e.run.after site).2.book.announced.length = 3 ∧
      (e.run.after site).2.line.requests ≠ ({ e with order }.run.after site).2.line.requests := by
  intro e order body site
  have h_left : Endpoint.read e.order.endpoint =
      .ok { scheme := "https", userinfo := "u:one", host := "h", path := "/d.img.gz" } :=
    ok_of_toOption (by decide +kernel)
  have h_right : Endpoint.read order.endpoint =
      .ok { scheme := "https", userinfo := "u:two", host := "h", path := "/d.img.gz" } :=
    ok_of_toOption (by decide +kernel)
  have h_apart : e.order.PasswordApart order :=
    .embedded h_left h_right rfl (by decide +kernel) (by decide +kernel) (by decide +kernel) rfl
  obtain ⟨h_announced, h_ending⟩ := run_hides_password e h_apart site
  exact ⟨h_apart, h_announced, h_ending, by decide +kernel, by decide +kernel⟩

end Errand

end ImageIntake
