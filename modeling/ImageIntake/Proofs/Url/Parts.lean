/-
  ImageIntake.Proofs.Url.Parts

  What a locator is that was read from parts: each of its parts comes from one of these,
  and from nothing else but the scheme and whether there is an authority (`IsOfParts`).
-/

import ImageIntake.Url.Parser

namespace ImageIntake.Url

open ImageIntake.Text

/-- Whether a locator has an authority. -/
def hasAuthority (url : Url) : Bool := url.userinfo ≠ "" || url.host ≠ "" || url.port.isSome

/-- A locator that is what its parts say. -/
structure IsOfParts (parts : RawParts) (auth : RawAuthority) (url : Url) : Prop where
  scheme : url.scheme = asciiLower (String.ofList parts.scheme)
  userinfo : url.userinfo = escape userinfoSafe auth.userinfo
  host : readHost auth.host = .ok url.host
  port : readPort parts.scheme auth.port = .ok url.port
  fits : pathFits (!parts.scheme.isEmpty) url.hasAuthority parts.path = true
  path : url.path = escape pathSafe
    (if (!parts.scheme.isEmpty || url.hasAuthority) = true then removeDots parts.path else parts.path)
  query : url.query = parts.query.map (escape querySafe)
  fragment : url.fragment = parts.fragment.map (escape fragmentSafe)

theorem ofParts_eq_ok_iff {parts : RawParts} {auth : RawAuthority} {url : Url} :
    ofParts parts auth = .ok url ↔ IsOfParts parts auth url := by
  unfold ofParts
  constructor
  · intro h
    cases h_host : readHost auth.host with
    | error defect =>
      rw [h_host] at h
      contradiction
    | ok host =>
      cases h_port : readPort parts.scheme auth.port with
      | error defect =>
        rw [h_host, h_port] at h
        contradiction
      | ok port =>
        rw [h_host, h_port] at h
        dsimp only [bind, Except.bind] at h
        split at h
        · contradiction
        · rename_i h_fits
          rw [Bool.not_eq_true, Bool.not_eq_false'] at h_fits
          cases h
          exact ⟨rfl, rfl, h_host, h_port, h_fits, rfl, rfl, rfl⟩
  · rintro ⟨h_scheme, h_userinfo, h_host, h_port, h_fits, h_path, h_query, h_fragment⟩
    unfold hasAuthority at h_fits h_path
    rw [h_userinfo] at h_fits h_path
    rw [h_host, h_port]
    dsimp only [bind, Except.bind]
    rw [if_neg (by rw [h_fits]; exact Bool.false_ne_true), ← h_path, ← h_scheme, ← h_userinfo, ← h_query,
      ← h_fragment]
    rfl

end ImageIntake.Url
