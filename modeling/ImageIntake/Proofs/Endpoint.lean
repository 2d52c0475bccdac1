/-
  ImageIntake.Proofs.Endpoint

  Where an endpoint leads once there are keys in it, or once it is printed without its
  password.  Either way its locator is read again with other user information, and leads to
  the target it led to (`target_of_read`): the same scheme, port in effect, path, query and
  fragment, and the same host, but that the escapes in a name are put in lower case
  (`escaped_host_changes`).  What is printed does not depend on the password that is left out.
-/

import ImageIntake.Endpoint
import ImageIntake.Proofs.Url.Again

namespace ImageIntake

open ImageIntake.Text

/-! ## Targets -/

namespace Url

/-- Two locators that lead to the same target: their user information is left aside, and a name that
holds escapes is held against its lower case. -/
structure SameTarget (url other : Url) : Prop where
  scheme : other.scheme = url.scheme
  host : other.host = hostAgain url.host
  port : other.effectivePort = url.effectivePort
  path : other.path = url.path
  query : other.query = url.query
  fragment : other.fragment = url.fragment

namespace IsRead

variable {url : Url} (h : url.IsRead)
include h

theorem sameTarget_again (userinfo : String) : url.SameTarget (url.again userinfo) where
  scheme := rfl
  host := rfl
  port := effectivePort_again h.scheme userinfo
  path := rfl
  query := rfl
  fragment := rfl

/-- A locator with a pair of keys. -/
theorem eq_again_of_withKeys {access secret : String} (h_access : access ≠ "")
    (h_secret : secret ≠ "") {keyed : Url}
    (h_ok : url.withKeys (some access) (some secret) = .ok keyed) :
    keyed = url.again (joinUserinfo access secret) ∧ keyed.username = percentDecode access ∧
      keyed.password ≠ "" := by
  have h_keys : url.withKeys (some access) (some secret) =
      (url.withUserinfo access secret).mapError fun _ => .invalidUrl :=
    if_pos ⟨h_access, h_secret⟩
  rw [h_keys] at h_ok
  have h_put := ok_of_mapError h_ok
  refine ⟨h.eq_again_of_withUserinfo h_put, username_of_withUserinfo h_put, ?_⟩
  rw [password_of_withUserinfo h_put, ne_eq, percentDecode_eq_empty_iff]
  exact h_secret

/-- A locator without its password. -/
theorem eq_again_of_withoutPassword (h_password : url.password ≠ "") {bare : Url}
    (h_ok : url.withoutPassword = .ok bare) :
    bare = url.again (joinUserinfo url.username redaction) := by
  unfold withoutPassword at h_ok
  rw [if_neg h_password] at h_ok
  exact h.eq_again_of_withUserinfo (ok_of_mapError h_ok)

/-- What is printed for logs is read as a locator with the same target. -/
theorem sameTarget_of_redacted {shown : String} {read : Url} (h_shown : url.redacted = .ok shown)
    (h_read : parse shown = .ok read) : url.SameTarget read := by
  unfold redacted at h_shown
  obtain ⟨bare, h_bare, rfl⟩ := ok_of_map h_shown
  by_cases h_password : url.password = ""
  · unfold withoutPassword at h_bare
    rw [if_pos h_password] at h_bare
    cases h_bare
    rw [h.eq_again_of_parse h_read]
    exact h.sameTarget_again _
  · have h_again := h.eq_again_of_withoutPassword h_password h_bare
    have h_form : bare.IsRead := by
      rw [h_again]
      exact h.again fun _ => userinfoSafe_of_mem_join
    rw [h_form.eq_again_of_parse h_read, h_again, h.again_again]
    exact h.sameTarget_again _

/-- What is printed of a locator with keys, written without the secret one. -/
theorem eq_of_redacted_keyed {access secret : String} (h_access : access ≠ "")
    (h_secret : secret ≠ "") {keyed : Url} {shown : String}
    (h_keyed : url.withKeys (some access) (some secret) = .ok keyed)
    (h_shown : keyed.redacted = .ok shown) :
    shown = (url.again (joinUserinfo (percentDecode access) redaction)).print := by
  obtain ⟨h_again, h_username, h_password⟩ := h.eq_again_of_withKeys h_access h_secret h_keyed
  have h_form : keyed.IsRead := by
    rw [h_again]
    exact h.again fun _ => userinfoSafe_of_mem_join
  unfold redacted at h_shown
  obtain ⟨bare, h_bare, rfl⟩ := ok_of_map h_shown
  rw [h_form.eq_again_of_withoutPassword h_password h_bare, h_username, h_again, h.again_again]

end IsRead

end Url

/-! ## Endpoints -/

namespace Endpoint

/-- An endpoint that can be read is a locator of a scheme that can be fetched, with a host. -/
theorem read_ok {text : String} {url : Url} (h : read text = .ok url) :
    Url.parse (trim text) = .ok url ∧ url.scheme ∈ supportedSchemes ∧
      ∃ host, url.unicodeHost = .ok host ∧ host ≠ "" := by
  unfold read at h
  split at h
  · cases h
  · split at h
    · cases h
    · rename_i parsed h_parse
      split at h
      · cases h
      · rename_i h_scheme
        split at h
        · cases h
        · rename_i host h_host
          split at h
          · cases h
          · rename_i h_named
            cases h
            refine ⟨h_parse, ?_, host, h_host, h_named⟩
            simpa using h_scheme

theorem isRead_of_read {text : String} {url : Url} (h : read text = .ok url) : url.IsRead := by
  obtain ⟨h_parse, h_scheme, host, h_host, h_named⟩ := read_ok h
  refine Url.isRead_of_parse h_parse h_scheme ?_
  intro h_empty
  rw [Url.unicodeHost, h_empty] at h_host
  exact h_named (Except.ok.inj h_host).symm

/-- The keys that are put into an endpoint, and the text it is shown by, leave its target as it was:
the scheme, the port in effect, the path, the query and the fragment are the same, and so is the
host, but that the escapes in a name are put in lower case.  What is shown of an endpoint with keys
is the same for every secret key. -/
theorem target_of_read {text : String} {url : Url} (h : read text = .ok url) {access secret : String}
    (h_access : access ≠ "") (h_secret : secret ≠ "") :
    (∀ keyed, url.withKeys (some access) (some secret) = .ok keyed → url.SameTarget keyed) ∧
      (∀ shown again, url.redacted = .ok shown → Url.parse shown = .ok again →
        url.SameTarget again) ∧
      ∀ other, other ≠ "" → ∀ keyed keyed' shown shown',
        url.withKeys (some access) (some secret) = .ok keyed →
        url.withKeys (some access) (some other) = .ok keyed' →
        keyed.redacted = .ok shown → keyed'.redacted = .ok shown' → shown = shown' := by
  have h_form := isRead_of_read h
  refine ⟨fun keyed h_keyed => ?_, fun shown again => h_form.sameTarget_of_redacted, ?_⟩
  · rw [(h_form.eq_again_of_withKeys h_access h_secret h_keyed).1]
    exact h_form.sameTarget_again _
  · intro other h_other keyed keyed' shown shown' h_keyed h_keyed' h_shown h_shown'
    rw [h_form.eq_of_redacted_keyed h_access h_secret h_keyed h_shown,
      h_form.eq_of_redacted_keyed h_access h_other h_keyed' h_shown']

theorem target_of_read_followed :
    let url : Url :=
      { scheme := "http", userinfo := "u:p", host := "h", port := some 81, path := "/b%20c" }
    let keyed : Url := { url with userinfo := "k:s" }
    let shown := "http://k:redacted@h:81/b%20c"
    read "http://u:p@H:81/a/../b c" = .ok url ∧ "k" ≠ "" ∧ "s" ≠ "" ∧
      url.withKeys (some "k") (some "s") = .ok keyed ∧ url.SameTarget keyed ∧
      (∀ again, Url.parse "http://u:redacted@h:81/b%20c" = .ok again → url.SameTarget again) ∧
      ∀ shown', keyed.redacted = .ok shown' → shown' = shown := by
  intro url keyed shown
  have h_read : read "http://u:p@H:81/a/../b c" = .ok url := ok_of_toOption (by decide +kernel)
  have h_keyed : url.withKeys (some "k") (some "s") = .ok keyed :=
    ok_of_toOption (by decide +kernel)
  have h_redacted : url.redacted = .ok "http://u:redacted@h:81/b%20c" :=
    ok_of_toOption (by decide +kernel)
  have h_other : url.withKeys (some "k") (some "t") = .ok { url with userinfo := "k:t" } :=
    ok_of_toOption (by decide +kernel)
  have h_shown : ({ url with userinfo := "k:t" } : Url).redacted = .ok shown :=
    ok_of_toOption (by decide +kernel)
  obtain ⟨h_target, h_again, h_same⟩ :=
    target_of_read h_read (show "k" ≠ "" by decide) (show "s" ≠ "" by decide)
  exact ⟨h_read, by decide, by decide, h_keyed, h_target _ h_keyed,
    fun again => h_again _ again h_redacted, fun shown' h_shown' =>
      h_same "t" (by decide) _ _ _ _ h_keyed h_other h_shown' h_shown⟩

/-- A name with a character that is escaped: behind the keys the escape is in lower case. -/
theorem escaped_host_changes :
    let url : Url := { scheme := "http", host := "a%5Eb", path := "/d" }
    let keyed : Url := { url with userinfo := "u:s", host := "a%5eb" }
    read "http://a^b/d" = .ok url ∧ url.withKeys (some "u") (some "s") = .ok keyed ∧
      keyed.host ≠ url.host :=
  ⟨ok_of_toOption (by decide +kernel), ok_of_toOption (by decide +kernel), by decide⟩

end Endpoint

end ImageIntake
