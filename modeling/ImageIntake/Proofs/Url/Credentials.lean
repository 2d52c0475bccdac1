/-
  ImageIntake.Proofs.Url.Credentials

  The credentials a locator carries after a user name and a password were put into
  it.  Encoding leaves no colon and nothing else that a second encoding would
  touch, so that the user information is read back in the two pieces it was made of
  (`userinfo_of_withUserinfo`).  Escapes are kept, and therefore what is read is the
  unescaped text of either (`username_of_withUserinfo`, `password_of_withUserinfo`).
-/

import Mathlib.Data.List.TakeDrop
import Mathlib.Data.List.TakeWhile
import ImageIntake.Proofs.Text.Percent
import ImageIntake.Url.Parser

namespace ImageIntake.Url

open ImageIntake.Text

/-! ## What credentials may hold -/

theorem hexDigit?_isSome_lt {c : Char} (h : (hexDigit? c).isSome = true) : c.toNat < 128 := by
  have h_chars : c ≤ '9' ∨ c ≤ 'f' ∨ c ≤ 'F' := by
    unfold hexDigit? at h
    split_ifs at h with h_digit h_lower h_upper
    · exact .inl h_digit.2
    · exact .inr (.inl h_lower.2)
    · exact .inr (.inr h_upper.2)
    · contradiction
  simp only [Char.le_def, UInt32.le_iff_toNat_le] at h_chars
  have h_nat : c.toNat = c.val.toNat := rfl
  have h_nine : '9'.val.toNat = 57 := rfl
  have h_f : 'f'.val.toNat = 102 := rfl
  have h_F : 'F'.val.toNat = 70 := rfl
  omega

theorem credentialSafe_keepsEscapes : KeepsEscapes credentialSafe where
  percent := by decide
  digit := by
    intro c h
    have h_all : ∀ n : Fin 128, (hexDigit? (Char.ofNat n.val)).isSome = true →
        credentialSafe (Char.ofNat n.val) = true := by decide +kernel
    have h_char := h_all ⟨c.toNat, hexDigit?_isSome_lt h⟩
    rw [Char.ofNat_toNat] at h_char
    exact h_char h

theorem userinfoSafe_of_credentialSafe {c : Char} (h : credentialSafe c = true) :
    userinfoSafe c = true := by
  rw [credentialSafe, Bool.and_eq_true] at h
  exact h.1

theorem ne_colon_of_credentialSafe {c : Char} (h : credentialSafe c = true) : c ≠ ':' := by
  rw [credentialSafe, Bool.and_eq_true] at h
  exact bne_iff_ne.mp h.2

theorem credentialSafe_of_mem_encoded {c : Char} {s : String}
    (h : c ∈ (percentEncode credentialSafe s).toList) : credentialSafe c = true := by
  rw [percentEncode, String.toList_ofList] at h
  exact credentialSafe_keepsEscapes.safe_of_mem_encoded h

theorem userinfoSafe_of_mem_join {c : Char} {user password : String}
    (h : c ∈ (joinUserinfo user password).toList) : userinfoSafe c = true := by
  unfold joinUserinfo at h
  dsimp only at h
  split_ifs at h with h_empty
  · exact userinfoSafe_of_credentialSafe (credentialSafe_of_mem_encoded h)
  · simp only [String.toList_append, List.mem_append] at h
    rcases h with (h | h) | h
    · exact userinfoSafe_of_credentialSafe (credentialSafe_of_mem_encoded h)
    · rw [List.mem_singleton.mp h]
      decide
    · exact userinfoSafe_of_credentialSafe (credentialSafe_of_mem_encoded h)

/-! ## Reading a locator again -/

theorem userinfo_of_ofParts {parts : RawParts} {auth : RawAuthority} {url : Url}
    (h : ofParts parts auth = .ok url) : url.userinfo = escape userinfoSafe auth.userinfo := by
  unfold ofParts at h
  cases h_host : readHost auth.host with
  | error defect =>
    rw [h_host] at h
    contradiction
  | ok host =>
    cases h_port : readPort parts.scheme auth.port with
    | error defect =>
      rw [h_host, h_port] at h
      contradiction
    | ok port =>
      rw [h_host, h_port] at h
      dsimp only [bind, Except.bind] at h
      split_ifs at h
      all_goals
        cases h
        rfl

theorem userinfo_of_reread {parts : RawParts} {change : RawAuthority → RawAuthority} {url : Url}
    (h : reread parts change = .ok url) :
    url.userinfo = escape userinfoSafe (change (cutAuthority parts.authority)).userinfo := by
  unfold reread at h
  split_ifs at h
  exact userinfo_of_ofParts h

/-- The user information that is put into a locator is read back letter by letter. -/
theorem userinfo_of_withUserinfo {url changed : Url} {user password : String}
    (h : url.withUserinfo user password = .ok changed) :
    changed.userinfo = joinUserinfo user password := by
  unfold withUserinfo at h
  dsimp only at h
  split_ifs at h
  rw [userinfo_of_reread h, escape,
    flatMap_percentChar_of_safe fun c h_mem => userinfoSafe_of_mem_join h_mem, String.ofList_toList]

/-! ## The two pieces -/

theorem userinfoParts_of_withUserinfo {url changed : Url} {user password : String}
    (h : url.withUserinfo user password = .ok changed) :
    changed.userinfoParts =
      ((percentEncode credentialSafe user).toList, (percentEncode credentialSafe password).toList) := by
  have h_user : ∀ c ∈ (percentEncode credentialSafe user).toList, decide (c ≠ ':') = true :=
    fun c h_mem => decide_eq_true (ne_colon_of_credentialSafe (credentialSafe_of_mem_encoded h_mem))
  rw [userinfoParts, userinfo_of_withUserinfo h, joinUserinfo]
  dsimp only
  split_ifs with h_empty
  · rw [List.span_eq_takeWhile_dropWhile, List.takeWhile_eq_self_iff.mpr h_user,
      List.dropWhile_eq_nil_iff.mpr h_user, h_empty]
    rfl
  · have h_join : (percentEncode credentialSafe user ++ ":" ++
        percentEncode credentialSafe password).toList =
        (percentEncode credentialSafe user).toList ++
          ':' :: (percentEncode credentialSafe password).toList := by
      rw [String.toList_append, String.toList_append, List.append_assoc]
      rfl
    rw [h_join, List.span_eq_takeWhile_dropWhile, List.takeWhile_append_of_pos h_user,
      List.dropWhile_append_of_pos h_user]
    simp

/-- The user name of a locator that was given one. -/
theorem username_of_withUserinfo {url changed : Url} {user password : String}
    (h : url.withUserinfo user password = .ok changed) :
    changed.username = percentDecode user := by
  rw [username, userinfoParts_of_withUserinfo h, String.ofList_toList,
    credentialSafe_keepsEscapes.percentDecode_percentEncode]

/-- The password of a locator that was given one. -/
theorem password_of_withUserinfo {url changed : Url} {user password : String}
    (h : url.withUserinfo user password = .ok changed) :
    changed.password = percentDecode password := by
  rw [Url.password, userinfoParts_of_withUserinfo h, String.ofList_toList,
    credentialSafe_keepsEscapes.percentDecode_percentEncode]

end ImageIntake.Url
