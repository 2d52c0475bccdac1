/-
  ImageIntake.Proofs.Url.Alike

  Locators that are alike: the same, or apart.  They stay alike when another locator is
  resolved against them (`join_alike`), when they are asked for (`Alike.requestTarget`),
  and when keys are put into them, be it the same ones (`withKeys_alike`) or two secret
  keys that are equally long in their escaped forms (`withKeys_secret`).
-/

import ImageIntake.Proofs.Url.Apart
import ImageIntake.Url.Join

namespace ImageIntake.Url

open ImageIntake.Text

/-! ## Texts of locators and of references -/

/-- What follows the user information in the text of a locator. -/
def afterUserinfo (url : Url) : String :=
  url.place ++ url.path ++
  (match url.query with
    | some query => "?" ++ query
    | none => "") ++
  (match url.fragment with
    | some fragment => "#" ++ fragment
    | none => "")

theorem ne_empty_of_web {scheme : String} (h : scheme ∈ webSchemes) : scheme ≠ "" := by
  rintro rfl
  revert h
  decide

theorem print_of_userinfo {url : Url} (h_scheme : url.scheme ∈ webSchemes)
    (h_info : url.userinfo ≠ "") :
    url.print.toList = textOf url.scheme url.userinfo.toList url.afterUserinfo.toList := by
  have h_named := ne_empty_of_web h_scheme
  have h_authority : url.authority = url.userinfo ++ "@" ++ url.place := by
    rw [authority, if_neg h_info]
  have h_some : url.authority ≠ "" := by
    rw [h_authority]
    simp [String.append_eq_empty_iff]
  unfold print afterUserinfo textOf
  rw [if_neg h_named, if_neg h_some, h_authority]
  simp only [String.toList_append, List.append_assoc]
  rfl

theorem Apart.print {u v : Url} (h : u.Apart v) : TextApart u.print.toList v.print.toList := by
  obtain ⟨h_u, h_v⟩ := h.userinfo_ne_empty
  have h_scheme : v.scheme = u.scheme := by rw [h.rest]
  have h_after : v.afterUserinfo = u.afterUserinfo := by
    rw [h.rest]
    rfl
  have h_web : v.scheme ∈ webSchemes := by
    rw [h_scheme]
    exact h.scheme
  rw [print_of_userinfo h.scheme h_u, print_of_userinfo h_web h_v, h_scheme, h_after]
  exact .mk u.scheme _ h.scheme h.info

/-- User information makes no difference to what follows it in the text of a reference. -/
theorem write_of_userinfo {r : Reference} (h_scheme : r.scheme ≠ "") (A : List Char) :
    ∃ R, ∀ U, { r with authority := U ++ '@' :: A }.write = textOf r.scheme U R := by
  obtain ⟨path, h_path⟩ :
      ∃ path, path = if r.parameters.isEmpty then r.path else r.path ++ ';' :: r.parameters :=
    ⟨_, rfl⟩
  refine ⟨A ++ (if path.isEmpty || path.head? = some '/' then path else '/' :: path) ++
    (if r.query.isEmpty then [] else '?' :: r.query) ++
    (if r.fragment.isEmpty then [] else '#' :: r.fragment), fun U => ?_⟩
  have h_authority : (U ++ '@' :: A).isEmpty = false := by simp
  unfold Reference.write
  dsimp only
  rw [← h_path, h_authority, if_neg h_scheme]
  simp [textOf]

theorem TextApart.write {r : Reference} (h_scheme : r.scheme ∈ webSchemes) {U V : List Char}
    (h : InfoApart U V) (A : List Char) :
    TextApart { r with authority := U ++ '@' :: A }.write
      { r with authority := V ++ '@' :: A }.write := by
  obtain ⟨R, h_write⟩ := write_of_userinfo (ne_empty_of_web h_scheme) A
  rw [h_write U, h_write V]
  exact .mk r.scheme R h_scheme h

theorem read_textOf (given : String) {scheme : String} (h_scheme : scheme ∈ webSchemes)
    {U : List Char} (h_U : ∀ c ∈ U, userinfoSafe c = true) (R : List Char) :
    Reference.read given (textOf scheme U R) =
      { Reference.read given (textOf scheme [] R) with
        authority := U ++ (cut (textOf scheme [] R)).authority } := by
  unfold Reference.read
  rw [cut_textOf h_scheme h_U]

theorem scheme_read_textOf (given : String) {scheme : String} (h_scheme : scheme ∈ webSchemes)
    (R : List Char) : (Reference.read given (textOf scheme [] R)).scheme = scheme := by
  have h_some : scheme.toList.isEmpty = false := by
    rcases web_cases h_scheme with rfl | rfl <;> rfl
  unfold Reference.read
  dsimp only
  rw [scheme_cut_textOf h_scheme, h_some, String.ofList_toList, asciiLower_web h_scheme]
  rfl

/-- A reference resolved against texts with different passwords: the password comes along, or
nothing is left of it. -/
theorem TextApart.resolve {cs ds : List Char} (h : TextApart cs ds) (reference : List Char) :
    resolve cs reference = resolve ds reference ∨
      TextApart (resolve cs reference) (resolve ds reference) := by
  obtain ⟨scheme, R, h_scheme, h_info⟩ := h
  obtain ⟨A, h_authority⟩ := mem_authority_cut_textOf h_scheme R
  have h_some (U : List Char) : (textOf scheme U R).isEmpty = false := by simp [textOf]
  have h_base := scheme_read_textOf "" h_scheme R
  have h_kept : authoritySchemes.contains scheme = true := by
    rcases web_cases h_scheme with rfl | rfl <;> decide
  unfold Url.resolve
  rw [h_some, h_some, if_neg Bool.false_ne_true, if_neg Bool.false_ne_true]
  by_cases h_reference : reference.isEmpty = true
  · rw [if_pos h_reference, if_pos h_reference]
    exact .inr (.mk scheme R h_scheme h_info)
  rw [if_neg h_reference, if_neg h_reference, read_textOf "" h_scheme h_info.safe,
    read_textOf "" h_scheme h_info.symm.safe, h_authority]
  dsimp only
  rw [h_base]
  by_cases h_other : (Reference.read scheme reference).scheme ≠ scheme ∨
      (!relativeSchemes.contains (Reference.read scheme reference).scheme) = true
  · rw [if_pos h_other, if_pos h_other]
    exact .inl rfl
  rw [if_neg h_other, if_neg h_other]
  by_cases h_own : (authoritySchemes.contains (Reference.read scheme reference).scheme &&
      !(Reference.read scheme reference).authority.isEmpty) = true
  · rw [if_pos h_own, if_pos h_own]
    exact .inl rfl
  rw [if_neg h_own, if_neg h_own]
  have h_same : (Reference.read scheme reference).scheme = scheme := by
    by_contra h_differs
    exact h_other (.inl h_differs)
  rw [h_same, if_pos h_kept, if_pos h_kept]
  -- The authority of the base is taken over, whatever path and query come behind it.
  dsimp only
  split
  · exact .inr (TextApart.write (r := ⟨scheme, [], _, _, _, _⟩) h_scheme h_info A)
  · exact .inr (TextApart.write (r := ⟨scheme, [], _, _, _, _⟩) h_scheme h_info A)

/-! ## Locators that are alike -/

/-- Locators that are the same, or the same but for their passwords. -/
def Alike (u v : Url) : Prop := u = v ∨ u.Apart v

theorem Alike.refl (u : Url) : u.Alike u := .inl rfl

/-- A reference resolved against locators that are alike. -/
theorem join_alike {u v : Url} (h : u.Alike v) (reference : Url) :
    Agree Eq Alike (u.join reference) (v.join reference) := by
  rcases h with rfl | h
  · exact .of_eq Alike.refl rfl
  · unfold join
    rcases h.print.resolve reference.print.toList with h_same | h_apart
    · rw [h_same]
      exact .of_eq Alike.refl rfl
    · exact h_apart.parse.mono fun _ _ => .inr

namespace Alike

variable {u v : Url} (h : u.Alike v)
include h

theorem rest : v = { u with userinfo := v.userinfo } := by
  rcases h with rfl | h
  · rfl
  · exact h.rest

theorem redacted : u.redacted = v.redacted := by
  rcases h with rfl | h
  · rfl
  · exact h.redacted

theorem scheme : u.scheme = v.scheme := by rw [h.rest]

theorem place : u.place = v.place := by
  rw [h.rest]
  rfl

theorem isRelative : u.isRelative = v.isRelative := by
  rw [h.rest]
  rfl

theorem unicodeHost : u.unicodeHost = v.unicodeHost := by
  rw [h.rest]
  rfl

theorem effectivePort : u.effectivePort = v.effectivePort := by
  rw [h.rest]
  rfl

theorem plainFragment : u.plainFragment = v.plainFragment := by
  rw [h.rest]
  rfl

theorem withFragment (fragment : String) :
    Agree Eq Alike (u.withFragment fragment) (v.withFragment fragment) := by
  rcases h with rfl | h
  · exact .of_eq Alike.refl rfl
  · exact (h.withFragment fragment).mono fun _ _ => .inr

theorem requestTarget : Agree Eq Alike u.requestTarget v.requestTarget := by
  have h_relative := h.isRelative
  unfold Url.requestTarget
  rw [h_relative]
  split
  · -- Only the path and the query are kept.
    rw [h.rest]
    exact .of_eq Alike.refl rfl
  · exact .ok h

end Alike

/-! ## Keys -/

theorem withKeys_alike {u v : Url} (h : u.Alike v) (accessKey secretKey : Option String) :
    Agree Eq Alike (u.withKeys accessKey secretKey) (v.withKeys accessKey secretKey) := by
  unfold withKeys
  split
  · split
    · rcases h with rfl | h
      · exact .of_eq Alike.refl rfl
      · rw [h.withUserinfo]
        exact .of_eq Alike.refl rfl
    · exact .ok h
  · exact .ok h

theorem joinUserinfo_apart (user : String) {p q : String} (h_p : p ≠ "") (h_q : q ≠ "")
    (h_length : (percentEncode credentialSafe p).length = (percentEncode credentialSafe q).length) :
    InfoApart (joinUserinfo user p).toList (joinUserinfo user q).toList := by
  have h_some {r : String} (h_r : r ≠ "") : percentEncode credentialSafe r ≠ "" :=
    escape_ne_empty fun h_nil => h_r (String.toList_eq_nil_iff.mp h_nil)
  have h_join {r : String} (h_r : r ≠ "") : (joinUserinfo user r).toList =
      (percentEncode credentialSafe user).toList ++
        ':' :: (percentEncode credentialSafe r).toList := by
    rw [joinUserinfo, if_neg (h_some h_r), String.toList_append, String.toList_append,
      List.append_assoc]
    rfl
  have h_chars {r : String} {c : Char} (h_c : c ∈ (percentEncode credentialSafe r).toList) :
      userinfoSafe c = true :=
    userinfoSafe_of_credentialSafe (credentialSafe_of_mem_encoded h_c)
  rw [h_join h_p, h_join h_q]
  refine ⟨?_, ?_, ?_, ?_, ?_⟩
  · intro h_mem
    exact ne_colon_of_credentialSafe (credentialSafe_of_mem_encoded h_mem) rfl
  · exact fun h_nil => h_some h_p (String.toList_eq_nil_iff.mp h_nil)
  · exact fun h_nil => h_some h_q (String.toList_eq_nil_iff.mp h_nil)
  · rw [String.length_toList, String.length_toList, h_length]
  · intro c h_mem
    rcases List.mem_append.mp h_mem with h_mem | h_mem
    · rcases List.mem_append.mp h_mem with h_mem | h_mem <;> exact h_chars h_mem
    · exact h_chars h_mem

/-- A locator that is given one of two secret keys. -/
theorem withKeys_secret {url : Url} (h_scheme : url.scheme ∈ webSchemes)
    (accessKey : Option String) {p q : String} (h_p : p ≠ "") (h_q : q ≠ "")
    (h_length : (percentEncode credentialSafe p).length = (percentEncode credentialSafe q).length) :
    Agree Eq Alike (url.withKeys accessKey (some p)) (url.withKeys accessKey (some q)) := by
  cases accessKey with
  | none => exact .ok (.refl url)
  | some access =>
    unfold withKeys
    by_cases h_access : access = ""
    · simp only [h_access, ne_eq, not_true, false_and, if_false]
      exact .ok (.refl url)
    · have h_apart := joinUserinfo_apart access h_p h_q h_length
      have h_readable := isReadable_append [] h_apart []
      simp only [List.append_nil, List.nil_append] at h_readable
      dsimp only
      rw [if_pos ⟨h_access, h_p⟩, if_pos ⟨h_access, h_q⟩]
      refine Agree.mapError (S := Eq) ?_ fun _ _ _ => rfl
      unfold withUserinfo
      dsimp only
      rw [h_readable]
      split
      · exact (reread_put h_apart h_scheme rfl).mono fun _ _ => .inr
      · exact .error rfl

/-- What a locator is read from has its user information escaped. -/
theorem userinfoSafe_of_parse {text : String} {url : Url} (h : parse text = .ok url) :
    ∀ c ∈ url.userinfo.toList, userinfoSafe c = true := by
  unfold parse at h
  dsimp only at h
  split at h
  · rw [userinfo_of_ofParts h, escape, String.toList_ofList]
    intro c h_mem
    exact userinfoSafe_keepsEscapes.safe_of_mem_encoded h_mem
  · contradiction

/-- User information with a password in it divides at its first colon. -/
theorem userinfo_divided {w : Url} (h_w : w.userinfoParts.2 ≠ []) :
    w.userinfo.toList = w.userinfoParts.1 ++ ':' :: w.userinfoParts.2 ∧
      ':' ∉ w.userinfoParts.1 := by
  have h_parts : w.userinfoParts = (w.userinfo.toList.takeWhile (· ≠ ':'),
      (w.userinfo.toList.dropWhile (· ≠ ':')).drop 1) := by
    rw [userinfoParts, List.span_eq_takeWhile_dropWhile]
  have h_whole := List.takeWhile_append_dropWhile (p := (· ≠ ':')) (l := w.userinfo.toList)
  have h_head := List.head?_dropWhile_not (· ≠ ':') w.userinfo.toList
  rw [h_parts] at h_w ⊢
  dsimp only at h_w ⊢
  cases h_rest : w.userinfo.toList.dropWhile (· ≠ ':') with
  | nil =>
    rw [h_rest] at h_w
    contradiction
  | cons c rest =>
    rw [h_rest] at h_head h_whole
    have h_c : c = ':' := by simpa using h_head
    rw [h_c] at h_whole
    refine ⟨h_whole.symm, ?_⟩
    intro h_mem
    simpa using List.mem_takeWhile_imp h_mem

/-- User information that was read, with one user and two passwords. -/
theorem infoApart_of_parts {u v : Url} (h_u : ∀ c ∈ u.userinfo.toList, userinfoSafe c = true)
    (h_v : ∀ c ∈ v.userinfo.toList, userinfoSafe c = true)
    (h_user : u.userinfoParts.1 = v.userinfoParts.1) (h_p : u.userinfoParts.2 ≠ [])
    (h_q : v.userinfoParts.2 ≠ [])
    (h_length : u.userinfoParts.2.length = v.userinfoParts.2.length) :
    InfoApart u.userinfo.toList v.userinfo.toList := by
  obtain ⟨h_left, h_colon⟩ := userinfo_divided h_p
  obtain ⟨h_right, -⟩ := userinfo_divided h_q
  rw [h_left, h_right, ← h_user]
  refine ⟨h_colon, h_p, h_q, h_length, ?_⟩
  intro c h_mem
  rcases List.mem_append.mp h_mem with h_mem | h_mem
  · apply h_u
    rw [h_left]
    simp only [List.mem_append, List.mem_cons] at h_mem ⊢
    tauto
  · apply h_v
    rw [h_right]
    simp only [List.mem_append, List.mem_cons]
    tauto

end ImageIntake.Url
