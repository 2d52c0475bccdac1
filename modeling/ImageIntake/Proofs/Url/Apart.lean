/-
  ImageIntake.Proofs.Url.Apart

  Locators that are apart: the same but for a password, the two passwords being equally
  long in their escaped forms.  User information is the only part that a password goes to
  (`cut_textOf`, `cutAuthority_append`), and which user information there is matters to
  no other part (`ofParts_userinfo`).  So locators that are read from texts with two
  passwords, or read again, are apart (`TextApart.parse`, `reread_agree`), and where the
  user information is replaced they are the same (`reread_replaced`).  Logs show the same
  of them (`Apart.redacted`).
-/

import ImageIntake.Endpoint
import ImageIntake.Proofs.Agreement
import ImageIntake.Proofs.Text.Splitting
import ImageIntake.Proofs.Url.Credentials
import ImageIntake.Url.Join

namespace ImageIntake.Url

open ImageIntake.Text

/-! ## User information -/

theorem userinfoSafe_keepsEscapes : KeepsEscapes userinfoSafe where
  percent := by decide
  digit c h := userinfoSafe_of_credentialSafe (credentialSafe_keepsEscapes.digit c h)

theorem userinfoSafe_readable {c : Char} (h : userinfoSafe c = true) :
    (0x20 ≤ c.toNat && c.toNat != 0x7F) = true := by
  simp only [userinfoSafe, printableBut, Bool.and_eq_true, decide_eq_true_eq] at h
  have h_ne : c.toNat ≠ 0x7F := by omega
  simp [h.1.1, h_ne]

theorem userinfoSafe_plain {c : Char} (h : userinfoSafe c = true) :
    (c ≠ '/' && c ≠ '?' && c ≠ '#') = true := by
  have h_marks : userinfoSafe '/' = false ∧ userinfoSafe '?' = false ∧ userinfoSafe '#' = false := by
    decide
  obtain ⟨h_slash, h_question, h_sign⟩ := h_marks
  have h_ne {d : Char} (h_d : userinfoSafe d = false) : c ≠ d := by
    rintro rfl
    rw [h] at h_d
    contradiction
  simp [h_ne h_slash, h_ne h_question, h_ne h_sign]

/-- User information of one user with two passwords, equally long and neither of them empty. -/
inductive InfoApart : List Char → List Char → Prop
  | mk {user p q : List Char} (h_user : ':' ∉ user) (h_p : p ≠ []) (h_q : q ≠ [])
      (h_length : p.length = q.length) (h_safe : ∀ c ∈ user ++ p ++ q, userinfoSafe c = true) :
      InfoApart (user ++ ':' :: p) (user ++ ':' :: q)

namespace InfoApart

variable {U V : List Char}

theorem symm (h : InfoApart U V) : InfoApart V U := by
  obtain ⟨h_user, h_p, h_q, h_length, h_safe⟩ := h
  refine ⟨h_user, h_q, h_p, h_length.symm, ?_⟩
  intro c h_mem
  apply h_safe
  simp only [List.mem_append] at h_mem ⊢
  tauto

theorem ne_nil (h : InfoApart U V) : U ≠ [] := by
  obtain ⟨h_user, h_p, h_q, h_length, h_safe⟩ := h
  exact List.append_ne_nil_of_right_ne_nil _ (List.cons_ne_nil _ _)

theorem length_eq (h : InfoApart U V) : U.length = V.length := by
  obtain ⟨h_user, h_p, h_q, h_length, h_safe⟩ := h
  simp only [List.length_append, List.length_cons, h_length]

theorem safe (h : InfoApart U V) : ∀ c ∈ U, userinfoSafe c = true := by
  obtain ⟨h_user, h_p, h_q, h_length, h_safe⟩ := h
  intro c h_mem
  rcases List.mem_append.mp h_mem with h_in | h_in
  · exact h_safe c (List.mem_append_left _ (List.mem_append_left _ h_in))
  · rcases List.mem_cons.mp h_in with rfl | h_in
    · decide
    · exact h_safe c (List.mem_append_left _ (List.mem_append_right _ h_in))

/-- What stands behind both passwords belongs to both. -/
theorem append (h : InfoApart U V) {X : List Char} (h_X : ∀ c ∈ X, userinfoSafe c = true) :
    InfoApart (U ++ X) (V ++ X) := by
  obtain ⟨h_user, h_p, h_q, h_length, h_safe⟩ := h
  rw [List.append_assoc, List.append_assoc, List.cons_append, List.cons_append]
  refine ⟨h_user, ?_, ?_, ?_, ?_⟩
  · exact List.append_ne_nil_of_left_ne_nil h_p _
  · exact List.append_ne_nil_of_left_ne_nil h_q _
  · rw [List.length_append, List.length_append, h_length]
  · intro c h_mem
    simp only [List.mem_append] at h_mem h_safe
    by_cases h_in : c ∈ X
    · exact h_X c h_in
    · apply h_safe
      tauto

end InfoApart

/-! ## Texts -/

/-- The text of a locator of the web with user information; the rest of it follows the at sign. -/
def textOf (scheme : String) (U R : List Char) : List Char :=
  scheme.toList ++ ':' :: '/' :: '/' :: (U ++ '@' :: R)

theorem web_cases {scheme : String} (h : scheme ∈ webSchemes) :
    scheme = "http" ∨ scheme = "https" := by
  simpa [webSchemes] using h

theorem takeScheme_web {scheme : String} (h : scheme ∈ webSchemes) (rest : List Char) :
    takeScheme (scheme.toList ++ ':' :: rest) = (scheme.toList, rest) := by
  rcases web_cases h with rfl | rfl <;> rfl

theorem takeAuthority_append {U : List Char} (h_U : ∀ c ∈ U, userinfoSafe c = true)
    (R : List Char) :
    takeAuthority ('/' :: '/' :: (U ++ R)) =
      (U ++ (takeAuthority ('/' :: '/' :: R)).1, (takeAuthority ('/' :: '/' :: R)).2) := by
  have h_plain : ∀ c ∈ U, (c ≠ '/' && c ≠ '?' && c ≠ '#') = true :=
    fun c h_mem => userinfoSafe_plain (h_U c h_mem)
  simp only [takeAuthority]
  rw [List.span_eq_takeWhile_dropWhile, List.span_eq_takeWhile_dropWhile,
    List.takeWhile_append_of_pos h_plain, List.dropWhile_append_of_pos h_plain]

/-- User information in front of a text goes to its authority. -/
theorem cut_textOf {scheme : String} (h_scheme : scheme ∈ webSchemes) {U : List Char}
    (h_U : ∀ c ∈ U, userinfoSafe c = true) (R : List Char) :
    cut (textOf scheme U R) =
      { cut (textOf scheme [] R) with
        authority := U ++ (cut (textOf scheme [] R)).authority } := by
  unfold cut textOf
  rw [takeScheme_web h_scheme, takeScheme_web h_scheme, List.nil_append]
  dsimp only
  rw [takeAuthority_append h_U]

theorem scheme_cut_textOf {scheme : String} (h_scheme : scheme ∈ webSchemes) (R : List Char) :
    (cut (textOf scheme [] R)).scheme = scheme.toList := by
  unfold cut textOf
  rw [takeScheme_web h_scheme]

theorem mem_authority_cut_textOf {scheme : String} (h_scheme : scheme ∈ webSchemes)
    (R : List Char) : ∃ A, (cut (textOf scheme [] R)).authority = '@' :: A := by
  unfold cut textOf
  rw [takeScheme_web h_scheme, List.nil_append]
  simp [takeAuthority, List.span_eq_takeWhile_dropWhile]

/-! ## Authorities -/

/-- User information reaches to the last at sign. -/
theorem cutAuthority_at (info : List Char) {place : List Char} (h : '@' ∉ place) :
    cutAuthority (info ++ '@' :: place) =
      { userinfo := info, host := (cutHost place).1, port := (cutHost place).2 } := by
  have h_count : (info ++ '@' :: place).length - place.length - 1 = info.length := by
    rw [List.length_append, List.length_cons]
    omega
  unfold cutAuthority
  simp only [reverse_takeWhile_at info h]
  rw [h_count, List.take_left]

theorem cutAuthority_append (U : List Char) {x : List Char} (h : '@' ∈ x) :
    cutAuthority (U ++ x) = { cutAuthority x with userinfo := U ++ (cutAuthority x).userinfo } := by
  obtain ⟨info, place, rfl, h_place⟩ := exists_last h
  rw [← List.append_assoc, cutAuthority_at _ h_place, cutAuthority_at _ h_place]

/-! ## Locators -/

/-- Locators of the web that are the same but for their passwords. -/
structure Apart (u v : Url) : Prop where
  scheme : u.scheme ∈ webSchemes
  info : InfoApart u.userinfo.toList v.userinfo.toList
  rest : v = { u with userinfo := v.userinfo }

/-! ## Reading -/

theorem isReadable_append (before : List Char) {U V : List Char} (h : InfoApart U V)
    (after : List Char) :
    isReadable (before ++ (U ++ after)) = isReadable (before ++ (V ++ after)) := by
  have h_clear {W : List Char} (h_W : ∀ c ∈ W, userinfoSafe c = true) :
      (W.all fun c => 0x20 ≤ c.toNat && c.toNat != 0x7F) = true :=
    List.all_eq_true.mpr fun c h_mem => userinfoSafe_readable (h_W c h_mem)
  unfold isReadable
  simp only [List.length_append, List.all_append, h.length_eq, h_clear h.safe, h_clear h.symm.safe]

theorem escape_ne_empty {safe : Char → Bool} {cs : List Char} (h : cs ≠ []) :
    escape safe cs ≠ "" := by
  obtain ⟨c, rest, rfl⟩ := List.exists_cons_of_ne_nil h
  intro h_empty
  have h_chars := congrArg String.toList h_empty
  rw [escape, String.toList_ofList, List.flatMap_cons] at h_chars
  have h_first : percentChar safe c = [] := (List.append_eq_nil_iff.mp h_chars).1
  cases h_safe : safe c with
  | true =>
    rw [percentChar_of_safe h_safe] at h_first
    contradiction
  | false =>
    obtain ⟨more, h_more⟩ := percentChar_head h_safe
    rw [h_more] at h_first
    contradiction

/-- What a locator with user information is read from. -/
theorem ofParts_of_userinfo (parts : RawParts) (auth : RawAuthority) (h : auth.userinfo ≠ []) :
    ofParts parts auth =
      match readHost auth.host with
      | .error defect => .error defect
      | .ok host =>
        match readPort parts.scheme auth.port with
        | .error defect => .error defect
        | .ok port =>
          if !pathFits (!parts.scheme.isEmpty) true parts.path then .error .path
          else .ok {
            scheme := asciiLower (String.ofList parts.scheme)
            userinfo := escape userinfoSafe auth.userinfo
            host
            port
            path := escape pathSafe (removeDots parts.path)
            query := parts.query.map (escape querySafe)
            fragment := parts.fragment.map (escape fragmentSafe) } := by
  have h_info : escape userinfoSafe auth.userinfo ≠ "" := escape_ne_empty h
  unfold ofParts
  cases readHost auth.host with
  | error defect => rfl
  | ok host =>
    cases readPort parts.scheme auth.port with
    | error defect => rfl
    | ok port =>
      simp only [bind, Except.bind, h_info, ne_eq, not_false_eq_true, decide_true, Bool.true_or,
        Bool.or_true, if_true]
      split <;> rfl

/-- Which user information there is matters to no other part, as long as there is any. -/
theorem ofParts_userinfo (parts : RawParts) (auth : RawAuthority) {U V : List Char} (h_U : U ≠ [])
    (h_V : V ≠ []) :
    ofParts parts { auth with userinfo := V } =
      (ofParts parts { auth with userinfo := U }).map
        fun url => { url with userinfo := escape userinfoSafe V } := by
  rw [ofParts_of_userinfo parts { auth with userinfo := U } h_U,
    ofParts_of_userinfo parts { auth with userinfo := V } h_V]
  cases readHost auth.host with
  | error defect => rfl
  | ok host =>
    cases readPort parts.scheme auth.port with
    | error defect => rfl
    | ok port =>
      dsimp only
      split <;> rfl

theorem scheme_of_ofParts {parts : RawParts} {auth : RawAuthority} {url : Url}
    (h_info : auth.userinfo ≠ []) (h : ofParts parts auth = .ok url) :
    url.scheme = asciiLower (String.ofList parts.scheme) := by
  rw [ofParts_of_userinfo parts auth h_info] at h
  split at h
  · contradiction
  · split at h
    · contradiction
    · split at h
      · contradiction
      · cases h
        rfl

theorem asciiLower_web {scheme : String} (h : scheme ∈ webSchemes) : asciiLower scheme = scheme := by
  rcases web_cases h with rfl | rfl <;> decide +kernel

/-- Parts with different passwords are no locators either, or locators that are apart. -/
theorem ofParts_agree {scheme : String} {parts : RawParts} (h_scheme : scheme ∈ webSchemes)
    (h_parts : parts.scheme = scheme.toList) (auth : RawAuthority) {U V : List Char}
    (h : InfoApart U V) (X : List Char) :
    Agree Eq Apart (ofParts parts { auth with userinfo := U ++ X })
      (ofParts parts { auth with userinfo := V ++ X }) := by
  have h_U : U ++ X ≠ [] := List.append_ne_nil_of_left_ne_nil h.ne_nil X
  have h_V : V ++ X ≠ [] := List.append_ne_nil_of_left_ne_nil h.symm.ne_nil X
  -- Escaping leaves both passwords as they are.
  have h_escape {W : List Char} (h_W : ∀ c ∈ W, userinfoSafe c = true) :
      (escape userinfoSafe (W ++ X)).toList = W ++ X.flatMap (percentChar userinfoSafe) := by
    rw [escape, String.toList_ofList, List.flatMap_append, flatMap_percentChar_of_safe h_W]
  rw [ofParts_userinfo parts auth h_U h_V]
  cases h_read : ofParts parts { auth with userinfo := U ++ X } with
  | error defect => exact .error rfl
  | ok url =>
    have h_info : url.userinfo = escape userinfoSafe (U ++ X) := userinfo_of_ofParts h_read
    refine .ok ⟨?_, ?_, rfl⟩
    · rw [scheme_of_ofParts h_U h_read, h_parts, String.ofList_toList, asciiLower_web h_scheme]
      exact h_scheme
    · rw [h_info, h_escape h.safe, h_escape h.symm.safe]
      exact h.append fun c h_mem => userinfoSafe_keepsEscapes.safe_of_mem_encoded h_mem

/-! ## Locators read from texts -/

/-- Texts of the web that are the same but for the passwords in them. -/
inductive TextApart : List Char → List Char → Prop
  | mk (scheme : String) {U V : List Char} (R : List Char) (h_scheme : scheme ∈ webSchemes)
      (h : InfoApart U V) : TextApart (textOf scheme U R) (textOf scheme V R)

theorem textOf_eq_append (scheme : String) (U R : List Char) :
    textOf scheme U R = (scheme.toList ++ [':', '/', '/']) ++ (U ++ '@' :: R) := by
  rw [textOf, List.append_assoc]
  rfl

theorem TextApart.isReadable {cs ds : List Char} (h : TextApart cs ds) :
    isReadable cs = isReadable ds := by
  obtain ⟨scheme, R, h_scheme, h_info⟩ := h
  rw [textOf_eq_append, textOf_eq_append]
  exact isReadable_append _ h_info _

/-- Such texts are no locators either, or locators that are apart. -/
theorem TextApart.parse {cs ds : List Char} (h : TextApart cs ds) :
    Agree Eq Apart (parse (String.ofList cs)) (parse (String.ofList ds)) := by
  have h_readable := h.isReadable
  obtain ⟨scheme, R, h_scheme, h_info⟩ := h
  obtain ⟨A, h_authority⟩ := mem_authority_cut_textOf h_scheme R
  have h_at : '@' ∈ (cut (textOf scheme [] R)).authority := by
    rw [h_authority]
    exact List.mem_cons_self
  unfold Url.parse
  dsimp only
  rw [String.toList_ofList, String.toList_ofList, h_readable]
  split
  · rw [cut_textOf h_scheme h_info.safe, cut_textOf h_scheme h_info.symm.safe]
    dsimp only
    rw [cutAuthority_append _ h_at, cutAuthority_append _ h_at]
    exact ofParts_agree h_scheme (scheme_cut_textOf h_scheme R) _ h_info _
  · exact .error rfl

/-! ## Locators read again -/

section

variable {parts : RawParts} {U V : List Char} (h : InfoApart U V)
include h

theorem isReadable_authority (place : List Char) :
    ({ parts with authority := U ++ '@' :: place } : RawParts).isReadable =
      ({ parts with authority := V ++ '@' :: place } : RawParts).isReadable := by
  have h_authority : isReadable (U ++ '@' :: place) = isReadable (V ++ '@' :: place) :=
    isReadable_append [] h _
  unfold RawParts.isReadable
  rw [h_authority]

/-- Reading parts again that hold different passwords. -/
theorem reread_agree {scheme : String} (h_scheme : scheme ∈ webSchemes)
    (h_parts : parts.scheme = scheme.toList) (place : List Char) :
    Agree Eq Apart (reread { parts with authority := U ++ '@' :: place } id)
      (reread { parts with authority := V ++ '@' :: place } id) := by
  have h_at : '@' ∈ '@' :: place := List.mem_cons_self
  unfold reread
  rw [isReadable_authority h]
  split
  · dsimp only [id]
    rw [cutAuthority_append U h_at, cutAuthority_append V h_at]
    exact ofParts_agree h_scheme h_parts _ h _
  · exact .error rfl

/-- Where the user information is replaced, nothing is left of the passwords. -/
theorem reread_replaced (place info : List Char) :
    reread { parts with authority := U ++ '@' :: place } (fun auth => { auth with userinfo := info }) =
      reread { parts with authority := V ++ '@' :: place }
        (fun auth => { auth with userinfo := info }) := by
  have h_at : '@' ∈ '@' :: place := List.mem_cons_self
  unfold reread
  rw [isReadable_authority h]
  split
  · dsimp only
    rw [cutAuthority_append U h_at, cutAuthority_append V h_at]
    rfl
  · rfl

/-- Putting different passwords into the same parts. -/
theorem reread_put {scheme : String} (h_scheme : scheme ∈ webSchemes)
    (h_parts : parts.scheme = scheme.toList) :
    Agree Eq Apart (reread parts fun auth => { auth with userinfo := U })
      (reread parts fun auth => { auth with userinfo := V }) := by
  unfold reread
  split
  · have h_agree := ofParts_agree h_scheme h_parts (cutAuthority parts.authority) h []
    rw [List.append_nil, List.append_nil] at h_agree
    exact h_agree
  · exact .error rfl

end

namespace Apart

variable {u v : Url} (h : u.Apart v)
include h

theorem userinfo_ne_empty : u.userinfo ≠ "" ∧ v.userinfo ≠ "" :=
  ⟨fun h_empty => h.info.ne_nil (congrArg String.toList h_empty),
    fun h_empty => h.info.symm.ne_nil (congrArg String.toList h_empty)⟩

theorem rawParts :
    u.rawParts = { u.rawParts with authority := u.userinfo.toList ++ '@' :: u.place.toList } ∧
      v.rawParts = { u.rawParts with authority := v.userinfo.toList ++ '@' :: u.place.toList } := by
  obtain ⟨h_u, h_v⟩ := h.userinfo_ne_empty
  have h_join {w : Url} (h_w : w.userinfo ≠ "") :
      w.authority.toList = w.userinfo.toList ++ '@' :: w.place.toList := by
    rw [authority, if_neg h_w, String.toList_append, String.toList_append, List.append_assoc]
    rfl
  constructor
  · rw [← h_join h_u]
    rfl
  · have h_place : u.place = v.place := by rw [h.rest]; rfl
    rw [h_place, ← h_join h_v, h.rest]
    rfl

/-- The user is the same, and both passwords can be told from none. -/
theorem userinfoParts :
    ∃ user p q, u.userinfoParts = (user, p) ∧ v.userinfoParts = (user, q) ∧ p ≠ [] ∧ q ≠ [] := by
  have h_info := h.info
  generalize h_U : u.userinfo.toList = U at h_info
  generalize h_V : v.userinfo.toList = V at h_info
  obtain ⟨h_user, h_p, h_q, -, -⟩ := h_info
  rename_i user p q
  have h_reach := ne_of_not_mem h_user
  have h_split (rest : List Char) : (user ++ ':' :: rest).span (· ≠ ':') = (user, ':' :: rest) := by
    rw [List.span_eq_takeWhile_dropWhile, List.takeWhile_append_of_pos h_reach,
      List.dropWhile_append_of_pos h_reach]
    simp
  refine ⟨user, p, q, ?_, ?_, h_p, h_q⟩
  · rw [Url.userinfoParts, h_U, h_split]
    rfl
  · rw [Url.userinfoParts, h_V, h_split]
    rfl

theorem withUserinfo (user password : String) :
    u.withUserinfo user password = v.withUserinfo user password := by
  obtain ⟨h_u, h_v⟩ := h.rawParts
  unfold Url.withUserinfo
  rw [h_u, h_v]
  dsimp only
  rw [reread_replaced h.info]

/-- In logs they look alike. -/
theorem redacted : u.redacted = v.redacted := by
  obtain ⟨user, p, q, h_u, h_v, h_p, h_q⟩ := h.userinfoParts
  have h_password {w : Url} {r : List Char} (h_w : w.userinfoParts = (user, r)) (h_r : r ≠ []) :
      w.password ≠ "" := by
    rw [password, h_w, ne_eq, percentDecode_eq_empty_iff]
    intro h_empty
    exact h_r (by simpa using congrArg String.toList h_empty)
  have h_username : u.username = v.username := by
    rw [username, username, h_u, h_v]
  unfold Url.redacted withoutPassword
  rw [if_neg (h_password h_u h_p), if_neg (h_password h_v h_q), h_username, h.withUserinfo]

theorem withFragment (fragment : String) :
    Agree Eq Apart (u.withFragment fragment) (v.withFragment fragment) := by
  obtain ⟨h_u, h_v⟩ := h.rawParts
  unfold Url.withFragment
  rw [h_u, h_v]
  have h_parts : RawParts.scheme { u.rawParts with fragment := some fragment.toList } =
      u.scheme.toList := rfl
  exact reread_agree h.info h.scheme h_parts u.place.toList

end Apart

end ImageIntake.Url
