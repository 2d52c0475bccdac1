/-
  ImageIntake.Proofs.Endpoint.Password

  Endpoints with a password in them, which may be no locators at all.  What is around the
  password decides whether the text can be read, and as what (`Around.parse_text`); the
  password only goes into the user information.  So two endpoints that differ there are
  read alike or refused alike (`Around.readApart`), but for a refusal that quotes the whole
  endpoint (`Quotes`), which shows them apart (`Around.quoted_text_inj`).
-/

import ImageIntake.Proofs.Endpoint.Reading
import ImageIntake.Proofs.Text.Quoted
import ImageIntake.Proofs.Url.Apart

namespace ImageIntake.Endpoint

open ImageIntake.Text ImageIntake.Url

/-! ## What is around a password -/

/-- What is around the password of an endpoint: blanks, a scheme with its colon, a user name behind
two slashes, and what follows the at sign. -/
structure Around where
  lead : List Char := []
  scheme : List Char
  user : List Char
  rest : List Char

/-- Whether a text is that of a scheme with its colon, or of none. -/
inductive IsScheme : List Char → Prop
  | absent : IsScheme []
  | empty : IsScheme [':']
  | named {first : Char} {more : List Char} (h_first : first.isAlpha = true)
      (h_more : ∀ c ∈ more, isSchemeChar c = true) : IsScheme (first :: more ++ [':'])

/-- Whether a character can stand in an authority. -/
def inAuthority (c : Char) : Bool := c ≠ '/' && c ≠ '?' && c ≠ '#'

namespace Around

/-- User information with a password. -/
def info (a : Around) (password : List Char) : List Char := a.user ++ ':' :: password

/-- The endpoint with a password. -/
def text (a : Around) (password : List Char) : String :=
  String.ofList (a.lead ++ (a.scheme ++ '/' :: '/' :: (a.info password ++ '@' :: a.rest)))

/-- Whether what is put in is the whole password: the user name ends at its colon, and the user
information at its at sign. -/
structure Sound (a : Around) : Prop where
  lead : ∀ c ∈ a.lead, isBlank c = true
  scheme : IsScheme a.scheme
  user : ∀ c ∈ a.user, c ≠ ':' ∧ inAuthority c = true
  rest : '@' ∉ a.rest.takeWhile inAuthority

/-- What stands between the at sign and the path. -/
def place (a : Around) : List Char := a.rest.takeWhile inAuthority

/-- The parts of an endpoint that a password does not go to. -/
def parts (a : Around) : RawParts :=
  let (body, fragment) := Number.splitAtChar '#' (a.rest.dropWhile inAuthority)
  let (path, query) := Number.splitAtChar '?' body
  { scheme := a.scheme.dropLast, path, query, fragment }

/-- The same without the blanks around the endpoint. -/
def trimmed (a : Around) : Around :=
  { a with lead := [], rest := (a.rest.reverse.dropWhile isBlank).reverse }

end Around

/-! ## Blanks around it -/

theorem dropWhile_append_cons {p : Char → Bool} {mark : Char} (h : p mark = false)
    (before after : List Char) :
    (before ++ mark :: after).dropWhile p = before.dropWhile p ++ mark :: after := by
  induction before with
  | nil => exact List.dropWhile_cons_of_neg (Bool.eq_false_iff.mp h)
  | cons c before ih =>
    cases h_c : p c with
    | true => rw [List.cons_append, List.dropWhile_cons_of_pos h_c, ih, List.dropWhile_cons_of_pos h_c]
    | false =>
      have h_stays := Bool.eq_false_iff.mp h_c
      rw [List.cons_append, List.dropWhile_cons_of_neg h_stays, List.dropWhile_cons_of_neg h_stays,
        List.cons_append]

theorem isBlank_of_isAlpha {c : Char} (h : c.isAlpha = true) : isBlank c = false := by
  have h_all : ∀ n : Fin 0x80, (Char.ofNat n.val).isAlpha = true →
      isBlank (Char.ofNat n.val) = false := by decide +kernel
  have h_ascii : c.toNat < 0x80 := isAlphanum_lt (Bool.or_eq_true_iff.mpr (.inl h))
  exact ascii_of_all (P := fun c => c.isAlpha = true → isBlank c = false) h_all h_ascii h

/-- What follows the blanks at the start does not begin with one. -/
theorem IsScheme.dropWhile {cs : List Char} (h : IsScheme cs) (tail : List Char) :
    (cs ++ '/' :: tail).dropWhile isBlank = cs ++ '/' :: tail := by
  cases h with
  | absent => rfl
  | empty => rfl
  | named h_first => exact List.dropWhile_cons_of_neg (Bool.eq_false_iff.mp (isBlank_of_isAlpha h_first))

namespace Around

variable {a : Around} (h : a.Sound)

include h

theorem trim_text (p : List Char) : trim (a.text p) = a.trimmed.text p := by
  have h_split (rest : List Char) : a.scheme ++ '/' :: '/' :: (a.info p ++ '@' :: rest) =
      (a.scheme ++ '/' :: '/' :: a.info p) ++ '@' :: rest := by
    simp only [List.append_assoc, List.cons_append]
  unfold trim trimChars trimWhere text
  refine congrArg String.ofList ?_
  dsimp only [trimmed]
  rw [String.toList_ofList, List.dropWhile_append_of_pos h.lead, h.scheme.dropWhile, h_split,
    List.reverse_append, List.reverse_cons, List.append_assoc, List.singleton_append,
    dropWhile_append_cons rfl, List.reverse_append, List.reverse_cons, List.reverse_reverse,
    List.append_assoc, List.singleton_append, ← h_split]
  rfl

theorem Sound.trimmed : a.trimmed.Sound := by
  refine ⟨nofun, h.scheme, h.user, fun h_mem => h.rest ?_⟩
  -- What is left of the rest is the front of it.
  obtain ⟨blanks, h_blanks⟩ : a.trimmed.rest <+: a.rest := by
    have h_suffix := List.dropWhile_suffix isBlank (l := a.rest.reverse)
    rw [← List.reverse_prefix, List.reverse_reverse] at h_suffix
    exact h_suffix
  rw [← h_blanks, List.takeWhile_append]
  split
  · exact List.mem_append_left _ (List.takeWhile_subset _ h_mem)
  · exact h_mem

end Around

/-! ## Reading the locator -/

/-- The letters and digits of a password stand wherever user information does. -/
theorem isAlphanum_safe {c : Char} (h : c.isAlphanum = true) : userinfoSafe c = true := by
  have h_all : ∀ n : Fin 0x80, (Char.ofNat n.val).isAlphanum = true →
      userinfoSafe (Char.ofNat n.val) = true := by decide +kernel
  exact ascii_of_all (P := fun c => c.isAlphanum = true → userinfoSafe c = true) h_all
    (isAlphanum_lt h) h

/-- A scheme is taken off with its colon. -/
theorem IsScheme.takeScheme {cs : List Char} (h : IsScheme cs) (tail : List Char) :
    takeScheme (cs ++ '/' :: tail) = (cs.dropLast, '/' :: tail) := by
  cases h with
  | absent => rfl
  | empty => rfl
  | @named first more h_first h_more =>
    have h_name : ∀ c ∈ first :: more, isSchemeChar c = true := by
      refine List.forall_mem_cons.mpr ⟨?_, h_more⟩
      simp [isSchemeChar, Char.isAlphanum, h_first]
    have h_colon : first ≠ ':' := by
      rintro rfl
      exact absurd h_first (by decide)
    have h_text : first :: more ++ [':'] ++ '/' :: tail = first :: (more ++ ':' :: '/' :: tail) := by
      simp
    have h_span : (first :: (more ++ ':' :: '/' :: tail)).span isSchemeChar =
        (first :: more, ':' :: '/' :: tail) := by
      have h_stop : isSchemeChar ':' = false := by decide
      rw [← List.cons_append, List.span_eq_takeWhile_dropWhile, List.takeWhile_append_of_pos h_name,
        List.dropWhile_append_of_pos h_name]
      simp [h_stop]
    have h_dropLast : (first :: more ++ [':']).dropLast = first :: more := List.dropLast_concat
    rw [h_dropLast, h_text]
    unfold Url.takeScheme
    split
    next h_empty => exact absurd (List.cons.inj h_empty).1 h_colon
    next h_first_eq =>
      rw [h_span, ← (List.cons.inj h_first_eq).1]
      exact if_pos h_first
    next h_none => cases h_none

namespace Around

variable {a : Around} (h : a.Sound) {p : List Char} (h_p : ∀ c ∈ p, c.isAlphanum = true)

include h h_p

theorem inAuthority_of_mem_info : ∀ c ∈ a.info p, inAuthority c = true := by
  intro c h_mem
  rcases List.mem_append.mp h_mem with h_user | h_rest
  · exact (h.user c h_user).2
  · rcases List.mem_cons.mp h_rest with rfl | h_c
    · rfl
    · exact userinfoSafe_plain (isAlphanum_safe (h_p c h_c))

/-- The authority of an endpoint: its user information, and what follows the at sign up to the
path. -/
theorem takeAuthority_text :
    takeAuthority ('/' :: '/' :: (a.info p ++ '@' :: a.rest)) =
      (a.info p ++ '@' :: a.rest.takeWhile inAuthority, a.rest.dropWhile inAuthority) := by
  have h_info := inAuthority_of_mem_info h h_p
  show (a.info p ++ '@' :: a.rest).span inAuthority = _
  rw [List.span_eq_takeWhile_dropWhile, List.takeWhile_append_of_pos h_info,
    List.dropWhile_append_of_pos h_info, List.takeWhile_cons_of_pos rfl, List.dropWhile_cons_of_pos rfl]

theorem cut_text : cut (a.scheme ++ '/' :: '/' :: (a.info p ++ '@' :: a.rest)) =
    { a.parts with authority := a.info p ++ '@' :: a.place } := by
  unfold cut
  rw [h.scheme.takeScheme]
  dsimp only
  rw [takeAuthority_text h h_p]
  rfl

end Around

namespace Around

variable {a : Around} (h : a.Sound) (h_lead : a.lead = []) {p q : List Char}
  (h_p : ∀ c ∈ p, c.isAlphanum = true) (h_q : ∀ c ∈ q, c.isAlphanum = true)
  (h_length : p.length = q.length)

theorem info_ne_nil (p : List Char) : a.info p ≠ [] := by simp [info]

include h_p h_q h_length in
/-- Whether the text is short enough and free of control characters does not depend on the
password. -/
theorem isReadable_text : isReadable (a.text p).toList = isReadable (a.text q).toList := by
  have h_clear {r : List Char} (h_r : ∀ c ∈ r, c.isAlphanum = true) :
      (r.all fun c => 0x20 ≤ c.toNat && c.toNat != 0x7F) = true :=
    List.all_eq_true.mpr fun c h_mem => userinfoSafe_readable (isAlphanum_safe (h_r c h_mem))
  unfold isReadable text info
  simp only [String.toList_ofList, List.length_append, List.length_cons, List.all_append, List.all_cons,
    h_length, h_clear h_p, h_clear h_q]

include h h_lead h_p in
theorem parse_eq :
    Url.parse (a.text p) =
      if isReadable (a.text p).toList then
        ofParts a.parts { userinfo := a.info p, host := (cutHost a.place).1, port := (cutHost a.place).2 }
      else .error .text := by
  unfold Url.parse
  dsimp only
  split
  · have h_text : (a.text p).toList = a.scheme ++ '/' :: '/' :: (a.info p ++ '@' :: a.rest) := by
      rw [text, h_lead, String.toList_ofList, List.nil_append]
    rw [h_text, cut_text h h_p]
    dsimp only
    rw [place, cutAuthority_at _ h.rest]
    rfl
  · rfl

include h h_lead h_p h_q h_length in
/-- Another password only gives other user information. -/
theorem parse_text :
    Url.parse (a.text q) = (Url.parse (a.text p)).map fun url =>
      { url with userinfo := escape userinfoSafe (a.info q) } := by
  rw [parse_eq h h_lead h_p, parse_eq h h_lead h_q, isReadable_text h_p h_q h_length]
  split
  · exact ofParts_userinfo a.parts { host := (cutHost a.place).1, port := (cutHost a.place).2 }
      (info_ne_nil p) (info_ne_nil q)
  · rfl

include h h_lead h_p in
theorem userinfo_of_parse {url : Url} (h_ok : Url.parse (a.text p) = .ok url) :
    url.userinfo = escape userinfoSafe (a.info p) := by
  rw [parse_eq h h_lead h_p] at h_ok
  split at h_ok
  · exact userinfo_of_ofParts h_ok
  · cases h_ok

end Around

/-! ## Reading the endpoint -/

/-- Whether an endpoint is refused in words that quote it: it is no locator, or it has no host. -/
def Quotes (text : String) : Prop :=
  (∃ defect, Url.parse (trim text) = .error defect) ∨
    ∃ url, Url.parse (trim text) = .ok url ∧ url.scheme ∈ supportedSchemes ∧
      url.unicodeHost = .ok ""

/-- How two endpoints are read that differ in a password: as locators that differ there, or with one
failure, or each with a failure that quotes it. -/
inductive ReadApart (p q : List Char) (x y : String) : Prop
  | locators {u v : Url} {user : List Char} (h_left : read x = .ok u) (h_right : read y = .ok v)
      (h_rest : v = { u with userinfo := v.userinfo }) (h_given : u.userinfoParts = (user, p))
      (h_other : v.userinfoParts = (user, q)) (h_silent : ¬Quotes x)
  | same {f : Failure} (h_left : read x = .error f) (h_right : read y = .error f)
      (h_silent : ¬Quotes x)
  | quoted {before after : String} {cause : Option Failure}
      (h_left : read x = .error (invalid (before ++ quoted x ++ after) cause))
      (h_right : read y = .error (invalid (before ++ quoted y ++ after) cause)) (h_quotes : Quotes x)

/-- Escaping makes no colon. -/
theorem not_colon_of_mem_escaped {a : Around} (h : a.Sound) :
    ':' ∉ a.user.flatMap (percentChar userinfoSafe) := by
  intro h_mem
  obtain ⟨c, h_c, h_mem⟩ := List.mem_flatMap.mp h_mem
  cases h_safe : userinfoSafe c with
  | true =>
    rw [percentChar_of_safe h_safe, List.mem_singleton] at h_mem
    exact (h.user c h_c).1 h_mem.symm
  | false => exact absurd (of_mem_percentChar h_safe h_mem) (by decide)

/-- User information that was escaped is parted at the colon in front of the password. -/
theorem userinfoParts_of_info {a : Around} (h : a.Sound) {p : List Char}
    (h_p : ∀ c ∈ p, c.isAlphanum = true) {url : Url}
    (h_info : url.userinfo = escape userinfoSafe (a.info p)) :
    url.userinfoParts = (a.user.flatMap (percentChar userinfoSafe), p) := by
  have h_safe : ∀ c ∈ ':' :: p, userinfoSafe c = true :=
    List.forall_mem_cons.mpr ⟨by decide, fun c h_mem => isAlphanum_safe (h_p c h_mem)⟩
  have h_chars : url.userinfo.toList = a.user.flatMap (percentChar userinfoSafe) ++ ':' :: p := by
    rw [h_info, escape, String.toList_ofList, Around.info, List.flatMap_append,
      flatMap_percentChar_of_safe h_safe]
  have h_user := ne_of_not_mem (not_colon_of_mem_escaped h)
  rw [userinfoParts, h_chars, List.span_eq_takeWhile_dropWhile, List.takeWhile_append_of_pos h_user,
    List.dropWhile_append_of_pos h_user]
  simp

namespace Around

variable {a : Around} (h : a.Sound) {p q : List Char} (h_p : ∀ c ∈ p, c.isAlphanum = true)
  (h_q : ∀ c ∈ q, c.isAlphanum = true) (h_length : p.length = q.length)

theorem not_allBlank_text (a : Around) (p : List Char) : allBlank (a.text p) = false := by
  have h_slash : '/' ∈ (a.text p).toList := by simp [text]
  refine Bool.eq_false_iff.mpr fun h_all => ?_
  exact absurd (List.all_eq_true.mp h_all '/' h_slash) (by decide)

include h_p h_q in
/-- Quotes show the password as it is. -/
theorem quoted_text_inj (h_same : quoted (a.text p) = quoted (a.text q)) : p = q := by
  have h_text (r : List Char) : a.text r =
      String.ofList (a.lead ++ a.scheme ++ '/' :: '/' :: a.user ++ [':'] ++ r ++ '@' :: a.rest) := by
    simp [text, info]
  rw [h_text, h_text] at h_same
  exact quoted_inj h_p h_q h_same

include h h_p h_q h_length in
/-- Either password leads to the same branch of the reading. -/
theorem readApart : ReadApart p q (a.text p) (a.text q) := by
  have h_parse := parse_text h.trimmed rfl h_p h_q h_length
  rw [← trim_text h, ← trim_text h] at h_parse
  have h_put {url : Url} (h_url : Url.parse (trim (a.text p)) = .ok url) :
      Url.parse (trim (a.text q)) =
        .ok { url with userinfo := escape userinfoSafe (a.trimmed.info q) } := by
    rw [h_parse, h_url]
    rfl
  have h_silent {url : Url} (h_url : Url.parse (trim (a.text p)) = .ok url)
      (h_host : url.scheme ∈ supportedSchemes → url.unicodeHost ≠ .ok "") : ¬Quotes (a.text p) := by
    rintro (⟨defect, h_defect⟩ | ⟨other, h_other, h_scheme, h_empty⟩)
    · cases h_url.symm.trans h_defect
    · cases h_url.symm.trans h_other
      exact h_host h_scheme h_empty
  have h_reading := reading_read (a.text p)
  generalize h_left : read (a.text p) = outcome at h_reading
  -- Which branch was taken depends on no character of the password.
  cases h_reading with
  | blank h_blank => exact absurd h_blank (Bool.eq_false_iff.mp (not_allBlank_text a p))
  | unparsed h_url =>
    have h_right := (Reading.unparsed (h_parse.trans (congrArg _ h_url))).eq
    rw [← String.append_empty (s := "unable to parse endpoint " ++ _)] at h_left h_right
    exact .quoted h_left h_right (.inl ⟨_, h_url⟩)
  | unsupported h_blank h_url h_scheme =>
    have h_right := (Reading.unsupported (not_allBlank_text a q) (h_put h_url) h_scheme).eq
    exact .same h_left h_right (h_silent h_url fun h_web => absurd h_web h_scheme)
  | undecoded h_url h_scheme h_host =>
    have h_right := (Reading.undecoded (h_put h_url) h_scheme h_host).eq
    refine .same h_left h_right (h_silent h_url fun _ => ?_)
    rw [h_host]
    exact nofun
  | nameless h_url h_scheme h_host =>
    have h_right := (Reading.nameless (h_put h_url) h_scheme h_host).eq
    exact .quoted h_left h_right (.inr ⟨_, h_url, h_scheme, h_host⟩)
  | locator h_url h_scheme h_host h_named =>
    have h_right := (Reading.locator (h_put h_url) h_scheme h_host h_named).eq
    rw [trim_text h] at h_url
    have h_info := userinfo_of_parse h.trimmed rfl h_p h_url
    refine .locators h_left h_right rfl (userinfoParts_of_info h.trimmed h_p h_info)
      (userinfoParts_of_info h.trimmed h_q rfl) ?_
    rw [← trim_text h] at h_url
    refine h_silent h_url fun _ => ?_
    rw [h_host]
    exact fun h_empty => h_named (Except.ok.inj h_empty)

end Around

end ImageIntake.Endpoint
