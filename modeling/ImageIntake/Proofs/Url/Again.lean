/-
  ImageIntake.Proofs.Url.Again

  Locators that are read again.  Reading gives a locator of the web in a form (`IsRead`)
  that a second reading finds in its text (`cut_print`, `cutAuthority_authority`) and leaves
  as it is, but for the escapes in the name of its host and for a port that its scheme does
  without (`eq_again_of_ofParts`).  Whether the whole text is read again or only the user
  information is changed, what comes of it leads to the same target
  (`sameTarget_again`).
-/

import ImageIntake.Proofs.Url.Apart
import ImageIntake.Proofs.Url.Parts
import ImageIntake.Proofs.Url.Path
import ImageIntake.Proofs.Url.Place

namespace ImageIntake.Url

open ImageIntake.Text ImageIntake.Number

/-! ## Locators that were read -/

theorem pathSafe_keepsEscapes : KeepsEscapes pathSafe :=
  keepsEscapes_of_ascii (by decide) (by decide +kernel)

theorem querySafe_keepsEscapes : KeepsEscapes querySafe :=
  keepsEscapes_of_ascii (by decide) (by decide +kernel)

theorem fragmentSafe_keepsEscapes : KeepsEscapes fragmentSafe :=
  keepsEscapes_of_ascii (by decide) (by decide +kernel)

/-- A locator of the web as it is read: every part is escaped, and the path is followed. -/
structure IsRead (url : Url) : Prop where
  scheme : url.scheme ∈ webSchemes
  userinfo : ∀ c ∈ url.userinfo.toList, userinfoSafe c = true
  host : HostRead url.host
  named : url.host ≠ ""
  path : ∀ c ∈ url.path.toList, pathSafe c = true
  dotFree : DotFree url.path.toList
  rooted : Rooted url.path.toList
  query : ∀ query, url.query = some query → ∀ c ∈ query.toList, querySafe c = true
  fragment : ∀ fragment, url.fragment = some fragment →
    ∀ c ∈ fragment.toList, fragmentSafe c = true

theorem safe_of_mem_escape {safe : Char → Bool} (h : KeepsEscapes safe) {cs : List Char} {c : Char}
    (h_mem : c ∈ (escape safe cs).toList) : safe c = true := by
  rw [escape, String.toList_ofList] at h_mem
  exact h.safe_of_mem_encoded h_mem

theorem escape_of_safe {safe : Char → Bool} {s : String} (h : ∀ c ∈ s.toList, safe c = true) :
    escape safe s.toList = s := by
  rw [escape, flatMap_percentChar_of_safe h, String.ofList_toList]

theorem safe_of_map_escape {safe : Char → Bool} (h : KeepsEscapes safe) {part : Option (List Char)}
    {s : String} (h_part : part.map (escape safe) = some s) : ∀ c ∈ s.toList, safe c = true := by
  obtain ⟨cs, -, rfl⟩ := Option.map_eq_some_iff.mp h_part
  exact fun _ => safe_of_mem_escape h

theorem map_escape_of_safe {safe : Char → Bool} {part : Option String}
    (h : ∀ s, part = some s → ∀ c ∈ s.toList, safe c = true) :
    (part.map String.toList).map (escape safe) = part := by
  cases part with
  | none => rfl
  | some s => exact congrArg some (escape_of_safe (h s rfl))

theorem rooted_of_pathFits {hasScheme : Bool} {path : List Char}
    (h : pathFits hasScheme true path = true) : Rooted path := by
  unfold pathFits at h
  rw [if_pos rfl, Bool.or_eq_true, List.isEmpty_iff, decide_eq_true_eq] at h
  refine h.imp_right fun h_head => ?_
  cases path with
  | nil => cases h_head
  | cons c rest =>
    cases h_head
    exact ⟨rest, rfl⟩

/-- What is read from parts has the form that reading gives. -/
theorem isRead_of_isOfParts {parts : RawParts} {auth : RawAuthority} {url : Url}
    (h : IsOfParts parts auth url) (h_scheme : url.scheme ∈ webSchemes) (h_named : url.host ≠ "")
    (h_place : ∀ c ∈ auth.host, staysInPlace c = true) : IsRead url := by
  have h_authority : url.hasAuthority = true := by
    rw [hasAuthority, decide_eq_true h_named, Bool.or_true, Bool.true_or]
  have h_path : url.path = escape pathSafe (removeDots parts.path) := by
    rw [h.path, h_authority, Bool.or_true, if_pos rfl]
  have h_chars : url.path.toList = (removeDots parts.path).flatMap (percentChar pathSafe) := by
    rw [h_path, escape, String.toList_ofList]
  have h_fits := h.fits
  rw [h_authority] at h_fits
  refine ⟨h_scheme, ?_, hostRead_of_readHost h.host h_place, h_named, ?_, ?_, ?_, ?_, ?_⟩
  · rw [h.userinfo]
    exact fun _ => safe_of_mem_escape userinfoSafe_keepsEscapes
  · rw [h_path]
    exact fun _ => safe_of_mem_escape pathSafe_keepsEscapes
  · rw [h_chars]
    exact dotFree_escaped (dotFree_removeDots parts.path)
  · rw [h_chars]
    exact rooted_escaped (rooted_removeDots (rooted_of_pathFits h_fits))
  · intro query h_query
    rw [h.query] at h_query
    exact safe_of_map_escape querySafe_keepsEscapes h_query
  · intro fragment h_fragment
    rw [h.fragment] at h_fragment
    exact safe_of_map_escape fragmentSafe_keepsEscapes h_fragment

theorem isRead_of_parse {text : String} {url : Url} (h : parse text = .ok url)
    (h_scheme : url.scheme ∈ webSchemes) (h_named : url.host ≠ "") : IsRead url := by
  unfold parse at h
  dsimp only at h
  split at h
  · exact isRead_of_isOfParts (ofParts_eq_ok_iff.mp h) h_scheme h_named fun _ =>
      staysInPlace_of_mem_cut
  · cases h

/-! ## What a second reading finds -/

theorem splitAtChar_at {mark : Char} {before : List Char} (h : mark ∉ before) (after : List Char) :
    splitAtChar mark (before ++ mark :: after) = (before, some after) := by
  have h_reach := ne_of_not_mem h
  unfold splitAtChar
  rw [List.span_eq_takeWhile_dropWhile, List.takeWhile_append_of_pos h_reach,
    List.dropWhile_append_of_pos h_reach]
  simp

theorem splitAtChar_none {mark : Char} {cs : List Char} (h : mark ∉ cs) :
    splitAtChar mark cs = (cs, none) := by
  have h_reach := ne_of_not_mem h
  unfold splitAtChar
  rw [List.span_eq_takeWhile_dropWhile, List.takeWhile_eq_self_iff.mpr h_reach,
    List.dropWhile_eq_nil_iff.mpr h_reach]

/-- Without an at sign there is no user information. -/
theorem cutAuthority_none {place : List Char} (h : '@' ∉ place) :
    cutAuthority place = { host := (cutHost place).1, port := (cutHost place).2 } := by
  have h_reach : ∀ c ∈ place.reverse, decide (c ≠ '@') = true :=
    ne_of_not_mem fun h_mem => h (List.mem_reverse.mp h_mem)
  unfold cutAuthority
  rw [List.takeWhile_eq_self_iff.mpr h_reach, List.reverse_reverse]
  simp

/-! ## Texts -/

/-- Whether a character belongs to an authority wherever it stands. -/
def staysInAuthority (c : Char) : Bool := c ≠ '/' && c ≠ '?' && c ≠ '#'

theorem takeAuthority_at {authority rest : List Char}
    (h : ∀ c ∈ authority, staysInAuthority c = true)
    (h_rest : ∀ c, rest.head? = some c → staysInAuthority c = false) :
    takeAuthority ('/' :: '/' :: (authority ++ rest)) = (authority, rest) := by
  have h_take : rest.takeWhile staysInAuthority = [] ∧ rest.dropWhile staysInAuthority = rest := by
    cases rest with
    | nil => exact ⟨rfl, rfl⟩
    | cons c rest =>
      have h_c := h_rest c rfl
      rw [List.takeWhile_cons, List.dropWhile_cons, h_c]
      exact ⟨rfl, rfl⟩
  unfold takeAuthority
  change (authority ++ rest).span staysInAuthority = (authority, rest)
  rw [List.span_eq_takeWhile_dropWhile, List.takeWhile_append_of_pos h,
    List.dropWhile_append_of_pos h, h_take.1, h_take.2, List.append_nil]

/-- The text of a part behind its mark, if there is one. -/
def marked (mark : Char) (part : Option String) : List Char :=
  (part.map fun text => mark :: text.toList).getD []

theorem splitAtChar_marked {mark : Char} {cs : List Char} (h : mark ∉ cs) (part : Option String) :
    splitAtChar mark (cs ++ marked mark part) = (cs, part.map String.toList) := by
  cases part with
  | none => exact (congrArg (splitAtChar mark) (List.append_nil cs)).trans (splitAtChar_none h)
  | some text => exact splitAtChar_at h text.toList

/-- The text behind the authority. -/
def trailer (url : Url) : List Char :=
  url.path.toList ++ (marked '?' url.query ++ marked '#' url.fragment)

theorem toList_authority (url : Url) :
    url.authority.toList =
      (if url.userinfo = "" then [] else url.userinfo.toList ++ ['@']) ++ url.place.toList := by
  rw [authority, String.toList_append]
  split
  · rfl
  · rw [String.toList_append]
    rfl

/-- The text of a locator with an authority. -/
theorem toList_print_of_authority {url : Url} (h : url.authority ≠ "") :
    url.print.toList =
      (if url.scheme = "" then [] else url.scheme.toList ++ [':']) ++
        '/' :: '/' :: (url.authority.toList ++ url.trailer) := by
  unfold print trailer
  rw [if_neg h]
  simp only [String.toList_append, List.append_assoc, apply_ite String.toList]
  cases url.query
  all_goals
    cases url.fragment
    all_goals
      simp only [String.toList_append]
      rfl

namespace IsRead

variable {u : Url} (h : u.IsRead)
include h

theorem place_ne_empty : u.place.toList ≠ [] := by
  rw [place, String.toList_append]
  refine List.append_ne_nil_of_left_ne_nil ?_ _
  rw [printedHost]
  split
  · rw [String.toList_append, String.toList_append]
    exact List.cons_ne_nil _ _
  · exact fun h_nil => h.named (String.toList_inj.mp h_nil)

theorem toList_print :
    u.print.toList =
      u.scheme.toList ++ ':' :: ('/' :: '/' :: (u.authority.toList ++ u.trailer)) := by
  have h_scheme : u.scheme ≠ "" := by
    intro h_empty
    have h_web := h.scheme
    rw [h_empty] at h_web
    exact absurd h_web (by decide)
  have h_authority : u.authority ≠ "" := by
    intro h_empty
    have h_chars := toList_authority u
    rw [h_empty] at h_chars
    exact h.place_ne_empty (List.append_eq_nil_iff.mp h_chars.symm).2
  rw [toList_print_of_authority h_authority, if_neg h_scheme, List.append_assoc]
  rfl

/-- An authority is cut into its user information, host and port again. -/
theorem cutAuthority_authority :
    cutAuthority u.authority.toList =
      { userinfo := u.userinfo.toList, host := u.printedHost.toList, port := u.portText } := by
  have h_at : '@' ∉ u.place.toList := fun h_mem =>
    absurd (staysInPlace_of_mem_place h.host h_mem) (by decide)
  rw [toList_authority u]
  split
  next h_empty =>
    rw [List.nil_append, cutAuthority_none h_at, cutHost_place h.host, h_empty]
    rfl
  · rw [List.append_assoc]
    exact (cutAuthority_at _ h_at).trans (by rw [cutHost_place h.host])

theorem staysInAuthority_of_mem {c : Char} (h_mem : c ∈ u.authority.toList) :
    staysInAuthority c = true := by
  rw [toList_authority u] at h_mem
  rcases List.mem_append.mp h_mem with h_mem | h_mem
  · split at h_mem
    · cases h_mem
    · rcases List.mem_append.mp h_mem with h_mem | h_mem
      · exact userinfoSafe_plain (h.userinfo c h_mem)
      · rw [List.mem_singleton.mp h_mem]
        rfl
  · have h_place := staysInPlace_of_mem_place h.host h_mem
    exact (Bool.and_eq_true_iff.mp h_place).1

/-- What stands behind an authority ends it. -/
theorem staysInAuthority_head_trailer {c : Char} (h_head : u.trailer.head? = some c) :
    staysInAuthority c = false := by
  unfold trailer at h_head
  rcases h.rooted with h_empty | ⟨rest, h_path⟩
  · rw [h_empty, List.nil_append] at h_head
    cases h_query : u.query with
    | some query =>
      rw [h_query] at h_head
      cases h_head
      rfl
    | none =>
      cases h_fragment : u.fragment with
      | some fragment =>
        rw [h_query, h_fragment] at h_head
        cases h_head
        rfl
      | none =>
        rw [h_query, h_fragment] at h_head
        cases h_head
  · rw [h_path] at h_head
    cases h_head
    rfl

theorem not_mark_of_mem_path {mark : Char} (h_mark : pathSafe mark = false) :
    mark ∉ u.path.toList :=
  fun h_mem => by
    rw [h.path mark h_mem] at h_mark
    contradiction

theorem not_sign_of_mem_query : '#' ∉ marked '?' u.query := by
  intro h_mem
  cases h_query : u.query with
  | none =>
    rw [h_query] at h_mem
    cases h_mem
  | some query =>
    rw [h_query] at h_mem
    rcases List.mem_cons.mp h_mem with h_eq | h_mem
    · exact absurd h_eq (by decide)
    · exact absurd (h.query query h_query '#' h_mem) (by decide)

/-- The text of a locator is cut into its parts again. -/
theorem cut_print : cut u.print.toList = u.rawParts := by
  -- The first number sign starts the fragment, and the first question mark before it the query.
  have h_body : '#' ∉ u.path.toList ++ marked '?' u.query := fun h_mem =>
    (List.mem_append.mp h_mem).elim (h.not_mark_of_mem_path (by decide)) h.not_sign_of_mem_query
  have h_trailer : u.trailer = (u.path.toList ++ marked '?' u.query) ++ marked '#' u.fragment :=
    (List.append_assoc _ _ _).symm
  unfold cut
  rw [h.toList_print, takeScheme_web h.scheme]
  dsimp only
  rw [takeAuthority_at (fun _ => h.staysInAuthority_of_mem) fun _ => h.staysInAuthority_head_trailer]
  dsimp only
  rw [h_trailer, splitAtChar_marked h_body]
  dsimp only
  rw [splitAtChar_marked (h.not_mark_of_mem_path (by decide))]
  rfl

end IsRead

/-! ## Reading again -/

/-- A locator as it is read again, with other user information. -/
def again (url : Url) (userinfo : String) : Url :=
  { url with userinfo, host := hostAgain url.host, port := url.portAgain }

theorem hostAgain_hostAgain {host : String} (h : HostRead host) :
    hostAgain (hostAgain host) = hostAgain host := by
  cases h with
  | address h_valid =>
    have h_same := hostAgain_of_colon (colon_of_isIpv6 h_valid)
    rw [h_same, h_same]
  | name h_safe h_small =>
    have h_again := not_isUpper_asciiLower h_safe
    rw [hostAgain_of_name h_safe h_small,
      hostAgain_of_name (hostSafe_asciiLower h_safe) fun _ => h_again, ← String.toList_inj,
      toList_asciiLower, map_toLower h_again]

theorem hostAgain_ne_empty {host : String} (h : host ≠ "") : hostAgain host ≠ "" := by
  unfold hostAgain
  split
  · intro h_empty
    have h_chars := congrArg String.toList h_empty
    rw [toList_asciiLower] at h_chars
    exact h (String.toList_inj.mp (List.map_eq_nil_iff.mp h_chars))
  · exact h

theorem portAgain_again (url : Url) (userinfo : String) :
    (url.again userinfo).portAgain = url.portAgain := by
  have h_port : (url.again userinfo).port = url.portAgain := rfl
  have h_scheme : (url.again userinfo).scheme = url.scheme := rfl
  unfold portAgain
  rw [h_port, h_scheme, portAgain]
  split
  · split <;> rfl
  · rfl

theorem effectivePort_again {url : Url} (h : url.scheme ∈ webSchemes) (userinfo : String) :
    (url.again userinfo).effectivePort = url.effectivePort := by
  have h_port : (url.again userinfo).port = url.portAgain := rfl
  have h_scheme : (url.again userinfo).scheme = url.scheme := rfl
  unfold effectivePort
  rw [h_port, h_scheme, if_pos (List.contains_iff_mem.mpr h), portAgain]
  split
  next h_default =>
    rw [h_default]
    cases url.port <;> rfl
  · rfl

namespace IsRead

variable {u v : Url} (h : u.IsRead)
include h

/-- Reading the parts of a locator again, with other user information. -/
theorem eq_again_of_ofParts {info : List Char}
    (h_ok : ofParts u.rawParts { cutAuthority u.authority.toList with userinfo := info } = .ok v) :
    v = u.again (escape userinfoSafe info) := by
  rw [h.cutAuthority_authority] at h_ok
  have h_parts := ofParts_eq_ok_iff.mp h_ok
  have h_scheme : v.scheme = u.scheme := by
    rw [h_parts.scheme, Url.rawParts, String.ofList_toList, asciiLower_web h.scheme]
  have h_host : v.host = hostAgain u.host := eq_of_readHost_printed h.host h_parts.host
  have h_port : v.port = u.portAgain := eq_of_readPort_again h_parts.port
  have h_path : v.path = u.path := by
    rw [h_parts.path, Url.rawParts, removeDots_of_dotFree h.dotFree, ite_self, escape_of_safe h.path]
  have h_query : v.query = u.query := h_parts.query.trans (map_escape_of_safe h.query)
  have h_fragment : v.fragment = u.fragment :=
    h_parts.fragment.trans (map_escape_of_safe h.fragment)
  have h_userinfo : v.userinfo = escape userinfoSafe info := h_parts.userinfo
  -- All fields are known, and `v` is nothing else.
  clear h_parts h_ok
  cases v
  dsimp only at h_scheme h_userinfo h_host h_port h_path h_query h_fragment
  rw [h_scheme, h_userinfo, h_host, h_port, h_path, h_query, h_fragment]
  rfl

theorem again {userinfo : String} (h_safe : ∀ c ∈ userinfo.toList, userinfoSafe c = true) :
    (u.again userinfo).IsRead :=
  ⟨h.scheme, h_safe, h.host.hostAgain, hostAgain_ne_empty h.named, h.path, h.dotFree, h.rooted,
    h.query, h.fragment⟩

theorem again_again (info userinfo : String) : (u.again info).again userinfo = u.again userinfo := by
  have h_host : ((u.again info).again userinfo).host = hostAgain (hostAgain u.host) := rfl
  have h_port : ((u.again info).again userinfo).port = (u.again info).portAgain := rfl
  calc (u.again info).again userinfo
      = { u.again userinfo with
          host := ((u.again info).again userinfo).host
          port := ((u.again info).again userinfo).port } := rfl
    _ = u.again userinfo := by
      rw [h_host, h_port, hostAgain_hostAgain h.host, portAgain_again]
      rfl

/-- The text of a locator, read again. -/
theorem eq_again_of_parse (h_ok : parse u.print = .ok v) : v = u.again u.userinfo := by
  unfold parse at h_ok
  dsimp only at h_ok
  rw [h.cut_print] at h_ok
  split at h_ok
  · have h_auth : cutAuthority u.rawParts.authority =
        { cutAuthority u.authority.toList with userinfo := u.userinfo.toList } := by
      rw [Url.rawParts, h.cutAuthority_authority]
    rw [h_auth] at h_ok
    rw [h.eq_again_of_ofParts h_ok, escape_of_safe h.userinfo]
  · cases h_ok

/-- A locator with other credentials. -/
theorem eq_again_of_withUserinfo {user password : String}
    (h_ok : u.withUserinfo user password = .ok v) : v = u.again (joinUserinfo user password) := by
  have h_info := userinfo_of_withUserinfo h_ok
  unfold withUserinfo reread at h_ok
  dsimp only at h_ok
  split at h_ok
  · split at h_ok
    · have h_again := h.eq_again_of_ofParts h_ok
      rw [escape_of_safe fun _ => userinfoSafe_of_mem_join] at h_again
      exact h_again
    · cases h_ok
  · cases h_ok

end IsRead

end ImageIntake.Url
