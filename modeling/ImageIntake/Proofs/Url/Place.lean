/-
  ImageIntake.Proofs.Url.Place

  The place of a locator, its host and port, when it is read again.  A host that was read is
  an address of the sixth version or a name of safe characters, which has capitals in its
  escapes only (`hostRead_of_readHost`).  The printed place is cut into the same host and
  port again (`cutHost_place`), and reading that host gives the host back, but for the
  escapes in a name, which are put in lower case (`eq_of_readHost_printed`).
-/

import ImageIntake.Proofs.Host.Encoding
import ImageIntake.Proofs.Number.Whole
import ImageIntake.Proofs.Text.LetterCase
import ImageIntake.Proofs.Url.Credentials

namespace ImageIntake.Url

open ImageIntake.Text

/-! ## Safe characters -/

theorem keepsEscapes_of_ascii {safe : Char → Bool} (h_percent : safe '%' = true)
    (h : ∀ n : Fin 0x80, (hexDigit? (Char.ofNat n.val)).isSome = true →
      safe (Char.ofNat n.val) = true) : KeepsEscapes safe where
  percent := h_percent
  digit _ h_digit :=
    ascii_of_all (P := fun c => (hexDigit? c).isSome = true → safe c = true) h
      (hexDigit?_isSome_lt h_digit) h_digit

theorem hostSafe_keepsEscapes : KeepsEscapes hostSafe :=
  keepsEscapes_of_ascii (by decide) (by decide +kernel)

/-- Whether a character ends neither user information nor an authority. -/
def staysInPlace (c : Char) : Bool := c ≠ '/' && c ≠ '?' && c ≠ '#' && c ≠ '@'

theorem hostSafe_lt {c : Char} (h : hostSafe c = true) : c.toNat < 0x80 := by
  simp only [hostSafe, isUnreserved, Bool.or_eq_true, List.contains_iff_mem] at h
  rcases h with (h | h) | h
  · exact isAlphanum_lt h
  · have h_marks : ("-._~".toList.all (·.toNat < 0x80)) = true := by decide +kernel
    exact of_decide_eq_true (List.all_eq_true.mp h_marks c h)
  · have h_marks : ("!$&'()*+,;=\"\x60\x7b\x7d%|\\".toList.all (·.toNat < 0x80)) = true := by
      decide +kernel
    exact of_decide_eq_true (List.all_eq_true.mp h_marks c h)

theorem hostSafe_facts {c : Char} (h : hostSafe c = true) :
    staysInPlace c = true ∧ c ≠ ':' ∧ c ≠ '[' ∧ hostSafe c.toLower = true := by
  have h_all : ∀ n : Fin 0x80, hostSafe (Char.ofNat n.val) = true →
      staysInPlace (Char.ofNat n.val) = true ∧ Char.ofNat n.val ≠ ':' ∧ Char.ofNat n.val ≠ '[' ∧
        hostSafe (Char.ofNat n.val).toLower = true := by decide +kernel
  exact ascii_of_all (P := fun c => hostSafe c = true →
    staysInPlace c = true ∧ c ≠ ':' ∧ c ≠ '[' ∧ hostSafe c.toLower = true) h_all (hostSafe_lt h) h

/-- Whether a character may stand in a name outside escapes. -/
def isNameChar (c : Char) : Prop := hostSafe c = true ∧ c.isUpper = false

theorem isNameChar_of_isDigit {c : Char} (h : c = '.' ∨ c.isDigit = true) : isNameChar c := by
  have h_ascii : c.toNat < 0x80 := by
    rcases h with rfl | h_digit
    · decide
    · exact isAlphanum_lt ((isAlphanum_iff c).mpr (.inr h_digit))
  have h_all : ∀ n : Fin 0x80, (Char.ofNat n.val = '.' ∨ (Char.ofNat n.val).isDigit = true) →
      hostSafe (Char.ofNat n.val) = true ∧ (Char.ofNat n.val).isUpper = false := by decide +kernel
  exact ascii_of_all (P := fun c => (c = '.' ∨ c.isDigit = true) → isNameChar c) h_all h_ascii h

theorem isNameChar_of_isPlainChar {c : Char} (h : c = '.' ∨ Host.isPlainChar c = true) :
    isNameChar c := by
  have h_ascii : c.toNat < 0x80 := by
    rcases h with rfl | h_plain
    · decide
    · simp only [Host.isPlainChar, Host.isPlainCode, Bool.or_eq_true, Bool.and_eq_true,
        decide_eq_true_eq, beq_iff_eq] at h_plain
      omega
  have h_all : ∀ n : Fin 0x80,
      (Char.ofNat n.val = '.' ∨ Host.isPlainChar (Char.ofNat n.val) = true) →
      hostSafe (Char.ofNat n.val) = true ∧ (Char.ofNat n.val).isUpper = false := by decide +kernel
  exact ascii_of_all (P := fun c => (c = '.' ∨ Host.isPlainChar c = true) → isNameChar c) h_all
    h_ascii h

/-! ## Addresses -/

theorem mem_of_one_lt_length_splitOn {cs : List Char} {mark : Char}
    (h : 1 < (cs.splitOn mark).length) : mark ∈ cs := by
  by_contra h_mem
  have h_whole : cs.splitOn mark = [cs] := List.splitOnP_eq_singleton fun c h_c => by
    rw [beq_eq_false_iff_ne]
    rintro rfl
    exact h_mem h_c
  rw [h_whole] at h
  exact absurd h (Nat.lt_irrefl 1)

theorem colon_of_isIpv6Address {cs : List Char} (h : Host.isIpv6Address cs = true) : ':' ∈ cs := by
  refine mem_of_one_lt_length_splitOn ?_
  unfold Host.isIpv6Address at h
  split at h
  · cases h
  next parts h_groups =>
    unfold Host.groups? at h_groups
    dsimp only at h_groups
    split at h_groups
    · cases h_groups
    next h_length => omega

/-- In front of its scope an address is one without any. -/
theorem isIpv6Address_of_isIpv6 {cs : List Char} (h : Host.isIpv6 cs = true) :
    Host.isIpv6Address (cs.takeWhile (· ≠ '%')) = true := by
  unfold Host.isIpv6 at h
  rw [List.span_eq_takeWhile_dropWhile] at h
  split at h
  next h_split =>
    rw [(Prod.mk.inj h_split).1]
    exact h
  next h_split =>
    rw [(Prod.mk.inj h_split).1]
    exact (Bool.and_eq_true_iff.mp h).2

/-- An address is told from a name by its colons. -/
theorem colon_of_isIpv6 {cs : List Char} (h : Host.isIpv6 cs = true) : ':' ∈ cs :=
  List.takeWhile_subset _ (colon_of_isIpv6Address (isIpv6Address_of_isIpv6 h))

theorem of_mem_looksDotted {cs : List Char} (h : Host.looksDotted cs = true) {c : Char}
    (h_mem : c ∈ cs) : c = '.' ∨ c.isDigit = true := by
  by_cases h_dot : c = '.'
  · exact .inl h_dot
  · refine .inr ?_
    unfold Host.looksDotted at h
    simp only [Bool.and_eq_true, decide_eq_true_eq, List.all_eq_true] at h
    have h_parts : ['.'].intercalate (cs.splitOn '.') = cs := List.intercalate_splitOn '.'
    rw [← h_parts] at h_mem
    obtain ⟨part, h_part, h_c⟩ := (mem_intercalate_iff h_dot).mp h_mem
    exact (h.2 part h_part).2 c h_c

/-! ## Hosts that were read -/

/-- A host that was read: an address of the sixth version, or a name, which holds no capitals unless
it holds escapes. -/
inductive HostRead (host : String) : Prop
  | address (h_valid : Host.isIpv6 host.toList = true)
      (h_place : ∀ c ∈ host.toList, staysInPlace c = true)
  | name (h_safe : ∀ c ∈ host.toList, hostSafe c = true)
      (h_small : '%' ∉ host.toList → ∀ c ∈ host.toList, c.isUpper = false)

theorem HostRead.of_isNameChar {cs : List Char} (h : ∀ c ∈ cs, isNameChar c) :
    HostRead (String.ofList cs) := by
  refine .name ?_ fun _ => ?_
  all_goals
    rw [String.toList_ofList]
  · exact fun c h_mem => (h c h_mem).1
  · exact fun c h_mem => (h c h_mem).2

theorem hostRead_encoded {cs : List Char} (h_ascii : ∀ c ∈ cs, c.toNat < 0x80) :
    HostRead (percentEncode hostSafe (asciiLower (String.ofList cs))) := by
  have h_lower : (asciiLower (String.ofList cs)).toList = cs.map Char.toLower := by
    rw [toList_asciiLower, String.toList_ofList]
  unfold percentEncode
  rw [h_lower]
  refine .name ?_ fun h_plain => ?_
  all_goals
    rw [String.toList_ofList]
  · exact fun c h_mem => hostSafe_keepsEscapes.safe_of_mem_encoded h_mem
  · -- Without a percent sign nothing was escaped: the name is the lower case itself.
    rw [String.toList_ofList] at h_plain
    rw [flatMap_percentChar_of_safe (safe_of_not_mem_encoded h_plain)]
    intro c h_mem
    obtain ⟨d, h_d, rfl⟩ := List.mem_map.mp h_mem
    exact not_isUpper_toLower (h_ascii d h_d)

/-- What a host is read as, by its kind. -/
inductive ReadAs (cs : List Char) : String → Prop
  | digits (h : ∀ c ∈ cs, c = '.' ∨ c.isDigit = true) : ReadAs cs (String.ofList cs)
  | address {address : List Char} (h_valid : Host.isIpv6 address = true)
      (h_mem : ∀ c ∈ address, c ∈ cs) : ReadAs cs (String.ofList address)
  | ascii (h : ∀ c ∈ cs, c.toNat < 0x80) :
      ReadAs cs (percentEncode hostSafe (asciiLower (String.ofList cs)))
  | unicode {name : List Char} (h_name : Host.encodeName (lowerFrom [] cs) = .ok name)
      (h_beyond : ¬∀ c ∈ cs, c.toNat < 0x80) : ReadAs cs (String.ofList name)

theorem readAs_of_readHost {cs : List Char} {host : String} (h : readHost cs = .ok host) :
    ReadAs cs host := by
  unfold readHost at h
  split at h
  next h_empty =>
    cases h
    rw [List.isEmpty_iff.mp h_empty]
    exact .digits fun _ h_mem => absurd h_mem List.not_mem_nil
  · split at h
    next h_dotted =>
      split at h
      · cases h
        exact .digits fun _ => of_mem_looksDotted h_dotted
      · cases h
    · split at h
      · dsimp only at h
        split at h
        next h_valid =>
          cases h
          exact .address h_valid fun c h_mem =>
            List.mem_of_mem_drop (List.dropLast_subset _ h_mem)
        · cases h
      · split at h
        next h_ascii =>
          cases h
          exact .ascii fun c h_mem => of_decide_eq_true (List.all_eq_true.mp h_ascii c h_mem)
        next h_beyond =>
          split at h
          next name h_name =>
            cases h
            refine .unicode h_name fun h_ascii => h_beyond ?_
            exact List.all_eq_true.mpr fun c h_mem => decide_eq_true (h_ascii c h_mem)
          · cases h

theorem hostRead_of_readHost {cs : List Char} {host : String} (h : readHost cs = .ok host)
    (h_place : ∀ c ∈ cs, staysInPlace c = true) : HostRead host := by
  cases readAs_of_readHost h with
  | digits h_digits =>
    exact HostRead.of_isNameChar fun c h_mem => isNameChar_of_isDigit (h_digits c h_mem)
  | address h_valid h_mem =>
    refine .address ?_ ?_
    all_goals
      rw [String.toList_ofList]
    · exact h_valid
    · exact fun c h_c => h_place c (h_mem c h_c)
  | ascii h_ascii => exact hostRead_encoded h_ascii
  | unicode h_name =>
    exact HostRead.of_isNameChar fun c h_mem =>
      isNameChar_of_isPlainChar (Host.of_mem_encodeName h_name (fun _ => not_isUpper_of_mem) h_mem)

/-! ## Hosts that are read again -/

/-- Whether a host is a name that holds escapes. -/
def isEscapedName (host : String) : Bool := host.toList.contains '%' && !host.toList.contains ':'

/-- A host as it is read again. -/
def hostAgain (host : String) : String := if isEscapedName host then asciiLower host else host

theorem hostAgain_of_colon {host : String} (h : ':' ∈ host.toList) : hostAgain host = host := by
  have h_colon : host.toList.contains ':' = true := List.contains_iff_mem.mpr h
  rw [hostAgain, isEscapedName, h_colon, Bool.not_true, Bool.and_false]
  rfl

theorem hostAgain_of_plain {host : String} (h : '%' ∉ host.toList) : hostAgain host = host := by
  have h_plain : host.toList.contains '%' = false := by
    rw [Bool.eq_false_iff, ne_eq, List.contains_iff_mem]
    exact h
  rw [hostAgain, isEscapedName, h_plain, Bool.false_and]
  rfl

theorem not_colon_of_name {host : String} (h : ∀ c ∈ host.toList, hostSafe c = true) :
    ':' ∉ host.toList :=
  fun h_mem => (hostSafe_facts (h ':' h_mem)).2.1 rfl

/-- A name is read again in lower case. -/
theorem hostAgain_of_name {host : String} (h_safe : ∀ c ∈ host.toList, hostSafe c = true)
    (h_small : '%' ∉ host.toList → ∀ c ∈ host.toList, c.isUpper = false) :
    hostAgain host = asciiLower host := by
  by_cases h_percent : '%' ∈ host.toList
  · have h_colon : host.toList.contains ':' = false := by
      rw [Bool.eq_false_iff, ne_eq, List.contains_iff_mem]
      exact not_colon_of_name h_safe
    rw [hostAgain, isEscapedName, List.contains_iff_mem.mpr h_percent, h_colon]
    rfl
  · rw [hostAgain_of_plain h_percent, ← String.toList_inj, toList_asciiLower,
      map_toLower (h_small h_percent)]

theorem toList_printedHost_of_colon {url : Url} (h : ':' ∈ url.host.toList) :
    url.printedHost.toList = '[' :: url.host.toList ++ [']'] := by
  rw [printedHost, if_pos (List.contains_iff_mem.mpr h), String.toList_append, String.toList_append]
  rfl

theorem printedHost_of_not_colon {url : Url} (h : ':' ∉ url.host.toList) :
    url.printedHost = url.host := by
  rw [printedHost, if_neg (by rwa [List.contains_iff_mem])]

/-- An address in brackets is read as it is. -/
theorem readHost_bracketed {cs : List Char} (h : Host.isIpv6 cs = true) :
    readHost ('[' :: cs ++ [']']) = .ok (String.ofList cs) := by
  have h_dotted : ¬Host.looksDotted ('[' :: cs ++ [']']) = true := fun h_looks =>
    absurd (of_mem_looksDotted h_looks List.mem_cons_self) (by decide)
  have h_brackets : ('[' :: cs ++ [']']).head? = some '[' ∧
      ('[' :: cs ++ [']']).getLast? = some ']' ∧ 2 ≤ ('[' :: cs ++ [']']).length := by
    refine ⟨rfl, List.getLast?_concat, ?_⟩
    rw [List.length_append, List.length_cons, List.length_singleton]
    omega
  have h_address : (('[' :: cs ++ [']']).drop 1).dropLast = cs := List.dropLast_concat
  unfold readHost
  rw [if_neg (by exact Bool.false_ne_true), if_neg h_dotted, if_pos h_brackets]
  dsimp only
  rw [h_address, if_pos h]

theorem hostSafe_asciiLower {host : String} (h : ∀ c ∈ host.toList, hostSafe c = true) :
    ∀ c ∈ (asciiLower host).toList, hostSafe c = true := by
  rw [toList_asciiLower]
  intro c h_mem
  obtain ⟨d, h_d, rfl⟩ := List.mem_map.mp h_mem
  exact (hostSafe_facts (h d h_d)).2.2.2

theorem not_isUpper_asciiLower {host : String} (h : ∀ c ∈ host.toList, hostSafe c = true) :
    ∀ c ∈ (asciiLower host).toList, c.isUpper = false := by
  rw [toList_asciiLower]
  intro c h_mem
  obtain ⟨d, h_d, rfl⟩ := List.mem_map.mp h_mem
  exact not_isUpper_toLower (hostSafe_lt (h d h_d))

/-- A name is read in lower case. -/
theorem eq_of_readHost_name {host out : String} (h_safe : ∀ c ∈ host.toList, hostSafe c = true)
    (h : readHost host.toList = .ok out) : out = asciiLower host := by
  cases readAs_of_readHost h with
  | digits h_digits =>
    rw [← String.toList_inj, toList_asciiLower, String.ofList_toList,
      map_toLower fun c h_mem => (isNameChar_of_isDigit (h_digits c h_mem)).2]
  | address h_valid h_mem =>
    -- There is a colon in every address, and none in a name.
    exact absurd (h_mem ':' (colon_of_isIpv6 h_valid)) (not_colon_of_name h_safe)
  | ascii =>
    rw [String.ofList_toList, percentEncode,
      flatMap_percentChar_of_safe (hostSafe_asciiLower h_safe), String.ofList_toList]
  | unicode h_name h_beyond => exact absurd (fun c h_mem => hostSafe_lt (h_safe c h_mem)) h_beyond

/-- A host in its printed form is read as it was, but for the escapes in a name. -/
theorem eq_of_readHost_printed {url : Url} (h : HostRead url.host) {out : String}
    (h_again : readHost url.printedHost.toList = .ok out) : out = hostAgain url.host := by
  cases h with
  | address h_valid =>
    have h_colon := colon_of_isIpv6 h_valid
    rw [toList_printedHost_of_colon h_colon, readHost_bracketed h_valid,
      String.ofList_toList] at h_again
    cases h_again
    exact (hostAgain_of_colon h_colon).symm
  | name h_safe h_small =>
    have h_colon := not_colon_of_name h_safe
    rw [printedHost_of_not_colon h_colon] at h_again
    rw [hostAgain_of_name h_safe h_small]
    exact eq_of_readHost_name h_safe h_again

theorem HostRead.hostAgain {host : String} (h : HostRead host) : HostRead (hostAgain host) := by
  cases h with
  | address h_valid h_place =>
    rw [hostAgain_of_colon (colon_of_isIpv6 h_valid)]
    exact .address h_valid h_place
  | name h_safe h_small =>
    rw [hostAgain_of_name h_safe h_small]
    exact .name (hostSafe_asciiLower h_safe) fun _ => not_isUpper_asciiLower h_safe

/-! ## Places -/

/-- The characters of a port. -/
def portText (url : Url) : List Char :=
  match url.port with
  | some port => (toString port).toList
  | none => []

theorem toList_printedPort (url : Url) :
    url.printedPort.toList = if url.port = none then [] else ':' :: url.portText := by
  unfold printedPort portText
  cases url.port with
  | none => rfl
  | some port =>
    rw [if_neg (Option.some_ne_none port), String.toList_append]
    rfl

theorem of_mem_printedPort {url : Url} {c : Char} (h : c ∈ url.printedPort.toList) :
    c = ':' ∨ c = '-' ∨ c.isDigit = true := by
  rw [toList_printedPort] at h
  unfold portText at h
  cases h_port : url.port with
  | none =>
    rw [h_port, if_pos rfl] at h
    cases h
  | some port =>
    rw [h_port, if_neg (Option.some_ne_none port)] at h
    exact (List.mem_cons.mp h).imp_right Number.of_mem_toString

/-- What stands behind a host is read as its port, if the host goes no further. -/
theorem printedPort_cases (url : Url) :
    (url.printedPort.toList = [] ∧ url.portText = []) ∨
      url.printedPort.toList = ':' :: url.portText := by
  rw [toList_printedPort]
  cases h_port : url.port with
  | none =>
    rw [portText, h_port]
    exact .inl ⟨rfl, rfl⟩
  | some port => exact .inr (if_neg (Option.some_ne_none port))

theorem drop_printedPort (url : Url) :
    (if url.printedPort.toList.head? = some ':' then url.printedPort.toList.drop 1
      else url.printedPort.toList) = url.portText := by
  rcases printedPort_cases url with ⟨h_print, h_text⟩ | h_print
  · rw [h_print, h_text]
    rfl
  · rw [h_print]
    rfl

/-- The place a locator prints is cut into its host and its port again. -/
theorem cutHost_place {url : Url} (h : HostRead url.host) :
    cutHost url.place.toList = (url.printedHost.toList, url.portText) := by
  have h_bracket {c : Char} (h_c : c = '[' ∨ c = ']') : c ∉ url.printedPort.toList := by
    intro h_mem
    rcases h_c with rfl | rfl
    all_goals
      rcases of_mem_printedPort h_mem with h_eq | h_eq | h_eq
      all_goals exact absurd h_eq (by decide)
  unfold cutHost
  rw [place, String.toList_append]
  cases h with
  | address h_valid =>
    have h_colon := colon_of_isIpv6 h_valid
    have h_text : '[' :: url.host.toList ++ [']'] ++ url.printedPort.toList =
        ('[' :: url.host.toList) ++ ']' :: url.printedPort.toList := by
      rw [List.append_assoc]
      rfl
    -- A port holds no bracket, so that the last one closes the host, whatever its scope holds.
    have h_last : (('[' :: url.host.toList ++ [']'] ++ url.printedPort.toList).reverse.takeWhile
        (· ≠ ']')).reverse = url.printedPort.toList := by
      rw [h_text, reverse_takeWhile_at _ (h_bracket (.inr rfl))]
    have h_length : ('[' :: url.host.toList ++ [']'] ++ url.printedPort.toList).length =
        ('[' :: url.host.toList ++ [']']).length + url.printedPort.toList.length :=
      List.length_append
    have h_some : 0 < ('[' :: url.host.toList ++ [']']).length := Nat.succ_pos _
    rw [toList_printedHost_of_colon h_colon]
    dsimp only
    rw [h_last, if_pos ⟨rfl, by omega⟩, h_length, Nat.add_sub_cancel, List.take_left,
      drop_printedPort]
  | name h_safe h_small =>
    have h_colon := not_colon_of_name h_safe
    have h_head : (url.host.toList ++ url.printedPort.toList).head? ≠ some '[' := fun h_head => by
      rcases List.mem_append.mp (List.mem_of_head? h_head) with h_mem | h_mem
      · exact (hostSafe_facts (h_safe '[' h_mem)).2.2.1 rfl
      · exact h_bracket (.inl rfl) h_mem
    have h_reach := ne_of_not_mem h_colon
    have h_span : (url.host.toList ++ url.printedPort.toList).span (· ≠ ':') =
        (url.host.toList, url.printedPort.toList) := by
      rw [List.span_eq_takeWhile_dropWhile, List.takeWhile_append_of_pos h_reach,
        List.dropWhile_append_of_pos h_reach]
      rcases printedPort_cases url with ⟨h_print, -⟩ | h_print
      all_goals
        rw [h_print]
        simp
    rw [printedHost_of_not_colon h_colon]
    dsimp only
    rw [if_neg fun h_address => h_head h_address.1, h_span, drop_printedPort]

theorem staysInPlace_of_mem_place {url : Url} (h : HostRead url.host) {c : Char}
    (h_mem : c ∈ url.place.toList) : staysInPlace c = true := by
  have h_host : ∀ c ∈ url.host.toList, staysInPlace c = true := by
    cases h with
    | address h_valid h_place => exact h_place
    | name h_safe h_small => exact fun c h_mem => (hostSafe_facts (h_safe c h_mem)).1
  rw [place, String.toList_append] at h_mem
  rcases List.mem_append.mp h_mem with h_mem | h_mem
  · by_cases h_colon : ':' ∈ url.host.toList
    · rw [toList_printedHost_of_colon h_colon] at h_mem
      simp only [List.mem_append, List.mem_cons, List.not_mem_nil, or_false] at h_mem
      rcases h_mem with (rfl | h_mem) | rfl
      · rfl
      · exact h_host c h_mem
      · rfl
    · rw [printedHost_of_not_colon h_colon] at h_mem
      exact h_host c h_mem
  · rcases of_mem_printedPort h_mem with rfl | rfl | h_digit
    · rfl
    · rfl
    · exact (hostSafe_facts (isNameChar_of_isDigit (.inr h_digit)).1).1

/-! ## Ports that are read again -/

/-- A port as it is read again: the default of the scheme is left out. -/
def portAgain (url : Url) : Option Int :=
  if defaultPort? url.scheme = url.port then none else url.port

theorem eq_of_readPort_again {url : Url} {port : Option Int}
    (h : readPort url.scheme.toList url.portText = .ok port) : port = url.portAgain := by
  unfold readPort portText at h
  unfold portAgain
  rw [String.ofList_toList] at h
  cases h_port : url.port with
  | none =>
    rw [h_port] at h
    cases h
    split <;> rfl
  | some given =>
    rw [h_port] at h
    dsimp only at h
    rw [if_neg (by rw [List.isEmpty_iff]; exact Number.toString_ne_nil given),
      String.ofList_toList] at h
    split at h
    · cases h
    next read h_read =>
      cases h
      rw [Number.eq_of_readWhole?_toString h_read]

/-! ## Where hosts come from -/

theorem mem_of_mem_cutHost {cs : List Char} {c : Char} (h : c ∈ (cutHost cs).1) : c ∈ cs := by
  unfold cutHost at h
  dsimp only at h
  split at h
  · exact List.mem_of_mem_take h
  · rw [List.span_eq_takeWhile_dropWhile] at h
    exact List.takeWhile_subset _ h

theorem of_mem_cutAuthority {cs : List Char} {c : Char} (h : c ∈ (cutAuthority cs).host) :
    c ∈ cs ∧ c ≠ '@' := by
  have h_last : c ∈ (cs.reverse.takeWhile (· ≠ '@')).reverse := mem_of_mem_cutHost h
  rw [List.mem_reverse] at h_last
  have h_at := List.mem_takeWhile_imp h_last
  exact ⟨List.mem_reverse.mp (List.takeWhile_subset _ h_last), of_decide_eq_true h_at⟩

theorem of_mem_takeAuthority {cs : List Char} {c : Char} (h : c ∈ (takeAuthority cs).1) :
    (c ≠ '/' && c ≠ '?' && c ≠ '#') = true := by
  unfold takeAuthority at h
  split at h
  · rw [List.span_eq_takeWhile_dropWhile] at h
    have h_plain := List.mem_takeWhile_imp h
    exact h_plain
  · cases h

/-- The host of a text holds nothing that ends an authority. -/
theorem staysInPlace_of_mem_cut {cs : List Char} {c : Char}
    (h : c ∈ (cutAuthority (cut cs).authority).host) : staysInPlace c = true := by
  obtain ⟨h_authority, h_at⟩ := of_mem_cutAuthority h
  have h_plain : (c ≠ '/' && c ≠ '?' && c ≠ '#') = true := of_mem_takeAuthority h_authority
  unfold staysInPlace
  rw [h_plain, decide_eq_true h_at]
  rfl

end ImageIntake.Url
