/-
  ImageIntake.Proofs.Endpoint.Reading

  What reading an endpoint comes to, for every text.  It gives a locator that can be
  fetched, or the endpoint is invalid; but a host that begins with an encoded label is
  decoded, and if that fails the fault leaves as it is.  The library's own encoding never
  fails that way (`Host.decodeName_of_encodeName`), and no address begins like an encoded
  label, so that only hosts written in ASCII do (`read_outcome`).
-/

import ImageIntake.Proofs.Endpoint
import ImageIntake.Proofs.Host.Decoding

namespace ImageIntake

open ImageIntake.Text

/-! ## Hosts that begin with an encoded label -/

namespace Host

section

variable {first : List Char} (h_some : first ≠ []) (h_group : isGroup first = false)

include h_some h_group

theorem not_gapFits_of_head (before after : List (List Char)) :
    gapFits (first :: before) after = false := by
  unfold gapFits
  rw [List.head?_cons, if_neg fun h_empty => h_some (Option.some.inj h_empty)]
  simp [h_group]

/-- No address begins with a group that is neither empty nor hexadecimal digits. -/
theorem not_isIpv6Address_of_head {cs : List Char} {rest : List (List Char)}
    (h_split : cs.splitOn ':' = first :: rest) : isIpv6Address cs = false := by
  have h_first : ∀ parts, groups? cs = some parts → ∃ more, parts = first :: more := by
    intro parts h_parts
    unfold groups? at h_parts
    rw [h_split] at h_parts
    dsimp only at h_parts
    split at h_parts
    · cases h_parts
    next h_length =>
      split at h_parts
      · split at h_parts
        · obtain ⟨second, rest, rfl⟩ := List.exists_cons_of_ne_nil (l := rest) fun h_nil => by
            rw [h_nil] at h_length
            exact h_length (Nat.lt_succ_of_le (Nat.le_succ 1))
          cases h_parts
          exact ⟨_, rfl⟩
        · cases h_parts
      · cases h_parts
        exact ⟨rest, rfl⟩
  unfold isIpv6Address
  split
  · rfl
  next parts h_parts =>
    obtain ⟨more, rfl⟩ := h_first parts h_parts
    split
    · rfl
    · split
      · simp [h_group]
      next gap h_gap =>
        have h_inner : gap ∈ innerGaps (first :: more) := by
          rw [h_gap]
          exact List.mem_singleton_self gap
        have h_pos : 0 < gap := by
          have h_bounds := (List.mem_filter.mp h_inner).2
          simp only [Bool.and_eq_true, decide_eq_true_eq] at h_bounds
          exact h_bounds.1.1
        obtain ⟨n, rfl⟩ := Nat.exists_eq_succ_of_ne_zero (Nat.ne_of_gt h_pos)
        rw [List.take_succ_cons]
        exact not_gapFits_of_head h_some h_group _ _
      · rfl

end

theorem not_mark_of_isIpv6 {cs : List Char} (h : isIpv6 cs = true) : ¬encodedMark <+: cs := by
  rintro ⟨rest, rfl⟩
  have h_address := Url.isIpv6Address_of_isIpv6 h
  have h_head : (encodedMark ++ rest).takeWhile (· ≠ '%') =
      'x' :: (('n' :: '-' :: '-' :: rest).takeWhile (· ≠ '%')) := rfl
  rw [h_head] at h_address
  obtain ⟨first, others, h_split⟩ := List.exists_cons_of_ne_nil
    (List.splitOn_ne_nil ':' (('n' :: '-' :: '-' :: rest).takeWhile (· ≠ '%')))
  have h_parts : ('x' :: (('n' :: '-' :: '-' :: rest).takeWhile (· ≠ '%'))).splitOn ':' =
      ('x' :: first) :: others := by
    have h_mark : ('x' == ':') = false := by decide
    rw [List.splitOn, List.splitOnP_cons_eq_if_modifyHead, h_mark]
    exact congrArg (List.modifyHead (List.cons 'x')) h_split
  have h_group : isGroup ('x' :: first) = false := by
    have h_digit : Text.hexDigit? 'x' = none := by decide
    simp [isGroup, h_digit]
  rw [not_isIpv6Address_of_head (List.cons_ne_nil _ _) h_group h_parts] at h_address
  cases h_address

end Host

namespace Url

/-- The host of a text as it is written, before it is checked or escaped. -/
def writtenHost (text : String) : List Char := (cutAuthority (cut text.toList).authority).host

theorem readHost_of_parse {text : String} {url : Url} (h : parse text = .ok url) :
    readHost (writtenHost text) = .ok url.host := by
  unfold parse at h
  dsimp only at h
  split at h
  · exact (ofParts_eq_ok_iff.mp h).host
  · cases h

/-- A host that cannot be decoded was written in ASCII. -/
theorem ascii_of_decodeName {cs : List Char} {host : String} (h_read : readHost cs = .ok host)
    (h_mark : Host.encodedMark <+: host.toList) {fault : Host.LabelFault}
    (h_fault : Host.decodeName host.toList = .error fault) : ∀ c ∈ cs, c.toNat < 0x80 := by
  have h_letter : 'x' ∈ host.toList := h_mark.subset List.mem_cons_self
  cases readAs_of_readHost h_read with
  | digits h_digits =>
    rw [String.toList_ofList] at h_letter
    exact absurd (h_digits 'x' h_letter) (by decide)
  | address h_valid =>
    rw [String.toList_ofList] at h_mark
    exact absurd h_mark (Host.not_mark_of_isIpv6 h_valid)
  | ascii h_ascii => exact h_ascii
  | unicode h_name =>
    rw [String.toList_ofList] at h_fault h_letter
    obtain ⟨decoded, h_decoded⟩ := Host.decodeName_of_encodeName h_name
      (fun _ => not_isUpper_of_mem) (List.ne_nil_of_mem h_letter)
    cases h_decoded.symm.trans h_fault

theorem unicodeHost_fails_iff {cs : List Char} {url : Url} (h_read : readHost cs = .ok url.host)
    (fault : Host.LabelFault) :
    url.unicodeHost = .error fault ↔ (∀ c ∈ cs, c.toNat < 0x80) ∧
      Host.encodedMark <+: url.host.toList ∧ Host.decodeName url.host.toList = .error fault := by
  unfold unicodeHost
  by_cases h_mark : Host.encodedMark <+: url.host.toList
  · rw [if_pos (List.isPrefixOf_iff_prefix.mpr h_mark)]
    cases h_decode : Host.decodeName url.host.toList with
    | ok decoded => exact iff_of_false nofun fun h_all => nomatch h_all.2.2
    | error other =>
      have h_ascii := ascii_of_decodeName h_read h_mark h_decode
      constructor
      · rintro ⟨⟩
        exact ⟨h_ascii, h_mark, rfl⟩
      · rintro ⟨-, -, ⟨⟩⟩
        rfl
  · rw [if_neg fun h => h_mark (List.isPrefixOf_iff_prefix.mp h)]
    exact iff_of_false nofun fun h_all => h_mark h_all.2.1

end Url

/-! ## Endpoints -/

namespace Endpoint

/-- The failure of a host that cannot be decoded. -/
def undecodable (fault : Host.LabelFault) : Failure := .outside (.library fault.name)

theorem undecodable_injective {fault other : Host.LabelFault}
    (h : undecodable fault = undecodable other) : fault = other := by
  have h_name : fault.name = other.name := Fault.library.inj (Failure.outside.inj h)
  revert h_name
  cases fault <;> cases other <;> decide

/-- What reading an endpoint comes to, and when. -/
inductive Reading (text : String) : Except Failure Url → Prop
  | blank (h_blank : allBlank text = true) :
      Reading text (.error (invalid "endpoint is missing or blank" none))
  | unparsed {defect : Url.Defect} (h_parse : Url.parse (trim text) = .error defect) :
      Reading text (.error (invalid ("unable to parse endpoint " ++ quoted text)
        (some (.outside .invalidUrl))))
  | unsupported {url : Url} (h_blank : allBlank text = false)
      (h_parse : Url.parse (trim text) = .ok url) (h_scheme : url.scheme ∉ supportedSchemes) :
      Reading text (.error (invalid ("unsupported endpoint scheme " ++ quoted url.scheme) none))
  | undecoded {url : Url} {fault : Host.LabelFault} (h_parse : Url.parse (trim text) = .ok url)
      (h_scheme : url.scheme ∈ supportedSchemes) (h_host : url.unicodeHost = .error fault) :
      Reading text (.error (undecodable fault))
  | nameless {url : Url} (h_parse : Url.parse (trim text) = .ok url)
      (h_scheme : url.scheme ∈ supportedSchemes) (h_host : url.unicodeHost = .ok "") :
      Reading text (.error (invalid ("endpoint " ++ quoted text ++ " has no host") none))
  | locator {url : Url} {host : String} (h_parse : Url.parse (trim text) = .ok url)
      (h_scheme : url.scheme ∈ supportedSchemes) (h_host : url.unicodeHost = .ok host)
      (h_named : host ≠ "") : Reading text (.ok url)

theorem parse_of_allBlank {text : String} (h : allBlank text = true) :
    Url.parse (trim text) = .ok {} := by
  have h_chars : text.toList.dropWhile isBlank = [] :=
    List.dropWhile_eq_nil_iff.mpr (List.all_eq_true.mp h)
  have h_trim : trim text = "" := by
    rw [trim, trimChars, trimWhere, h_chars]
    rfl
  rw [h_trim]
  exact ok_of_toOption (by decide +kernel)

theorem reading_read (text : String) : Reading text (read text) := by
  unfold read
  cases h_blank : allBlank text with
  | true => exact .blank h_blank
  | false =>
    rw [if_neg Bool.false_ne_true]
    cases h_parse : Url.parse (trim text) with
    | error defect => exact .unparsed h_parse
    | ok url =>
      dsimp only
      by_cases h_scheme : url.scheme ∈ supportedSchemes
      · rw [List.contains_iff_mem.mpr h_scheme]
        cases h_host : url.unicodeHost with
        | error fault => exact .undecoded h_parse h_scheme h_host
        | ok host =>
          dsimp only
          by_cases h_empty : host = ""
          · rw [if_pos h_empty]
            exact .nameless h_parse h_scheme (h_empty ▸ h_host)
          · rw [if_neg h_empty]
            exact .locator h_parse h_scheme h_host h_empty
      · have h_unknown : (!supportedSchemes.contains url.scheme) = true := by
          simpa using h_scheme
        rw [h_unknown]
        exact .unsupported h_blank h_parse h_scheme

/-- There is only one outcome. -/
theorem Reading.eq {text : String} {outcome : Except Failure Url} (h : Reading text outcome) :
    read text = outcome := by
  have h_supported {url : Url} (h_parse : Url.parse (trim text) = .ok url)
      (h_scheme : url.scheme ∈ supportedSchemes) : allBlank text ≠ true := fun h_blank => by
    cases (parse_of_allBlank h_blank).symm.trans h_parse
    exact absurd h_scheme (by decide)
  unfold read
  cases h with
  | blank h_blank => exact if_pos h_blank
  | unparsed h_parse =>
    have h_unblank : ¬allBlank text = true := fun h_blank =>
      nomatch (parse_of_allBlank h_blank).symm.trans h_parse
    rw [if_neg h_unblank, h_parse]
  | unsupported h_blank h_parse h_scheme => simp [h_blank, h_parse, h_scheme]
  | undecoded h_parse h_scheme h_host =>
    simp [h_supported h_parse h_scheme, h_parse, h_scheme, h_host, undecodable]
  | nameless h_parse h_scheme h_host => simp [h_supported h_parse h_scheme, h_parse, h_scheme, h_host]
  | locator h_parse h_scheme h_host h_named =>
    simp [h_supported h_parse h_scheme, h_parse, h_scheme, h_host, h_named]

/-- Whether a text has a scheme that can be fetched and a host that was encoded by hand, and wrongly:
it is written in ASCII, it begins with an encoded label, and decoding it fails. -/
def Miscoded (text : String) (fault : Host.LabelFault) : Prop :=
  ∃ url, Url.parse (trim text) = .ok url ∧ url.scheme ∈ supportedSchemes ∧
    (∀ c ∈ Url.writtenHost (trim text), c.toNat < 0x80) ∧
    Host.encodedMark <+: url.host.toList ∧ Host.decodeName url.host.toList = .error fault

theorem miscoded_iff {text : String} {url : Url} (h_parse : Url.parse (trim text) = .ok url)
    (h_scheme : url.scheme ∈ supportedSchemes) (fault : Host.LabelFault) :
    Miscoded text fault ↔ url.unicodeHost = .error fault := by
  rw [Url.unicodeHost_fails_iff (Url.readHost_of_parse h_parse)]
  constructor
  · rintro ⟨other, h_other, -, h_miscoded⟩
    cases h_parse.symm.trans h_other
    exact h_miscoded
  · intro h
    exact ⟨url, h_parse, h_scheme, h⟩

/-- What has no scheme that can be fetched is not looked at for its host. -/
theorem not_miscoded {text : String} (h : ∀ url, Url.parse (trim text) = .ok url →
    url.scheme ∉ supportedSchemes) (fault : Host.LabelFault) : ¬Miscoded text fault := by
  rintro ⟨url, h_parse, h_scheme, -⟩
  exact h url h_parse h_scheme

theorem eq_of_miscoded {text : String} {fault other : Host.LabelFault} (h : Miscoded text fault)
    (h_other : Miscoded text other) : fault = other := by
  obtain ⟨url, h_parse, -, -, -, h_fault⟩ := h
  obtain ⟨again, h_again, -, -, -, h_same⟩ := h_other
  cases h_parse.symm.trans h_again
  cases h_fault.symm.trans h_same
  rfl

/-- What reading an endpoint is to come to: a locator with a scheme that can be fetched and a host,
or a failure that says why there is none. -/
inductive Sound : Except Failure Url → Prop
  | locator {url : Url} {host : String} (h_scheme : url.scheme ∈ supportedSchemes)
      (h_host : url.unicodeHost = .ok host) (h_named : host ≠ "") : Sound (.ok url)
  | invalid (message : String) (cause : Option Failure) : Sound (.error (invalid message cause))

theorem not_sound_undecodable (fault : Host.LabelFault) : ¬Sound (.error (undecodable fault)) := by
  intro h
  cases h

theorem sound_or_miscoded (text : String) :
    (Sound (read text) ∧ ∀ fault, ¬Miscoded text fault) ∨
      ∃ fault, Miscoded text fault ∧ read text = .error (undecodable fault) := by
  have h_reading := reading_read text
  generalize read text = outcome at h_reading ⊢
  cases h_reading with
  | blank h_blank =>
    refine .inl ⟨.invalid .., not_miscoded fun url h_parse => ?_⟩
    cases (parse_of_allBlank h_blank).symm.trans h_parse
    decide
  | unparsed h_parse =>
    exact .inl ⟨.invalid .., not_miscoded fun url h_url => nomatch h_parse.symm.trans h_url⟩
  | unsupported h_blank h_parse h_scheme =>
    refine .inl ⟨.invalid .., not_miscoded fun other h_other => ?_⟩
    cases h_parse.symm.trans h_other
    exact h_scheme
  | undecoded h_parse h_scheme h_host =>
    exact .inr ⟨_, (miscoded_iff h_parse h_scheme _).mpr h_host, rfl⟩
  | nameless h_parse h_scheme h_host =>
    refine .inl ⟨.invalid .., fun fault h_miscoded => ?_⟩
    cases h_host.symm.trans ((miscoded_iff h_parse h_scheme fault).mp h_miscoded)
  | locator h_parse h_scheme h_host h_named =>
    refine .inl ⟨.locator h_scheme h_host h_named, fun fault h_miscoded => ?_⟩
    cases h_host.symm.trans ((miscoded_iff h_parse h_scheme fault).mp h_miscoded)

theorem read_of_miscoded {text : String} {fault : Host.LabelFault} (h : Miscoded text fault) :
    read text = .error (undecodable fault) := by
  rcases sound_or_miscoded text with ⟨-, h_well⟩ | ⟨other, h_other, h_read⟩
  · exact absurd h (h_well fault)
  · rw [h_read, eq_of_miscoded h h_other]

/-- Every text is read as a locator with a scheme that can be fetched and a host, or is an invalid
endpoint, unless it names a host that was encoded by hand, and wrongly; for such a text, and no
other, the fault of the label leaves as it is. -/
theorem read_outcome (text : String) :
    (Sound (read text) ↔ ∀ fault, ¬Miscoded text fault) ∧
      ∀ fault, read text = .error (undecodable fault) ↔ Miscoded text fault := by
  refine ⟨⟨fun h_sound fault h => ?_, fun h_well => ?_⟩, fun fault => ⟨fun h_read => ?_,
    read_of_miscoded⟩⟩
  · rw [read_of_miscoded h] at h_sound
    exact not_sound_undecodable fault h_sound
  · rcases sound_or_miscoded text with ⟨h_sound, -⟩ | ⟨fault, h, -⟩
    · exact h_sound
    · exact absurd h (h_well fault)
  · rcases sound_or_miscoded text with ⟨h_sound, -⟩ | ⟨other, h, h_other⟩
    · rw [h_read] at h_sound
      exact absurd h_sound (not_sound_undecodable fault)
    · rw [undecodable_injective (Except.error.inj (h_read.symm.trans h_other))]
      exact h

/-- A host that is nothing but the mark of an encoded label. -/
theorem bare_mark_undecodable : ¬Sound (read "http://xn--/") ∧
    read "http://xn--/" = .error (undecodable .malformed) := by
  have h_ascii : (Url.writtenHost (trim "http://xn--/")).all (·.toNat < 0x80) = true := by
    decide +kernel
  have h_miscoded : Miscoded "http://xn--/" .malformed :=
    ⟨{ scheme := "http", host := "xn--", path := "/" }, ok_of_toOption (by decide +kernel), by decide,
      fun c h_mem => of_decide_eq_true (List.all_eq_true.mp h_ascii c h_mem), by decide, rfl⟩
  rw [read_of_miscoded h_miscoded]
  exact ⟨not_sound_undecodable _, rfl⟩

end Endpoint

end ImageIntake
