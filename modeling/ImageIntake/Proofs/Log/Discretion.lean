/-
  ImageIntake.Proofs.Log.Discretion

  What the log tells of the password in a locator.  A text that ends in white space is
  masked on its own, whatever follows it (`Masked.append`), as no locator runs across white
  space.  The text of a locator behind it is masked up to its `@` in one of two ways: the
  password is replaced if a scheme and a user name stand before it, and is kept if either is
  missing (`maskUnits_around`).  So the log is the same for two passwords exactly if it is
  the former, or the whole value is masked for its key (`log_tells_password_iff`).
-/

import ImageIntake.Log.Line
import ImageIntake.Proofs.Json.Printing
import ImageIntake.Proofs.Json.Texts
import ImageIntake.Proofs.Log.Masking
import ImageIntake.Proofs.Url.Again
import ImageIntake.Proofs.Url.Alike
import ImageIntake.Proofs.Url.Making

namespace ImageIntake.Log

open ImageIntake.Text

/-! ## White space -/

/-- A text that another can follow without running into it: it is empty or ends in white space. -/
def SetOff (cs : List Char) : Prop :=
  ∀ c ∈ cs.getLast?, isBlank c = true

theorem SetOff.of_append (cs : List Char) {ds : List Char} (h : SetOff (cs ++ ds)) : SetOff ds := by
  intro c h_last
  refine h c ?_
  rw [List.getLast?_append, h_last]
  rfl

theorem not_isBlank_of_isSchemeChar {c : Char} (h : isSchemeChar c = true) : isBlank c = false :=
  ascii_of_all (P := fun c => isSchemeChar c = true → isBlank c = false) (by decide +kernel)
    (Url.isSchemeChar_lt h) h

theorem not_isBlank_of_isUserChar {c : Char} (h : isUserChar c = true) : isBlank c = false := by
  simp only [isUserChar, Bool.and_eq_true, Bool.not_eq_true'] at h
  exact h.2

theorem not_isBlank_of_isPasswordChar {c : Char} (h : isPasswordChar c = true) :
    isBlank c = false := by
  simp only [isPasswordChar, Bool.and_eq_true, Bool.not_eq_true'] at h
  exact h.2

/-- A locator that starts in a text that is set off ends in it: none runs across white space. -/
theorem StartsLocator.of_append {cs rest : List Char} (h : StartsLocator (cs ++ rest))
    (h_off : SetOff cs) (h_some : cs ≠ []) : StartsLocator cs := by
  obtain ⟨head, password, behind, h_head, h_password, h_eq⟩ := h
  have h_blank : ∀ c ∈ head ++ password ++ ['@'], isBlank c = false := by
    intro c h_mem
    rcases List.mem_append.mp h_mem with h_mem | h_mem
    · rcases List.mem_append.mp h_mem with h_mem | h_mem
      · exact h_head.forall_mem (fun _ => not_isBlank_of_isSchemeChar) (by decide)
          (fun _ => not_isBlank_of_isUserChar) c h_mem
      · exact not_isBlank_of_isPasswordChar (h_password.chars c h_mem)
    · rw [List.mem_singleton.mp h_mem]
      decide
  have h_parts : cs ++ rest = (head ++ password ++ ['@']) ++ behind := by
    rw [h_eq, List.append_assoc _ ['@'], List.singleton_append]
  rcases List.append_eq_append_iff.mp h_parts with ⟨more, h_whole, -⟩ | ⟨more, rfl, -⟩
  · -- The white space at the end of the text would be part of the locator.
    have h_last := List.getLast?_eq_getLast_of_ne_nil h_some
    have h_mem : cs.getLast h_some ∈ head ++ password ++ ['@'] := by
      rw [h_whole]
      exact List.mem_append_left _ (List.getLast_mem h_some)
    have h_is := h_off _ h_last
    rw [h_blank _ h_mem] at h_is
    cases h_is
  · exact ⟨head, password, more, h_head, h_password, by
      rw [List.append_assoc _ ['@'], List.singleton_append]⟩

section

variable {α : Type} {char : α → Char} {hidden : List α}

/-- A text that is set off is masked on its own. -/
theorem Masked.append {units masked rest masked' : List α} (h : Masked char hidden units masked)
    (h_off : SetOff (units.map char)) (h_rest : Masked char hidden rest masked') :
    Masked char hidden (units ++ rest) (masked ++ masked') := by
  induction h with
  | nil => exact h_rest
  | @keep u units masked h_keep _ ih =>
    refine .keep (fun h_starts => h_keep ?_) (ih (h_off.of_append [char u]))
    have h_both : StartsLocator ((u :: units).map char ++ rest.map char) := by
      rwa [← List.map_append]
    exact h_both.of_append h_off (List.cons_ne_nil _ _)
  | @hide head password rest' masked sign h_head h_password h_sign _ ih =>
    have h_behind : SetOff (rest'.map char) := by
      rw [List.map_append, List.map_cons] at h_off
      exact (h_off.of_append _).of_append [char sign]
    have h_hide := Masked.hide h_head h_password h_sign (ih h_behind)
    simpa only [List.append_assoc, List.cons_append] using h_hide

/-- A part of a text up to an at sign is kept if no locator ends in that sign. -/
theorem Masked.keep_to_sign {part rest masked : List α} {sign : α} (h_sign : char sign = '@')
    (h_at : '@' ∉ part.map char)
    (h : ∀ before head password, IsHead head → IsPassword password →
      part.map char ≠ before ++ (head ++ password))
    (h_rest : Masked char hidden rest masked) :
    Masked char hidden (part ++ sign :: rest) (part ++ sign :: masked) := by
  have h_none (before after : List α) (h_part : part = before ++ after) :
      ¬StartsLocator ((after ++ sign :: rest).map char) := by
    rintro ⟨head, password, behind, h_head, h_password, h_eq⟩
    rw [List.map_append, List.map_cons, h_sign] at h_eq
    rw [h_part, List.map_append] at h_at
    have h_front : '@' ∉ after.map char := fun h_mem => h_at (List.mem_append_right _ h_mem)
    obtain ⟨h_after, -⟩ := eq_of_split_first h_front (h_head.at_not_mem h_password) h_eq
    refine h (before.map char) head password h_head h_password ?_
    rw [h_part, List.map_append, h_after]
  exact .keep_all (fun before after h_part _ => h_none before after h_part)
    (.keep (h_none part [] (List.append_nil part).symm) h_rest)

end

/-! ## The text of a locator -/

/-- What stands before the password in the text of a locator: the scheme, if there is one, and the
user. -/
def headOf (scheme : String) (user : List Char) : List Char :=
  (if scheme = "" then [] else scheme.toList ++ [':']) ++ ['/', '/'] ++ user ++ [':']

theorem isHead_headOf {scheme : String} {user : List Char} (h_scheme : Url.IsScheme scheme.toList)
    (h_user : ∀ c ∈ user, isUserChar c = true) (h_named : scheme ≠ "") (h_some : user ≠ []) :
    IsHead (headOf scheme user) := by
  unfold headOf
  rw [if_neg h_named]
  cases h_chars : scheme.toList with
  | nil => exact absurd (String.toList_eq_nil_iff.mp h_chars) h_named
  | cons letter more =>
    rw [h_chars] at h_scheme
    have h_head := IsHead.mk h_scheme.1 h_scheme.2 h_some h_user
    simpa using h_head

/-- A locator that ends in the `@` of the text of another one is that one: a scheme and a user name
stand before the password. -/
theorem named_of_isHead {scheme : String} {user password before head password' : List Char}
    (h_user : ∀ c ∈ user, isUserChar c = true) (h_password : IsPassword password)
    (h_head : IsHead head) (h_password' : IsPassword password')
    (h : headOf scheme user ++ password = before ++ (head ++ password')) :
    scheme ≠ "" ∧ user ≠ [] := by
  obtain ⟨h_letter, -, h_some, h_chars⟩ := h_head
  rename_i letter word user'
  have h_parts : ((if scheme = "" then [] else scheme.toList ++ [':']) ++ ['/']) ++
        '/' :: (user ++ ':' :: password) =
      (before ++ letter :: word ++ [':', '/']) ++ '/' :: (user' ++ ':' :: password') := by
    simpa [headOf] using h
  obtain ⟨h_front, rfl, -⟩ := eq_of_authority h_user h_chars h_password h_password' h_parts
  refine ⟨fun h_none => ?_, h_some⟩
  have h_length := congrArg List.length h_front
  rw [if_pos h_none] at h_length
  simp only [List.length_append, List.length_cons, List.length_nil] at h_length
  omega

theorem at_not_mem_headOf {scheme : String} {user password : List Char}
    (h_scheme : Url.IsScheme scheme.toList) (h_user : ∀ c ∈ user, isUserChar c = true)
    (h_password : IsPassword password) : '@' ∉ headOf scheme user ++ password := by
  have h_ne : ∀ c ∈ headOf scheme user ++ password, c ≠ '@' := by
    unfold headOf
    simp only [List.forall_mem_append, List.forall_mem_cons]
    refine ⟨⟨⟨⟨?_, ?_⟩, fun c h_mem => (ne_of_isUserChar (h_user c h_mem)).2.2⟩, ?_⟩,
      fun c h_mem => (ne_of_isPasswordChar (h_password.chars c h_mem)).2⟩
    · split
      · exact nofun
      · exact List.forall_mem_append.mpr
          ⟨fun c h_mem => (ne_of_isSchemeChar (h_scheme.chars c h_mem)).2.2,
            List.forall_mem_singleton.mpr (by decide)⟩
    · exact ⟨by decide, by decide, nofun⟩
    · exact ⟨by decide, nofun⟩
  exact fun h_mem => h_ne _ h_mem rfl

section

variable {α : Type} {char : α → Char} (hidden : List α) {encode : Char → α}

/-- Behind a text that is set off, the text of a locator is masked up to its `@` in one of two ways:
its password is replaced if it has a scheme and a user name, and is kept if it lacks one. -/
theorem maskUnits_around (h_encode : ∀ c, char (encode c) = c) {scheme : String}
    {user password : List Char} (h_scheme : Url.IsScheme scheme.toList)
    (h_user : ∀ c ∈ user, isUserChar c = true) (h_password : IsPassword password)
    {before : List α} (h_before : SetOff (before.map char)) (rest : List α) :
    maskUnits char hidden
        (before ++ ((headOf scheme user ++ password).map encode ++ encode '@' :: rest)) =
      maskUnits char hidden before ++ ((headOf scheme user).map encode ++
        (if scheme ≠ "" ∧ user ≠ [] then hidden else password.map encode) ++
        encode '@' :: maskUnits char hidden rest) := by
  have h_back (cs : List Char) : (cs.map encode).map char = cs := by
    rw [List.map_map]
    exact (List.map_congr_left fun c _ => h_encode c).trans (List.map_id cs)
  have h_rest : Masked char hidden rest _ := masked_maskUnits hidden rest
  refine (masked_iff.mp ((masked_maskUnits hidden before).append h_before ?_)).symm
  split
  case isTrue h_named =>
    rw [List.map_append]
    refine .hide ?_ ?_ (h_encode '@') h_rest
    · rw [h_back]
      exact isHead_headOf h_scheme h_user h_named.1 h_named.2
    · rwa [h_back]
  case isFalse h_nameless =>
    rw [← List.map_append]
    refine .keep_to_sign (h_encode '@') ?_ (fun before' head password' h_head h_password' h => ?_)
      h_rest
    · rw [h_back]
      exact at_not_mem_headOf h_scheme h_user h_password
    · rw [h_back] at h
      exact h_nameless (named_of_isHead h_user h_password h_head h_password' h)

end

/-- The text of a locator with a password. -/
theorem toList_print_of_password {url : Url} (h : url.userinfoParts.2 ≠ []) :
    url.print.toList = headOf url.scheme url.userinfoParts.1 ++ url.userinfoParts.2 ++
      '@' :: (url.place.toList ++ url.trailer) := by
  obtain ⟨h_info, -⟩ := Url.userinfo_divided h
  have h_some : url.userinfo ≠ "" := by
    intro h_none
    rw [h_none] at h_info
    exact List.append_ne_nil_of_right_ne_nil _ (List.cons_ne_nil _ _) h_info.symm
  have h_authority := Url.toList_authority url
  rw [if_neg h_some, h_info] at h_authority
  have h_ne : url.authority ≠ "" := by
    intro h_none
    rw [h_none] at h_authority
    simp at h_authority
  rw [Url.toList_print_of_authority h_ne, h_authority]
  simp only [headOf, List.append_assoc, List.cons_append, List.nil_append]

/-! ## User information -/

theorem userinfoSafe_lt {c : Char} (h : Url.userinfoSafe c = true) : c.toNat < 0x80 := by
  simp only [Url.userinfoSafe, Url.printableBut, Bool.and_eq_true, decide_eq_true_eq] at h
  omega

theorem isPasswordChar_of_userinfoSafe {c : Char} (h : Url.userinfoSafe c = true) :
    isPasswordChar c = true ∧ (c ≠ ':' → isUserChar c = true) :=
  ascii_of_all (P := fun c => Url.userinfoSafe c = true →
    isPasswordChar c = true ∧ (c ≠ ':' → isUserChar c = true)) (by decide +kernel)
    (userinfoSafe_lt h) h

/-- The user name and the password of a locator are escaped, and so could be those of a locator in
a text. -/
theorem userinfo_chars {w : Url} (h : w.Made) (h_password : w.userinfoParts.2 ≠ []) :
    (∀ c ∈ w.userinfoParts.1, isUserChar c = true) ∧ IsPassword w.userinfoParts.2 ∧
      ∀ c ∈ w.userinfoParts.2, Url.userinfoSafe c = true := by
  obtain ⟨h_info, h_colon⟩ := Url.userinfo_divided h_password
  have h_safe := h.userinfo
  rw [h_info] at h_safe
  obtain ⟨h_user, h_secret⟩ := List.forall_mem_append.mp h_safe
  have h_secret := (List.forall_mem_cons.mp h_secret).2
  refine ⟨fun c h_mem => (isPasswordChar_of_userinfoSafe (h_user c h_mem)).2 ?_,
    ⟨h_password, fun c h_mem => (isPasswordChar_of_userinfoSafe (h_secret c h_mem)).1⟩, h_secret⟩
  rintro rfl
  exact h_colon h_mem

/-- Two locators that are the same but for their passwords, neither of which is empty. -/
structure OtherPassword (u v : Url) : Prop where
  made : u.Made
  made' : v.Made
  rest : v = { u with userinfo := v.userinfo }
  username : u.userinfoParts.1 = v.userinfoParts.1
  password : u.password ≠ ""
  password' : v.password ≠ ""

theorem OtherPassword.secrets {u v : Url} (h : OtherPassword u v) :
    u.userinfoParts.2 ≠ [] ∧ v.userinfoParts.2 ≠ [] := by
  have h_secret {w : Url} (h_w : w.password ≠ "") : w.userinfoParts.2 ≠ [] := by
    intro h_none
    refine h_w ((percentDecode_eq_empty_iff _).mpr ?_)
    rw [h_none]
  exact ⟨h_secret h.password, h_secret h.password'⟩

section

variable {α β : Type} {char : α → Char} (hidden : List α) {encode : Char → α}

/-- Two locators that differ in their passwords alone, each in the same place of a text, and what is
written of the masked texts: it is the same exactly if the passwords are, or if a scheme and a user
name stand before them. -/
theorem written_agree_iff (write : α → List β) {u v : Url} (h : OtherPassword u v)
    (h_encode : ∀ c, char (encode c) = c) {mark : Char → β}
    (h_write : ∀ c, Url.userinfoSafe c = true → write (encode c) = [mark c])
    (h_mark : ∀ c d, mark c = mark d → c = d) {before : List α}
    (h_before : SetOff (before.map char)) (after : List α) :
    (maskUnits char hidden (before ++ u.print.toList.map encode ++ after)).flatMap write =
        (maskUnits char hidden (before ++ v.print.toList.map encode ++ after)).flatMap write ↔
      u = v ∨ u.scheme ≠ "" ∧ u.userinfoParts.1 ≠ [] := by
  obtain ⟨h_p, h_q⟩ := h.secrets
  obtain ⟨h_u, h_v, h_rest, h_user, -, -⟩ := h
  have h_print := toList_print_of_password h_p
  have h_print' := toList_print_of_password h_q
  have h_place : v.place = u.place ∧ v.trailer = u.trailer ∧ v.scheme = u.scheme := by
    rw [h_rest]
    exact ⟨rfl, rfl, rfl⟩
  rw [h_place.1, h_place.2.1, h_place.2.2, ← h_user] at h_print'
  generalize u.place.toList ++ u.trailer = tail at h_print h_print'
  obtain ⟨h_name, h_secret, h_safe⟩ := userinfo_chars h_u h_p
  obtain ⟨-, h_secret', h_safe'⟩ := userinfo_chars h_v h_q
  -- Around the password both texts are the same, and so is what masking does there.
  have h_around {password : List Char} (h_password : IsPassword password) :=
    maskUnits_around hidden h_encode h_u.scheme h_name h_password h_before
      (tail.map encode ++ after)
  have h_text (password : List Char) :
      before ++ (headOf u.scheme u.userinfoParts.1 ++ password ++ '@' :: tail).map encode ++ after =
        before ++ ((headOf u.scheme u.userinfoParts.1 ++ password).map encode ++
          encode '@' :: (tail.map encode ++ after)) := by
    simp only [List.map_append, List.map_cons, List.append_assoc, List.cons_append]
  rw [h_print, h_print', h_text, h_text, h_around h_secret, h_around h_secret']
  split
  case isTrue h_named => exact iff_of_true rfl (.inr h_named)
  case isFalse h_nameless =>
    -- Both passwords are kept, and what is around them is the same.
    rw [or_iff_left h_nameless]
    simp only [List.flatMap_append, List.append_cancel_left_eq, List.append_cancel_right_eq]
    have h_plain {password : List Char} (h : ∀ c ∈ password, Url.userinfoSafe c = true) :
        (password.map encode).flatMap write = password.map mark := by
      rw [List.flatMap_map, List.map_eq_flatMap]
      exact List.flatMap_congr fun c h_mem => h_write c (h c h_mem)
    rw [h_plain h_safe, h_plain h_safe', List.map_inj_right h_mark]
    constructor
    · intro h_same
      have h_info : u.userinfo.toList = v.userinfo.toList := by
        rw [(Url.userinfo_divided h_p).1, (Url.userinfo_divided h_q).1, h_user, h_same]
      rw [h_rest, ← String.toList_inj.mp h_info]
    · rintro rfl
      rfl

/-- The masked texts are the same in the same cases. -/
theorem masked_agree_iff {u v : Url} (h : OtherPassword u v) (h_encode : ∀ c, char (encode c) = c)
    {before : List α} (h_before : SetOff (before.map char)) (after : List α) :
    maskUnits char hidden (before ++ u.print.toList.map encode ++ after) =
        maskUnits char hidden (before ++ v.print.toList.map encode ++ after) ↔
      u = v ∨ u.scheme ≠ "" ∧ u.userinfoParts.1 ≠ [] := by
  have h_encode' (c d : Char) (h_same : encode c = encode d) : c = d := by
    rw [← h_encode c, h_same, h_encode]
  have h_agree := written_agree_iff hidden (fun unit => [unit]) h h_encode (fun _ _ => rfl) h_encode'
    h_before after
  simpa only [List.flatMap_singleton'] using h_agree

end

/-! ## Payloads and lines -/

/-- A text without the locator in it, whole or broken. -/
inductive Surroundings where
  | whole (before after : String)
  | broken (before after : List Nat)

namespace Surroundings

/-- The text with a locator in it. -/
def holding : Surroundings → Url → Datum
  | .whole before after, url => .plain (.text (before ++ url.print ++ after))
  | .broken before after, url =>
    .plain (.broken (before ++ url.print.toList.map Char.toNat ++ after))

/-- Whether white space stands before the place of the locator, or nothing. -/
def SetOff : Surroundings → Prop
  | .whole before _ => Log.SetOff before.toList
  | .broken before _ => Log.SetOff (before.map Message.charOf)

end Surroundings

/-- User information is written as it is. -/
theorem charText_of_userinfoSafe (c : Char) (h : Url.userinfoSafe c = true) :
    Json.charText c = [c] :=
  ascii_of_all (P := fun c => Url.userinfoSafe c = true → Json.charText c = [c])
    (by decide +kernel) (userinfoSafe_lt h) h

theorem codeText_of_userinfoSafe (c : Char) (h : Url.userinfoSafe c = true) :
    Json.codeText c.toNat = [c] := by
  rw [Json.codeText_toNat, charText_of_userinfoSafe c h]

/-- What a field holds after masking, and how it is written. -/
theorem maskDatum_agree_iff {u v : Url} (h : OtherPassword u v) {text : Surroundings}
    (h_text : text.SetOff) {key : Json.Wording} (h_key : isSecretKey key = false) :
    (maskDatum key (text.holding u) = maskDatum key (text.holding v) ↔
      u = v ∨ u.scheme ≠ "" ∧ u.userinfoParts.1 ≠ []) ∧
    ((maskDatum key (text.holding u)).toJson.chars = (maskDatum key (text.holding v)).toJson.chars ↔
      u = v ∨ u.scheme ≠ "" ∧ u.userinfoParts.1 ≠ []) := by
  cases text with
  | whole before after =>
    have h_units (w : Url) : (before ++ w.print ++ after).toList =
        before.toList ++ w.print.toList.map id ++ after.toList := by
      rw [String.toList_append, String.toList_append, List.map_id]
    have h_before : Log.SetOff (before.toList.map id) := by
      rwa [List.map_id]
    have h_encode (c : Char) : id (id c) = c := rfl
    have h_masked := masked_agree_iff mask.toList h h_encode h_before after.toList
    have h_written := written_agree_iff mask.toList Json.charText h h_encode charText_of_userinfoSafe
      (fun _ _ h_same => h_same) h_before after.toList
    rw [Surroundings.holding, Surroundings.holding, maskDatum_text key h_key rfl,
      maskDatum_text key h_key rfl]
    simp only [Datum.plain.injEq, Json.text.injEq, Datum.toJson, Json.chars, Json.quotedChars,
      maskText, String.toList_ofList, h_units, String.ofList_inj, List.cons_append, List.cons.injEq,
      true_and, List.append_cancel_right_eq]
    exact ⟨h_masked, h_written⟩
  | broken before after =>
    have h_encode (c : Char) : Message.charOf c.toNat = c := Json.charOf_toNat c
    have h_masked := masked_agree_iff (mask.toList.map Char.toNat) h h_encode h_text after
    have h_written := written_agree_iff (mask.toList.map Char.toNat) Json.codeText h h_encode
      codeText_of_userinfoSafe (fun _ _ h_same => h_same) h_text after
    rw [Surroundings.holding, Surroundings.holding, maskDatum_broken key h_key,
      maskDatum_broken key h_key]
    simp only [Datum.plain.injEq, Json.broken.injEq, Datum.toJson, Json.chars_ofCodes,
      Json.quotedCodes, List.cons_append, List.cons.injEq, true_and, List.append_cancel_right_eq]
    exact ⟨h_masked, h_written⟩

theorem username_eq_empty_iff (url : Url) : url.username = "" ↔ url.userinfoParts.1 = [] := by
  rw [Url.username, percentDecode_eq_empty_iff, String.ofList_eq_empty_iff]

theorem maskFields_around (front back : List (Json.Wording × Datum)) (key : Json.Wording)
    (value value' : Datum) :
    maskFields (front ++ (key, value) :: back) = maskFields (front ++ (key, value') :: back) ↔
      maskDatum key value = maskDatum key value' := by
  simp only [maskFields, List.map_append, List.map_cons, List.append_cancel_left_eq, List.cons.injEq,
    Prod.mk.injEq, true_and, and_true]

theorem map_toJson_maskFields_around (front back : List (Json.Wording × Datum)) (key : Json.Wording)
    (value : Datum) :
    (maskFields (front ++ (key, value) :: back)).map (fun (key, value) => (key, value.toJson)) =
      (maskFields front).map (fun (key, value) => (key, value.toJson)) ++
        (key, (maskDatum key value).toJson) ::
          (maskFields back).map fun (key, value) => (key, value.toJson) := by
  rw [maskFields, List.map_append, List.map_cons, List.map_append, List.map_cons]
  rfl

/-- A line tells of the value of a field what is written of it. -/
theorem objectLine_around (front back : List (Json.Wording × Datum)) (key : Json.Wording)
    (value value' : Datum) :
    objectLine (front ++ (key, value) :: back) = objectLine (front ++ (key, value') :: back) ↔
      (maskDatum key value).toJson.chars = (maskDatum key value').toJson.chars := by
  unfold objectLine maskedObject Json.print
  rw [map_toJson_maskFields_around, map_toJson_maskFields_around, String.ofList_inj]
  generalize (maskFields front).map _ = front
  generalize (maskFields back).map _ = back
  obtain ⟨before, after, h_around⟩ := Json.chars_object_around front back key
  rw [h_around, h_around, List.append_cancel_left_eq, List.append_cancel_right_eq]

/-- The log of a payload that holds a locator with a password, in a text behind white space.  For
two passwords the masked payload is the same, and the line of it, exactly if the key names a secret,
or if the locator has a scheme and a user name, or else if the passwords are the same. -/
theorem log_tells_password_iff {u v : Url} (h : OtherPassword u v) {text : Surroundings}
    (h_text : text.SetOff) (key : Json.Wording) (front back : List (Json.Wording × Datum)) :
    let payload (url : Url) := front ++ (key, text.holding url) :: back
    (maskFields (payload u) = maskFields (payload v) ↔
      isSecretKey key = true ∨ u = v ∨ u.scheme ≠ "" ∧ u.username ≠ "") ∧
    (objectLine (payload u) = objectLine (payload v) ↔
      isSecretKey key = true ∨ u = v ∨ u.scheme ≠ "" ∧ u.username ≠ "") := by
  intro payload
  rw [maskFields_around, objectLine_around]
  cases h_key : isSecretKey key with
  | true =>
    rw [maskDatum_of_secret key h_key, maskDatum_of_secret key h_key]
    exact ⟨iff_of_true rfl (.inl rfl), iff_of_true rfl (.inl rfl)⟩
  | false =>
    have h_name : u.username ≠ "" ↔ u.userinfoParts.1 ≠ [] := (username_eq_empty_iff u).not
    simp only [h_name, Bool.false_eq_true, false_or]
    exact maskDatum_agree_iff h h_text h_key

/-- A locator of the web with its user, behind a text that holds another one. -/
theorem web_locator_log_tells_nothing :
    let u : Url := { scheme := "https", userinfo := "u:p:q", host := "h", path := "/d.img" }
    let v : Url := { u with userinfo := "u:%40" }
    let text : Surroundings := .whole "not http://a:b@c but\n" "//x:y@z"
    OtherPassword u v ∧ text.SetOff ∧
    maskFields [("stage", .plain .null), ("url", text.holding u)] =
      maskFields [("stage", .plain .null), ("url", text.holding v)] ∧
    objectLine [("stage", .plain .null), ("url", text.holding u)] =
      objectLine [("stage", .plain .null), ("url", text.holding v)] := by
  intro u v text
  have h_p : u.password = "p:q" := by decide +kernel
  have h_q : v.password = "@" := by decide +kernel
  have h : OtherPassword u v :=
    { made := .read (show Url.parse "https://u:p:q@h/d.img" = .ok u from ok_of_toOption (by decide +kernel))
      made' := .read (show Url.parse "https://u:%40@h/d.img" = .ok v from ok_of_toOption (by decide +kernel))
      rest := rfl
      username := by decide
      password := by rw [h_p]; decide
      password' := by rw [h_q]; decide }
  have h_name : u.username = "u" := by decide +kernel
  have h_text : text.SetOff := by
    rintro c ⟨⟩
    decide
  have h_named : u.scheme ≠ "" ∧ u.username ≠ "" := by
    rw [h_name]
    decide
  obtain ⟨h_fields, h_line⟩ := log_tells_password_iff h h_text "url" [("stage", .plain .null)] []
  exact ⟨h, h_text, h_fields.mpr (.inr (.inr h_named)), h_line.mpr (.inr (.inr h_named))⟩

/-- A locator without a user name: its password stands in the masked payload. -/
theorem nameless_locator_log_tells_password :
    let u : Url := { scheme := "http", userinfo := ":secret", host := "h", path := "/" }
    let v : Url := { u with userinfo := ":other" }
    OtherPassword u v ∧
    maskFields [("url", .plain (.text u.print))] =
      [(.text "url", .plain (.text "http://:secret@h/"))] ∧
    maskFields [("url", .plain (.text v.print))] =
      [(.text "url", .plain (.text "http://:other@h/"))] := by
  intro u v
  have h_p : u.password = "secret" := by decide +kernel
  have h_q : v.password = "other" := by decide +kernel
  refine ⟨?_, ?_, ?_⟩
  · exact {
      made := .read (show Url.parse "http://:secret@h/" = .ok u from ok_of_toOption (by decide +kernel))
      made' := .read (show Url.parse "http://:other@h/" = .ok v from ok_of_toOption (by decide +kernel))
      rest := rfl
      username := by decide
      password := by rw [h_p]; decide
      password' := by rw [h_q]; decide }
  · have h_masked : maskText u.print = "http://:secret@h/" := by decide +kernel
    exact congrArg (fun value => [(Json.Wording.text "url", value)])
      (maskDatum_text "url" (by decide) h_masked)
  · have h_masked : maskText v.print = "http://:other@h/" := by decide +kernel
    exact congrArg (fun value => [(Json.Wording.text "url", value)])
      (maskDatum_text "url" (by decide) h_masked)

end ImageIntake.Log
