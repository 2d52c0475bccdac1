/-
  ImageIntake.Proofs.Log.Masking

  What masking does to a text.  Where a locator with a password starts, it is kept but for
  the password, and reading goes on behind it; where none starts, the unit is kept
  (`Masked`, `masked_iff`).  What stands for a password could be a password itself, so that
  a masked locator is one again.  No other locator comes about by masking
  (`Masked.starts`): a locator holds one at sign, at its end, and its user and its password
  hold no slash.  Hence a second masking changes nothing (`Masked.again`).
-/

import ImageIntake.Log.Masking
import ImageIntake.Proofs.Text.Splitting

namespace ImageIntake.Log

open ImageIntake.Text

/-! ## Locators with a password -/

/-- What stands in a locator before its password: `scheme://user:`. -/
inductive IsHead : List Char → Prop
  | mk {letter : Char} {scheme user : List Char} (h_letter : letter.isAlpha = true)
      (h_scheme : ∀ c ∈ scheme, isSchemeChar c = true) (h_user : user ≠ [])
      (h_chars : ∀ c ∈ user, isUserChar c = true) :
      IsHead (letter :: scheme ++ [':', '/', '/'] ++ user ++ [':'])

/-- What can be the password of a locator. -/
structure IsPassword (cs : List Char) : Prop where
  ne_nil : cs ≠ []
  chars : ∀ c ∈ cs, isPasswordChar c = true

/-- A locator with a password starts a text; it reaches to the `@`. -/
def StartsLocator (cs : List Char) : Prop :=
  ∃ head password rest, IsHead head ∧ IsPassword password ∧ cs = head ++ password ++ '@' :: rest

section

variable {α : Type} (char : α → Char) (hidden : List α)

/-- A text and what masking its passwords makes of it, from the left to the right: a locator that
starts somewhere is kept but for its password, and so is every unit where none starts. -/
inductive Masked : List α → List α → Prop
  | nil : Masked [] []
  | keep {u : α} {units masked : List α} (h : ¬StartsLocator ((u :: units).map char)) :
      Masked units masked → Masked (u :: units) (u :: masked)
  | hide {head password rest masked : List α} {sign : α} (h_head : IsHead (head.map char))
      (h_password : IsPassword (password.map char)) (h_sign : char sign = '@') :
      Masked rest masked →
      Masked (head ++ password ++ sign :: rest) (head ++ hidden ++ sign :: masked)

end

/-! ## Classes of characters -/

theorem isSchemeChar_of_isAlpha {c : Char} (h : c.isAlpha = true) : isSchemeChar c = true := by
  simp [isSchemeChar, Char.isAlphanum, h]

theorem ne_of_isSchemeChar {c : Char} (h : isSchemeChar c = true) : c ≠ ':' ∧ c ≠ '/' ∧ c ≠ '@' := by
  refine ⟨?_, ?_, ?_⟩ <;>
  · rintro rfl
    revert h
    decide

theorem ne_of_isUserChar {c : Char} (h : isUserChar c = true) : c ≠ ':' ∧ c ≠ '/' ∧ c ≠ '@' := by
  simp only [isUserChar, Bool.and_eq_true, bne_iff_ne] at h
  exact ⟨h.1.1.1, h.1.1.2, h.1.2⟩

theorem ne_of_isPasswordChar {c : Char} (h : isPasswordChar c = true) : c ≠ '/' ∧ c ≠ '@' := by
  simp only [isPasswordChar, Bool.and_eq_true, bne_iff_ne] at h
  exact ⟨h.1.2, h.1.1⟩

theorem isPassword_mask : IsPassword mask.toList where
  ne_nil := by decide
  chars := List.all_eq_true.mp (by decide)

/-! ## Splitting at marks -/

section

variable {α : Type} {char : α → Char}

theorem before_of_upTo? {pass : Char → Bool} {mark : List Char} {units before found after : List α}
    (h : upTo? char pass mark units = some (before, found, after)) :
    ∀ u ∈ before, pass (char u) = true := by
  simp only [upTo?, Option.ite_none_right_eq_some, Option.some.injEq, Prod.mk.injEq] at h
  obtain ⟨-, rfl, -, -⟩ := h
  intro u h_mem
  exact List.mem_takeWhile_imp (p := fun u => pass (char u)) h_mem

/-- A text splits at a mark that cannot be taken for something before it. -/
theorem upTo?_append {pass : Char → Bool} {first : Char} {mark : List Char}
    {before found : List α} (after : List α) (h_before : ∀ u ∈ before, pass (char u) = true)
    (h_found : found.map char = first :: mark) (h_first : pass first = false) :
    upTo? char pass (first :: mark) (before ++ (found ++ after)) = some (before, found, after) := by
  have h_length : (first :: mark).length = found.length := by
    rw [← h_found, List.length_map]
  have h_stop : (found ++ after).takeWhile (fun u => pass (char u)) = [] ∧
      (found ++ after).dropWhile (fun u => pass (char u)) = found ++ after := by
    obtain ⟨f, fs, rfl, h_char, -⟩ := List.map_eq_cons_iff.mp h_found
    rw [List.cons_append, List.takeWhile_cons_of_neg, List.dropWhile_cons_of_neg]
    · exact ⟨rfl, rfl⟩
    all_goals
      rw [h_char, h_first]
      exact Bool.false_ne_true
  unfold upTo?
  dsimp only
  rw [List.takeWhile_append_of_pos h_before, List.dropWhile_append_of_pos h_before, h_stop.1,
    h_stop.2, List.append_nil, h_length, List.take_left, List.drop_left, if_pos h_found]

/-! ## Finding a locator -/

/-- A locator at the head of a text is found. -/
theorem credentials?_locator {head password : List α} {sign : α} (rest : List α)
    (h_head : IsHead (head.map char)) (h_password : IsPassword (password.map char))
    (h_sign : char sign = '@') :
    credentials? char (head ++ password ++ sign :: rest) = some (head, [sign], rest) := by
  generalize h_chars : head.map char = cs at h_head
  obtain ⟨h_letter, h_scheme, h_user, h_userChars⟩ := h_head
  rename_i letter scheme user
  obtain ⟨body, colon, rfl, h_body, h_colon⟩ := List.map_eq_append_iff.mp h_chars
  obtain ⟨front, name, rfl, h_front, h_name⟩ := List.map_eq_append_iff.mp h_body
  obtain ⟨word, slashes, rfl, h_word, h_slashes⟩ := List.map_eq_append_iff.mp h_front
  obtain ⟨first, more, rfl, h_first, h_more⟩ := List.map_eq_cons_iff.mp h_word
  have h_word : ∀ u ∈ first :: more, isSchemeChar (char u) = true := by
    intro u h_mem
    rcases List.mem_cons.mp h_mem with rfl | h_mem
    · rw [h_first]
      exact isSchemeChar_of_isAlpha h_letter
    · exact h_scheme _ (h_more ▸ List.mem_map_of_mem h_mem)
  have h_name' : ∀ u ∈ name, isUserChar (char u) = true := fun u h_mem =>
    h_userChars _ (h_name ▸ List.mem_map_of_mem h_mem)
  have h_password' : ∀ u ∈ password, isPasswordChar (char u) = true := fun u h_mem =>
    h_password.chars _ (List.mem_map_of_mem h_mem)
  have h_some : (!name.isEmpty && !password.isEmpty) = true := by
    have h_password := h_password.ne_nil
    rw [← h_name] at h_user
    simp only [ne_eq, List.map_eq_nil_iff] at h_user h_password
    simp [h_user, h_password]
  have h_parts : (first :: more) ++ slashes ++ name ++ colon ++ password ++ sign :: rest =
      (first :: more) ++ (slashes ++ (name ++ (colon ++ (password ++ ([sign] ++ rest))))) := by
    simp only [List.append_assoc, List.singleton_append]
  have h_letter' : (((first :: more) ++ slashes ++ name ++ colon ++ password ++ sign :: rest).head?.map
      fun u => (char u).isAlpha).getD false = true := by
    simpa [h_first] using h_letter
  unfold credentials?
  rw [if_pos h_letter', h_parts, upTo?_append _ h_word h_slashes (by decide)]
  dsimp only [bind, Option.bind]
  rw [upTo?_append _ h_name' h_colon (by decide)]
  dsimp only
  rw [upTo?_append rest h_password' (by rw [List.map_singleton, h_sign]) (by decide)]
  dsimp only
  rw [if_pos h_some]

/-- What is found is a locator at the head of the text. -/
theorem locator_of_credentials? {units kept signs rest : List α}
    (h : credentials? char units = some (kept, signs, rest)) :
    ∃ password sign, signs = [sign] ∧ units = kept ++ password ++ sign :: rest ∧
      IsHead (kept.map char) ∧ IsPassword (password.map char) ∧ char sign = '@' := by
  unfold credentials? at h
  simp only [Option.ite_none_right_eq_some, Option.bind_eq_bind, Option.bind_eq_some_iff] at h
  obtain ⟨h_letter, ⟨scheme, slashes, behind⟩, h_scheme, ⟨user, colon, last⟩, h_user,
    ⟨password, signs', rest'⟩, h_password, h_some, h⟩ := h
  simp only [Option.some.injEq, Prod.mk.injEq] at h
  obtain ⟨rfl, rfl, rfl⟩ := h
  obtain ⟨rfl, h_slashes⟩ := append_of_upTo? char h_scheme
  obtain ⟨rfl, h_colon⟩ := append_of_upTo? char h_user
  obtain ⟨rfl, h_sign⟩ := append_of_upTo? char h_password
  obtain ⟨sign, h_signs, h_char⟩ := List.map_eq_singleton_iff.mp h_sign
  subst h_signs
  rw [Bool.and_eq_true, Bool.not_eq_true', Bool.not_eq_true', List.isEmpty_eq_false_iff,
    List.isEmpty_eq_false_iff] at h_some
  refine ⟨password, sign, rfl, by simp only [List.append_assoc, List.singleton_append], ?_, ?_, h_char⟩
  · have h_word := before_of_upTo? h_scheme
    cases scheme with
    | nil =>
      -- A text that starts with a letter does not start with a colon.
      obtain ⟨u, us, rfl, h_u, -⟩ := List.map_eq_cons_iff.mp h_slashes
      simp [h_u] at h_letter
    | cons first more =>
      rw [List.map_append, List.map_append, List.map_append, h_slashes, h_colon, List.map_cons]
      refine .mk ?_ ?_ ?_ ?_
      · simpa using h_letter
      · exact List.forall_mem_map.mpr fun u h_mem => h_word u (List.mem_cons_of_mem _ h_mem)
      · simpa using h_some.1
      · exact List.forall_mem_map.mpr (before_of_upTo? h_user)
  · exact ⟨by simpa using h_some.2, List.forall_mem_map.mpr (before_of_upTo? h_password)⟩

theorem startsLocator_of_parts {head password rest : List α} {sign : α}
    (h_head : IsHead (head.map char)) (h_password : IsPassword (password.map char))
    (h_sign : char sign = '@') : StartsLocator ((head ++ password ++ sign :: rest).map char) :=
  ⟨head.map char, password.map char, rest.map char, h_head, h_password, by
    rw [List.map_append, List.map_append, List.map_cons, h_sign]⟩

theorem credentials?_eq_none_iff {units : List α} :
    credentials? char units = none ↔ ¬StartsLocator (units.map char) := by
  constructor
  · rintro h ⟨head, password, rest, h_head, h_password, h_eq⟩
    obtain ⟨front, signs, rfl, h_front, h_signs⟩ := List.map_eq_append_iff.mp h_eq
    obtain ⟨kept, secret, rfl, rfl, rfl⟩ := List.map_eq_append_iff.mp h_front
    obtain ⟨sign, after, rfl, h_sign, -⟩ := List.map_eq_cons_iff.mp h_signs
    rw [credentials?_locator after h_head h_password h_sign] at h
    cases h
  · intro h
    cases h_found : credentials? char units with
    | none => rfl
    | some found =>
      obtain ⟨password, sign, -, rfl, h_head, h_password, h_sign⟩ := locator_of_credentials? h_found
      exact absurd (startsLocator_of_parts h_head h_password h_sign) h

/-! ## Masking -/

/-- A locator starts at the first letter of its word. -/
theorem StartsLocator.cons {cs : List Char} (h : StartsLocator cs) {letter : Char}
    (h_letter : letter.isAlpha = true) {word : List Char}
    (h_word : ∀ c ∈ word, isSchemeChar c = true) : StartsLocator (letter :: word ++ cs) := by
  obtain ⟨head, password, rest, h_head, h_password, rfl⟩ := h
  obtain ⟨h_first, h_scheme, h_user, h_chars⟩ := h_head
  rename_i first scheme user
  refine ⟨letter :: (word ++ first :: scheme) ++ [':', '/', '/'] ++ user ++ [':'], password, rest,
    .mk h_letter ?_ h_user h_chars, h_password, by simp⟩
  intro c h_mem
  rcases List.mem_append.mp h_mem with h_mem | h_mem
  · exact h_word c h_mem
  · rcases List.mem_cons.mp h_mem with rfl | h_mem
    · exact isSchemeChar_of_isAlpha h_first
    · exact h_scheme c h_mem

variable {hidden : List α}

/-- A part of a text in which no locator starts is kept. -/
theorem Masked.keep_all {part rest masked : List α}
    (h : ∀ before after, part = before ++ after → after ≠ [] →
      ¬StartsLocator ((after ++ rest).map char))
    (h_rest : Masked char hidden rest masked) :
    Masked char hidden (part ++ rest) (part ++ masked) := by
  induction part with
  | nil => exact h_rest
  | cons u part ih =>
    refine .keep (h [] (u :: part) rfl (List.cons_ne_nil _ _)) (ih fun before after h_part h_some => ?_)
    exact h (u :: before) after (congrArg (u :: ·) h_part) h_some

/-- A word is kept if no locator starts at its first letter. -/
theorem Masked.keep_word {u : α} {word rest masked : List α} (h_letter : (char u).isAlpha = true)
    (h_word : ∀ v ∈ word, isSchemeChar (char v) = true)
    (h : ¬StartsLocator ((u :: word ++ rest).map char)) (h_rest : Masked char hidden rest masked) :
    Masked char hidden (u :: word ++ rest) (u :: word ++ masked) := by
  refine .keep_all (fun before after h_parts h_some h_after => h ?_) h_rest
  cases before with
  | nil => rwa [h_parts]
  | cons v before =>
    rw [List.cons_append, List.cons.injEq] at h_parts
    obtain ⟨rfl, rfl⟩ := h_parts
    have h_before : ∀ c ∈ before.map char, isSchemeChar c = true :=
      List.forall_mem_map.mpr fun v h_mem => h_word v (List.mem_append_left after h_mem)
    have h_starts := h_after.cons h_letter h_before
    simpa only [List.map_append, List.map_cons, List.cons_append, List.append_assoc] using h_starts

/-- Masking does to a text what it should. -/
theorem masked_maskUnits (hidden units : List α) :
    Masked char hidden units (maskUnits char hidden units) := by
  fun_induction maskUnits char hidden units with
  | case1 => exact .nil
  | case2 u rest kept signs after h_found ih =>
    obtain ⟨password, sign, rfl, h_units, h_head, h_password, h_sign⟩ :=
      locator_of_credentials? h_found
    rw [h_units, List.append_assoc (kept ++ hidden)]
    exact .hide h_head h_password h_sign ih
  | case3 u rest h_none h_letter ih =>
    have h_whole := List.takeWhile_append_dropWhile (p := fun v => isSchemeChar (char v)) (l := rest)
    have h_word : ∀ v ∈ rest.takeWhile (fun v => isSchemeChar (char v)),
        isSchemeChar (char v) = true := fun v h_mem =>
      List.mem_takeWhile_imp (p := fun v => isSchemeChar (char v)) h_mem
    have h_starts := credentials?_eq_none_iff.mp h_none
    rw [← h_whole] at h_starts
    have h_masked := Masked.keep_word h_letter h_word h_starts ih
    rwa [List.cons_append, h_whole] at h_masked
  | case4 u rest h_none h_letter ih => exact .keep (credentials?_eq_none_iff.mp h_none) ih

/-- There is one way only to mask a text. -/
theorem Masked.eq {units masked masked' : List α} (h : Masked char hidden units masked)
    (h' : Masked char hidden units masked') : masked = masked' := by
  induction h generalizing masked' with
  | nil =>
    generalize h_units : [] = units at h'
    cases h' with
    | nil => rfl
    | keep => cases h_units
    | hide => simp at h_units
  | @keep u units masked h_keep _ ih =>
    generalize h_units : u :: units = all at h'
    cases h' with
    | nil => cases h_units
    | keep _ h' =>
      cases h_units
      rw [ih h']
    | hide h_head h_password h_sign =>
      rw [h_units] at h_keep
      exact absurd (startsLocator_of_parts h_head h_password h_sign) h_keep
  | @hide head password rest masked sign h_head h_password h_sign _ ih =>
    generalize h_units : head ++ password ++ sign :: rest = all at h'
    cases h' with
    | nil => simp at h_units
    | keep h_keep =>
      rw [← h_units] at h_keep
      exact absurd (startsLocator_of_parts h_head h_password h_sign) h_keep
    | @hide head' password' rest' masked' sign' h_head' h_password' h_sign' h_rest =>
      -- Both are what is found at the head of the text.
      have h_found := credentials?_locator rest h_head h_password h_sign
      rw [h_units, credentials?_locator rest' h_head' h_password' h_sign'] at h_found
      simp only [Option.some.injEq, Prod.mk.injEq, List.cons.injEq, and_true] at h_found
      obtain ⟨rfl, rfl, rfl⟩ := h_found
      rw [ih h_rest]

theorem masked_iff {units masked : List α} :
    Masked char hidden units masked ↔ masked = maskUnits char hidden units :=
  ⟨fun h => h.eq (masked_maskUnits hidden units), fun h => h ▸ masked_maskUnits hidden units⟩

/-! ## Masking again -/

/-- What holds of the characters of a scheme, of the marks and of the characters of a user name holds
of all that stands before a password. -/
theorem IsHead.forall_mem {head : List Char} (h : IsHead head) {P : Char → Prop}
    (h_scheme : ∀ c, isSchemeChar c = true → P c) (h_marks : P ':' ∧ P '/')
    (h_user : ∀ c, isUserChar c = true → P c) : ∀ c ∈ head, P c := by
  obtain ⟨h_letter, h_word, -, h_name⟩ := h
  intro c h_mem
  simp only [List.mem_append, List.mem_cons, List.not_mem_nil, or_false] at h_mem
  rcases h_mem with (((rfl | h_mem) | rfl | rfl | rfl) | h_mem) | rfl
  · exact h_scheme _ (isSchemeChar_of_isAlpha h_letter)
  · exact h_scheme _ (h_word _ h_mem)
  · exact h_marks.1
  · exact h_marks.2
  · exact h_marks.2
  · exact h_user _ (h_name _ h_mem)
  · exact h_marks.1

/-- A locator holds one at sign, at its end. -/
theorem IsHead.at_not_mem {head password : List Char} (h_head : IsHead head)
    (h_password : IsPassword password) : '@' ∉ head ++ password := by
  have h_ne : ∀ c ∈ head, c ≠ '@' :=
    h_head.forall_mem (fun _ h => (ne_of_isSchemeChar h).2.2) (by decide)
      fun _ h => (ne_of_isUserChar h).2.2
  intro h_mem
  rcases List.mem_append.mp h_mem with h_mem | h_mem
  · exact h_ne _ h_mem rfl
  · exact (ne_of_isPasswordChar (h_password.chars _ h_mem)).2 rfl

/-- Behind the scheme and its marks a locator holds no slash. -/
theorem slash_not_mem {name secret : List Char} (h_name : ∀ c ∈ name, isUserChar c = true)
    (h_secret : IsPassword secret) : '/' ∉ name ++ ':' :: secret := by
  intro h_mem
  rcases List.mem_append.mp h_mem with h_mem | h_mem
  · exact (ne_of_isUserChar (h_name _ h_mem)).2.1 rfl
  · rcases List.mem_cons.mp h_mem with h_eq | h_mem
    · revert h_eq
      decide
    · exact (ne_of_isPasswordChar (h_secret.chars _ h_mem)).1 rfl

/-- A user name and a password are told apart from each other and from what stands before them. -/
theorem eq_of_authority {front front' name name' secret secret' : List Char}
    (h_name : ∀ c ∈ name, isUserChar c = true) (h_name' : ∀ c ∈ name', isUserChar c = true)
    (h_secret : IsPassword secret) (h_secret' : IsPassword secret')
    (h : front ++ '/' :: (name ++ ':' :: secret) = front' ++ '/' :: (name' ++ ':' :: secret')) :
    front = front' ∧ name = name' ∧ secret = secret' := by
  have h_colon {name : List Char} (h_name : ∀ c ∈ name, isUserChar c = true) : ':' ∉ name :=
    fun h_mem => (ne_of_isUserChar (h_name _ h_mem)).1 rfl
  obtain ⟨h_front, h_rest⟩ :=
    eq_of_split_last (slash_not_mem h_name h_secret) (slash_not_mem h_name' h_secret') h
  exact ⟨h_front, eq_of_split_first (h_colon h_name) (h_colon h_name') h_rest⟩

/-- A head and a password are told apart from behind, whatever stands before them. -/
theorem IsHead.eq_of_append {head head' password password' before : List Char} (h_head : IsHead head)
    (h_head' : IsHead head') (h_password : IsPassword password) (h_password' : IsPassword password')
    (h : head' ++ password' = before ++ (head ++ password)) :
    head' = before ++ head ∧ password' = password := by
  suffices h_same : password' = password by
    rw [h_same, ← List.append_assoc] at h
    exact ⟨List.append_cancel_right h, h_same⟩
  obtain ⟨h_letter, h_scheme, h_user, h_chars⟩ := h_head
  obtain ⟨h_letter', h_scheme', h_user', h_chars'⟩ := h_head'
  rename_i letter scheme user letter' scheme' user'
  have h_parts : (letter' :: scheme' ++ [':', '/']) ++ '/' :: (user' ++ ':' :: password') =
      (before ++ letter :: scheme ++ [':', '/']) ++ '/' :: (user ++ ':' :: password) := by
    simpa using h
  exact (eq_of_authority h_chars' h_chars h_password' h_password h_parts).2.2

/-- A locator that starts in a masked text was there before. -/
theorem Masked.starts {units masked : List α} (h : Masked char hidden units masked)
    (h_hidden : IsPassword (hidden.map char)) (before : List Char)
    (h_starts : StartsLocator (before ++ masked.map char)) :
    StartsLocator (before ++ units.map char) := by
  induction h generalizing before with
  | nil => exact h_starts
  | @keep u units masked _ _ ih =>
    have h_step := ih (before ++ [char u])
    simp only [List.append_assoc, List.singleton_append] at h_step
    exact h_step h_starts
  | @hide head password rest masked sign h_head h_password h_sign _ ih =>
    obtain ⟨head', password', rest', h_head', h_password', h_eq⟩ := h_starts
    have h_at := h_head'.at_not_mem h_password'
    simp only [List.map_append, List.map_cons, h_sign] at h_eq ⊢
    by_cases h_before : '@' ∈ before
    · -- The locator ends before the text that was masked.
      obtain ⟨front, back, rfl, h_front⟩ := List.eq_append_cons_of_mem h_before
      rw [List.append_assoc, List.cons_append] at h_eq
      obtain ⟨rfl, -⟩ := eq_of_split_first h_front h_at h_eq
      exact ⟨head', password', _, h_head', h_password', by rw [List.append_assoc, List.cons_append]⟩
    · have h_front : '@' ∉ before ++ (head.map char ++ hidden.map char) := fun h_mem =>
        (List.mem_append.mp h_mem).elim h_before (h_head.at_not_mem h_hidden)
      rw [← List.append_assoc] at h_eq
      obtain ⟨h_whole, -⟩ := eq_of_split_first h_front h_at h_eq
      obtain ⟨rfl, -⟩ := h_head.eq_of_append h_head' h_hidden h_password' h_whole.symm
      exact ⟨_, password.map char, rest.map char, h_head', h_password, by
        simp only [List.append_assoc]⟩

/-- Masking again changes nothing. -/
theorem Masked.again {units masked : List α} (h : Masked char hidden units masked)
    (h_hidden : IsPassword (hidden.map char)) : Masked char hidden masked masked := by
  induction h with
  | nil => exact .nil
  | @keep u units masked h_keep h_rest ih =>
    exact .keep (fun h_starts => h_keep (h_rest.starts h_hidden [char u] h_starts)) ih
  | hide h_head h_password h_sign h_rest ih => exact .hide h_head h_hidden h_sign ih

end

/-! ## Texts -/

theorem maskUnits_again {α : Type} {char : α → Char} {hidden : List α}
    (h_hidden : IsPassword (hidden.map char)) (units : List α) :
    maskUnits char hidden (maskUnits char hidden units) = maskUnits char hidden units :=
  (masked_iff.mp ((masked_maskUnits hidden units).again h_hidden)).symm

theorem maskText_again (s : String) : maskText (maskText s) = maskText s := by
  have h_mask : IsPassword (mask.toList.map id) := by
    rw [List.map_id]
    exact isPassword_mask
  rw [maskText, maskText, String.toList_ofList, maskUnits_again h_mask]

theorem maskCodes_again (codes : List Nat) : maskCodes (maskCodes codes) = maskCodes codes :=
  maskUnits_again ⟨by decide, List.all_eq_true.mp (by decide)⟩ codes

/-! ## Fields -/

/-- Whether a field holds a text. -/
def Datum.isText : Datum → Bool
  | .plain (.text _) | .plain (.broken _) => true
  | _ => false

theorem maskDatum_of_secret (key : Json.Wording) (h_key : isSecretKey key = true) (value : Datum) :
    maskDatum key value = .plain (.text mask) := by
  unfold maskDatum
  rw [h_key, if_pos rfl]

theorem maskDatum_of_not_text (key : Json.Wording) (h_key : isSecretKey key = false) {value : Datum}
    (h : value.isText = false) : maskDatum key value = value := by
  unfold maskDatum
  rw [h_key, if_neg Bool.false_ne_true]
  split
  · cases h
  · cases h
  · rfl

theorem maskDatum_text (key : Json.Wording) (h_key : isSecretKey key = false) {s masked : String}
    (h : maskText s = masked) : maskDatum key (.plain (.text s)) = .plain (.text masked) := by
  simp only [maskDatum, h_key, Bool.false_eq_true, if_false, h]

theorem maskDatum_broken (key : Json.Wording) (h_key : isSecretKey key = false) (codes : List Nat) :
    maskDatum key (.plain (.broken codes)) = .plain (.broken (maskCodes codes)) := by
  simp only [maskDatum, h_key, Bool.false_eq_true, if_false]

theorem maskDatum_again (key : Json.Wording) (value : Datum) :
    maskDatum key (maskDatum key value) = maskDatum key value := by
  cases h_key : isSecretKey key with
  | true => rw [maskDatum_of_secret key h_key, maskDatum_of_secret key h_key]
  | false =>
    cases h_text : value.isText with
    | false => rw [maskDatum_of_not_text key h_key h_text, maskDatum_of_not_text key h_key h_text]
    | true =>
      unfold Datum.isText at h_text
      split at h_text
      · simp only [maskDatum, h_key, Bool.false_eq_true, if_false, maskText_again]
      · simp only [maskDatum, h_key, Bool.false_eq_true, if_false, maskCodes_again]
      · cases h_text

/-- Masking fields a second time changes nothing.  The keys stay, in their order.  Under a key that
names no secret, what is no text stays as it is, and of a text, whole or broken, nothing changes
but the passwords of the locators that are found in it from the left to the right. -/
theorem maskFields_changes_passwords_only (fields : List (Json.Wording × Datum)) :
    maskFields (maskFields fields) = maskFields fields ∧
    (maskFields fields).map Prod.fst = fields.map Prod.fst ∧
    ∀ (i : Nat) (key : Json.Wording) (value : Datum), fields[i]? = some (key, value) →
      isSecretKey key = false →
      (value.isText = false → (maskFields fields)[i]? = some (key, value)) ∧
      (∀ s : String, value = .plain (.text s) → ∃ masked : String,
        (maskFields fields)[i]? = some (key, .plain (.text masked)) ∧
        Masked id mask.toList s.toList masked.toList) ∧
      (∀ codes : List Nat, value = .plain (.broken codes) → ∃ masked : List Nat,
        (maskFields fields)[i]? = some (key, .plain (.broken masked)) ∧
        Masked Message.charOf (mask.toList.map Char.toNat) codes masked) := by
  refine ⟨?_, ?_, fun i key value h_field h_key => ?_⟩
  · simp only [maskFields, List.map_map]
    refine List.map_congr_left fun field _ => ?_
    exact congrArg (Prod.mk field.1) (maskDatum_again field.1 field.2)
  · simp only [maskFields, List.map_map]
    rfl
  · have h_masked : (maskFields fields)[i]? = some (key, maskDatum key value) := by
      rw [maskFields, List.getElem?_map, h_field]
      rfl
    rw [h_masked]
    refine ⟨fun h_text => ?_, fun s h_s => ?_, fun codes h_codes => ?_⟩
    · rw [maskDatum_of_not_text key h_key h_text]
    · subst h_s
      refine ⟨maskText s, by simp [maskDatum, h_key], ?_⟩
      rw [maskText, String.toList_ofList]
      exact masked_maskUnits mask.toList s.toList
    · subst h_codes
      exact ⟨maskCodes codes, by simp [maskDatum, h_key],
        masked_maskUnits (mask.toList.map Char.toNat) codes⟩

/-- The host of the first locator is no user of a second one. -/
example : maskText "a://b:c@d://e:f@g h:i@" =
    "a://b:***masked***@d://e:***masked***@g h:i@" := by decide +kernel

end ImageIntake.Log
