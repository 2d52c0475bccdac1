/-
  ImageIntake.Proofs.Url.Making

  The locators that there are: those that were read, and those that came of reading the
  parts of such a one again after a change (`Made`).  Of all of them the scheme is empty or
  starts with a letter (`Made.scheme`), and the user information is escaped
  (`Made.userinfo`).
-/

import Mathlib.Data.List.TakeDrop
import ImageIntake.Proofs.Text.Ascii
import ImageIntake.Proofs.Url.Apart
import ImageIntake.Proofs.Url.Parts

namespace ImageIntake.Url

open ImageIntake.Text

/-- A locator that was read, or made of another one by changing its parts; the scheme is kept or
left out. -/
inductive Made : Url → Prop
  | read {text : String} {url : Url} (h : parse text = .ok url) : Made url
  | changed {url changed : Url} {parts : RawParts} {change : RawAuthority → RawAuthority}
    (h_made : Made url) (h_scheme : parts.scheme = [] ∨ parts.scheme = url.scheme.toList)
    (h : reread parts change = .ok changed) : Made changed

/-! ## Schemes -/

/-- Nothing, or a letter and characters that may follow one in a scheme. -/
def IsScheme : List Char → Prop
  | [] => True
  | letter :: more => letter.isAlpha = true ∧ ∀ c ∈ more, isSchemeChar c = true

theorem isSchemeChar_of_isAlpha {c : Char} (h : c.isAlpha = true) : isSchemeChar c = true := by
  simp [isSchemeChar, Char.isAlphanum, h]

theorem IsScheme.chars {cs : List Char} (h : IsScheme cs) : ∀ c ∈ cs, isSchemeChar c = true := by
  cases cs with
  | nil => exact nofun
  | cons letter more => exact List.forall_mem_cons.mpr ⟨isSchemeChar_of_isAlpha h.1, h.2⟩

theorem isScheme_takeScheme (cs : List Char) : IsScheme (takeScheme cs).1 := by
  unfold takeScheme
  split
  · trivial
  · rename_i c rest _
    split
    · rename_i scheme rest' h_span
      split
      case isTrue h_letter =>
        rw [List.span_eq_takeWhile_dropWhile] at h_span
        have h_chars : ∀ d ∈ scheme, isSchemeChar d = true := by
          rw [← (Prod.mk.inj h_span).1]
          exact fun d h_mem => List.mem_takeWhile_imp h_mem
        obtain ⟨h_scheme, -⟩ := Prod.mk.inj h_span
        rw [List.takeWhile_cons_of_pos (isSchemeChar_of_isAlpha h_letter)] at h_scheme
        rw [← h_scheme] at h_chars ⊢
        exact ⟨h_letter, fun d h_mem => h_chars d (List.mem_cons_of_mem _ h_mem)⟩
      case isFalse => trivial
    · trivial
  · trivial

theorem toLower_facts {c : Char} (h : c.toNat < 0x80) :
    (c.isAlpha = true → c.toLower.isAlpha = true) ∧
    (isSchemeChar c = true → isSchemeChar c.toLower = true) :=
  ascii_of_all (P := fun c => (c.isAlpha = true → c.toLower.isAlpha = true) ∧
    (isSchemeChar c = true → isSchemeChar c.toLower = true)) (by decide +kernel) h

theorem isSchemeChar_lt {c : Char} (h : isSchemeChar c = true) : c.toNat < 0x80 := by
  simp only [isSchemeChar, Bool.or_eq_true, decide_eq_true_eq] at h
  rcases h with ((h | rfl) | rfl) | rfl
  · exact isAlphanum_lt h
  all_goals decide

/-- Lower case keeps the form of a scheme. -/
theorem IsScheme.map_toLower {cs : List Char} (h : IsScheme cs) : IsScheme (cs.map Char.toLower) := by
  cases cs with
  | nil => trivial
  | cons letter more =>
    have h_letter := isSchemeChar_lt (isSchemeChar_of_isAlpha h.1)
    refine ⟨(toLower_facts h_letter).1 h.1, List.forall_mem_map.mpr fun c h_mem => ?_⟩
    exact (toLower_facts (isSchemeChar_lt (h.2 c h_mem))).2 (h.2 c h_mem)

theorem isScheme_of_ofParts {parts : RawParts} {auth : RawAuthority} {url : Url}
    (h_scheme : IsScheme parts.scheme) (h : ofParts parts auth = .ok url) :
    IsScheme url.scheme.toList := by
  rw [(ofParts_eq_ok_iff.mp h).scheme, toList_asciiLower, String.toList_ofList]
  exact h_scheme.map_toLower

/-! ## Made locators -/

theorem Made.scheme {url : Url} (h : Made url) : IsScheme url.scheme.toList := by
  induction h with
  | @read text url h =>
    unfold parse at h
    dsimp only at h
    split at h
    · exact isScheme_of_ofParts (isScheme_takeScheme text.toList) h
    · cases h
  | changed _ h_scheme h ih =>
    unfold reread at h
    split at h
    · refine isScheme_of_ofParts ?_ h
      rcases h_scheme with h_none | h_same
      · rw [h_none]
        trivial
      · rwa [h_same]
    · cases h

theorem Made.userinfo {url : Url} (h : Made url) : ∀ c ∈ url.userinfo.toList, userinfoSafe c = true := by
  have h_escaped (info : List Char) : ∀ c ∈ (escape userinfoSafe info).toList,
      userinfoSafe c = true := by
    intro c h_mem
    rw [escape, String.toList_ofList] at h_mem
    exact userinfoSafe_keepsEscapes.safe_of_mem_encoded h_mem
  cases h with
  | @read text _ h =>
    unfold parse at h
    dsimp only at h
    split at h
    · rw [userinfo_of_ofParts h]
      exact h_escaped _
    · cases h
  | changed _ _ h =>
    rw [userinfo_of_reread h]
    exact h_escaped _

end ImageIntake.Url
