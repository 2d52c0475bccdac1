/-
  ImageIntake.Log.Masking

  Secrets are masked before a record is written: the values of keys that name a
  secret, and the password inside every `scheme://user:password@` of a text.
-/

import ImageIntake.Log.Record
import ImageIntake.Text.Blank
import ImageIntake.Text.LetterCase

namespace ImageIntake.Log

open ImageIntake.Text

/-- What stands for a secret. -/
def mask : String := "***masked***"

/-! ## Passwords in texts -/

/-- Characters of a scheme after its first letter. -/
def isSchemeChar (c : Char) : Bool :=
  c.isAlphanum || c = '+' || c = '.' || c = '-'

/-- Characters of a user name. -/
def isUserChar (c : Char) : Bool :=
  c != ':' && c != '/' && c != '@' && !isBlank c

/-- Characters of a password. -/
def isPasswordChar (c : Char) : Bool :=
  c != '@' && c != '/' && !isBlank c

section

/-! A text is a list of units: its characters, or code points where it is broken. -/

variable {α : Type} (char : α → Char)

/-- Splits a text at a mark, if what comes before it all passes: what comes before, the mark, and
what comes after. -/
def upTo? (pass : Char → Bool) (mark : List Char) (units : List α) :
    Option (List α × List α × List α) :=
  let after := units.dropWhile fun u => pass (char u)
  if (after.take mark.length).map char = mark then
    some (units.takeWhile fun u => pass (char u), after.take mark.length, after.drop mark.length)
  else none

/-- What comes before the password of a locator at the head of a text, the `@` behind the password,
and what comes after it. -/
def credentials? (units : List α) : Option (List α × List α × List α) :=
  if (units.head?.map fun u => (char u).isAlpha).getD false then do
    let (scheme, slashes, rest) ← upTo? char isSchemeChar [':', '/', '/'] units
    let (user, colon, rest) ← upTo? char isUserChar [':'] rest
    let (password, sign, rest) ← upTo? char isPasswordChar ['@'] rest
    if !user.isEmpty && !password.isEmpty then some (scheme ++ slashes ++ user ++ colon, sign, rest)
    else none
  else none

/-- What is split off and what is left make up the whole. -/
theorem append_of_upTo? {pass : Char → Bool} {mark : List Char} {units before found after : List α}
    (h : upTo? char pass mark units = some (before, found, after)) :
    units = before ++ (found ++ after) ∧ found.map char = mark := by
  simp only [upTo?, Option.ite_none_right_eq_some, Option.some.injEq, Prod.mk.injEq] at h
  obtain ⟨h_mark, rfl, rfl, rfl⟩ := h
  rw [List.take_append_drop, List.takeWhile_append_dropWhile]
  exact ⟨rfl, h_mark⟩

/-- What comes after a password is shorter than the whole. -/
theorem length_of_credentials? {units kept sign rest : List α}
    (h : credentials? char units = some (kept, sign, rest)) : rest.length < units.length := by
  unfold credentials? at h
  simp only [Option.ite_none_right_eq_some, Option.bind_eq_bind, Option.bind_eq_some_iff] at h
  obtain ⟨-, ⟨scheme, slashes, behind⟩, h_scheme, ⟨user, colon, last⟩, h_user,
    ⟨password, sign', rest'⟩, h_password, -, h⟩ := h
  simp only [Option.some.injEq, Prod.mk.injEq] at h
  obtain ⟨-, rfl, rfl⟩ := h
  obtain ⟨rfl, -⟩ := append_of_upTo? char h_scheme
  obtain ⟨rfl, -⟩ := append_of_upTo? char h_user
  obtain ⟨rfl, h_sign⟩ := append_of_upTo? char h_password
  have h_length := congrArg List.length h_sign
  simp only [List.length_map, List.length_append, List.length_cons, List.length_nil] at h_length ⊢
  omega

/-- Masks the passwords of a text from the left to the right; no two overlap. -/
def maskUnits (hidden : List α) (units : List α) : List α :=
  match units with
  | [] => []
  | u :: rest =>
    match _h : credentials? char (u :: rest) with
    | some (kept, sign, after) => kept ++ hidden ++ sign ++ maskUnits hidden after
    | none =>
      -- Where no locator starts at a letter, none starts further on in its word.
      if (char u).isAlpha then
        u :: rest.takeWhile (fun v => isSchemeChar (char v)) ++
          maskUnits hidden (rest.dropWhile fun v => isSchemeChar (char v))
      else u :: maskUnits hidden rest
termination_by units.length
decreasing_by
  · exact length_of_credentials? char _h
  · exact Nat.lt_succ_of_le (rest.dropWhile_sublist _).length_le
  · simp

end

/-- A text with its passwords masked. -/
def maskText (s : String) : String :=
  String.ofList (maskUnits id mask.toList s.toList)

/-- A broken text with its passwords masked. -/
def maskCodes (codes : List Nat) : List Nat :=
  maskUnits Message.charOf (mask.toList.map Char.toNat) codes

/-! ## Fields -/

/-- The keys that name a secret, in lower case. -/
def secretKeys : List String :=
  ["authorization", "access_key", "secret_key", "secret", "password", "token"]

/-- Whether a key names a secret, letter case ignored; a broken one names none. -/
def isSecretKey : Json.Wording → Bool
  | .text key => secretKeys.contains (lower key)
  | .broken _ => false

/-- Masks what a field holds. -/
def maskDatum (key : Json.Wording) (value : Datum) : Datum :=
  if isSecretKey key then .plain (.text mask)
  else match value with
    | .plain (.text s) => .plain (.text (maskText s))
    | .plain (.broken codes) => .plain (.broken (maskCodes codes))
    | value => value

/-- Masks the fields of a record. -/
def maskFields (fields : List (Json.Wording × Datum)) : List (Json.Wording × Datum) :=
  fields.map fun (key, value) => (key, maskDatum key value)

end ImageIntake.Log
