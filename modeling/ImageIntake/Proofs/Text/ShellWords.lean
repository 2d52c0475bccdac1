/-
  ImageIntake.Proofs.Text.ShellWords

  Laws of shell words.  A form of a word (`Spells`) is the word itself, if no character of
  it means anything to a shell, or the word in quotes; either is read back as the word
  (`splitFrom_spelled`).  Leaving control sequences out of a form leaves a form of the
  word without them (`Spells.strip`), for no sequence goes on past an apostrophe.  So a
  line that is said is read back as its words without control sequences (`split_spoken`).
-/

import Mathlib.Data.List.Forall2
import ImageIntake.Proofs.Text.ControlSequence
import ImageIntake.Text.ShellWords

namespace ImageIntake.Text.ShellWords

open ImageIntake.Text.ControlSequence

/-! ## Forms of a word -/

/-- A word within quotes. -/
def quoted (word : List Char) : List Char := '\'' :: word.flatMap insideQuotes ++ ['\'']

/-- Whether characters spell a word for a shell. -/
inductive Spells (word : List Char) : List Char → Prop where
  | plain (h_some : word ≠ []) (h_plain : ∀ c ∈ word, isPlain c) : Spells word word
  | quoted : Spells word (quoted word)

theorem spells_quoteChars (word : List Char) : Spells word (quoteChars word) := by
  unfold quoteChars
  split
  next h_empty =>
    rw [List.isEmpty_iff.mp h_empty]
    exact .quoted
  next h_some =>
    split
    next h_plain => exact .plain (fun h_nil => h_some (by rw [h_nil]; rfl)) (List.all_eq_true.mp h_plain)
    · exact .quoted

/-! ## Reading a form back -/

theorem ne_of_isPlain {c d : Char} (h : isPlain c) (h_other : isPlain d = false) : c ≠ d := by
  rintro rfl
  rw [h] at h_other
  cases h_other

theorem not_isSpecial_of_isPlain {c : Char} (h : isPlain c) : isSpecial c = false := by
  have h_specials : "|&;<>()$`*?[#~".toList.all fun d => !isPlain d := by decide
  refine Bool.eq_false_iff.mpr fun h_special => ?_
  have h_other := List.all_eq_true.mp h_specials c (List.contains_iff_mem.mp h_special)
  rw [h] at h_other
  cases h_other

theorem splitFrom_plain_cons {c : Char} (h : isPlain c) (begun : Option (List Char))
    (rest : List Char) :
    splitFrom .plain begun (c :: rest) = splitFrom .plain (push c begun) rest := by
  have h_blank : ¬(c = ' ' ∨ c = '\t') :=
    not_or.mpr ⟨ne_of_isPlain h (by decide), ne_of_isPlain h (by decide)⟩
  rw [splitFrom, if_neg h_blank, if_neg (ne_of_isPlain h (by decide)),
    if_neg (ne_of_isPlain h (by decide)), if_neg (ne_of_isPlain h (by decide)),
    if_neg (ne_of_isPlain h (by decide)), not_isSpecial_of_isPlain h, if_neg Bool.false_ne_true]

theorem splitFrom_plain {word : List Char} (h : ∀ c ∈ word, isPlain c) (begun rest : List Char) :
    splitFrom .plain (some begun) (word ++ rest) =
      splitFrom .plain (some (word.reverse ++ begun)) rest := by
  induction word generalizing begun with
  | nil => rfl
  | cons c more ih =>
    rw [List.cons_append, splitFrom_plain_cons (h c List.mem_cons_self), push, Option.getD_some,
      ih fun d h_mem => h d (List.mem_cons_of_mem c h_mem), List.reverse_cons, List.append_assoc]
    rfl

/-- Within quotes every character stands for itself. -/
theorem splitFrom_inside (word begun rest : List Char) :
    splitFrom .single (some begun) (word.flatMap insideQuotes ++ '\'' :: rest) =
      splitFrom .plain (some (word.reverse ++ begun)) rest := by
  induction word generalizing begun with
  | nil => rfl
  | cons c more ih =>
    rw [List.flatMap_cons, List.append_assoc, List.reverse_cons, List.append_assoc,
      List.singleton_append]
    by_cases h_mark : c = '\''
    · rw [h_mark]
      exact ih ('\'' :: begun)
    · rw [insideQuotes, if_neg h_mark, List.singleton_append, splitFrom, if_neg h_mark]
      exact ih (c :: begun)

/-- A form of a word is read as that word. -/
theorem splitFrom_spelled {word form : List Char} (h : Spells word form) (rest : List Char) :
    splitFrom .plain none (form ++ rest) = splitFrom .plain (some word.reverse) rest := by
  cases h with
  | plain h_some h_plain =>
    obtain ⟨c, more, rfl⟩ := List.exists_cons_of_ne_nil h_some
    rw [List.cons_append, splitFrom_plain_cons (h_plain c List.mem_cons_self), push,
      Option.getD_none, splitFrom_plain fun d h_mem => h_plain d (List.mem_cons_of_mem c h_mem),
      List.reverse_cons]
  | quoted =>
    have h_inside := splitFrom_inside word [] rest
    rw [List.append_nil] at h_inside
    have h_form : quoted word ++ rest = '\'' :: (word.flatMap insideQuotes ++ '\'' :: rest) := by
      simp [quoted]
    rw [h_form]
    exact h_inside

/-! ## Forms without control sequences -/

theorem afterParameters?_flatMap (word : List Char) :
    afterParameters? (word.flatMap insideQuotes) =
      (afterParameters? word).map (·.flatMap insideQuotes) := by
  induction word with
  | nil => rfl
  | cons c rest ih =>
    rw [List.flatMap_cons]
    by_cases h_mark : c = '\''
    · rw [h_mark]
      rfl
    · rw [insideQuotes, if_neg h_mark, List.singleton_append, afterParameters?, afterParameters?, ih]
      split
      · rfl
      · split <;> rfl

theorem afterSequence?_flatMap (c : Char) (rest : List Char) :
    afterSequence? (c :: rest.flatMap insideQuotes) =
      (afterSequence? (c :: rest)).map (·.flatMap insideQuotes) := by
  by_cases h_first : c = escape
  · cases rest with
    | nil => rw [h_first]; rfl
    | cons second rest =>
      rw [List.flatMap_cons]
      by_cases h_second : second = '['
      · rw [h_first, h_second, afterSequence?_escape]
        exact (afterSequence?_escape _).trans (afterParameters?_flatMap rest)
      · rw [afterSequence?_of_second h_second, insideQuotes]
        split
        · exact afterSequence?_of_second (by decide) _
        · exact afterSequence?_of_second h_second _
  · rw [afterSequence?_of_ne h_first, afterSequence?_of_ne h_first]
    rfl

/-- No sequence goes on past an apostrophe, so that leaving them out goes on within quotes. -/
theorem strip_flatMap (word : List Char) :
    strip (word.flatMap insideQuotes) = (strip word).flatMap insideQuotes := by
  fun_induction strip word with
  | case1 => exact strip_nil
  | case2 c rest behind h_seq ih =>
    have h_mark : c ≠ '\'' := by
      rintro rfl
      rw [afterSequence?_of_ne (by decide)] at h_seq
      cases h_seq
    have h_both := afterSequence?_flatMap c rest
    rw [h_seq] at h_both
    rw [List.flatMap_cons, insideQuotes, if_neg h_mark, List.singleton_append,
      strip_of_some h_both, ih]
  | case3 c rest h_seq ih =>
    rw [List.flatMap_cons, List.flatMap_cons, ← ih]
    by_cases h_mark : c = '\''
    · rw [h_mark]
      exact strip_append_of_not_mem (by decide) _
    · have h_both := afterSequence?_flatMap c rest
      rw [h_seq] at h_both
      rw [insideQuotes, if_neg h_mark, List.singleton_append, List.singleton_append,
        strip_of_none h_both]

theorem strip_quoted (word : List Char) : strip (quoted word) = quoted (strip word) := by
  have h_open := strip_cons_of_ne (c := '\'') (by decide) (word.flatMap insideQuotes ++ ['\''])
  have h_close := strip_append (c := '\'') (by decide) (word.flatMap insideQuotes) []
  have h_mark : strip ['\''] = ['\''] := strip_of_not_mem (by decide)
  rw [quoted, List.cons_append, h_open, h_close, strip_flatMap, h_mark]
  rfl

/-- A form without control sequences is a form of the word without them. -/
theorem spells_strip {word form : List Char} (h : Spells word form) :
    Spells (strip word) (strip form) := by
  cases h with
  | plain h_some h_plain =>
    have h_same : strip word = word :=
      strip_of_not_mem fun h_mem => ne_of_isPlain (h_plain escape h_mem) (by decide) rfl
    rw [h_same]
    exact .plain h_some h_plain
  | quoted =>
    rw [strip_quoted]
    exact .quoted

/-! ## Lines -/

/-- A line of forms is read as their words. -/
theorem splitFrom_line {words forms : List (List Char)} (h : List.Forall₂ Spells words forms) :
    splitFrom .plain none ([' '].intercalate forms ++ ['\n']) = some words := by
  induction h with
  | nil => rfl
  | @cons word form words forms h_form h_forms ih =>
    cases forms with
    | nil =>
      cases h_forms
      rw [List.intercalate_singleton, splitFrom_spelled h_form]
      exact congrArg (some [·]) (List.reverse_reverse word)
    | cons next forms =>
      have h_read (rest : List Char) : splitFrom .plain (some word.reverse) (' ' :: rest) =
          (splitFrom .plain none rest).map (word :: ·) := by
        rw [splitFrom, if_pos (.inl rfl), Option.toList_some, List.map_singleton,
          List.reverse_reverse]
        rfl
      rw [List.intercalate_cons_cons, List.append_assoc, List.append_assoc,
        splitFrom_spelled h_form, List.singleton_append, h_read, ih]
      rfl

/-- A blank ends sequences, so that each form of a line is read on its own. -/
theorem strip_line (forms : List (List Char)) :
    strip ([' '].intercalate forms ++ ['\n']) = [' '].intercalate (forms.map strip) ++ ['\n'] := by
  have h_feed : strip ['\n'] = ['\n'] := strip_of_not_mem (by decide)
  induction forms with
  | nil => exact h_feed
  | cons form forms ih =>
    cases forms with
    | nil =>
      rw [List.map_cons, List.map_nil, List.intercalate_singleton, List.intercalate_singleton,
        strip_append (by decide), h_feed]
    | cons next forms =>
      rw [List.map_cons, List.map_cons, List.intercalate_cons_cons, List.intercalate_cons_cons,
        List.append_assoc, List.append_assoc, List.singleton_append, strip_append (by decide),
        strip_cons_of_ne (by decide), ih]
      simp

/-- A line of words, said without control sequences, is read back as the words without them. -/
theorem split_spoken (words : List String) :
    split (plain (join words ++ "\n")) = some (words.map plain) := by
  have h_line : (join words ++ "\n").toList =
      [' '].intercalate (words.map fun word => quoteChars word.toList) ++ ['\n'] := by
    simp [join, quote, String.toList_intercalate, Function.comp_def]
  have h_forms : List.Forall₂ Spells (words.map fun word => strip word.toList)
      ((words.map fun word => quoteChars word.toList).map strip) := by
    rw [List.map_map, List.forall₂_map_left_iff, List.forall₂_map_right_iff, List.forall₂_same]
    exact fun word _ => spells_strip (spells_quoteChars word.toList)
  rw [split, plain, String.toList_ofList, h_line, strip_line, splitFrom_line h_forms,
    Option.map_some, List.map_map]
  rfl

end ImageIntake.Text.ShellWords
