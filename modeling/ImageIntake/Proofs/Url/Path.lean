/-
  ImageIntake.Proofs.Url.Path

  Paths without dot segments.  Following a path leaves no segment that is a dot or two dots
  (`dotFree_removeDots`), and keeps the slash it starts with (`rooted_removeDots`).  Escaping
  goes through a path segment by segment, and makes no dot of what was none
  (`dotFree_escaped`).  So following a path that was read leaves it alone
  (`removeDots_of_dotFree`).
-/

import Mathlib.Data.List.Basic
import ImageIntake.Proofs.Text.Percent
import ImageIntake.Proofs.Text.Splitting
import ImageIntake.Url.Parser

namespace ImageIntake.Url

open ImageIntake.Text

/-! ## Dot segments -/

/-- Whether a segment leads somewhere: it is neither a dot nor two dots. -/
def Leads (segment : List Char) : Prop := segment ≠ ['.'] ∧ segment ≠ ['.', '.']

/-- Whether a path has no dot segments. -/
def DotFree (path : List Char) : Prop := ∀ segment ∈ path.splitOn '/', Leads segment

theorem removeDots_of_dotFree {path : List Char} (h : DotFree path) : removeDots path = path := by
  have h_not {segment : List Char} (h_dots : ¬Leads segment) :
      (path.splitOn '/').contains segment = false := by
    rw [Bool.eq_false_iff, ne_eq, List.contains_iff_mem]
    exact fun h_mem => h_dots (h segment h_mem)
  unfold removeDots
  dsimp only
  rw [h_not fun h_leads => h_leads.1 rfl, h_not fun h_leads => h_leads.2 rfl]
  rfl

/-- The segments of a path without dot segments: each leads somewhere and holds no slash. -/
def Plain (segments : List (List Char)) : Prop := ∀ segment ∈ segments, Leads segment ∧ '/' ∉ segment

theorem plain_foldSegment {out : List (List Char)} (h : Plain out) {segment : List Char}
    (h_slash : '/' ∉ segment) : Plain (foldSegment out segment) := by
  unfold foldSegment
  split
  · exact h
  next h_dot =>
    split
    · split
      · exact h
      · exact fun s h_mem => h s (List.dropLast_subset _ h_mem)
    next h_dots =>
      intro s h_mem
      rcases List.mem_append.mp h_mem with h_mem | h_mem
      · exact h s h_mem
      · rw [List.mem_singleton.mp h_mem]
        exact ⟨⟨h_dot, h_dots⟩, h_slash⟩

theorem plain_foldl {segments out : List (List Char)} (h : Plain out)
    (h_slash : ∀ segment ∈ segments, '/' ∉ segment) : Plain (segments.foldl foldSegment out) := by
  induction segments generalizing out with
  | nil => exact h
  | cons segment rest ih =>
    exact ih (plain_foldSegment h (h_slash segment List.mem_cons_self)) fun s h_mem =>
      h_slash s (List.mem_cons_of_mem segment h_mem)

theorem dotFree_intercalate {segments : List (List Char)} (h : Plain segments) :
    DotFree (['/'].intercalate segments) := by
  cases segments with
  | nil =>
    intro s h_mem
    rw [List.mem_singleton.mp h_mem]
    exact ⟨by decide, by decide⟩
  | cons first rest =>
    unfold DotFree
    rw [List.splitOn_intercalate '/' (fun s h_mem => (h s h_mem).2) (List.cons_ne_nil first rest)]
    exact fun s h_mem => (h s h_mem).1

theorem not_slash_of_mem_splitOn {path segment : List Char} (h : segment ∈ path.splitOn '/') :
    '/' ∉ segment :=
  fun h_mem => absurd (of_mem_splitOnP h h_mem).2 (by decide)

theorem dotFree_removeDots (path : List Char) : DotFree (removeDots path) := by
  unfold removeDots
  dsimp only
  split
  · exact dotFree_intercalate (plain_foldl (fun _ h_mem => absurd h_mem List.not_mem_nil)
      fun _ => not_slash_of_mem_splitOn)
  next h_none =>
    simp only [Bool.or_eq_true, List.contains_iff_mem, not_or] at h_none
    intro s h_mem
    constructor
    · rintro rfl
      exact h_none.1 h_mem
    · rintro rfl
      exact h_none.2 h_mem

/-! ## Slashes at the start -/

/-- Whether a path is empty or starts with a slash. -/
def Rooted (path : List Char) : Prop := path = [] ∨ ∃ rest, path = '/' :: rest

/-- Following a path never takes its first segment away. -/
theorem head_foldSegment (rest : List (List Char)) (segment : List Char) :
    ∃ more, foldSegment ([] :: rest) segment = [] :: more := by
  unfold foldSegment
  split
  · exact ⟨rest, rfl⟩
  · split
    · split
      · exact ⟨rest, rfl⟩
      next h_out =>
        -- What two dots take away stands behind the first segment.
        cases rest with
        | nil => exact absurd rfl h_out
        | cons second others => exact ⟨_, rfl⟩
    · exact ⟨rest ++ [segment], rfl⟩

theorem head_foldl (segments rest : List (List Char)) :
    ∃ more, segments.foldl foldSegment ([] :: rest) = [] :: more := by
  induction segments generalizing rest with
  | nil => exact ⟨rest, rfl⟩
  | cons segment segments ih =>
    obtain ⟨more, h_more⟩ := head_foldSegment rest segment
    rw [List.foldl_cons, h_more]
    exact ih more

theorem rooted_intercalate (rest : List (List Char)) : Rooted (['/'].intercalate ([] :: rest)) := by
  cases rest with
  | nil => exact .inl rfl
  | cons second others => exact .inr ⟨_, List.intercalate_cons_cons⟩

theorem rooted_removeDots {path : List Char} (h : Rooted path) : Rooted (removeDots path) := by
  unfold removeDots
  dsimp only
  split
  next h_dots =>
    rcases h with rfl | ⟨rest, rfl⟩
    · exact absurd h_dots (by decide)
    · have h_split : ('/' :: rest).splitOn '/' = [] :: rest.splitOn '/' := by
        rw [List.splitOn, List.splitOnP_cons_eq_if_modifyHead, if_pos (beq_self_eq_true '/')]
        rfl
      rw [h_split, List.foldl_cons]
      obtain ⟨more, h_more⟩ := head_foldl (rest.splitOn '/') []
      have h_first : foldSegment [] [] = [[]] := rfl
      rw [h_first, h_more]
      exact rooted_intercalate more
  · exact h

/-! ## Escaping -/

theorem flatMap_intercalate {f : Char → List Char} (h_mark : f '/' = ['/'])
    (segments : List (List Char)) :
    (['/'].intercalate segments).flatMap f = ['/'].intercalate (segments.map (·.flatMap f)) := by
  induction segments with
  | nil => rfl
  | cons first rest ih =>
    cases rest with
    | nil => simp
    | cons second others =>
      rw [List.intercalate_cons_cons, List.flatMap_append, List.flatMap_append, ih,
        List.flatMap_singleton, h_mark]
      simp only [List.map_cons, List.intercalate_cons_cons]

theorem not_slash_of_mem_percentChar {c : Char} (h : c ≠ '/') : '/' ∉ percentChar pathSafe c := by
  intro h_mem
  cases h_safe : pathSafe c with
  | true =>
    rw [percentChar_of_safe h_safe, List.mem_singleton] at h_mem
    exact h h_mem.symm
  | false =>
    rcases of_mem_percentChar h_safe h_mem with h_eq | h_digit
    · exact absurd h_eq (by decide)
    · exact absurd h_digit (by decide)

/-- Escaping a path escapes its segments. -/
theorem splitOn_escaped (path : List Char) :
    (path.flatMap (percentChar pathSafe)).splitOn '/' =
      (path.splitOn '/').map (·.flatMap (percentChar pathSafe)) := by
  have h_mark : percentChar pathSafe '/' = ['/'] := percentChar_of_safe (by decide)
  have h_some : (path.splitOn '/').map (·.flatMap (percentChar pathSafe)) ≠ [] := by
    rw [ne_eq, List.map_eq_nil_iff]
    exact List.splitOnP_ne_nil _ path
  have h_parts : ['/'].intercalate (path.splitOn '/') = path := List.intercalate_splitOn '/'
  conv_lhs => rw [← h_parts]
  rw [flatMap_intercalate h_mark, List.splitOn_intercalate '/' ?_ h_some]
  intro escaped h_escaped h_slash
  obtain ⟨segment, h_segment, rfl⟩ := List.mem_map.mp h_escaped
  obtain ⟨c, h_c, h_mem⟩ := List.mem_flatMap.mp h_slash
  refine not_slash_of_mem_percentChar ?_ h_mem
  rintro rfl
  exact not_slash_of_mem_splitOn h_segment h_c

theorem dotFree_escaped {path : List Char} (h : DotFree path) :
    DotFree (path.flatMap (percentChar pathSafe)) := by
  -- Without a percent sign in it, an escaped segment is the segment itself.
  have h_same {segment : List Char} (h_plain : '%' ∉ segment.flatMap (percentChar pathSafe)) :
      segment.flatMap (percentChar pathSafe) = segment :=
    flatMap_percentChar_of_safe (safe_of_not_mem_encoded h_plain)
  intro escaped h_escaped
  rw [splitOn_escaped] at h_escaped
  obtain ⟨segment, h_segment, rfl⟩ := List.mem_map.mp h_escaped
  constructor
  · intro h_dot
    rw [h_same (by rw [h_dot]; decide)] at h_dot
    exact (h segment h_segment).1 h_dot
  · intro h_dots
    rw [h_same (by rw [h_dots]; decide)] at h_dots
    exact (h segment h_segment).2 h_dots

theorem rooted_escaped {path : List Char} (h : Rooted path) :
    Rooted (path.flatMap (percentChar pathSafe)) := by
  rcases h with rfl | ⟨rest, rfl⟩
  · exact .inl rfl
  · refine .inr ⟨rest.flatMap (percentChar pathSafe), ?_⟩
    rw [List.flatMap_cons, percentChar_of_safe (by decide)]
    rfl

end ImageIntake.Url
