/-
  ImageIntake.Proofs.Files.Joining

  Paths that are joined as texts and as paths.  A path is told from where its text starts
  and from the names between its slashes.  Slashes behind a text add no names, and a text
  that does not start with one leaves the start alone (`start_append`), so that joining
  the texts of two paths, with a slash between them where there is none, gives a text for
  the one path below the other (`read_joinText`), whatever dots, slashes or empty names
  the two texts hold.
-/

import Mathlib.Data.List.Basic
import Mathlib.Data.List.TakeWhile
import ImageIntake.Files.Path

namespace ImageIntake.Files

namespace Path

/-! ## Where a path starts -/

/-- A path starts in the working directory exactly if its text does not start with a slash. -/
theorem start_eq_here_iff (cs : List Char) : (ofChars cs).start = .here ↔ cs.head? ≠ some '/' := by
  show Start.ofChars cs = .here ↔ _
  cases cs with
  | nil => simp [Start.ofChars]
  | cons c cs =>
    by_cases h_slash : c = '/'
    · have h_length : ((c :: cs).takeWhile (· = '/')).length =
          (cs.takeWhile (· = '/')).length + 1 := by
        simp [h_slash]
      have h_start : Start.ofChars (c :: cs) ≠ .here := by
        unfold Start.ofChars
        rw [h_length]
        split
        · omega
        · exact nofun
        · exact nofun
      refine iff_of_false h_start ?_
      rw [h_slash, not_not]
      rfl
    · simp [Start.ofChars, h_slash]

/-- What does not start with a slash leaves the start of a path alone. -/
theorem start_append {front back : List Char} (h : back.head? ≠ some '/') :
    (ofChars (front ++ back)).start = (ofChars front).start := by
  have h_none : back.takeWhile (· = '/') = [] := by
    cases back with
    | nil => rfl
    | cons c cs =>
      have h_slash : c ≠ '/' := fun h_eq => h (by rw [h_eq]; rfl)
      simp [h_slash]
  have h_same : (front ++ back).takeWhile (· = '/') = front.takeWhile (· = '/') := by
    rw [List.takeWhile_append, h_none, List.append_nil]
    split
    next h_all => exact ((List.takeWhile_prefix _).eq_of_length h_all).symm
    next => rfl
  show Start.ofChars (front ++ back) = Start.ofChars front
  unfold Start.ofChars
  rw [h_same]

/-- Nor does anything behind a text that ends in something else than a slash. -/
theorem start_append_of_getLast? {front back : List Char} {last : Char}
    (h_last : front.getLast? = some last) (h : last ≠ '/') :
    (ofChars (front ++ back)).start = (ofChars front).start := by
  have h_some : (front.takeWhile (· = '/')).length ≠ front.length := by
    intro h_all
    have h_mem : last ∈ front.takeWhile (· = '/') := by
      rw [(List.takeWhile_prefix _).eq_of_length h_all]
      exact List.mem_of_getLast? h_last
    have h_slash : decide (last = '/') = true := List.mem_takeWhile_imp (p := (· = '/')) h_mem
    exact h (of_decide_eq_true h_slash)
  show Start.ofChars (front ++ back) = Start.ofChars front
  unfold Start.ofChars
  rw [List.takeWhile_append, if_neg h_some]

/-! ## The names of a path -/

/-- A slash stands between the names in front of it and those behind it. -/
theorem names_append_slash (front back : List Char) :
    (ofChars (front ++ '/' :: back)).names = (ofChars front).names ++ (ofChars back).names := by
  have h_split : (front ++ '/' :: back).splitOn '/' = front.splitOn '/' ++ back.splitOn '/' :=
    List.splitOnP_append_cons front back (beq_self_eq_true '/')
  show ((front ++ '/' :: back).splitOn '/').filter isName = _
  rw [h_split, List.filter_append]
  rfl

@[simp] theorem names_nil : (ofChars []).names = [] := rfl

/-! ## Joining -/

theorem append_of_rooted {base p : Path} (h : p.start ≠ .here) : base.append p = p := if_neg h

theorem append_of_here {base p : Path} (h : p.start = .here) :
    base.append p = ⟨base.start, base.names ++ p.names⟩ := if_pos h

/-- A text of two paths, the second of which does not start at the root. -/
theorem eq_append_of_here {joined base text : List Char} (h_here : text.head? ≠ some '/')
    (h_start : (ofChars joined).start = (ofChars base).start)
    (h_names : (ofChars joined).names = (ofChars base).names ++ (ofChars text).names) :
    ofChars joined = (ofChars base).append (ofChars text) := by
  rw [append_of_here ((start_eq_here_iff text).mpr h_here), ← h_start, ← h_names]

/-- Joined texts are read as the one path below the other. -/
theorem read_joinText (base text : String) :
    read (joinText base text) = (read base).append (read text) := by
  unfold joinText
  by_cases h_rooted : text.toList.head? = some '/'
  · have h_start : (read text).start ≠ .here := by
      intro h_here
      exact (start_eq_here_iff text.toList).mp h_here h_rooted
    rw [if_pos h_rooted, append_of_rooted h_start]
  · rw [if_neg h_rooted]
    by_cases h_slash : base = "" ∨ base.toList.getLast? = some '/'
    · -- There is a slash between the two already, or nothing in front of the second.
      rw [if_pos h_slash]
      show ofChars (base ++ text).toList = _
      rw [String.toList_append]
      refine eq_append_of_here h_rooted (start_append h_rooted) ?_
      rcases h_slash with rfl | h_last
      · rfl
      · obtain ⟨front, h_front⟩ := List.getLast?_eq_some_iff.mp h_last
        rw [h_front, List.append_assoc, List.singleton_append, names_append_slash,
          names_append_slash, names_nil, List.append_nil]
    · rw [if_neg h_slash]
      obtain ⟨h_some, h_other⟩ := not_or.mp h_slash
      show ofChars (base ++ "/" ++ text).toList = _
      rw [String.append_assoc, String.toList_append, String.toList_append]
      refine eq_append_of_here h_rooted ?_ (names_append_slash base.toList text.toList)
      cases h_last : base.toList.getLast? with
      | none =>
        have h_empty : base.toList = [] := List.getLast?_eq_none_iff.mp h_last
        exact absurd (String.toList_eq_nil_iff.mp h_empty) h_some
      | some last =>
        refine start_append_of_getLast? h_last fun h_eq => ?_
        exact h_other (by rw [h_last, h_eq])

/-- The text of a path is never empty, as names are not. -/
theorem print_append_ne_empty (base text : String) :
    ((read base).append (read text)).print ≠ "" := by
  rw [← read_joinText]
  intro h_empty
  have h_chars : (read (joinText base text)).chars = [] := by
    have h_list := congrArg String.toList h_empty
    rwa [print, String.toList_ofList] at h_list
  unfold chars at h_chars
  split at h_chars
  · cases h_chars
  next h_some =>
    obtain ⟨h_slashes, h_names⟩ := List.append_eq_nil_iff.mp h_chars
    have h_here : (read (joinText base text)).start = .here := by
      cases h_start : (read (joinText base text)).start with
      | here => rfl
      | root => rw [h_start] at h_slashes; cases h_slashes
      | doubleRoot => rw [h_start] at h_slashes; cases h_slashes
    refine h_some ⟨h_here, ?_⟩
    cases h_list : (read (joinText base text)).names with
    | nil => rfl
    | cons first rest =>
      have h_first : first ≠ [] := by
        have h_mem : first ∈ (read (joinText base text)).names := by simp [h_list]
        have h_name : isName first = true := (List.mem_filter.mp h_mem).2
        rintro rfl
        cases h_name
      rw [h_list] at h_names
      cases rest with
      | nil =>
        rw [List.intercalate_singleton] at h_names
        exact absurd h_names h_first
      | cons second others =>
        rw [List.intercalate_cons_cons, List.append_assoc] at h_names
        exact absurd (List.append_eq_nil_iff.mp h_names).1 h_first

end Path

/-! ## Texts -/

/-- A path below another is the plain form of the two texts joined. -/
theorem plainPath_joinText (base text : String) :
    plainPath (joinText base text) = pathBelow base text := by
  rw [plainPath, pathBelow, Path.read_joinText]

theorem pathBelow_ne_empty (base text : String) : pathBelow base text ≠ "" :=
  Path.print_append_ne_empty base text

/-- Slashes and dots are read alike on either way, and an absolute name stands for itself. -/
example : joinText "./scratch//" "../a//b.img" = "./scratch//../a//b.img" ∧
    pathBelow "./scratch//" "../a//b.img" = "scratch/../a/b.img" ∧
    joinText "scratch" "//b.img" = "//b.img" ∧ pathBelow "scratch" "//b.img" = "//b.img" := by
  refine ⟨?_, ?_, ?_, ?_⟩ <;> decide

end ImageIntake.Files
