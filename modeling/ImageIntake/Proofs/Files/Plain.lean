/-
  ImageIntake.Proofs.Files.Plain

  Paths in plain form.  The names of a path that was read hold no slash and are no dots
  (`Path.Plain`), so that its text is split into just these again: it is read back as the
  same path (`Path.read_print`) and walked along its names (`Path.steps_chars`).  A path
  one name below another has the text of that with the name behind it, and what is put
  behind that text is put behind the name (`pathBelow_append`).
-/

import ImageIntake.Files.Tree
import ImageIntake.Proofs.Files.Joining
import ImageIntake.Proofs.Text.Splitting

namespace ImageIntake.Files

/-! ## Slashes in front -/

namespace Start

theorem splitOn_slashes (start : Start) (cs : List Char) : (start.slashes ++ cs).splitOn '/' =
    List.replicate start.slashes.length [] ++ cs.splitOn '/' := by
  have h_slash (rest : List Char) : ('/' :: rest).splitOn '/' = [] :: rest.splitOn '/' :=
    List.splitOnP_append_cons [] rest (beq_self_eq_true '/')
  cases start with
  | here => rfl
  | root => exact h_slash cs
  | doubleRoot => exact (h_slash ('/' :: cs)).trans (congrArg _ (h_slash cs))

/-- The slashes that a path begins with tell its start, if no other slash follows them. -/
theorem ofChars_slashes (start : Start) {cs : List Char} (h : cs.head? ≠ some '/') :
    ofChars (start.slashes ++ cs) = start := by
  have h_none : cs.takeWhile (· = '/') = [] := by
    cases cs with
    | nil => rfl
    | cons c rest =>
      have h_other : c ≠ '/' := fun h_eq => h (congrArg some h_eq)
      simp [h_other]
  cases start <;> simp [ofChars, slashes, h_none]

end Start

/-! ## Plain paths -/

namespace Path

/-- Whether all names of a path are such as stand between slashes. -/
def Plain (p : Path) : Prop := ∀ name ∈ p.names, '/' ∉ name ∧ isName name = true

theorem plain_read (text : String) : (read text).Plain := by
  intro name h_mem
  obtain ⟨h_part, h_name⟩ := List.mem_filter.mp h_mem
  refine ⟨fun h_slash => ?_, h_name⟩
  have h_other := (Text.of_mem_splitOnP h_part h_slash).2
  exact Bool.false_ne_true (h_other.symm.trans (beq_self_eq_true '/'))

theorem ne_nil_of_isName {name : List Char} (h : isName name = true) : name ≠ [] := by
  rintro rfl
  cases h

variable {p : Path}

/-- A name in front keeps a slash from standing there. -/
theorem head?_intercalate_ne {names : List (List Char)}
    (h : ∀ name ∈ names, '/' ∉ name ∧ isName name = true) :
    (['/'].intercalate names).head? ≠ some '/' := by
  intro h_head
  cases names with
  | nil => cases h_head
  | cons first rest =>
    obtain ⟨h_slash, h_name⟩ := h first List.mem_cons_self
    obtain ⟨c, cs, rfl⟩ := List.exists_cons_of_ne_nil (ne_nil_of_isName h_name)
    have h_first : (['/'].intercalate ((c :: cs) :: rest)).head? = some c := by
      cases rest with
      | nil => rw [List.intercalate_singleton, List.head?_cons]
      | cons second others =>
        rw [List.intercalate_cons_cons, List.append_assoc, List.cons_append, List.head?_cons]
    rw [h_first] at h_head
    exact h_slash (Option.some.inj h_head ▸ List.mem_cons_self)

theorem chars_of_names (h_some : p.names ≠ []) :
    p.chars = p.start.slashes ++ ['/'].intercalate p.names :=
  if_neg fun h_both => h_some h_both.2

theorem splitOn_chars (h : p.Plain) (h_some : p.names ≠ []) :
    p.chars.splitOn '/' = List.replicate p.start.slashes.length [] ++ p.names := by
  rw [chars_of_names h_some, Start.splitOn_slashes,
    List.splitOn_intercalate '/' (fun name h_mem => (h name h_mem).1) h_some]

/-- The text of a plain path is read back as the path. -/
theorem read_print (h : p.Plain) : read p.print = p := by
  show ofChars p.print.toList = p
  rw [print, String.toList_ofList]
  obtain ⟨start, names⟩ := p
  by_cases h_some : names = []
  · subst h_some
    cases start <;> decide
  · have h_start : Start.ofChars (chars ⟨start, names⟩) = start := by
      rw [chars_of_names h_some]
      exact Start.ofChars_slashes start (head?_intercalate_ne h)
    have h_names : ((chars ⟨start, names⟩).splitOn '/').filter isName = names := by
      rw [splitOn_chars h h_some, List.filter_append, List.filter_replicate_of_neg (by decide),
        List.nil_append, List.filter_eq_self]
      exact fun name h_mem => (h name h_mem).2
    rw [ofChars, h_start, h_names]

theorem steps_chars (h : p.Plain) (h_some : p.names ≠ []) : Tree.steps p.chars = p.names := by
  have h_named : (p.chars.splitOn '/').filter (· ≠ []) = p.names := by
    rw [splitOn_chars h h_some, List.filter_append, List.filter_replicate_of_neg (by simp),
      List.nil_append, List.filter_eq_self]
    exact fun name h_mem => decide_eq_true (ne_nil_of_isName (h name h_mem).2)
  have h_last : (p.chars.splitOn '/').getLast? ≠ some [] := by
    rw [splitOn_chars h h_some, List.getLast?_append_of_ne_nil _ h_some]
    intro h_nil
    exact ne_nil_of_isName (h [] (List.mem_of_getLast? h_nil)).2 rfl
  unfold Tree.steps
  dsimp only
  rw [h_named]
  exact if_neg fun h_both => h_last h_both.1

/-- The walk along a path without names stays where it starts. -/
theorem steps_chars_of_nil (h : p.names = []) :
    Tree.steps p.chars = [] ∨ Tree.steps p.chars = [['.']] := by
  obtain ⟨start, names⟩ := p
  obtain rfl : names = [] := h
  cases start with
  | here => exact .inr (by decide)
  | root => exact .inl (by decide)
  | doubleRoot => exact .inl (by decide)

theorem origin_chars (h : p.Plain) (home : Place) :
    Tree.origin p.chars home = if p.start = .here then home else [] := by
  have h_read : ofChars p.chars = p := by
    have h_print := read_print h
    rwa [read, print, String.toList_ofList] at h_print
  have h_start := start_eq_here_iff p.chars
  rw [h_read] at h_start
  unfold Tree.origin
  by_cases h_here : p.start = .here
  · rw [if_neg (h_start.mp h_here), if_pos h_here]
  · rw [if_pos (not_not.mp (mt h_start.mpr h_here)), if_neg h_here]

end Path

/-! ## One name below another path -/

/-- A text without a slash is a path of one name. -/
theorem Path.read_name {name : List Char} (h_slash : '/' ∉ name) (h_name : isName name = true) :
    read (String.ofList name) = ⟨.here, [name]⟩ := by
  have h_one : name.splitOn '/' = [name] := List.splitOnP_eq_singleton fun c h_mem => by
    rw [beq_eq_false_iff_ne]
    rintro rfl
    exact h_slash h_mem
  have h_head : name.head? ≠ some '/' := fun h_eq => h_slash (List.mem_of_head? h_eq)
  show ofChars (String.ofList name).toList = _
  rw [String.toList_ofList, ofChars, h_one, List.filter_cons_of_pos h_name, List.filter_nil]
  exact congrArg (Path.mk · [name]) ((start_eq_here_iff name).mpr h_head)

theorem pathBelow_name (base : String) {name : List Char} (h_slash : '/' ∉ name)
    (h_name : Path.isName name = true) :
    pathBelow base (String.ofList name) =
      (Path.mk (Path.read base).start ((Path.read base).names ++ [name])).print := by
  rw [pathBelow, Path.read_name h_slash h_name, Path.append_of_here rfl]

theorem intercalate_append_last (names : List (List Char)) (name more : List Char) :
    ['/'].intercalate (names ++ [name ++ more]) = ['/'].intercalate (names ++ [name]) ++ more := by
  induction names with
  | nil => simp
  | cons first rest ih =>
    cases rest with
    | nil => simp [List.intercalate_cons_cons]
    | cons second others =>
      have h_cons (last : List Char) : ['/'].intercalate (first :: second :: others ++ [last]) =
          first ++ ['/'] ++ ['/'].intercalate (second :: others ++ [last]) :=
        List.intercalate_cons_cons ..
      rw [h_cons, h_cons, ih, ← List.append_assoc]

/-- What is put behind the text of a path is put behind its last name. -/
theorem pathBelow_append (base : String) {name more : List Char} (h_slash : '/' ∉ name ++ more)
    (h_name : Path.isName name = true) (h_longer : Path.isName (name ++ more) = true) :
    pathBelow base (String.ofList name) ++ String.ofList more =
      pathBelow base (String.ofList (name ++ more)) := by
  have h_first : '/' ∉ name := fun h_mem => h_slash (List.mem_append_left more h_mem)
  rw [pathBelow_name base h_first h_name, pathBelow_name base h_slash h_longer, Path.print,
    Path.print, Path.chars_of_names (by simp), Path.chars_of_names (by simp),
    intercalate_append_last, ← String.ofList_append, List.append_assoc]

end ImageIntake.Files
