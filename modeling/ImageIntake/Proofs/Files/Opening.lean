/-
  ImageIntake.Proofs.Files.Opening

  What can be opened for writing: a free place in a directory that may be written to, or
  something that is no directory and may be written to itself (`Tree.Opens`).  A path
  that leads to something names an entry, a link at its end or what it leads to
  (`Tree.named_of_resolve`); so a directory that is there is not made again.
-/

import ImageIntake.Proofs.Files.Directory

namespace ImageIntake.Files

namespace Tree

/-! ## Where a file can be written -/

/-- Whether what a path leads to can be opened for writing. -/
inductive Opens (tree : Tree) (path : String) : Prop
  | free {place : Place} (h_resolve : tree.resolve true path = .ok (.free place))
      (h_above : tree.refusal? place.dropLast .writing = none)
  | taken {place : Place} {node : Node} (h_resolve : tree.resolve true path = .ok (.taken place node))
      (h_kind : node.isDirectory = false) (h_refusal : tree.refusal? place .writing = none)

theorem openToWrite_ok_iff (tree : Tree) (path : String) :
    (∃ target, tree.openToWrite path = .ok target) ↔ tree.Opens path := by
  constructor
  · rintro ⟨target, h_open⟩
    unfold openToWrite at h_open
    split at h_open
    next => cases h_open
    next place h_resolve =>
      split at h_open
      next => cases h_open
      next h_above => exact .free h_resolve h_above
    next place node h_resolve =>
      split at h_open
      next => cases h_open
      next h_kind =>
        split at h_open
        next => cases h_open
        next h_refusal => exact .taken h_resolve (Bool.eq_false_iff.mpr h_kind) h_refusal
  · intro h_opens
    unfold openToWrite
    cases h_opens with
    | free h_resolve h_above =>
      rw [h_resolve]
      dsimp only
      rw [h_above]
      exact ⟨_, rfl⟩
    | taken h_resolve h_kind h_refusal =>
      rw [h_resolve]
      dsimp only
      rw [h_kind, h_refusal]
      exact ⟨_, rfl⟩

theorem ensureFile_ok_iff (tree : Tree) (path : String) :
    (∃ after, tree.ensureFile path = .ok after) ↔ tree.Opens path := by
  rw [← openToWrite_ok_iff]
  unfold ensureFile
  rcases tree.openToWrite path with fault | ⟨place, node⟩ | place
  · exact iff_of_false (by rintro ⟨after, ⟨⟩⟩) (by rintro ⟨target, ⟨⟩⟩)
  · exact iff_of_true ⟨_, rfl⟩ ⟨_, rfl⟩
  · exact iff_of_true ⟨_, rfl⟩ ⟨_, rfl⟩

/-! ## Entries that paths name -/

/-- Where a path leads to something, a link at its end names an entry too. -/
theorem named_of_follow {tree : Tree} {place : Place} {node : Node}
    {onward onward' : Place → List Name → Except Refusal Target}
    (h_onward : ∀ start path, onward start path = .ok (.taken place node) →
      ∃ named found, onward' start path = .ok (.taken named found))
    {start : Place} {path : List Name}
    (h : tree.follow true onward start path = .ok (.taken place node)) :
    ∃ named found, tree.follow false onward' start path = .ok (.taken named found) := by
  generalize h_last : true = last at h
  fun_induction follow tree last onward start path with
  | case1 start found h_here => exact ⟨start, found, by rw [follow, h_here]⟩
  | case3 _ _ _ h_here ih =>
    rw [follow, h_here]
    exact ih h
  | case4 _ _ _ h_here h_dot ih =>
    rw [follow, h_here]
    dsimp only
    rw [if_neg h_dot, if_pos rfl]
    exact ih h
  | case8 _ _ _ _ _ _ _ _ _ _ _ h_stop => exact absurd (h_last.trans h_stop.2) (by decide)
  | case9 start step rest _ h_here h_dot h_dots h_length _ target h_next =>
    have h_there : tree.find? (start ++ [step]) = some (.link target) := h_next
    obtain ⟨named, found, h_found⟩ := h_onward _ _ h
    rw [follow, h_here]
    simp only [h_dot, h_dots, h_length, h_there, if_false]
    by_cases h_end : rest = []
    · exact ⟨_, _, if_pos ⟨h_end, trivial⟩⟩
    · exact ⟨named, found, (if_neg fun h_both => h_end h_both.1).trans h_found⟩
  | case10 start step rest _ h_here h_dot h_dots h_length _ there h_link h_next ih =>
    have h_there : tree.find? (start ++ [step]) = some there := h_next
    obtain ⟨named, found, h_found⟩ := ih h
    refine ⟨named, found, ?_⟩
    rw [follow, h_here]
    simp only [h_dot, h_dots, h_length, h_there, if_false]
    exact h_found
  | _ => cases h

theorem named_of_resolve {tree : Tree} {path : String} {place : Place} {node : Node}
    (h : tree.resolve true path = .ok (.taken place node)) :
    ∃ named found, tree.resolve false path = .ok (.taken named found) := by
  obtain ⟨h_nul, h_length, h_some, h_walk⟩ := walk_of_resolve h
  have h_named : ∀ links start path, tree.walk true links start path = .ok (.taken place node) →
      ∃ named found, tree.walk false links start path = .ok (.taken named found) := by
    intro links
    induction links with
    | zero =>
      refine fun start path => named_of_follow fun _ _ h_onward => ?_
      cases h_onward
    | succ links ih => exact fun start path => named_of_follow ih
  obtain ⟨named, found, h_found⟩ := h_named _ _ _ h_walk
  refine ⟨named, found, ?_⟩
  rw [resolve_of_walk h_nul h_length h_some, h_found]
  rfl

/-! ## Directories that are there -/

/-- A directory that is there is not made again. -/
theorem ensureDirectory_of_leads {tree : Tree} {dir : String} {dest : Place}
    (h : tree.Leads dir dest) : tree.ensureDirectory (plainPath dir) = .ok tree := by
  obtain ⟨stamp, h_resolve⟩ := h
  obtain ⟨named, found, h_found⟩ := named_of_resolve h_resolve
  have h_there : tree.isDirectory (plainPath dir) = true := by
    rw [isDirectory, look, h_resolve]
    rfl
  unfold ensureDirectory makeDirectory
  rw [h_found]
  exact if_pos h_there

theorem makeDirectories_of_leads {tree : Tree} {dir : String} {dest : Place}
    (h : tree.Leads dir dest) : tree.makeDirectories (.read dir) = .ok tree := by
  have h_there := ensureDirectory_of_leads h
  have h_text : plainPath dir =
      (Path.mk (Path.read dir).start (Path.read dir).names.reverse.reverse).print := by
    rw [List.reverse_reverse]
    rfl
  rw [h_text] at h_there
  unfold makeDirectories
  cases h_names : (Path.read dir).names.reverse with
  | nil =>
    rw [h_names] at h_there
    exact h_there
  | cons name above =>
    rw [h_names] at h_there
    unfold ensureAll
    dsimp only
    rw [h_there]

end Tree

end ImageIntake.Files
