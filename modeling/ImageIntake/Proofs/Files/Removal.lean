/-
  ImageIntake.Proofs.Files.Removal

  Taking an entry away.  A path leads only to what stands in the tree
  (`Tree.find?_of_walk`), and taking the entry of a place away leaves every other
  place as it was (`Tree.find?_remove_of_ne`).  Unlinking therefore leaves the tree
  alone or clears the one place that the path names (`Tree.unlink_ok`).
-/

import ImageIntake.Proofs.Space
import ImageIntake.Proofs.Text.Splitting

namespace ImageIntake.Files

/-! ## Refusals -/

theorem Refusal.name_fault_iff (r : Refusal) (path : String) :
    (r.fault path).name = "FileNotFoundError" ↔ r = .absent := by
  cases r with
  | absent => exact iff_of_true rfl rfl
  | _ => exact iff_of_false (of_decide_eq_false rfl) (of_decide_eq_false rfl)

/-! ## Plain paths -/

/-- The plainest text for a path holds nothing new but slashes and dots. -/
theorem mem_of_mem_plainPath {c : Char} {text : String} (h_slash : c ≠ '/') (h_dot : c ≠ '.')
    (h : c ∈ (plainPath text).toList) : c ∈ text.toList := by
  unfold plainPath Path.print Path.chars at h
  rw [String.toList_ofList] at h
  split at h
  · exact absurd (List.mem_singleton.mp h) h_dot
  · rcases List.mem_append.mp h with h | h
    · unfold Start.slashes at h
      split at h <;> simp [h_slash] at h
    · obtain ⟨part, h_part, h_mem⟩ := (Text.mem_intercalate_iff h_slash).mp h
      have h_split := (List.mem_filter.mp h_part).1
      have h_all : c ∈ ['/'].intercalate (text.toList.splitOn '/') :=
        (Text.mem_intercalate_iff h_slash).mpr ⟨part, h_split, h_mem⟩
      rwa [List.intercalate_splitOn] at h_all

namespace Tree

/-! ## Following a path -/

theorem walk_eq_follow (tree : Tree) (last : Bool) (links : Nat) :
    ∃ onward, tree.walk last links = tree.follow last onward := by
  cases links <;> exact ⟨_, rfl⟩

section

variable {tree : Tree} {last : Bool} {links : Nat} {place : Place} {step : Name} {rest : List Name}
  {stamp : Stamp} {target : String} {node : Node}
  (h_here : tree.find? place = some (.directory stamp)) (h_step : step ≠ ['.'] ∧ step ≠ ['.', '.'])
  (h_length : (Text.utf8 (String.ofList step)).length ≤ nameLimit)

include h_here h_step h_length

theorem walk_through_link (h_next : tree.find? (place ++ [step]) = some (.link target))
    (h_follow : ¬(rest = [] ∧ last = false)) :
    tree.walk last (links + 1) place (step :: rest) =
      tree.walk last links (origin target.toList place) (steps target.toList ++ rest) := by
  rw [walk, follow, h_here]
  simp only [h_step, Nat.not_lt.mpr h_length, h_next, h_follow, if_false]

/-- A walk with one step left ends at all but a link. -/
theorem walk_onto (h_next : tree.find? (place ++ [step]) = some node)
    (h_link : ∀ target, node ≠ .link target) :
    tree.walk last links place [step] = .ok (.taken (place ++ [step]) node) := by
  obtain ⟨onward, h_walk⟩ := walk_eq_follow tree last links
  rw [h_walk, follow, h_here]
  simp only [h_step, Nat.not_lt.mpr h_length, h_next, if_false]
  rw [follow, h_next]

end

theorem resolve_eq_walk {tree : Tree} {last : Bool} {path : String}
    (h_plain : path.toList.contains '\x00' = false) (h_ne : path ≠ "")
    (h_length : (Text.utf8 path).length ≤ pathLimit) :
    tree.resolve last path =
      (tree.walk last linkLimit (origin path.toList tree.home) (steps path.toList)).mapError
        (·.fault path) := by
  unfold resolve
  simp only [h_plain, Bool.false_eq_true, h_ne, Nat.not_lt.mpr h_length, if_false]

/-- What a path leads to stands in the tree, as far as it is followed at once. -/
theorem find?_of_follow {tree : Tree} {last : Bool}
    {onward : Place → List Name → Except Refusal Target} {place : Place} {node : Node}
    (h_onward : ∀ start path, onward start path = .ok (.taken place node) →
      tree.find? place = some node)
    {start : Place} {path : List Name}
    (h : tree.follow last onward start path = .ok (.taken place node)) :
    tree.find? place = some node := by
  fun_induction follow tree last onward start path with
  | case1 _ _ h_here =>
    cases h
    exact h_here
  | case8 _ _ _ _ _ _ _ _ _ _ h_link =>
    obtain ⟨h_place, h_node⟩ := Target.taken.inj (Except.ok.inj h)
    rw [← h_place, ← h_node]
    exact h_link
  | case9 => exact h_onward _ _ h
  | case3 _ _ _ _ ih => exact ih h
  | case4 _ _ _ _ _ ih => exact ih h
  | case10 _ _ _ _ _ _ _ _ _ _ _ _ ih => exact ih h
  | _ => cases h

/-- What a path leads to stands in the tree. -/
theorem find?_of_walk {tree : Tree} {last : Bool} {links : Nat} {start place : Place}
    {path : List Name} {node : Node}
    (h : tree.walk last links start path = .ok (.taken place node)) :
    tree.find? place = some node := by
  induction links generalizing start path with
  | zero =>
    refine find?_of_follow (fun _ _ h_onward => ?_) h
    cases h_onward
  | succ links ih => exact find?_of_follow (fun _ _ => ih) h

theorem resolve_eq (tree : Tree) (last : Bool) {path : String} (h : '\x00' ∉ path.toList) :
    ∃ outcome : Except Refusal Target, tree.resolve last path = outcome.mapError (·.fault path) ∧
      ∀ place node, outcome = .ok (.taken place node) → tree.find? place = some node := by
  have h_plain : path.toList.contains '\x00' = false := by
    rw [List.contains_eq_mem]
    exact decide_eq_false h
  unfold resolve
  simp only [h_plain, Bool.false_eq_true, if_false]
  refine ⟨_, rfl, ?_⟩
  intro place node h_outcome
  split at h_outcome
  · cases h_outcome
  · split at h_outcome
    · cases h_outcome
    · exact find?_of_walk h_outcome

/-! ## Taking away -/

section

variable {α β : Type} [BEq α] [LawfulBEq α]

theorem lookup_filter (keep : α → Bool) {key : α} (h : keep key = true) (entries : List (α × β)) :
    (entries.filter fun entry => keep entry.1).lookup key = entries.lookup key := by
  induction entries with
  | nil => rfl
  | cons entry rest ih =>
    rw [List.filter_cons]
    by_cases h_kept : keep entry.1 = true
    · rw [if_pos h_kept, List.lookup_cons, List.lookup_cons, ih]
    · have h_other : (key == entry.1) = false := beq_false_of_ne fun h_same => h_kept (h_same ▸ h)
      rw [if_neg h_kept, List.lookup_cons, h_other, ih]

variable [DecidableEq α]

theorem lookup_filter_of_ne {place other : α} (h : other ≠ place) (entries : List (α × β)) :
    (entries.filter (·.1 ≠ place)).lookup other = entries.lookup other :=
  lookup_filter (· ≠ place) (decide_eq_true h) entries

theorem lookup_filter_self (place : α) (entries : List (α × β)) :
    (entries.filter (·.1 ≠ place)).lookup place = none := by
  rw [List.lookup_eq_none_iff]
  intro entry h_mem
  have h_other := of_decide_eq_true (List.mem_filter.mp h_mem).2
  exact bne_iff_ne.mpr h_other.symm

end

theorem find?_remove_of_ne (tree : Tree) {place other : Place} (h : other ≠ place) :
    (tree.remove place).find? other = tree.find? other := by
  unfold find? remove
  rw [lookup_filter_of_ne h]

theorem find?_remove_self (tree : Tree) {place : Place} (h : place ≠ []) :
    (tree.remove place).find? place = none := by
  unfold find? remove
  rw [if_neg h, lookup_filter_self]

theorem refusal?_remove_of_ne (tree : Tree) {place other : Place} (h : other ≠ place) (use : Use) :
    (tree.remove place).refusal? other use = tree.refusal? other use :=
  lookup_filter (fun key : Place × Use => key.1 ≠ place) (decide_eq_true h) tree.refusals

/-- A file without other names has none when something is taken away. -/
theorem twins_remove {tree : Tree} {place other : Place} (h : tree.twins other = []) :
    (tree.remove place).twins other = [] := by
  unfold twins remove at *
  by_cases h_same : other = place
  · rw [h_same, lookup_filter_self]
  · rw [lookup_filter_of_ne h_same]
    cases h_mark : tree.marks.lookup other with
    | none => rfl
    | some mark =>
      rw [h_mark] at h
      have h_none := List.filter_eq_nil_iff.mp (List.map_eq_nil_iff.mp h)
      refine List.map_eq_nil_iff.mpr (List.filter_eq_nil_iff.mpr fun entry h_mem => ?_)
      exact h_none entry (List.mem_filter.mp h_mem).1

/-- The place of the entry that a path names, which may be a link. -/
def namedPlace? (tree : Tree) (path : String) : Option Place :=
  match tree.resolve false path with
  | .ok (.taken place _) => some place
  | _ => none

/-- What unlinking a path leaves: nothing at the place the path names, and every other place as it
was. -/
theorem unlink_ok {tree after : Tree} {path : String} (h_plain : '\x00' ∉ path.toList)
    (h : tree.unlink path = .ok after) :
    after.home = tree.home ∧
      (∀ place, tree.namedPlace? path ≠ some place → after.find? place = tree.find? place) ∧
      ∀ place, tree.namedPlace? path = some place → after.find? place = none := by
  obtain ⟨outcome, h_resolve, h_stands⟩ := resolve_eq tree false h_plain
  unfold unlink at h
  unfold namedPlace?
  rw [h_resolve] at h ⊢
  rcases outcome with refusal | ⟨place, node⟩ | place
  · dsimp only [Except.mapError] at h ⊢
    split at h
    · cases h
      exact ⟨rfl, fun _ _ => rfl, by rintro _ ⟨⟩⟩
    · cases h
  · dsimp only [Except.mapError] at h ⊢
    have h_node := h_stands place node rfl
    split at h
    · cases h
    split at h
    · cases h
    · rename_i h_directory
      cases h
      have h_place : place ≠ [] := by
        rintro rfl
        rw [find?, if_pos rfl] at h_node
        cases h_node
        exact h_directory rfl
      refine ⟨rfl, ?_, ?_⟩
      · intro other h_other
        exact find?_remove_of_ne tree fun h_same => h_other (congrArg some h_same.symm)
      · intro other h_other
        cases h_other
        exact find?_remove_self tree h_place
  · cases h
    exact ⟨rfl, fun _ _ => rfl, by rintro _ ⟨⟩⟩

theorem unlink_error {tree : Tree} {path : String} {fault : Fault} (h_plain : '\x00' ∉ path.toList)
    (h : tree.unlink path = .error fault) : fault.isSystem = true := by
  obtain ⟨outcome, h_resolve, -⟩ := resolve_eq tree false h_plain
  unfold unlink at h
  rw [h_resolve] at h
  rcases outcome with refusal | ⟨place, node⟩ | place
  · dsimp only [Except.mapError] at h
    split at h
    · cases h
    · cases h
      exact refusal.isSystem_fault path
  · dsimp only [Except.mapError] at h
    split at h
    · cases h
      exact Refusal.isSystem_fault _ path
    split at h
    · cases h
      exact Refusal.isSystem_fault _ path
    · cases h
  · cases h

/-! ## What a path leads to -/

/-- Whether following a path gives a regular file or nothing. -/
def LeadsToFileOrNothing (tree : Tree) (path : String) : Prop :=
  match tree.resolve true path with
  | .ok (.taken _ node) => node.isFile = true
  | .ok (.free _) => True
  | .error fault => fault = Refusal.absent.fault path

theorem isFileOrAbsent_cases (tree : Tree) {path : String} (h_plain : '\x00' ∉ path.toList) :
    (tree.isFileOrAbsent path = .ok true ∧ tree.LeadsToFileOrNothing path) ∨
      (tree.isFileOrAbsent path = .ok false ∧ ¬tree.LeadsToFileOrNothing path) ∨
      ∃ fault, tree.isFileOrAbsent path = .error fault ∧ fault.isSystem = true ∧
        ¬tree.LeadsToFileOrNothing path := by
  obtain ⟨outcome, h_resolve, -⟩ := resolve_eq tree true h_plain
  unfold isFileOrAbsent look LeadsToFileOrNothing
  rw [h_resolve]
  rcases outcome with refusal | ⟨place, node⟩ | place
  · dsimp only [Except.mapError]
    split
    · rename_i h_name
      rw [Refusal.name_fault_iff] at h_name
      rw [h_name]
      exact .inl ⟨rfl, rfl⟩
    · rename_i h_name
      refine .inr (.inr ⟨_, rfl, refusal.isSystem_fault path, fun h_same => h_name ?_⟩)
      rw [h_same]
      rfl
  · dsimp only [Except.mapError]
    cases h_file : node.isFile with
    | true => exact .inl ⟨rfl, rfl⟩
    | false => exact .inr (.inl ⟨rfl, Bool.false_ne_true⟩)
  · exact .inl ⟨rfl, trivial⟩

end Tree

end ImageIntake.Files
