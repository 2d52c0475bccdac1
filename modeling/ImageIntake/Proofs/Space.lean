/-
  ImageIntake.Proofs.Space

  How following a path can fail.  A path that holds a NUL is refused before the
  operating system sees it; every other refusal is the operating system's own.
-/

import ImageIntake.Files.Access
import ImageIntake.Space

namespace ImageIntake

namespace Files

@[simp] theorem Refusal.isSystem_fault (r : Refusal) (path : String) :
    (r.fault path).isSystem = true := rfl

namespace Tree

variable {tree : Tree} {path : String} {fault : Fault}

theorem resolve_of_nul (last : Bool) (h_nul : '\x00' ∈ path.toList) :
    tree.resolve last path = .error .embeddedNul := by
  simp [resolve, h_nul]

theorem isSystem_of_resolve {last : Bool} (h_nul : '\x00' ∉ path.toList)
    (h : tree.resolve last path = .error fault) : fault.isSystem = true := by
  unfold resolve at h
  simp only [List.contains_iff_mem, h_nul, if_false] at h
  split at h
  · cases h
    rfl
  · split at h
    · cases h
      rfl
    · cases h_walk :
        tree.walk last linkLimit (origin path.toList tree.home) (steps path.toList) with
      | error r =>
        rw [h_walk] at h
        cases h
        rfl
      | ok target =>
        rw [h_walk] at h
        cases h

theorem look_of_nul (h_nul : '\x00' ∈ path.toList) : tree.look path = .error .embeddedNul := by
  simp [look, resolve_of_nul true h_nul]

theorem isSystem_of_look (h_nul : '\x00' ∉ path.toList) (h : tree.look path = .error fault) :
    fault.isSystem = true := by
  unfold look at h
  split at h
  · rename_i h_resolve
    cases h
    exact isSystem_of_resolve h_nul h_resolve
  · cases h
  · cases h
    rfl

theorem look_empty : tree.look "" = .error (Refusal.absent.fault "") := by
  have h_resolve : tree.resolve true "" = .error (Refusal.absent.fault "") := rfl
  rw [look, h_resolve]

end Tree

/-- What stands below a path that is not empty is not at the empty path. -/
theorem joinText_ne_empty {base : String} (h_base : base ≠ "") (text : String) :
    joinText base text ≠ "" := by
  unfold joinText
  split
  · rintro rfl
    simp at *
  · split <;> simp [String.append_eq_empty_iff, h_base]

end Files

/-! ## Space -/

namespace Space

variable (tree : Files.Tree) (report : Report) {path : String}

theorem available_of_nul (h_nul : '\x00' ∈ path.toList) :
    available path (examine tree report path) = (.error (.outside .embeddedNul), []) := by
  simp [available, examine, Files.Tree.look_of_nul h_nul, Failure.isSystem, Failure.fault?,
    Fault.isSystem, Fault.embeddedNul, Fault.value]

theorem isOk_available (h_nul : '\x00' ∉ path.toList) :
    ∃ size, (available path (examine tree report path)).1 = .ok size := by
  unfold examine
  split
  · exact ⟨_, rfl⟩
  · rename_i fault h_look
    have h_system := Files.Tree.isSystem_of_look h_nul h_look
    exact ⟨-1, by simp [available, Failure.isSystem, Failure.fault?, h_system]⟩

/-- The empty path has no space. -/
theorem available_empty : (available "" (examine tree report "")).1 = .ok (-1) := by
  simp [available, examine, Files.Tree.look_empty, Failure.isSystem, Failure.fault?]

end Space

end ImageIntake
