/-
  ImageIntake.Proofs.Text.RangeTable

  Facts about tables, line by line.  What holds of every word of every line of a table holds
  of every word of the table (`fits_of_mem`); and what holds of the words of a line is
  computed from its characters, which are found by comparing the line with a text that is
  made of them (`lineFits_of_eq`; `tableWords_ofList_cons` where lines matter together).
-/

import Mathlib.Data.List.Basic
import ImageIntake.Text.RangeTable

namespace ImageIntake.Text

/-- The words of a line. -/
def lineWords (cs : List Char) : List (List Char) := (cs.splitOn ' ').filter (· ≠ [])

/-- Whether every word of a line fits. -/
def LineFits (fits : List Char → Bool) (line : String) : Prop :=
  ∀ word ∈ lineWords line.toList, fits word = true

variable {fits : List Char → Bool}

/-- The text of a line is no list of characters to compute with, but it is made of one. -/
theorem lineFits_of_eq {line : String} {cs : List Char} (h : line = String.ofList cs)
    (h_fits : (lineWords cs).all fits = true) : LineFits fits line := by
  unfold LineFits
  rw [h, String.toList_ofList]
  exact List.all_eq_true.mp h_fits

theorem tableWords_ofList_cons (cs : List Char) (lines : List String) :
    tableWords (String.ofList cs :: lines) = lineWords cs ++ tableWords lines := by
  rw [tableWords, List.flatMap_cons, String.toList_ofList, List.filter_append]
  rfl

theorem fits_of_mem {lines : List String} (h : ∀ line ∈ lines, LineFits fits line) {word : List Char}
    (h_word : word ∈ tableWords lines) : fits word = true := by
  obtain ⟨h_mem, h_some⟩ := List.mem_filter.mp h_word
  obtain ⟨line, h_line, h_part⟩ := List.mem_flatMap.mp h_mem
  exact h line h_line word (List.mem_filter.mpr ⟨h_part, h_some⟩)

theorem fits_of_mem_ranges {fits : Nat × Nat → Bool} {lines : List String}
    (h : ∀ line ∈ lines, LineFits (fits <| RangeTable.rangeOfWord ·) line) {range : Nat × Nat}
    (h_range : range ∈ (RangeTable.ofLines lines).ranges) : fits range = true := by
  obtain ⟨word, h_word, rfl⟩ := List.mem_map.mp h_range
  exact fits_of_mem h h_word

end ImageIntake.Text
