/-
  ImageIntake.Proofs.Job.Lines

  The lines of output that arrives in pieces.  What is behind the last end of a line is
  carried from piece to piece, and it never holds an end itself.  Splitting goes on
  behind it as if it had not been interrupted (`splitOnP_append`), so that the lines
  are those of the whole output, wherever the pieces were cut (`linesOf_eq`).
-/

import ImageIntake.Job.Lines
import ImageIntake.Proofs.Text.Splitting
import ImageIntake.Proofs.Text.Utf8

namespace ImageIntake.Job

/-! ## Lines in pieces -/

/-- The lines of output that arrives in pieces, behind an unfinished one. -/
def linesBehind (unfinished : Bytes) : List Bytes → List String
  | [] => lastLine unfinished
  | piece :: rest =>
    (takeLines unfinished piece).1 ++ linesBehind (takeLines unfinished piece).2 rest

/-- The lines of output that arrives in pieces. -/
def linesOf (pieces : List Bytes) : List String := linesBehind [] pieces

/-- An unfinished line holds no end of a line. -/
def Unended (bytes : Bytes) : Prop := ∀ b ∈ bytes, endsLine b = false

theorem unended_takeLines (unfinished piece : Bytes) : Unended (takeLines unfinished piece).2 := by
  intro b h_mem
  unfold takeLines at h_mem
  dsimp only at h_mem
  rw [List.getLast?_eq_some_getLast (List.splitOnP_ne_nil endsLine (unfinished ++ piece)),
    Option.getD_some] at h_mem
  exact (Text.of_mem_splitOnP (List.getLast_mem _) h_mem).2

theorem lineParts_unended {bytes : Bytes} (h : Unended bytes) :
    (lineParts bytes).map Text.ofUtf8 = lastLine bytes := by
  unfold lineParts lastLine
  rw [List.splitOnP_eq_singleton h]
  cases bytes <;> rfl

theorem lineParts_append (unfinished piece rest : Bytes) :
    (lineParts (unfinished ++ piece ++ rest)).map Text.ofUtf8 =
      (takeLines unfinished piece).1 ++
        (lineParts ((takeLines unfinished piece).2 ++ rest)).map Text.ofUtf8 := by
  unfold lineParts takeLines
  rw [Text.splitOnP_append, List.filter_append, List.map_append]

theorem linesBehind_eq {unfinished : Bytes} (h : Unended unfinished) (pieces : List Bytes) :
    linesBehind unfinished pieces =
      (lineParts (unfinished ++ pieces.flatten)).map Text.ofUtf8 := by
  induction pieces generalizing unfinished with
  | nil =>
    rw [List.flatten_nil, List.append_nil, lineParts_unended h]
    rfl
  | cons piece rest ih =>
    rw [linesBehind, List.flatten_cons, ← List.append_assoc, lineParts_append,
      ih (unended_takeLines unfinished piece)]

/-- The lines of output in pieces are those of the whole, split at once. -/
theorem linesOf_eq (pieces : List Bytes) :
    linesOf pieces = (lineParts pieces.flatten).map Text.ofUtf8 := by
  have h_start : Unended [] := fun _ h_mem => nomatch h_mem
  exact linesBehind_eq h_start pieces

/-! ## What a line holds -/

theorem mem_lineParts {bytes part : Bytes} (h : part ∈ lineParts bytes) :
    part ≠ [] ∧ Unended part := by
  obtain ⟨h_part, h_full⟩ := List.mem_filter.mp h
  refine ⟨?_, fun b h_mem => (Text.of_mem_splitOnP h_part h_mem).2⟩
  rintro rfl
  cases h_full

/-- A line is not empty, and no character of it ends a line. -/
theorem plain_of_mem_lines {bytes : Bytes} {line : String}
    (h : line ∈ (lineParts bytes).map Text.ofUtf8) :
    line ≠ "" ∧ '\n' ∉ line.toList ∧ '\r' ∉ line.toList := by
  obtain ⟨part, h_part, rfl⟩ := List.mem_map.mp h
  obtain ⟨h_full, h_unended⟩ := mem_lineParts h_part
  refine ⟨Text.ofUtf8_ne_empty h_full, fun h_feed => ?_, fun h_return => ?_⟩
  · exact absurd (h_unended _ (Text.mem_of_mem_ofUtf8 h_feed (by decide))) (by decide)
  · exact absurd (h_unended _ (Text.mem_of_mem_ofUtf8 h_return (by decide))) (by decide)

end ImageIntake.Job
