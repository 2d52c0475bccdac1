/-
  ImageIntake.Proofs.Conversion.Noting

  Converters that keep a note of every command they hand over to be run.  Keeping the
  note changes nothing else (`after_convert_noting`), nor does it for collaborators who
  have the converter among them (`noting_tracks`), so that the commands which an import
  hands over can be told from a run that keeps them.
-/

import ImageIntake.Proofs.Site
import ImageIntake.Proofs.Source.Tracking

namespace ImageIntake

open ImageIntake.Action

variable {ω : Type}

/-- Surroundings with the commands that were handed over to be run in them. -/
abbrev Noted (ω : Type) := ω × List (List String)

/-- Does an action that hands no command over. -/
def Action.unnoted {α : Type} (a : Action ω α) : Action (Noted ω) α :=
  a.inside Prod.fst fun s noted => (s, noted.2)

@[simp] theorem Action.after_unnoted {α : Type} (a : Action ω α) (s : ω)
    (handed : List (List String)) :
    a.unnoted.after (s, handed) = ((a.after s).1, (a.after s).2, handed) := rfl

/-! ## Converters -/

namespace Conversion.Converter

variable (c : Converter ω)

/-- The converter, with a note of the commands it hands over. -/
def noting : Converter (Noted ω) where
  nbdkit := c.nbdkit
  qemuImg := c.qemuImg
  limits := c.limits
  run limits program arguments := .of fun (s, handed) =>
    (((c.run limits program arguments).after s).1, ((c.run limits program arguments).after s).2,
      handed ++ [program :: arguments])
  tree noted := c.tree noted.1
  setTree tree noted := (c.setTree tree noted.1, noted.2)
  record r noted := (c.record r noted.1, noted.2)

/-- The commands that a request is carried out with: one, unless the request cannot be put into
words. -/
def commands (request : Request) : List (List String) :=
  match request.arguments c.qemuImg, request.effectiveUrl.bind (·.redacted) with
  | .ok arguments, .ok _ => [c.nbdkit :: arguments]
  | _, _ => []

theorem exists_arguments_of_mem_commands {c : Converter ω} {request : Request}
    {command : List String} (h : command ∈ c.commands request) :
    ∃ arguments, request.arguments c.qemuImg = .ok arguments ∧ command = c.nbdkit :: arguments := by
  unfold commands at h
  split at h
  next arguments shown h_arguments h_shown =>
    exact ⟨arguments, h_arguments, List.mem_singleton.mp h⟩
  · cases h

variable (request : Request) (s : ω) (handed : List (List String))

theorem foldl_record_noting (notes : List Log.Record) :
    notes.foldl (fun noted r => c.noting.record r noted) (s, handed) =
      (notes.foldl (fun s r => c.record r s) s, handed) := by
  induction notes generalizing s with
  | nil => rfl
  | cons r rest ih => exact ih (c.record r s)

theorem after_fail_noting (dest : String) (f : Failure) :
    (c.noting.fail dest f).after (s, handed) =
      (((c.fail dest f).after s).1, ((c.fail dest f).after s).2, handed) := by
  unfold fail
  simp only [after_of]
  have h_tree : c.noting.tree (s, handed) = c.tree s := rfl
  rw [h_tree]
  cases clearAway (c.tree s) dest with
  | error fault => rfl
  | ok cleared =>
    have h_notes := c.foldl_record_noting (c.setTree cleared.1 s) handed cleared.2
    exact congrArg (Prod.mk _) h_notes

/-- A conversion that is noted comes to what it comes to without, and to its commands. -/
theorem after_convert_noting :
    (c.noting.convert request).after (s, handed) =
      (((c.convert request).after s).1, ((c.convert request).after s).2,
        handed ++ c.commands request) := by
  rw [after_convert, after_convert]
  unfold commands
  have h_arguments : request.arguments c.noting.qemuImg = request.arguments c.qemuImg := rfl
  rw [h_arguments]
  cases request.arguments c.qemuImg with
  | error fault => simp
  | ok arguments =>
    cases request.effectiveUrl.bind (·.redacted) with
    | error fault => simp
    | ok source =>
      have h_run : (c.noting.run c.noting.limits c.noting.nbdkit arguments).after
          (c.noting.record (converting request source) (s, handed)) =
          (((c.run c.limits c.nbdkit arguments).after (c.record (converting request source) s)).1,
            ((c.run c.limits c.nbdkit arguments).after (c.record (converting request source) s)).2,
            handed ++ [c.nbdkit :: arguments]) := rfl
      dsimp only
      rw [h_run]
      rcases (c.run c.limits c.nbdkit arguments).after (c.record (converting request source) s)
        with ⟨f | _, t⟩
      · dsimp only
        split
        · rfl
        · exact c.after_fail_noting t _ request.dest f
      · rfl

end Conversion.Converter

/-! ## Collaborators -/

namespace Collaborators

/-- The collaborators, with a note of the commands that a converter hands over. -/
def noting (env : Collaborators ω) (c : Conversion.Converter ω) : Collaborators (Noted ω) where
  record r noted := (env.record r noted.1, noted.2)
  classify length := (env.classify length).unnoted
  closeReaders := env.closeReaders.unnoted
  closeStream := env.closeStream.unnoted
  usableSpace path := (env.usableSpace path).unnoted
  convert := c.noting.convert
  cancel := env.cancel.unnoted

/-- Keeping the note changes nothing for collaborators who have the converter among them. -/
theorem noting_tracks {env : Collaborators ω} {c : Conversion.Converter ω}
    (h : env.convert = c.convert) : (env.noting c).Tracks (fun noted s => noted.1 = s) env where
  record _ _ _ h_rel := congrArg _ h_rel
  classify _ := by rintro ⟨s, _⟩ _ rfl; exact ⟨rfl, rfl⟩
  closeReaders := by rintro ⟨s, _⟩ _ rfl; exact ⟨rfl, rfl⟩
  closeStream := by rintro ⟨s, _⟩ _ rfl; exact ⟨rfl, rfl⟩
  usableSpace _ := by rintro ⟨s, _⟩ _ rfl; exact ⟨rfl, rfl⟩
  convert request := by
    rintro ⟨s, handed⟩ _ rfl
    have h_noted := c.after_convert_noting request s handed
    rw [h]
    exact ⟨congrArg Prod.fst h_noted, congrArg (fun result => result.2.1) h_noted⟩
  cancel := by rintro ⟨s, _⟩ _ rfl; exact ⟨rfl, rfl⟩

end Collaborators

end ImageIntake
