/-
  ImageIntake.Proofs.Settings

  What settings that were read can be.  A field holds its default or what its own
  reader let through (`field_keeps`), and the defaults pass the checks of the readers,
  so that all fields of settings that were read pass them (`valid_of_read`).  Nothing
  bounds sizes, spans of time and counts from above, but for the port.
-/

import ImageIntake.Proofs.Agreement
import ImageIntake.Proofs.Files.Plain
import ImageIntake.Settings.Basic

namespace ImageIntake.Settings

open ImageIntake.Number

/-! ## What the readers let through -/

section

variable {value : Json}

/-- What is read and then checked is what was read, and passes the check. -/
theorem of_checked {α : Type} {outcome : Reading α} {p : α → Prop} [DecidablePred p] {rule : String}
    {a : α} (h : (outcome >>= fun a => if p a then .ok a else .error rule) = .ok a) :
    outcome = .ok a ∧ p a := by
  obtain ⟨read, h_read, h⟩ := ok_of_bind h
  by_cases h_pass : p read
  · rw [if_pos h_pass] at h
    cases h
    exact ⟨h_read, h_pass⟩
  · rw [if_neg h_pass] at h
    cases h

theorem ne_empty_of_readFullText {s : String} (h : readFullText value = .ok s) : s ≠ "" := by
  obtain ⟨text, -, h⟩ := ok_of_bind h
  by_cases h_empty : text = ""
  · rw [if_pos h_empty] at h
    cases h
  · rw [if_neg h_empty] at h
    cases h
    exact h_empty

theorem pos_of_readPositiveInt {n : Int} (h : readPositiveInt value = .ok n) : 0 < n :=
  (of_checked h).2

theorem isPositive_of_readPositiveReal {x : Binary64} (h : readPositiveReal value = .ok x) :
    x.isPositive = true := (of_checked h).2

theorem one_le_of_readCount {n : Int} (h : readCount value = .ok n) : 1 ≤ n := (of_checked h).2

theorem bounds_of_readPort {n : Int} (h : readPort value = .ok n) : 1 ≤ n ∧ n ≤ 65535 := by
  obtain ⟨h_count, h_most⟩ := of_checked h
  exact ⟨one_le_of_readCount h_count, h_most⟩

theorem mem_of_readLevel {name : String} (h : readLevel value = .ok name) : name ∈ levelNames := by
  obtain ⟨text, -, h⟩ := ok_of_bind h
  dsimp only at h
  split at h
  next h_known =>
    cases h
    exact List.contains_iff_mem.mp h_known
  · cases h

theorem plain_of_readPath {path : String} (h : readPath value = .ok path) :
    Files.plainPath path = path := by
  cases value with
  | text s =>
    cases h
    exact congrArg Files.Path.print (Files.Path.read_print (Files.Path.plain_read s))
  | _ => cases h

/-- An optional field that is there was let through by the reader. -/
theorem of_readOptional {α : Type} {P : α → Prop} {read : Json → Reading α}
    (h_read : ∀ value x, read value = .ok x → P x) {found : Option α}
    (h : readOptional read value = .ok found) : ∀ x ∈ found, P x := by
  intro x h_x
  unfold readOptional at h
  split at h
  · cases h
    cases h_x
  · obtain ⟨y, h_y, rfl⟩ := ok_of_map h
    cases h_x
    exact h_read _ _ h_y

end

/-! ## All fields -/

theorem field_keeps {α : Type} {P : α → Prop} {name : String} {value : Option Json}
    {read : Json → Reading α} {default : α} (h_default : P default)
    (h_read : ∀ value x, read value = .ok x → P x) (issues : List Issue) :
    P ((field name value read default).run issues).1 := by
  unfold field
  cases value with
  | none => exact h_default
  | some value =>
    dsimp only [Option.map_some]
    cases h : read value with
    | ok x => exact h_read value x h
    | error rule => exact h_default

/-- Settings whose fields pass the checks of their readers. -/
structure Valid (s : Settings) : Prop where
  scratchFileName : s.scratchFileName ≠ ""
  cpuLimit : ∀ n ∈ s.cpuLimit, 0 < n
  addressSpaceLimit : ∀ n ∈ s.addressSpaceLimit, 0 < n
  wallLimit : ∀ x ∈ s.wallLimit, x.isPositive = true
  connectTimeout : s.connectTimeout.isPositive = true
  readTimeout : s.readTimeout.isPositive = true
  logLevel : s.logLevel ∈ levelNames
  logDir : ∀ dir ∈ s.logDir, Files.plainPath dir = dir
  logMaxSize : s.logMaxSize.isPositive = true
  logRetention : 1 ≤ s.logRetention
  metricsPort : ∀ n ∈ s.metricsPort, 1 ≤ n ∧ n ≤ 65535

theorem valid_default : Valid {} := by
  constructor <;> decide +kernel

theorem valid_fields (g : Given) (issues : List Issue) : Valid ((fields g).run issues).1 where
  scratchFileName := field_keeps (P := (· ≠ "")) valid_default.scratchFileName
    (fun _ _ => ne_empty_of_readFullText) _
  cpuLimit := field_keeps (P := (∀ n ∈ ·, 0 < n)) valid_default.cpuLimit
    (fun _ _ => of_readOptional fun _ _ => pos_of_readPositiveInt) _
  addressSpaceLimit := field_keeps (P := (∀ n ∈ ·, 0 < n)) valid_default.addressSpaceLimit
    (fun _ _ => of_readOptional fun _ _ => pos_of_readPositiveInt) _
  wallLimit := field_keeps (P := (∀ x ∈ ·, Binary64.isPositive x = true)) valid_default.wallLimit
    (fun _ _ => of_readOptional fun _ _ => isPositive_of_readPositiveReal) _
  connectTimeout := field_keeps (P := (Binary64.isPositive · = true)) valid_default.connectTimeout
    (fun _ _ => isPositive_of_readPositiveReal) _
  readTimeout := field_keeps (P := (Binary64.isPositive · = true)) valid_default.readTimeout
    (fun _ _ => isPositive_of_readPositiveReal) _
  logLevel := field_keeps (P := (· ∈ levelNames)) valid_default.logLevel
    (fun _ _ => mem_of_readLevel) _
  logDir := field_keeps (P := (∀ dir ∈ ·, Files.plainPath dir = dir)) valid_default.logDir
    (fun _ _ => of_readOptional fun _ _ => plain_of_readPath) _
  logMaxSize := field_keeps (P := (Binary64.isPositive · = true)) valid_default.logMaxSize
    (fun _ _ => isPositive_of_readPositiveReal) _
  logRetention := field_keeps (P := (1 ≤ ·)) valid_default.logRetention
    (fun _ _ => one_le_of_readCount) _
  metricsPort := field_keeps (P := (∀ n ∈ ·, 1 ≤ n ∧ n ≤ 65535)) valid_default.metricsPort
    (fun _ _ => of_readOptional fun _ _ => bounds_of_readPort) _

/-- Settings that were read pass all checks. -/
theorem valid_of_read {g : Given} {s : Settings} (h : Settings.read g = .ok s) : s.Valid := by
  have h_fields := valid_fields g []
  unfold Settings.read at h
  split at h
  next h_run =>
    cases h
    rwa [h_run] at h_fields
  · cases h

end ImageIntake.Settings
