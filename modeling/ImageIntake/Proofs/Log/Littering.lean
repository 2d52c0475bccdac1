/-
  ImageIntake.Proofs.Log.Littering

  What a clean-up of a plain log directory fails by.  Whether an entry lets a pass go on
  (`LogPasses`, `ArchivePasses`) depends on that entry and its archive alone, which a pass
  leaves as they were while it is busy with others: so a pass ends well exactly if all
  entries let it pass (`Pass.ok_iff`), and both do unless there is an entry in the way
  (`cleanUp_fails_iff`).  Whatever the directory, an entry that leads nowhere is in the way
  as long as nothing is old (`cleanUp_fails_of_lost`).
-/

import ImageIntake.Proofs.Log.Calendar
import ImageIntake.Proofs.Log.Retention

namespace ImageIntake.Log

open ImageIntake.Files ImageIntake.Files.Tree ImageIntake.Number

/-! ## One entry after the other -/

section

variable {now : Instant} {days : Int} {act : Tree → String → Except Fault Unit × Tree} {tree : Tree}
  {path : String} {paths : List String}

theorem eachExpired_ok_nil_iff {after : Tree} :
    eachExpired now days act tree [] = (.ok (), after) ↔ after = tree :=
  ⟨fun h => (Prod.mk.inj h).2.symm, fun h => congrArg _ h.symm⟩

/-- A pass ends well if it does with its first path, and with the others after that. -/
theorem eachExpired_ok_cons_iff {after : Tree} :
    eachExpired now days act tree (path :: paths) = (.ok (), after) ↔
      ∃ next, eachExpired now days act tree [path] = (.ok (), next) ∧
        eachExpired now days act next paths = (.ok (), after) := by
  rw [eachExpired, eachExpired]
  cases (tree.look path).bind fun node => expiry now tree.lead days node.stamp with
  | error fault =>
    refine iff_of_false ?_ ?_
    · rintro ⟨⟩
    · rintro ⟨_, ⟨⟩, -⟩
  | ok old =>
    cases old with
    | false =>
      refine ⟨fun h => ⟨tree, rfl, h⟩, ?_⟩
      rintro ⟨next, h_next, h⟩
      obtain rfl := congrArg Prod.snd h_next
      exact h
    | true =>
      dsimp only
      rcases act tree path with ⟨fault | _, next⟩
      · refine iff_of_false ?_ ?_
        · rintro ⟨⟩
        · rintro ⟨_, ⟨⟩, -⟩
      · refine ⟨fun h => ⟨next, rfl, h⟩, ?_⟩
        rintro ⟨_, h_next, h⟩
        obtain rfl := congrArg Prod.snd h_next
        exact h

theorem eachExpired_ok_iff :
    (∃ next, eachExpired now days act tree [path] = (.ok (), next)) ↔
      ∃ node, tree.look path = .ok node ∧
        dateFault? (now.moment - ageOf tree.lead node.stamp) = none ∧
        (isExpired tree.lead days node.stamp = true → ∃ next, act tree path = (.ok (), next)) := by
  constructor
  · rintro ⟨next, h_run⟩
    obtain ⟨node, h_look, h_date, ⟨h_young, -⟩ | ⟨-, after, h_act, -⟩⟩ := of_eachExpired_cons h_run
    · exact ⟨node, h_look, h_date, fun h_old => nomatch h_young.symm.trans h_old⟩
    · exact ⟨node, h_look, h_date, fun _ => ⟨after, h_act⟩⟩
  · rintro ⟨node, h_look, h_date, h_act⟩
    cases h_expired : isExpired tree.lead days node.stamp with
    | false =>
      have h_young := expiry_ok_iff.mpr ⟨h_date, h_expired⟩
      exact ⟨tree, (eachExpired_cons_young h_look h_young).trans rfl⟩
    | true =>
      have h_old := expiry_ok_iff.mpr ⟨h_date, h_expired⟩
      obtain ⟨next, h_next⟩ := h_act h_expired
      exact ⟨next, (eachExpired_cons_old h_look h_old h_next).trans rfl⟩

end

theorem fails_iff_not_ok {outcome : Except Fault Unit × Tree} :
    (∃ fault, outcome.1 = .error fault) ↔ ¬∃ after, outcome = (.ok (), after) := by
  rcases outcome with ⟨fault | _, after⟩
  · exact iff_of_true ⟨fault, rfl⟩ nofun
  · exact iff_of_false nofun fun h_none => h_none ⟨after, rfl⟩

/-! ## Entries that let a pass go on -/

/-- Whether a log lets a clean-up pass: its path is not too long, it was written at a moment that has a
date, and if it is old, it can be put away. -/
structure LogPasses (now : Instant) (days : Int) (tree : Tree) (dir : String) (dest : Place)
    (name : Name) : Prop extends Seen now dir dest tree name where
  /-- It is a regular file that may be read. -/
  reads : ∀ node, Expired days dest tree name node →
    node.isFile = true ∧ tree.refusal? (dest ++ [name]) .reading = none
  /-- There is room for its archive, and that can tell the time. -/
  packs : ∀ node, Expired days dest tree name node →
    LogPlace.Writable tree dir dest (archiveName name) ∧
      packFault? (now.moment + tree.lead * secondMicros) = none

/-- Whether an archive lets a clean-up pass: its path is not too long, it was written at a moment that
has a date, and if it is old, it is no directory. -/
structure ArchivePasses (now : Instant) (days : Int) (tree : Tree) (dir : String) (dest : Place)
    (name : Name) : Prop extends Seen now dir dest tree name where
  kind : ∀ node, Expired days dest tree name node → node.isDirectory = false

section

variable {now : Instant} {days : Int} {tree : Tree} {dir : String} {dest : Place} {name other : Name}
  {node : Node}

theorem look_ok_iff (h : LogPlace tree dir dest) (h_name : IsLog name ∨ IsArchive name)
    (h_node : tree.find? (dest ++ [name]) = some node) {found : Node} :
    tree.look (entryPath dir name) = .ok found ↔ Fits dir name ∧ found = node := by
  constructor
  · intro h_look
    obtain ⟨h_fits, h_found⟩ := h.look_entry h_name (h.slash name node h_node) h_look
    exact ⟨h_fits, Option.some.inj (h_found.symm.trans h_node)⟩
  · rintro ⟨h_fits, rfl⟩
    exact h.look_eq h_name h_fits h_node

/-- One entry lets a pass go on if it can be looked at and, if it is old, the act on it ends well. -/
theorem eachExpired_entry_iff {act : Tree → String → Except Fault Unit × Tree}
    (h : LogPlace tree dir dest) (h_name : IsLog name ∨ IsArchive name)
    (h_node : tree.find? (dest ++ [name]) = some node) :
    (∃ next, eachExpired now days act tree [entryPath dir name] = (.ok (), next)) ↔
      Seen now dir dest tree name ∧ (isExpired tree.lead days node.stamp = true →
        ∃ next, act tree (entryPath dir name) = (.ok (), next)) := by
  rw [eachExpired_ok_iff]
  constructor
  · rintro ⟨found, h_look, h_date, h_act⟩
    obtain ⟨h_fits, rfl⟩ := (look_ok_iff h h_name h_node).mp h_look
    refine ⟨⟨h_fits, fun there h_there => ?_⟩, h_act⟩
    cases h_node.symm.trans h_there
    exact h_date
  · rintro ⟨h_seen, h_act⟩
    exact ⟨node, (look_ok_iff h h_name h_node).mpr ⟨h_seen.fits, rfl⟩, h_seen.dated node h_node,
      h_act⟩

theorem logPasses_iff (h : LogPlace tree dir dest) (h_dest : tree.refusal? dest .writing = none)
    (h_log : IsLog name) (h_node : tree.find? (dest ++ [name]) = some node) :
    (∃ next, eachExpired now days (archive now) tree [entryPath dir name] = (.ok (), next)) ↔
      LogPasses now days tree dir dest name := by
  rw [eachExpired_entry_iff h (.inl h_log) h_node]
  constructor
  · rintro ⟨h_seen, h_act⟩
    have h_packs (found : Node) (h_old : Expired days dest tree name found) :
        (found.isFile = true ∧ tree.refusal? (dest ++ [name]) .reading = none) ∧
        LogPlace.Writable tree dir dest (archiveName name) ∧
          packFault? (now.moment + tree.lead * secondMicros) = none := by
      obtain ⟨h_found, h_expired⟩ := h_old
      cases h_node.symm.trans h_found
      obtain ⟨next, h_next⟩ := h_act h_expired
      obtain ⟨⟨h_file, h_readable, h_writable, -, h_clock⟩, -⟩ :=
        (h.archive_ok_iff h_log h_seen.fits h_node).mp h_next
      exact ⟨⟨h_file, h_readable⟩, h_writable, h_clock⟩
    exact ⟨h_seen, fun found h_old => (h_packs found h_old).1,
      fun found h_old => (h_packs found h_old).2⟩
  · intro h_passes
    refine ⟨h_passes.toSeen, fun h_expired => ?_⟩
    obtain ⟨h_file, h_readable⟩ := h_passes.reads node ⟨h_node, h_expired⟩
    obtain ⟨h_writable, h_clock⟩ := h_passes.packs node ⟨h_node, h_expired⟩
    exact ⟨_, (h.archive_ok_iff h_log h_passes.fits h_node).mpr
      ⟨⟨h_file, h_readable, h_writable, h_dest, h_clock⟩, rfl⟩⟩

theorem archivePasses_iff (h : LogPlace tree dir dest) (h_dest : tree.refusal? dest .writing = none)
    (h_archive : IsArchive name) (h_node : tree.find? (dest ++ [name]) = some node) :
    (∃ next, eachExpired now days discard tree [entryPath dir name] = (.ok (), next)) ↔
      ArchivePasses now days tree dir dest name := by
  rw [eachExpired_entry_iff h (.inr h_archive) h_node]
  constructor
  · rintro ⟨h_seen, h_act⟩
    refine ⟨h_seen, fun found h_old => ?_⟩
    obtain ⟨h_found, h_expired⟩ := h_old
    cases h_node.symm.trans h_found
    obtain ⟨next, h_next⟩ := h_act h_expired
    exact ((h.discard_ok_iff (.inr h_archive) h_seen.fits h_node).mp h_next).2.1
  · intro h_passes
    refine ⟨h_passes.toSeen, fun h_expired => ?_⟩
    have h_kind := h_passes.kind node ⟨h_node, h_expired⟩
    exact ⟨_, (h.discard_ok_iff (.inr h_archive) h_passes.fits h_node).mpr ⟨h_dest, h_kind, rfl⟩⟩

/-! ## Entries apart -/

section

variable {after : Tree} (h_lead : after.lead = tree.lead)
  (h_find : after.find? (dest ++ [name]) = tree.find? (dest ++ [name]))

include h_lead h_find

theorem expired_of_eq : Expired days dest after name node ↔ Expired days dest tree name node := by
  unfold Expired
  rw [h_lead, h_find]

theorem seen_of_eq : Seen now dir dest after name ↔ Seen now dir dest tree name := by
  constructor <;> intro h_seen <;> refine ⟨h_seen.fits, fun found h_found => ?_⟩
  · rw [← h_lead]
    exact h_seen.dated found (h_find.trans h_found)
  · rw [h_lead]
    exact h_seen.dated found (h_find.symm.trans h_found)

theorem archivePasses_of_eq :
    ArchivePasses now days after dir dest name ↔ ArchivePasses now days tree dir dest name := by
  constructor <;> intro h_passes
  · refine ⟨(seen_of_eq h_lead h_find).mp h_passes.toSeen, fun found h_old => ?_⟩
    exact h_passes.kind found ((expired_of_eq h_lead h_find).mpr h_old)
  · refine ⟨(seen_of_eq h_lead h_find).mpr h_passes.toSeen, fun found h_old => ?_⟩
    exact h_passes.kind found ((expired_of_eq h_lead h_find).mp h_old)

end

theorem LogPasses.of_eq (h : LogPasses now days tree dir dest name) {after : Tree}
    (h_lead : after.lead = tree.lead)
    (h_find : after.find? (dest ++ [name]) = tree.find? (dest ++ [name]))
    (h_archive : after.find? (dest ++ [archiveName name]) = tree.find? (dest ++ [archiveName name]))
    (h_refusal : ∀ place ∈ [dest, dest ++ [name], dest ++ [archiveName name]], ∀ use,
      after.refusal? place use = tree.refusal? place use) :
    LogPasses now days after dir dest name := by
  have h_old (found : Node) : Expired days dest after name found ↔ Expired days dest tree name found :=
    expired_of_eq h_lead h_find
  refine ⟨(seen_of_eq h_lead h_find).mpr h.toSeen, fun found h_found => ?_, fun found h_found => ?_⟩
  · rw [h_refusal _ (by simp)]
    exact h.reads found ((h_old found).mp h_found)
  · obtain ⟨h_writable, h_clock⟩ := h.packs found ((h_old found).mp h_found)
    refine ⟨⟨h_writable.fits, ?_, ?_⟩, ?_⟩
    · rw [h_archive, h_refusal _ (by simp)]
      exact h_writable.free
    · rw [h_archive, h_refusal _ (by simp)]
      exact h_writable.taken
    · rw [h_lead]
      exact h_clock

/-- Whether a log lets a clean-up pass does not depend on how another gives way to its archive. -/
theorem logPasses_cleared {packed : Option Bytes} (h_log : IsLog name) (h_other : IsLog other)
    (h_ne : other ≠ name) :
    LogPasses now days (cleared tree dest name packed) dir dest other ↔
      LogPasses now days tree dir dest other := by
  have h_lead : (cleared tree dest name packed).lead = tree.lead := lead_cleared
  have h_find : (cleared tree dest name packed).find? (dest ++ [other]) =
      tree.find? (dest ++ [other]) :=
    find?_cleared_of_ne (ne_entry h_ne) fun _ => ne_entry (h_other.ne_archiveName name)
  have h_archive : (cleared tree dest name packed).find? (dest ++ [archiveName other]) =
      tree.find? (dest ++ [archiveName other]) :=
    find?_cleared_of_ne (ne_entry (h_log.ne_archiveName other).symm) fun _ =>
      ne_entry fun h_eq => h_ne (archiveName_injective h_eq)
  have h_refusal (place : Place) (h_mem : place ∈ [dest, dest ++ [other], dest ++ [archiveName other]])
      (use : Use) : (cleared tree dest name packed).refusal? place use = tree.refusal? place use := by
    refine refusal?_cleared ?_ use
    rw [List.mem_cons, List.mem_cons, List.mem_singleton] at h_mem
    rcases h_mem with rfl | rfl | rfl
    · exact ne_dest
    · exact ne_entry h_ne
    · exact ne_entry (h_log.ne_archiveName other).symm
  exact ⟨fun h => h.of_eq h_lead.symm h_find.symm h_archive.symm fun place h_mem use =>
      (h_refusal place h_mem use).symm,
    fun h => h.of_eq h_lead h_find h_archive h_refusal⟩

end

/-! ## Passes -/

/-- A pass ends well exactly if all entries let it pass, where what one of them lets pass does not
depend on how others give way. -/
theorem Pass.ok_iff {now : Instant} (pass : Pass now) {days : Int} {dir : String} {dest : Place}
    {Passes : Tree → Name → Prop}
    (h_entry : ∀ {tree : Tree} {name : Name} {node : Node}, LogPlace tree dir dest →
      tree.refusal? dest .writing = none → pass.ending.toList <:+ name →
      tree.find? (dest ++ [name]) = some node →
      ((∃ next, eachExpired now days pass.act tree [entryPath dir name] = (.ok (), next)) ↔
        Passes tree name))
    (h_apart : ∀ {tree : Tree} {name other : Name} {node : Node}, pass.ending.toList <:+ name →
      pass.ending.toList <:+ other → other ≠ name →
      (Passes (cleared tree dest name (pass.pack?.map (· (contentOf node)))) other ↔
        Passes tree other))
    {tree : Tree} (h : LogPlace tree dir dest) (h_dest : tree.refusal? dest .writing = none)
    {names : List Name} (h_distinct : names.Nodup)
    (h_names : ∀ name ∈ names, pass.ending.toList <:+ name ∧
      ∃ node, tree.find? (dest ++ [name]) = some node) :
    (∃ after, eachExpired now days pass.act tree (names.map (entryPath dir)) = (.ok (), after)) ↔
      ∀ name ∈ names, Passes tree name := by
  induction names generalizing tree with
  | nil => exact iff_of_true ⟨tree, rfl⟩ nofun
  | cons name names ih =>
    obtain ⟨h_new, h_distinct⟩ := List.nodup_cons.mp h_distinct
    obtain ⟨⟨h_ends, node, h_node⟩, h_rest⟩ := List.forall_mem_cons.mp h_names
    have h_first := h_entry h h_dest h_ends h_node
    rw [List.map_cons, List.forall_mem_cons, ← h_first]
    -- What the first entry leaves is a plain directory too, in which the others are as they were.
    have h_next {next : Tree}
        (h_run : eachExpired now days pass.act tree [entryPath dir name] = (.ok (), next)) :
        ((∃ after, eachExpired now days pass.act next (names.map (entryPath dir)) =
          (.ok (), after)) ↔ ∀ other ∈ names, Passes tree other) := by
      obtain ⟨found, h_look, -, ⟨-, h_same⟩ | ⟨-, after, h_act, h_same⟩⟩ := of_eachExpired_cons h_run
      · obtain rfl := eachExpired_ok_nil_iff.mp h_same
        exact ih h h_dest h_distinct h_rest
      · obtain rfl := eachExpired_ok_nil_iff.mp h_same
        obtain ⟨h_fits, rfl⟩ := (look_ok_iff h (pass.named h_ends) h_node).mp h_look
        obtain ⟨h_kind, h_writable, rfl⟩ := pass.act_ok h h_ends h_fits h_node h_act
        have h_other {other : Name} (h_mem : other ∈ names) : other ≠ name := by
          rintro rfl
          exact h_new h_mem
        rw [ih (h.cleared (pass.named h_ends) h_node h_kind fun h_packed => ?_)
          ((refusal?_cleared ne_dest _).trans h_dest) h_distinct fun other h_mem => ?_]
        · exact forall₂_congr fun other h_mem => h_apart h_ends (h_rest other h_mem).1 (h_other h_mem)
        · have h_packs := Option.isSome_map.symm.trans h_packed
          exact ⟨pass.log h_packs h_ends, h_writable h_packs⟩
        · obtain ⟨h_other_ends, there, h_there⟩ := h_rest other h_mem
          refine ⟨h_other_ends, there, ?_⟩
          rw [find?_cleared_of_ne (ne_entry (h_other h_mem)) fun h_packed => ?_, h_there]
          have h_log := pass.log (Option.isSome_map.symm.trans h_packed) h_other_ends
          exact ne_entry (h_log.ne_archiveName name)
    constructor
    · rintro ⟨after, h_after⟩
      obtain ⟨next, h_run, h_after⟩ := eachExpired_ok_cons_iff.mp h_after
      exact ⟨⟨next, h_run⟩, (h_next h_run).mp ⟨after, h_after⟩⟩
    · rintro ⟨⟨next, h_run⟩, h_others⟩
      obtain ⟨after, h_after⟩ := (h_next h_run).mpr h_others
      exact ⟨after, eachExpired_ok_cons_iff.mpr ⟨next, h_run, h_after⟩⟩

section

variable {now : Instant} {days : Int} {tree : Tree} {dir : String} {dest : Place}
  (h : LogPlace tree dir dest) (h_dest : tree.refusal? dest .writing = none)
  (h_distinct : tree.Distinct)

include h h_dest h_distinct

theorem Pass.ok_all_iff (pass : Pass now) {Passes : Tree → Name → Prop}
    (h_entry : ∀ {tree : Tree} {name : Name} {node : Node}, LogPlace tree dir dest →
      tree.refusal? dest .writing = none → pass.ending.toList <:+ name →
      tree.find? (dest ++ [name]) = some node →
      ((∃ next, eachExpired now days pass.act tree [entryPath dir name] = (.ok (), next)) ↔
        Passes tree name))
    (h_apart : ∀ {tree : Tree} {name other : Name} {node : Node}, pass.ending.toList <:+ name →
      pass.ending.toList <:+ other → other ≠ name →
      (Passes (cleared tree dest name (pass.pack?.map (· (contentOf node)))) other ↔
        Passes tree other)) :
    (∃ after, eachExpired now days pass.act tree (pathsEnding tree (plainPath dir) pass.ending) =
        (.ok (), after)) ↔
      ∀ name node, pass.ending.toList <:+ name → tree.find? (dest ++ [name]) = some node →
        Passes tree name := by
  have h_names : (namesEnding tree dest pass.ending).Nodup := (h_distinct.namesIn dest).filter _
  rw [pathsEnding_eq h, pass.ok_iff h_entry h_apart h h_dest h_names
    fun name h_mem => mem_namesEnding.mp h_mem]
  constructor
  · intro h_all name node h_ends h_node
    exact h_all name (mem_namesEnding.mpr ⟨h_ends, node, h_node⟩)
  · intro h_all name h_mem
    obtain ⟨h_ends, node, h_node⟩ := mem_namesEnding.mp h_mem
    exact h_all name node h_ends h_node

theorem logs_ok_iff :
    (∃ between, eachExpired now days (archive now) tree
        (pathsEnding tree (plainPath dir) logEnding) = (.ok (), between)) ↔
      ∀ name node, IsLog name → tree.find? (dest ++ [name]) = some node →
        LogPasses now days tree dir dest name :=
  (Pass.logs now).ok_all_iff h h_dest h_distinct logPasses_iff logPasses_cleared

theorem archives_ok_iff :
    (∃ after, eachExpired now days discard tree
        (pathsEnding tree (plainPath dir) (logEnding ++ archiveEnding)) = (.ok (), after)) ↔
      ∀ name node, IsArchive name → tree.find? (dest ++ [name]) = some node →
        ArchivePasses now days tree dir dest name := by
  refine (Pass.archives now).ok_all_iff h h_dest h_distinct archivePasses_iff
    fun _ _ h_ne => archivePasses_of_eq lead_cleared ?_
  exact find?_cleared_of_ne (ne_entry h_ne) nofun

end

/-! ## Clean-ups -/

/-- What a clean-up of a plain log directory fails by. -/
inductive Littered (now : Instant) (days : Int) (tree : Tree) (dir : String) (dest : Place) : Prop
  /-- No span of time has so many days. -/
  | days (h_days : dayLimit < days.natAbs)
  | log {name : Name} {node : Node} (h_log : IsLog name)
      (h_node : tree.find? (dest ++ [name]) = some node)
      (h_stops : ¬LogPasses now days tree dir dest name)
  /-- An archive that is not written anew. -/
  | archive {name : Name} {node : Node} (h_archive : IsArchive name)
      (h_node : tree.find? (dest ++ [name]) = some node)
      (h_own : ∀ log logged, IsLog log → Expired days dest tree log logged → name ≠ archiveName log)
      (h_stops : ¬ArchivePasses now days tree dir dest name)

theorem dayFault_eq_none_iff {days : Int} : dayFault days = none ↔ days.natAbs ≤ dayLimit := by
  have h_word : twoTo 31 = 2147483648 := rfl
  have h_limit : dayLimit = 999999999 := rfl
  unfold dayFault
  split
  next h_word => exact iff_of_false nofun (by omega)
  next h_fits =>
    split
    next h_long => exact iff_of_false nofun (Nat.not_le.mpr h_long)
    next h_short => exact iff_of_true rfl (Nat.not_lt.mp h_short)

theorem cleanUp_fails_of_days {tree : Tree} {now : Instant} {dir : String} {days : Int}
    (h : dayLimit < days.natAbs) : ∃ fault, (cleanUp tree now dir days).1 = .error fault := by
  unfold cleanUp
  cases h_days : dayFault days with
  | some fault => exact ⟨fault, rfl⟩
  | none => exact absurd (dayFault_eq_none_iff.mp h_days) (Nat.not_le.mpr h)

section

variable {now : Instant} {days : Int} {tree between : Tree} {dir : String} {dest : Place}

/-- After the pass over the logs the archives let the other pass go on if those do that were not
written anew: a new one is fresh, and no directory. -/
theorem archivePasses_between_iff
    (h_swept : Swept days dest (some Gzip.pack) (namesEnding tree dest logEnding) tree between)
    (h_logs : ∀ name node, IsLog name → tree.find? (dest ++ [name]) = some node →
      LogPasses now days tree dir dest name) :
    (∀ name node, IsArchive name → between.find? (dest ++ [name]) = some node →
        ArchivePasses now days between dir dest name) ↔
      ∀ name node, IsArchive name → tree.find? (dest ++ [name]) = some node →
        (∀ log logged, IsLog log → Expired days dest tree log logged → name ≠ archiveName log) →
        ArchivePasses now days tree dir dest name := by
  have h_same {name : Name} (h_archive : IsArchive name) (h_own : ∀ log logged, IsLog log →
      Expired days dest tree log logged → name ≠ archiveName log) :
      between.find? (dest ++ [name]) = tree.find? (dest ++ [name]) := by
    refine h_swept.passed fun log logged h_log h_old => ⟨ne_entry ?_, ne_entry ?_⟩
    · rintro rfl
      exact h_log.not_isArchive h_archive
    · exact h_own log logged h_log h_old
  constructor
  · intro h_all name node h_archive h_node h_own
    have h_find := h_same h_archive h_own
    exact (archivePasses_of_eq h_swept.lead h_find).mp (h_all name node h_archive (h_find.trans h_node))
  · intro h_all name node h_archive h_node
    by_cases h_own : ∀ log logged, IsLog log → Expired days dest tree log logged →
      name ≠ archiveName log
    · have h_find := h_same h_archive h_own
      exact (archivePasses_of_eq h_swept.lead h_find).mpr
        (h_all name node h_archive (h_find.symm.trans h_node) h_own)
    · obtain ⟨log, logged, h_log, h_old, rfl⟩ : ∃ log logged, IsLog log ∧
          Expired days dest tree log logged ∧ name = archiveName log := by
        by_contra h_none
        exact h_own fun log logged h_log h_old h_eq => h_none ⟨log, logged, h_log, h_old, h_eq⟩
      obtain ⟨h_writable, h_clock⟩ := (h_logs log logged h_log h_old.1).packs logged h_old
      have h_packed := h_swept.packed log (h_old.mem_namesEnding h_log) logged h_old _ rfl
      have h_date := dateFault?_of_packFault? h_clock
      refine ⟨⟨h_writable.fits, fun found h_found => ?_⟩, fun found h_found => ?_⟩
      · cases h_packed.symm.trans h_found
        rw [h_swept.lead]
        show dateFault? (now.moment - -(tree.lead * secondMicros)) = none
        rwa [Int.sub_neg]
      · cases h_packed.symm.trans h_found.1
        rfl

theorem cleanUp_fails_iff (h : LogPlace tree dir dest) (h_dest : tree.refusal? dest .writing = none)
    (h_distinct : tree.Distinct) :
    (∃ fault, (cleanUp tree now dir days).1 = .error fault) ↔ Littered now days tree dir dest := by
  have h_logs : (∃ between, eachExpired now days (archive now) tree
      (pathsEnding tree (plainPath dir) logEnding) = (.ok (), between)) ↔ _ :=
    logs_ok_iff h h_dest h_distinct
  by_cases h_long : dayLimit < days.natAbs
  · exact iff_of_true (cleanUp_fails_of_days h_long) (.days h_long)
  · have h_short : dayFault days = none := dayFault_eq_none_iff.mpr (Nat.not_lt.mp h_long)
    unfold cleanUp
    rw [h_short]
    dsimp only
    by_cases h_all : ∀ name node, IsLog name → tree.find? (dest ++ [name]) = some node →
      LogPasses now days tree dir dest name
    · -- All logs let the first pass by, so that only an archive can stop the second.
      obtain ⟨between, h_run⟩ := h_logs.mpr h_all
      obtain ⟨h_swept, h_between, h_distinct_between, -⟩ := (Pass.logs now).sweep_all h h_run
      rw [h_run]
      dsimp only
      rw [fails_iff_not_ok, archives_ok_iff h_between ((h_swept.refusal? _).trans h_dest)
        (h_distinct_between h_distinct), archivePasses_between_iff h_swept h_all]
      constructor
      · intro h_not
        by_contra h_none
        refine h_not fun name node h_archive h_node h_own => ?_
        by_contra h_stops
        exact h_none (.archive h_archive h_node h_own h_stops)
      · intro h_littered h_archives
        cases h_littered with
        | days h_days => exact h_long h_days
        | log h_log h_node h_stops => exact h_stops (h_all _ _ h_log h_node)
        | archive h_archive h_node h_own h_stops =>
          exact h_stops (h_archives _ _ h_archive h_node h_own)
    · -- Some log stops the first pass, whatever the archives are.
      have h_fails := fails_iff_not_ok.mpr (mt h_logs.mp h_all)
      refine iff_of_true ?_ ?_
      · rcases h_run : eachExpired now days (archive now) tree
          (pathsEnding tree (plainPath dir) logEnding) with ⟨fault | _, between⟩
        · exact ⟨fault, rfl⟩
        · rw [h_run] at h_fails
          obtain ⟨fault, ⟨⟩⟩ := h_fails
      · by_contra h_none
        refine h_all fun name node h_log h_node => ?_
        by_contra h_stops
        exact h_none (.log h_log h_node h_stops)

end

/-! ## Entries that lead nowhere -/

section

variable {now : Instant} {days : Int} {act : Tree → String → Except Fault Unit × Tree} {tree : Tree}

/-- Whether a path leads to nothing that is old, or to nothing at all. -/
def Young (days : Int) (tree : Tree) (path : String) : Prop :=
  ∀ node, tree.look path = .ok node → isExpired tree.lead days node.stamp = false

theorem eachExpired_of_all_young {paths : List String} (h : ∀ path ∈ paths, Young days tree path)
    {after : Tree} (h_run : eachExpired now days act tree paths = (.ok (), after)) :
    after = tree ∧ ∀ path ∈ paths, ∃ node, tree.look path = .ok node := by
  induction paths with
  | nil => exact ⟨eachExpired_ok_nil_iff.mp h_run, nofun⟩
  | cons path paths ih =>
    obtain ⟨h_first, h_rest⟩ := List.forall_mem_cons.mp h
    obtain ⟨node, h_look, -, ⟨-, h_run⟩ | ⟨h_old, -⟩⟩ := of_eachExpired_cons h_run
    · obtain ⟨h_same, h_others⟩ := ih h_rest h_run
      exact ⟨h_same, List.forall_mem_cons.mpr ⟨⟨node, h_look⟩, h_others⟩⟩
    · cases (h_first node h_look).symm.trans h_old

/-- Where nothing is old, a log or an archive that leads nowhere makes a clean-up fail. -/
theorem cleanUp_fails_of_lost {dir path : String}
    (h_young : ∀ other ∈ pathsEnding tree (plainPath dir) logEnding ++
      pathsEnding tree (plainPath dir) (logEnding ++ archiveEnding), Young days tree other)
    (h_path : path ∈ pathsEnding tree (plainPath dir) logEnding ++
      pathsEnding tree (plainPath dir) (logEnding ++ archiveEnding)) {fault : Fault}
    (h_lost : tree.look path = .error fault) :
    ∃ fault, (cleanUp tree now dir days).1 = .error fault := by
  obtain ⟨h_young_logs, h_young_archives⟩ := List.forall_mem_append.mp h_young
  rw [fails_iff_not_ok]
  rintro ⟨after, h_run⟩
  unfold cleanUp at h_run
  split at h_run
  next => cases h_run
  next =>
    dsimp only at h_run
    split at h_run
    next => cases h_run
    next between h_logs =>
      obtain ⟨rfl, h_found⟩ := eachExpired_of_all_young h_young_logs h_logs
      obtain ⟨-, h_found_archives⟩ := eachExpired_of_all_young h_young_archives h_run
      obtain ⟨node, h_look⟩ :=
        List.forall_mem_append.mpr ⟨h_found, h_found_archives⟩ path h_path
      cases h_look.symm.trans h_lost

end

end ImageIntake.Log
