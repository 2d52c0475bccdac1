/-
  ImageIntake.Proofs.Log.Retention

  What a clean-up does to a log directory.  It makes two passes, over the logs and then
  over the archives, which is one sweep with different acts (`Pass.sweep`): what is old
  goes, a log leaves its archive beside it, and nothing else changes (`Swept`).  The first
  pass does not come by the archives it writes; the second does, and finds them fresh,
  unless fewer days than none are kept (`not_every_cleanUp_settles`).  After both nothing
  is old, and a further run goes through the names without doing anything
  (`eachExpired_of_young`).
-/

import ImageIntake.Proofs.Agreement
import ImageIntake.Proofs.Files.Gzip
import ImageIntake.Proofs.Log.Directory

namespace ImageIntake.Log

open ImageIntake.Files ImageIntake.Files.Tree

/-! ## What is old -/

/-- Whether there is a regular file of a name, with this content, that is older than so many days. -/
def Old (days : Int) (dest : Place) (tree : Tree) (name : Name) (content : Bytes) : Prop :=
  ∃ seconds micros, tree.find? (dest ++ [name]) = some (.file content (.aged seconds micros)) ∧
    days * daySeconds * secondMicros < seconds * secondMicros + micros

/-- Whether something stands there that is taken for older. -/
def Expired (days : Int) (dest : Place) (tree : Tree) (name : Name) (node : Node) : Prop :=
  tree.find? (dest ++ [name]) = some node ∧ isExpired tree.lead days node.stamp = true

/-- What was written since the clock was looked at is not older than any number of days, as long as
the clock of the files is not behind. -/
theorem isExpired_fresh {lead days : Int} (h_days : 0 ≤ days) (h_lead : 0 ≤ lead) :
    isExpired lead days .fresh = false := by
  have h_limit : 0 ≤ days * daySeconds * secondMicros := by
    show 0 ≤ days * 86400 * 1000000
    omega
  have h_age : ageOf lead .fresh ≤ 0 := by
    show -(lead * 1000000) ≤ 0
    omega
  exact decide_eq_false (by omega)

theorem old_iff {days : Int} {dest : Place} {tree : Tree} {name : Name} {content : Bytes}
    (h_fresh : isExpired tree.lead days .fresh = false) :
    Old days dest tree name content ↔
      ∃ stamp, Expired days dest tree name (.file content stamp) := by
  constructor
  · rintro ⟨seconds, micros, h_file, h_age⟩
    exact ⟨_, h_file, decide_eq_true h_age⟩
  · rintro ⟨stamp, h_file, h_expired⟩
    cases stamp with
    | aged seconds micros => exact ⟨seconds, micros, h_file, of_decide_eq_true h_expired⟩
    | fresh => cases h_expired.symm.trans h_fresh

theorem expiry_ok_iff {now : Instant} {lead days : Int} {stamp : Stamp} {old : Bool} :
    expiry now lead days stamp = .ok old ↔
      dateFault? (now.moment - ageOf lead stamp) = none ∧ isExpired lead days stamp = old := by
  unfold expiry
  cases dateFault? (now.moment - ageOf lead stamp) with
  | some fault => exact iff_of_false nofun nofun
  | none => exact ⟨fun h => ⟨rfl, Except.ok.inj h⟩, fun h => congrArg _ h.2⟩

/-! ## One pass -/

section

variable {now : Instant} {days : Int} {act : Tree → String → Except Fault Unit × Tree} {tree : Tree}
  {path : String} {paths : List String} {node : Node}

theorem eachExpired_cons_young (h_look : tree.look path = .ok node)
    (h_young : expiry now tree.lead days node.stamp = .ok false) :
    eachExpired now days act tree (path :: paths) = eachExpired now days act tree paths := by
  rw [eachExpired, h_look]
  dsimp only [Except.bind]
  rw [h_young]

theorem eachExpired_cons_old (h_look : tree.look path = .ok node)
    (h_old : expiry now tree.lead days node.stamp = .ok true) {next : Tree}
    (h_act : act tree path = (.ok (), next)) :
    eachExpired now days act tree (path :: paths) = eachExpired now days act next paths := by
  rw [eachExpired, h_look]
  dsimp only [Except.bind]
  rw [h_old]
  dsimp only
  rw [h_act]

/-- A pass that ends well looked at its first path, and did what was to be done with it. -/
theorem of_eachExpired_cons {after : Tree}
    (h : eachExpired now days act tree (path :: paths) = (.ok (), after)) :
    ∃ node, tree.look path = .ok node ∧
      dateFault? (now.moment - ageOf tree.lead node.stamp) = none ∧
      ((isExpired tree.lead days node.stamp = false ∧
          eachExpired now days act tree paths = (.ok (), after)) ∨
        (isExpired tree.lead days node.stamp = true ∧ ∃ next, act tree path = (.ok (), next) ∧
          eachExpired now days act next paths = (.ok (), after))) := by
  rw [eachExpired] at h
  cases h_look : tree.look path with
  | error fault =>
    rw [h_look] at h
    cases h
  | ok node =>
    rw [h_look] at h
    dsimp only [Except.bind] at h
    cases h_expiry : expiry now tree.lead days node.stamp with
    | error fault =>
      rw [h_expiry] at h
      cases h
    | ok old =>
      obtain ⟨h_date, h_expired⟩ := expiry_ok_iff.mp h_expiry
      refine ⟨node, rfl, h_date, ?_⟩
      rw [h_expiry] at h
      cases old with
      | false => exact .inl ⟨h_expired, h⟩
      | true =>
        dsimp only at h
        rcases h_act : act tree path with ⟨fault | _, next⟩
        · rw [h_act] at h
          cases h
        · rw [h_act] at h
          exact .inr ⟨h_expired, next, rfl, h⟩

/-- Where nothing is old, nothing is done. -/
theorem eachExpired_of_young (h : ∀ path ∈ paths, ∃ node, tree.look path = .ok node ∧
    expiry now tree.lead days node.stamp = .ok false) :
    eachExpired now days act tree paths = (.ok (), tree) := by
  induction paths with
  | nil => rfl
  | cons path paths ih =>
    obtain ⟨node, h_look, h_young⟩ := h path List.mem_cons_self
    rw [eachExpired_cons_young h_look h_young]
    exact ih fun other h_mem => h other (List.mem_cons_of_mem path h_mem)

end

theorem expired_cleared_iff {days : Int} {dest : Place} {tree : Tree} {name other : Name}
    {node : Node} {packed : Option Bytes}
    (h_other : packed.isSome = true → other ≠ archiveName name) :
    Expired days dest (cleared tree dest name packed) other node ↔
      other ≠ name ∧ Expired days dest tree other node := by
  unfold Expired
  rw [lead_cleared]
  by_cases h_same : other = name
  · rw [h_same, find?_cleared_self]
    exact iff_of_false nofun fun h_both => h_both.1 rfl
  · rw [find?_cleared_of_ne (ne_entry h_same) fun h_packs => ne_entry (h_other h_packs)]
    exact ⟨fun h_there => ⟨h_same, h_there⟩, fun h_both => h_both.2⟩

/-- A pass over the entries whose names have an ending: what it does with an old one, and how it packs
what it leaves beside it, if it leaves something.  Only logs leave something. -/
structure Pass (now : Instant) where
  ending : String
  act : Tree → String → Except Fault Unit × Tree
  pack? : Option (Bytes → Bytes)
  named : ∀ {name : Name}, ending.toList <:+ name → IsLog name ∨ IsArchive name
  log : pack?.isSome = true → ∀ {name : Name}, ending.toList <:+ name → IsLog name
  act_ok : ∀ {tree next : Tree} {dir : String} {dest : Place} {name : Name} {node : Node},
    LogPlace tree dir dest → ending.toList <:+ name → Fits dir name →
    tree.find? (dest ++ [name]) = some node → act tree (entryPath dir name) = (.ok (), next) →
    node.isDirectory = false ∧
      (pack?.isSome = true → LogPlace.Writable tree dir dest (archiveName name)) ∧
      next = cleared tree dest name (pack?.map (· (contentOf node)))

/-- The pass over the logs. -/
def Pass.logs (now : Instant) : Pass now where
  ending := logEnding
  act := archive now
  pack? := some Gzip.pack
  named := .inl
  log _ _ h := h
  act_ok h h_log h_fits h_node h_act := by
    obtain ⟨⟨h_file, -, h_writable, -⟩, h_next⟩ := (h.archive_ok_iff h_log h_fits h_node).mp h_act
    exact ⟨isDirectory_of_isFile h_file, fun _ => h_writable, h_next⟩

/-- The pass over the archives. -/
def Pass.archives (now : Instant) : Pass now where
  ending := logEnding ++ archiveEnding
  act := discard
  pack? := none
  named := .inr
  log h := nomatch h
  act_ok h h_archive h_fits h_node h_act := by
    obtain ⟨-, h_kind, h_next⟩ := (h.discard_ok_iff (.inr h_archive) h_fits h_node).mp h_act
    exact ⟨h_kind, nofun, h_next⟩

/-- What a pass over some names does: the old entries of these names go and leave what they are
packed to, and all else stays. -/
structure Swept (days : Int) (dest : Place) (pack? : Option (Bytes → Bytes)) (names : List Name)
    (before after : Tree) : Prop where
  gone : ∀ name ∈ names, ∀ node, Expired days dest before name node →
    after.find? (dest ++ [name]) = none
  packed : ∀ name ∈ names, ∀ node, Expired days dest before name node → ∀ pack ∈ pack?,
    after.find? (dest ++ [archiveName name]) = some (.file (pack (contentOf node)) .fresh)
  kept : ∀ place, (∀ name ∈ names, ∀ node, Expired days dest before name node →
      place ≠ dest ++ [name] ∧ (pack?.isSome = true → place ≠ dest ++ [archiveName name])) →
    after.find? place = before.find? place
  lead : after.lead = before.lead
  refusal? : ∀ use, after.refusal? dest use = before.refusal? dest use

namespace Swept

variable {days : Int} {dest : Place} {pack? : Option (Bytes → Bytes)} {name : Name}
  {names : List Name} {before after : Tree}

theorem nil : Swept days dest pack? [] before before :=
  ⟨nofun, nofun, fun _ _ => rfl, rfl, fun _ => rfl⟩

/-- A name of which there is nothing old is passed over. -/
theorem cons_young (h : Swept days dest pack? names before after)
    (h_young : ∀ node, ¬Expired days dest before name node) :
    Swept days dest pack? (name :: names) before after := by
  have h_rest {other : Name} {node : Node} (h_mem : other ∈ name :: names)
      (h_old : Expired days dest before other node) : other ∈ names := by
    rcases List.mem_cons.mp h_mem with rfl | h_mem
    · exact absurd h_old (h_young node)
    · exact h_mem
  refine ⟨fun other h_mem node h_old => h.gone other (h_rest h_mem h_old) node h_old,
    fun other h_mem node h_old => h.packed other (h_rest h_mem h_old) node h_old,
    fun place h_place => h.kept place fun other h_mem => ?_, h.lead, h.refusal?⟩
  exact h_place other (List.mem_cons_of_mem name h_mem)

section

variable {node : Node}
  (h_apart : pack?.isSome = true → ∀ other ∈ name :: names, ∀ log, other ≠ archiveName log)
  (h : Swept days dest pack? names
    (cleared before dest name (pack?.map (· (contentOf node)))) after)

include h_apart

/-- What is old among the others when the first is cleared was old before. -/
theorem expired_iff_of_mem {other : Name} {found : Node} (h_mem : other ∈ names) :
    Expired days dest (cleared before dest name (pack?.map (· (contentOf node)))) other found ↔
      other ≠ name ∧ Expired days dest before other found := by
  refine expired_cleared_iff fun h_packs => ?_
  exact h_apart (Option.isSome_map.symm.trans h_packs) other (List.mem_cons_of_mem name h_mem) name

include h

theorem first_gone : after.find? (dest ++ [name]) = none := by
  rw [h.kept (dest ++ [name]), find?_cleared_self]
  intro other h_mem found h_old
  have h_other := ((expired_iff_of_mem h_apart h_mem).mp h_old).1
  refine ⟨ne_entry h_other.symm, fun h_packs => ne_entry ?_⟩
  exact h_apart h_packs name List.mem_cons_self other

theorem first_packed {pack : Bytes → Bytes} (h_pack : pack ∈ pack?) :
    after.find? (dest ++ [archiveName name]) = some (.file (pack (contentOf node)) .fresh) := by
  obtain rfl : pack? = some pack := h_pack
  rw [h.kept (dest ++ [archiveName name])]
  · exact find?_cleared_archive (h_apart rfl name List.mem_cons_self name).symm
  · intro other h_mem found h_old
    have h_other := ((expired_iff_of_mem h_apart h_mem).mp h_old).1
    have h_log := h_apart rfl other (List.mem_cons_of_mem name h_mem) name
    exact ⟨ne_entry h_log.symm, fun _ => ne_entry fun h_eq =>
      h_other (archiveName_injective h_eq).symm⟩

/-- An old entry is cleared, and then the others are swept.  None of these is its archive, and their
archives are others than its own. -/
theorem cons_old (h_old : Expired days dest before name node) :
    Swept days dest pack? (name :: names) before after := by
  constructor
  · intro other h_mem found h_found
    by_cases h_other : other = name
    · rw [h_other, first_gone h_apart h]
    · have h_mem := List.mem_of_ne_of_mem h_other h_mem
      exact h.gone other h_mem found ((expired_iff_of_mem h_apart h_mem).mpr ⟨h_other, h_found⟩)
  · intro other h_mem found h_found pack h_pack
    by_cases h_other : other = name
    · subst h_other
      cases h_old.1.symm.trans h_found.1
      rw [first_packed h_apart h h_pack]
    · have h_mem := List.mem_of_ne_of_mem h_other h_mem
      exact h.packed other h_mem found
        ((expired_iff_of_mem h_apart h_mem).mpr ⟨h_other, h_found⟩) pack h_pack
  · intro place h_place
    have h_first := h_place name List.mem_cons_self node h_old
    have h_cleared : (cleared before dest name (pack?.map (· (contentOf node)))).find? place =
        before.find? place :=
      find?_cleared_of_ne h_first.1 fun h_packs =>
        h_first.2 (Option.isSome_map.symm.trans h_packs)
    rw [h.kept place, h_cleared]
    intro other h_mem found h_found
    have h_before := ((expired_iff_of_mem h_apart h_mem).mp h_found).2
    exact h_place other (List.mem_cons_of_mem name h_mem) found h_before
  · exact h.lead.trans lead_cleared
  · exact fun use => (h.refusal? use).trans (refusal?_cleared ne_dest use)

end

end Swept

/-- Whether what stands at a name can be looked at, and was written at a moment that has a date. -/
structure Seen (now : Instant) (dir : String) (dest : Place) (tree : Tree) (name : Name) : Prop where
  fits : Fits dir name
  dated : ∀ node, tree.find? (dest ++ [name]) = some node →
    dateFault? (now.moment - ageOf tree.lead node.stamp) = none

/-- A pass that ends well has swept all names it was given. -/
theorem Pass.sweep {now : Instant} (pass : Pass now) {days : Int} {tree after : Tree} {dir : String}
    {dest : Place} {names : List Name} (h : LogPlace tree dir dest)
    (h_names : ∀ name ∈ names, pass.ending.toList <:+ name ∧ '/' ∉ name)
    (h_run : eachExpired now days pass.act tree (names.map (entryPath dir)) = (.ok (), after)) :
    Swept days dest pass.pack? names tree after ∧ LogPlace after dir dest ∧
      (tree.Distinct → after.Distinct) ∧ ∀ name ∈ names, Seen now dir dest tree name := by
  induction names generalizing tree with
  | nil =>
    cases h_run
    exact ⟨.nil, h, id, nofun⟩
  | cons name names ih =>
    obtain ⟨h_ends, h_slash⟩ := h_names name List.mem_cons_self
    have h_rest := fun other h_mem => h_names other (List.mem_cons_of_mem name h_mem)
    obtain ⟨node, h_look, h_date, h_run⟩ := of_eachExpired_cons h_run
    obtain ⟨h_fits, h_node⟩ := h.look_entry (pass.named h_ends) h_slash h_look
    have h_seen : Seen now dir dest tree name := by
      refine ⟨h_fits, fun found h_found => ?_⟩
      cases h_node.symm.trans h_found
      exact h_date
    rcases h_run with ⟨h_young, h_run⟩ | ⟨h_expired, next, h_act, h_run⟩
    · -- A young entry stays, and the rest of the pass starts from the same tree.
      obtain ⟨h_swept, h_after, h_distinct, h_others⟩ := ih h h_rest h_run
      refine ⟨h_swept.cons_young ?_, h_after, h_distinct,
        List.forall_mem_cons.mpr ⟨h_seen, h_others⟩⟩
      rintro found ⟨h_found, h_true⟩
      cases h_node.symm.trans h_found
      rw [h_young] at h_true
      cases h_true
    · -- An old one gives way; what is packed has a name of its own, so that the others stay as they were.
      obtain ⟨h_kind, h_writable, rfl⟩ := pass.act_ok h h_ends h_fits h_node h_act
      have h_apart (h_packs : pass.pack?.isSome = true) (other : Name)
          (h_mem : other ∈ name :: names) (log : Name) : other ≠ archiveName log :=
        (pass.log h_packs (h_names other h_mem).1).ne_archiveName log
      have h_next : LogPlace (cleared tree dest name (pass.pack?.map (· (contentOf node)))) dir dest :=
        h.cleared (pass.named h_ends) h_node h_kind fun h_packed => by
          have h_packs := Option.isSome_map.symm.trans h_packed
          exact ⟨pass.log h_packs h_ends, h_writable h_packs⟩
      obtain ⟨h_swept, h_after, h_distinct, h_others⟩ := ih h_next h_rest h_run
      refine ⟨h_swept.cons_old h_apart ⟨h_node, h_expired⟩, h_after,
        fun h_tree => h_distinct (distinct_cleared h_tree), fun other h_mem => ?_⟩
      by_cases h_other : other = name
      · rw [h_other]
        exact h_seen
      · have h_mem := List.mem_of_ne_of_mem h_other h_mem
        refine ⟨(h_others other h_mem).fits, fun found h_found => ?_⟩
        have h_dated := (h_others other h_mem).dated found
        rw [lead_cleared, find?_cleared_of_ne (ne_entry h_other) fun h_packs => ne_entry <|
          h_apart (Option.isSome_map.symm.trans h_packs) other (List.mem_cons_of_mem name h_mem) name]
          at h_dated
        exact h_dated h_found

/-! ## Both passes -/

/-- The names in a directory that have an ending. -/
def namesEnding (tree : Tree) (dest : Place) (ending : String) : List Name :=
  (tree.namesIn dest).filter fun name => endsIn ending (String.ofList name)

theorem pathsEnding_eq {tree : Tree} {dir : String} {dest : Place} (h : LogPlace tree dir dest)
    (ending : String) : pathsEnding tree (plainPath dir) ending =
      (namesEnding tree dest ending).map (entryPath dir) := by
  obtain ⟨stamp, h_there⟩ := h.leads
  have h_list : tree.list (plainPath dir) = .ok ((tree.namesIn dest).map String.ofList) := by
    rw [list, h_there]
    dsimp only [Node.isDirectory]
    rw [h.listed]
    rfl
  unfold pathsEnding
  rw [h_list]
  dsimp only
  rw [List.filter_map, List.map_map]
  rfl

theorem mem_namesEnding {tree : Tree} {dest : Place} {ending : String} {name : Name} :
    name ∈ namesEnding tree dest ending ↔
      ending.toList <:+ name ∧ ∃ node, tree.find? (dest ++ [name]) = some node := by
  rw [namesEnding, List.mem_filter, mem_namesIn_iff, endsIn_iff, and_comm]

theorem Expired.mem_namesEnding {days : Int} {dest : Place} {tree : Tree} {name : Name}
    {node : Node} {ending : String} (h : Expired days dest tree name node)
    (h_ends : ending.toList <:+ name) :
    name ∈ namesEnding tree dest ending :=
  Log.mem_namesEnding.mpr ⟨h_ends, node, h.1⟩

/-- A pass over all names of its ending. -/
theorem Pass.sweep_all {now : Instant} (pass : Pass now) {days : Int} {tree after : Tree}
    {dir : String} {dest : Place} (h : LogPlace tree dir dest)
    (h_run : eachExpired now days pass.act tree (pathsEnding tree (plainPath dir) pass.ending) =
      (.ok (), after)) :
    Swept days dest pass.pack? (namesEnding tree dest pass.ending) tree after ∧
      LogPlace after dir dest ∧ (tree.Distinct → after.Distinct) ∧
      ∀ name ∈ namesEnding tree dest pass.ending, Seen now dir dest tree name := by
  rw [pathsEnding_eq h] at h_run
  refine pass.sweep h (fun name h_mem => ?_) h_run
  obtain ⟨h_ends, node, h_node⟩ := mem_namesEnding.mp h_mem
  exact ⟨h_ends, h.slash name node h_node⟩

/-- What is no old log, and not the archive of one, passes the first pass. -/
theorem Swept.passed {days : Int} {dest : Place} {pack? : Option (Bytes → Bytes)}
    {tree between : Tree} (h : Swept days dest pack? (namesEnding tree dest logEnding) tree between)
    {place : Place} (h_other : ∀ log logged, IsLog log → Expired days dest tree log logged →
      place ≠ dest ++ [log] ∧ place ≠ dest ++ [archiveName log]) :
    between.find? place = tree.find? place := by
  refine h.kept place fun log h_mem logged h_old => ?_
  obtain ⟨h_log, -⟩ := mem_namesEnding.mp h_mem
  obtain ⟨h_self, h_archive⟩ := h_other log logged h_log h_old
  exact ⟨h_self, fun _ => h_archive⟩

/-- What stands behind a clean-up that ended well: both passes, and what lies between them. -/
structure Cleaned (now : Instant) (days : Int) (dir : String) (dest : Place)
    (tree between after : Tree) : Prop where
  logs : Swept days dest (some Gzip.pack) (namesEnding tree dest logEnding) tree between
  archives : Swept days dest none (namesEnding between dest (logEnding ++ archiveEnding)) between
    after
  place : LogPlace after dir dest
  logsSeen : ∀ name ∈ namesEnding tree dest logEnding, Seen now dir dest tree name
  archivesSeen : ∀ name ∈ namesEnding between dest (logEnding ++ archiveEnding),
    Seen now dir dest between name

theorem cleaned_of_run {now : Instant} {days : Int} {tree after : Tree} {dir : String} {dest : Place}
    (h : LogPlace tree dir dest) (h_run : cleanUp tree now dir days = (.ok (), after)) :
    dayFault days = none ∧ ∃ between, Cleaned now days dir dest tree between after := by
  unfold cleanUp at h_run
  cases h_days : dayFault days with
  | some fault =>
    rw [h_days] at h_run
    cases h_run
  | none =>
    rw [h_days] at h_run
    dsimp only at h_run
    split at h_run
    next => cases h_run
    next between h_logs =>
      obtain ⟨h_logs, h_between, -, h_logsSeen⟩ := (Pass.logs now).sweep_all h h_logs
      obtain ⟨h_archives, h_after, -, h_archivesSeen⟩ :=
        (Pass.archives now).sweep_all h_between h_run
      exact ⟨rfl, between, h_logs, h_archives, h_after, h_logsSeen, h_archivesSeen⟩

namespace Cleaned

variable {now : Instant} {days : Int} {dir : String} {dest : Place} {tree between after : Tree}
  {name : Name} {node : Node} (h : Cleaned now days dir dest tree between after)

include h

section

variable (h_log : IsLog name) (h_old : Expired days dest tree name node)

include h_log h_old

/-- An archive that the first pass wrote is passed over by the second, if what is fresh is not old. -/
theorem archived (h_fresh : isExpired tree.lead days .fresh = false) :
    after.find? (dest ++ [archiveName name]) =
      some (.file (Gzip.pack (contentOf node)) .fresh) := by
  have h_packed := h.logs.packed name (h_old.mem_namesEnding h_log) node h_old _ rfl
  rw [h.archives.kept, h_packed]
  rintro other - found ⟨h_found, h_expired⟩
  refine ⟨ne_entry ?_, nofun⟩
  rintro rfl
  cases h_packed.symm.trans h_found
  rw [h.logs.lead] at h_expired
  cases h_fresh.symm.trans h_expired

theorem log_gone : after.find? (dest ++ [name]) = none := by
  have h_gone := h.logs.gone name (h_old.mem_namesEnding h_log) node h_old
  rw [h.archives.kept, h_gone]
  rintro other - found ⟨h_found, -⟩
  refine ⟨ne_entry ?_, nofun⟩
  rintro rfl
  cases h_gone.symm.trans h_found

end

theorem archive_gone (h_archive : IsArchive name) (h_old : Expired days dest tree name node)
    (h_other : ∀ log logged, IsLog log → Expired days dest tree log logged →
      name ≠ archiveName log) :
    after.find? (dest ++ [name]) = none := by
  obtain ⟨h_node, h_expired⟩ := h_old
  have h_between : between.find? (dest ++ [name]) = some node := by
    rw [h.logs.passed, h_node]
    intro log logged h_log h_logged
    refine ⟨ne_entry ?_, ne_entry (h_other log logged h_log h_logged)⟩
    rintro rfl
    exact h_log.not_isArchive h_archive
  have h_old : Expired days dest between name node := ⟨h_between, by rw [h.logs.lead, h_expired]⟩
  exact h.archives.gone name (h_old.mem_namesEnding h_archive) node h_old

theorem kept {place : Place}
    (h_other : ∀ name node, IsLog name ∨ IsArchive name → Expired days dest tree name node →
      place ≠ dest ++ [name])
    (h_archive : ∀ log logged, IsLog log → Expired days dest tree log logged →
      place ≠ dest ++ [archiveName log]) :
    after.find? place = tree.find? place := by
  have h_between : between.find? place = tree.find? place :=
    h.logs.passed fun log logged h_log h_old =>
      ⟨h_other log logged (.inl h_log) h_old, h_archive log logged h_log h_old⟩
  rw [h.archives.kept place, h_between]
  intro name h_mem node h_old
  refine ⟨?_, nofun⟩
  rintro rfl
  obtain ⟨h_node, h_expired⟩ := h_old
  rw [h_between] at h_node
  rw [h.logs.lead] at h_expired
  obtain ⟨h_ends, -⟩ := mem_namesEnding.mp h_mem
  exact h_other name node (.inr h_ends) ⟨h_node, h_expired⟩ rfl

/-- A log that is left was there before, and was not old. -/
theorem log_left (h_log : IsLog name) (h_node : after.find? (dest ++ [name]) = some node) :
    tree.find? (dest ++ [name]) = some node ∧ isExpired tree.lead days node.stamp = false := by
  have h_young (found : Node) : ¬Expired days dest tree name found := by
    intro h_old
    rw [h.log_gone h_log h_old] at h_node
    cases h_node
  have h_before : tree.find? (dest ++ [name]) = some node := by
    rw [← h_node, h.kept]
    · intro other found _ h_old
      refine ne_entry ?_
      rintro rfl
      exact h_young found h_old
    · exact fun log _ _ _ => ne_entry (h_log.ne_archiveName log)
  exact ⟨h_before, Bool.eq_false_iff.mpr fun h_expired => h_young node ⟨h_before, h_expired⟩⟩

/-- An archive that is left was there between the passes, and was not old then. -/
theorem archive_left (h_archive : IsArchive name)
    (h_node : after.find? (dest ++ [name]) = some node) :
    between.find? (dest ++ [name]) = some node ∧
      isExpired between.lead days node.stamp = false := by
  have h_young (found : Node) : ¬Expired days dest between name found := by
    intro h_old
    rw [h.archives.gone name (h_old.mem_namesEnding h_archive) found h_old] at h_node
    cases h_node
  have h_before : between.find? (dest ++ [name]) = some node := by
    rw [← h_node, h.archives.kept]
    intro other _ found h_old
    refine ⟨ne_entry ?_, nofun⟩
    rintro rfl
    exact h_young found h_old
  exact ⟨h_before, Bool.eq_false_iff.mpr fun h_expired => h_young node ⟨h_before, h_expired⟩⟩

/-- All logs and archives that are left can be looked at, and none is old. -/
theorem look_young (h_name : IsLog name ∨ IsArchive name)
    (h_node : after.find? (dest ++ [name]) = some node) :
    ∃ found, after.look (entryPath dir name) = .ok found ∧
      expiry now after.lead days found.stamp = .ok false := by
  have h_lead : after.lead = between.lead ∧ after.lead = tree.lead :=
    ⟨h.archives.lead, h.archives.lead.trans h.logs.lead⟩
  obtain ⟨h_fits, h_expiry⟩ : Fits dir name ∧ expiry now after.lead days node.stamp = .ok false := by
    rcases h_name with h_log | h_archive
    · obtain ⟨h_before, h_young⟩ := h.log_left h_log h_node
      have h_seen := h.logsSeen name (mem_namesEnding.mpr ⟨h_log, _, h_before⟩)
      rw [h_lead.2]
      exact ⟨h_seen.fits, expiry_ok_iff.mpr ⟨h_seen.dated node h_before, h_young⟩⟩
    · obtain ⟨h_before, h_young⟩ := h.archive_left h_archive h_node
      have h_seen := h.archivesSeen name (mem_namesEnding.mpr ⟨h_archive, _, h_before⟩)
      rw [h_lead.1]
      exact ⟨h_seen.fits, expiry_ok_iff.mpr ⟨h_seen.dated node h_before, h_young⟩⟩
  exact ⟨node, h.place.look_eq h_name h_fits h_node, h_expiry⟩

/-- Going through the names again does nothing. -/
theorem again (ending : String) (act : Tree → String → Except Fault Unit × Tree)
    (h_ending : ∀ name : Name, ending.toList <:+ name → IsLog name ∨ IsArchive name) :
    eachExpired now days act after (pathsEnding after (plainPath dir) ending) = (.ok (), after) := by
  rw [pathsEnding_eq h.place]
  refine eachExpired_of_young fun path h_mem => ?_
  obtain ⟨name, h_name, rfl⟩ := List.mem_map.mp h_mem
  obtain ⟨h_ends, node, h_node⟩ := mem_namesEnding.mp h_name
  exact h.look_young (h_ending name h_ends) h_node

end Cleaned

/-- What a clean-up that ends well does to a directory whose logs and archives are regular files of
one name each, whatever the time, and however many days are kept, if they are not fewer than none: an
old log is gone, and beside it stands an archive that unpacks to its bytes; an old archive that was
not written anew is gone; all else, in the directory or elsewhere, is as it was.  A second run does
nothing.  The clock of the files is not behind, so that what a run writes is not old. -/
theorem cleanUp_settles {tree after : Tree} {now : Instant} {dir : String} {dest : Place} {days : Int}
    (h_directory : LogDirectory tree dir dest) (h_days : 0 ≤ days) (h_lead : 0 ≤ tree.lead)
    (h_run : cleanUp tree now dir days = (.ok (), after)) :
    (∀ name content, IsLog name → Old days dest tree name content →
      after.find? (dest ++ [name]) = none ∧
      ∃ packed stamp, after.find? (dest ++ [archiveName name]) = some (.file packed stamp) ∧
        Gzip.unpack? packed = some content) ∧
    (∀ name content, IsArchive name → Old days dest tree name content →
      (∀ log logged, IsLog log → Old days dest tree log logged → name ≠ archiveName log) →
      after.find? (dest ++ [name]) = none) ∧
    (∀ place, (∀ name content, IsLog name ∨ IsArchive name → Old days dest tree name content →
        place ≠ dest ++ [name]) →
      (∀ log logged, IsLog log → Old days dest tree log logged →
        place ≠ dest ++ [archiveName log]) →
      after.find? place = tree.find? place) ∧
    cleanUp after now dir days = (.ok (), after) := by
  obtain ⟨h_span, between, h_cleaned⟩ := cleaned_of_run h_directory.place h_run
  have h_fresh := isExpired_fresh h_days h_lead
  -- What is old is a regular file.
  have h_old {name : Name} {node : Node} (h_name : IsLog name ∨ IsArchive name)
      (h_expired : Expired days dest tree name node) :
      Old days dest tree name (contentOf node) := by
    have h_file := h_directory.isFile name node h_name h_expired.1
    cases node with
    | file content stamp => exact (old_iff h_fresh).mpr ⟨stamp, h_expired⟩
    | _ => cases h_file
  refine ⟨fun name content h_log h_content => ?_, fun name content h_archive h_content h_other => ?_,
    fun place h_other h_archive => ?_, ?_⟩
  · obtain ⟨stamp, h_expired⟩ := (old_iff h_fresh).mp h_content
    exact ⟨h_cleaned.log_gone h_log h_expired, _, _, h_cleaned.archived h_log h_expired h_fresh,
      Gzip.unpack?_pack content⟩
  · obtain ⟨stamp, h_expired⟩ := (old_iff h_fresh).mp h_content
    exact h_cleaned.archive_gone h_archive h_expired fun log logged h_log h_logged =>
      h_other log _ h_log (h_old (.inl h_log) h_logged)
  · exact h_cleaned.kept
      (fun name node h_name h_expired => h_other name _ h_name (h_old h_name h_expired))
      fun log logged h_log h_logged => h_archive log _ h_log (h_old (.inl h_log) h_logged)
  · unfold cleanUp
    rw [h_span]
    dsimp only
    rw [h_cleaned.again logEnding (archive now) fun _ => .inl]
    exact h_cleaned.again (logEnding ++ archiveEnding) discard fun _ => .inr

/-- A directory with a log that is a day and a moment old, and an archive that is older. -/
def shelf : Tree where
  entries := [([['w']], .directory .fresh), ([['w'], ['l']], .directory .fresh),
    ([['w'], ['l'], "a.jsonl".toList], .file [1, 2, 3] (.aged 86400 1)),
    ([['w'], ['l'], "b.jsonl.gz".toList], .file [4] (.aged 86401))]
  home := [['w']]

/-- It when the log has given way to its archive, and the archive to nothing. -/
def shelfAfter : Tree :=
  (cleared shelf [['w'], ['l']] "a.jsonl".toList (some (Gzip.pack [1, 2, 3]))).remove
    [['w'], ['l'], "b.jsonl.gz".toList]

theorem leads_shelf : shelf.Leads "l" [['w'], ['l']] :=
  ⟨.fresh, ok_of_toOption (by decide +kernel)⟩

theorem logDirectory_shelf : LogDirectory shelf "l" [['w'], ['l']] := by
  have h_names : ∀ name ∈ shelf.namesIn [['w'], ['l']], '/' ∉ name ∧
      ∀ node ∈ shelf.find? ([['w'], ['l']] ++ [name]), node.isFile = true := by
    decide
  refine ⟨leads_shelf, rfl, fun name node h_node => ?_, fun name _ => rfl,
    fun name node _ h_node => ?_⟩
  · exact (h_names name (mem_namesIn_iff.mpr ⟨node, h_node⟩)).1
  · exact (h_names name (mem_namesIn_iff.mpr ⟨node, h_node⟩)).2 node h_node

/-- The seventh hour of a day in May. -/
def mayMorning : Instant := ⟨2024, 5, 6, 7, 8, 9, 0⟩

theorem cleanUp_shelf : cleanUp shelf mayMorning "l" 1 = (.ok (), shelfAfter) :=
  Prod.ext (ok_of_toOption (by decide +kernel)) (by decide +kernel)

theorem shelf_settles :
    ∃ after, cleanUp shelf mayMorning "l" 1 = (.ok (), after) ∧
      after.find? [['w'], ['l'], "a.jsonl".toList] = none ∧
      (∃ packed stamp,
        after.find? [['w'], ['l'], "a.jsonl.gz".toList] = some (.file packed stamp) ∧
        Gzip.unpack? packed = some [1, 2, 3]) ∧
      after.find? [['w'], ['l'], "b.jsonl.gz".toList] = none ∧
      after.find? [['w']] = some (.directory .fresh) ∧
      cleanUp after mayMorning "l" 1 = (.ok (), after) := by
  have h_log : IsLog "a.jsonl".toList := ⟨['a'], by decide⟩
  have h_archive : IsArchive "b.jsonl.gz".toList := ⟨['b'], by decide⟩
  have h_file : Old 1 [['w'], ['l']] shelf "a.jsonl".toList [1, 2, 3] :=
    ⟨86400, 1, by decide, by decide⟩
  have h_packed : Old 1 [['w'], ['l']] shelf "b.jsonl.gz".toList [4] :=
    ⟨86401, 0, by decide, by decide⟩
  obtain ⟨h_logs, h_archives, h_kept, h_again⟩ :=
    cleanUp_settles logDirectory_shelf (by decide) (by decide) cleanUp_shelf
  obtain ⟨h_gone, h_beside⟩ := h_logs _ _ h_log h_file
  refine ⟨shelfAfter, cleanUp_shelf, h_gone, h_beside,
    h_archives _ _ h_archive h_packed fun log logged h_log h_old => ?_, ?_, h_again⟩
  · rintro h_name
    obtain rfl : "b.jsonl".toList = log := archiveName_injective h_name
    obtain ⟨seconds, micros, h_there, -⟩ := h_old
    rw [show shelf.find? ([['w'], ['l']] ++ ["b.jsonl".toList]) = none by decide] at h_there
    cases h_there
  · have h_above (name : Name) : [['w']] ≠ [['w'], ['l']] ++ [name] := by simp
    exact h_kept _ (fun name _ _ _ => h_above name) fun log _ _ _ => h_above (archiveName log)

/-- Clean-ups that end well and do not settle a directory of regular files.  With fewer days than none
an archive that was just written is old already, and the log is lost; a log that has the name of its
archive too is empty when it is packed; and from a directory that may not be listed nothing is put
away. -/
theorem not_every_cleanUp_settles :
    let log : Place := [['w'], ['l'], "a.jsonl".toList]
    let packed : Place := [['w'], ['l'], "a.jsonl.gz".toList]
    let early := cleanUp shelf mayMorning "l" (-1)
    let twin : Tree :=
      { shelf with
        entries := [([['w']], .directory .fresh), ([['w'], ['l']], .directory .fresh),
          (log, .file [1, 2, 3] (.aged 86400 1)), (packed, .file [1, 2, 3] (.aged 86400 1))]
        marks := [(log, 0), (packed, 0)] }
    let hidden : Tree := { shelf with refusals := [(([['w'], ['l']], .reading), .denied)] }
    (early.1.toOption = some () ∧ shelf.find? log = some (.file [1, 2, 3] (.aged 86400 1)) ∧
      early.2.find? log = none ∧ early.2.find? packed = none) ∧
    ((cleanUp twin mayMorning "l" 1).1.toOption = some () ∧
      (cleanUp twin mayMorning "l" 1).2.find? log = none ∧
      (cleanUp twin mayMorning "l" 1).2.find? packed = some (.file (Gzip.pack []) .fresh)) ∧
    cleanUp hidden mayMorning "l" 1 = (.ok (), hidden) := by
  intro log packed early twin hidden
  refine ⟨⟨?_, ?_, ?_, ?_⟩, ⟨?_, ?_, ?_⟩, Prod.ext (ok_of_toOption ?_) ?_⟩ <;> decide +kernel

end ImageIntake.Log
