/-
  ImageIntake.Proofs.Log.Directory

  A log directory, whose logs and archives are plain (`LogPlace`): none is a link or a file
  of several names, and a device among them cannot be opened.  A clean-up of one entry
  that goes well leaves a log's archive beside it, and takes the entry away (`cleared`);
  a log that is put away was a regular file.  Logs and archives end differently, so that no
  name is that of both.  The directory stays a plain one through each write and removal.
-/

import ImageIntake.Log.Retention
import ImageIntake.Proofs.Files.Directory

namespace ImageIntake.Log

open ImageIntake.Files ImageIntake.Files.Tree

/-! ## Names -/

/-- Whether a name is that of a log. -/
def IsLog (name : Name) : Prop := logEnding.toList <:+ name

/-- Whether a name is that of an archive. -/
def IsArchive (name : Name) : Prop := (logEnding ++ archiveEnding).toList <:+ name

/-- The name of the archive of a log. -/
def archiveName (name : Name) : Name := name ++ archiveEnding.toList

theorem endsIn_iff (ending : String) (name : Name) :
    endsIn ending (String.ofList name) = true ↔ ending.toList <:+ name := by
  rw [endsIn, String.toList_ofList, List.isPrefixOf_iff_prefix, List.reverse_prefix]

theorem archiveName_injective {name other : Name} (h : archiveName name = archiveName other) :
    name = other := List.append_cancel_right h

theorem IsLog.isArchive {name : Name} (h : IsLog name) : IsArchive (archiveName name) := by
  obtain ⟨front, rfl⟩ := h
  refine ⟨front, ?_⟩
  rw [archiveName, String.toList_append, List.append_assoc]

theorem IsLog.getLast? {name : Name} (h : IsLog name) : name.getLast? = some 'l' := by
  obtain ⟨front, rfl⟩ := h
  rw [List.getLast?_append_of_ne_nil _ (by decide)]
  rfl

theorem IsArchive.getLast? {name : Name} (h : IsArchive name) : name.getLast? = some 'z' := by
  obtain ⟨front, rfl⟩ := h
  rw [List.getLast?_append_of_ne_nil _ (by decide)]
  rfl

theorem getLast?_archiveName (name : Name) : (archiveName name).getLast? = some 'z' := by
  rw [archiveName, List.getLast?_append_of_ne_nil _ (by decide)]
  rfl

theorem IsLog.not_isArchive {name : Name} (h : IsLog name) : ¬IsArchive name := by
  intro h_archive
  have h_last := h.getLast?.symm.trans h_archive.getLast?
  exact absurd h_last (by decide)

theorem IsLog.ne_archiveName {name : Name} (h : IsLog name) (other : Name) :
    name ≠ archiveName other := by
  rintro rfl
  have h_last := h.getLast?.symm.trans (getLast?_archiveName other)
  exact absurd h_last (by decide)

theorem isEntry_of_slash {name : Name} (h : IsLog name ∨ IsArchive name) (h_slash : '/' ∉ name) :
    IsEntry name := by
  have h_length : 6 ≤ name.length := by
    rcases h with h | h
    · exact h.length_le
    · exact Nat.le_trans (by decide) h.length_le
  have h_short {short : Name} (h_less : short.length < 6) : name ≠ short := by
    rintro rfl
    omega
  have h_named : Path.isName name = true := by
    rw [Path.isName, Bool.and_eq_true, decide_eq_true_eq, decide_eq_true_eq]
    exact ⟨h_short (by decide), h_short (by decide)⟩
  exact ⟨h_slash, h_named, h_short (by decide)⟩

theorem slash_archiveName {name : Name} (h : '/' ∉ name) : '/' ∉ archiveName name := by
  intro h_mem
  rcases List.mem_append.mp h_mem with h_mem | h_mem
  · exact h h_mem
  · exact absurd h_mem (by decide)

/-- The archive stands beside its log. -/
theorem entryPath_archiveName (dir : String) {name : Name} (h : IsLog name) (h_slash : '/' ∉ name) :
    entryPath dir name ++ archiveEnding = entryPath dir (archiveName name) := by
  have h_long := slash_archiveName h_slash
  have h_named := (isEntry_of_slash (.inl h) h_slash).named
  have h_longer := (isEntry_of_slash (.inr h.isArchive) h_long).named
  exact pathBelow_append (plainPath dir) h_long h_named h_longer

/-! ## Log directories -/

/-- A directory that can be listed, and whose logs and archives are plain. -/
structure LogPlace (tree : Tree) (dir : String) (dest : Place) : Prop where
  leads : tree.Leads dir dest
  listed : tree.refusal? dest .reading = none
  slash : ∀ name node, tree.find? (dest ++ [name]) = some node → '/' ∉ name
  /-- No log or archive has another name. -/
  single : ∀ name, IsLog name ∨ IsArchive name → tree.twins (dest ++ [name]) = []
  direct : ∀ name target, IsLog name ∨ IsArchive name →
    tree.find? (dest ++ [name]) ≠ some (.link target)
  shut : ∀ name stamp, IsLog name ∨ IsArchive name →
    tree.find? (dest ++ [name]) = some (.device stamp) →
    ∀ use, tree.refusal? (dest ++ [name]) use ≠ none

/-- A directory that can be listed, and whose logs and archives are regular files, each of one
name. -/
structure LogDirectory (tree : Tree) (dir : String) (dest : Place) : Prop where
  leads : tree.Leads dir dest
  listed : tree.refusal? dest .reading = none
  slash : ∀ name node, tree.find? (dest ++ [name]) = some node → '/' ∉ name
  single : ∀ name, IsLog name ∨ IsArchive name → tree.twins (dest ++ [name]) = []
  isFile : ∀ name node, IsLog name ∨ IsArchive name → tree.find? (dest ++ [name]) = some node →
    node.isFile = true

theorem LogDirectory.place {tree : Tree} {dir : String} {dest : Place}
    (h : LogDirectory tree dir dest) : LogPlace tree dir dest where
  leads := h.leads
  listed := h.listed
  slash := h.slash
  single := h.single
  direct _ _ h_name h_link := Bool.false_ne_true (h.isFile _ _ h_name h_link)
  shut _ _ h_name h_device := absurd (h.isFile _ _ h_name h_device) Bool.false_ne_true

theorem ne_entry {dest : Place} {name other : Name} (h : name ≠ other) :
    dest ++ [name] ≠ dest ++ [other] := by
  intro h_place
  exact h (List.singleton_inj.mp (List.append_cancel_left h_place))

theorem entry_ne_nil {dest : Place} {name : Name} : dest ++ [name] ≠ [] := by simp

theorem ne_dest {dest : Place} {name : Name} : dest ≠ dest ++ [name] := by simp

theorem isDirectory_of_isFile {node : Node} (h : node.isFile = true) : node.isDirectory = false := by
  cases node with
  | directory stamp => cases h
  | _ => rfl

/-- The bytes of a regular file. -/
def contentOf : Node → Bytes
  | .file content _ => content
  | _ => []

/-- The tree in which an entry has given way to its archive, or to nothing. -/
def cleared (tree : Tree) (dest : Place) (name : Name) (packed : Option Bytes) : Tree :=
  match packed with
  | some bytes =>
    (tree.put (dest ++ [archiveName name]) (.file bytes .fresh)).remove (dest ++ [name])
  | none => tree.remove (dest ++ [name])

section

variable {tree : Tree} {dir : String} {dest : Place} {name : Name} {packed : Option Bytes}

@[simp] theorem lead_cleared : (cleared tree dest name packed).lead = tree.lead := by
  cases packed <;> rfl

theorem find?_cleared_self : (cleared tree dest name packed).find? (dest ++ [name]) = none := by
  cases packed <;> exact find?_remove_self _ entry_ne_nil

theorem find?_cleared_archive {bytes : Bytes} (h : archiveName name ≠ name) :
    (cleared tree dest name (some bytes)).find? (dest ++ [archiveName name]) =
      some (.file bytes .fresh) := by
  rw [cleared, find?_remove_of_ne _ (ne_entry h), find?_put_self _ entry_ne_nil]

theorem find?_cleared_of_ne {place : Place} (h_self : place ≠ dest ++ [name])
    (h_archive : packed.isSome = true → place ≠ dest ++ [archiveName name]) :
    (cleared tree dest name packed).find? place = tree.find? place := by
  cases packed with
  | none => exact find?_remove_of_ne _ h_self
  | some bytes => rw [cleared, find?_remove_of_ne _ h_self, find?_put_of_ne _ (h_archive rfl)]

theorem distinct_cleared (h : tree.Distinct) : (cleared tree dest name packed).Distinct := by
  cases packed with
  | none => exact h.remove _
  | some bytes => exact (h.put _ _).remove _

theorem refusal?_cleared {place : Place} (h : place ≠ dest ++ [name]) (use : Use) :
    (cleared tree dest name packed).refusal? place use = tree.refusal? place use := by
  cases packed with
  | none => exact refusal?_remove_of_ne _ h use
  | some bytes => exact refusal?_remove_of_ne _ h use

end

theorem attempt_ok_iff {tree next : Tree} {outcome : Except Fault Tree} :
    attempt tree outcome = (.ok (), next) ↔ outcome = .ok next := by
  cases outcome with
  | error fault => exact iff_of_false nofun nofun
  | ok after => simp [attempt]

/-! ## Writes and removals -/

namespace LogPlace

variable {tree : Tree} {dir : String} {dest : Place} {name : Name} {node : Node}

theorem isEntry (h : LogPlace tree dir dest) (h_name : IsLog name ∨ IsArchive name)
    (h_node : tree.find? (dest ++ [name]) = some node) : IsEntry name :=
  isEntry_of_slash h_name (h.slash name node h_node)

/-- A log directory stays one when a log or an archive is written in it. -/
theorem put (h : LogPlace tree dir dest) (h_name : IsLog name ∨ IsArchive name)
    (h_slash : '/' ∉ name) (bytes : Bytes)
    (h_place : ∀ node, tree.find? (dest ++ [name]) = some node → node.leadsOn = false) :
    LogPlace (tree.put (dest ++ [name]) (.file bytes .fresh)) dir dest := by
  have h_there {other : Name} {found : Node} (h_found : (tree.put (dest ++ [name])
      (.file bytes .fresh)).find? (dest ++ [other]) = some found) :
      tree.find? (dest ++ [other]) = some found ∨ other = name ∧ found = .file bytes .fresh := by
    by_cases h_same : other = name
    · rw [h_same, find?_put_self _ entry_ne_nil] at h_found
      exact .inr ⟨h_same, (Option.some.inj h_found).symm⟩
    · rw [find?_put_of_ne _ (ne_entry h_same)] at h_found
      exact .inl h_found
  refine ⟨h.leads.of_keeps ⟨rfl, fun place found h_found h_on => ?_⟩, h.listed,
    fun other found h_found => ?_, h.single, fun other target h_other h_link => ?_,
    fun other stamp h_other h_device => ?_⟩
  · rw [find?_put_of_ne, h_found]
    rintro rfl
    rw [h_place found h_found] at h_on
    cases h_on
  · rcases h_there h_found with h_before | ⟨rfl, -⟩
    · exact h.slash other found h_before
    · exact h_slash
  · rcases h_there h_link with h_before | ⟨-, ⟨⟩⟩
    exact h.direct other target h_other h_before
  · rcases h_there h_device with h_before | ⟨-, ⟨⟩⟩
    exact h.shut other stamp h_other h_before

/-- It stays one when something is taken away that is no directory. -/
theorem remove (h : LogPlace tree dir dest) (h_name : IsLog name ∨ IsArchive name)
    (h_node : tree.find? (dest ++ [name]) = some node) (h_kind : node.isDirectory = false) :
    LogPlace (tree.remove (dest ++ [name])) dir dest := by
  have h_there {other : Name} {found : Node}
      (h_found : (tree.remove (dest ++ [name])).find? (dest ++ [other]) = some found) :
      other ≠ name ∧ tree.find? (dest ++ [other]) = some found := by
    by_cases h_same : other = name
    · rw [h_same, find?_remove_self _ entry_ne_nil] at h_found
      cases h_found
    · rw [find?_remove_of_ne _ (ne_entry h_same)] at h_found
      exact ⟨h_same, h_found⟩
  refine ⟨h.leads.of_keeps ⟨rfl, fun place found h_found h_on => ?_⟩,
    (refusal?_remove_of_ne _ ne_dest _).trans h.listed,
    fun other found h_found => h.slash other found (h_there h_found).2,
    fun other h_other => twins_remove (h.single other h_other),
    fun other target h_other h_link => h.direct other target h_other (h_there h_link).2,
    fun other stamp h_other h_device use => ?_⟩
  · rw [find?_remove_of_ne, h_found]
    rintro rfl
    cases h_node.symm.trans h_found
    cases node with
    | link target => exact h.direct name target h_name h_node
    | directory stamp => cases h_kind
    | _ => cases h_on
  · obtain ⟨h_ne, h_before⟩ := h_there h_device
    rw [refusal?_remove_of_ne _ (ne_entry h_ne)]
    exact h.shut other stamp h_other h_before use

/-- An entry of a log directory that can be looked at stands in the tree. -/
theorem look_entry (h : LogPlace tree dir dest) (h_name : IsLog name ∨ IsArchive name)
    (h_slash : '/' ∉ name) (h_look : tree.look (entryPath dir name) = .ok node) :
    Fits dir name ∧ tree.find? (dest ++ [name]) = some node := by
  have h_entry := isEntry_of_slash h_name h_slash
  unfold look at h_look
  cases h_resolve : tree.resolve true (entryPath dir name) with
  | error fault =>
    rw [h_resolve] at h_look
    cases h_look
  | ok target =>
    have h_fits := h.leads.fits h_entry h_resolve
    refine ⟨h_fits, ?_⟩
    cases h_node : tree.find? (dest ++ [name]) with
    | none =>
      rw [h.leads.resolve_free h_entry h_fits true h_node] at h_look
      cases h_look
    | some found =>
      have h_link (target : String) : found ≠ .link target := by
        rintro rfl
        exact h.direct name target h_name h_node
      rw [h.leads.resolve_taken h_entry h_fits true h_node h_link] at h_look
      exact congrArg some (Except.ok.inj h_look)

section

variable (h : LogPlace tree dir dest) (h_name : IsLog name ∨ IsArchive name)
  (h_fits : Fits dir name)

include h h_name h_fits

theorem resolve_eq (h_node : tree.find? (dest ++ [name]) = some node) (last : Bool) :
    tree.resolve last (entryPath dir name) = .ok (.taken (dest ++ [name]) node) := by
  refine h.leads.resolve_taken (h.isEntry h_name h_node) h_fits last h_node fun target => ?_
  rintro rfl
  exact h.direct name target h_name h_node

theorem look_eq (h_node : tree.find? (dest ++ [name]) = some node) :
    tree.look (entryPath dir name) = .ok node := by
  rw [look, h.resolve_eq h_name h_fits h_node true]

/-- What can be read is a regular file that may be read. -/
theorem read_ok_iff (h_node : tree.find? (dest ++ [name]) = some node) {content : Bytes} :
    tree.read (entryPath dir name) = .ok content ↔
      tree.refusal? (dest ++ [name]) .reading = none ∧ ∃ stamp, node = .file content stamp := by
  rw [Tree.read, h.resolve_eq h_name h_fits h_node true]
  dsimp only
  cases h_refusal : tree.refusal? (dest ++ [name]) .reading with
  | some r => exact iff_of_false nofun fun h_both => nomatch h_both.1
  | none =>
    cases node with
    | file bytes stamp =>
      constructor
      · rintro ⟨⟩
        exact ⟨rfl, stamp, rfl⟩
      · rintro ⟨-, _, ⟨⟩⟩
        rfl
    | directory stamp => exact iff_of_false nofun (by rintro ⟨-, _, ⟨⟩⟩)
    | link target => exact absurd h_node (h.direct name target h_name)
    | device stamp => exact absurd h_refusal (h.shut name stamp h_name h_node .reading)

/-- What is taken away is no directory, and its directory may be written to. -/
theorem unlink_ok_iff (h_node : tree.find? (dest ++ [name]) = some node) {next : Tree} :
    tree.unlink (entryPath dir name) = .ok next ↔
      tree.refusal? dest .writing = none ∧ node.isDirectory = false ∧
        next = tree.remove (dest ++ [name]) := by
  rw [unlink, h.resolve_eq h_name h_fits h_node false]
  dsimp only
  rw [List.dropLast_concat]
  cases tree.refusal? dest .writing with
  | some r => exact iff_of_false nofun nofun
  | none =>
    cases node.isDirectory with
    | true => exact iff_of_false nofun nofun
    | false =>
      constructor
      · rintro ⟨⟩
        exact ⟨rfl, rfl, rfl⟩
      · rintro ⟨-, -, rfl⟩
        rfl

end

/-- What can be opened for writing is a regular file that may be written to, or a place that is free,
if the directory may be written to. -/
structure Writable (tree : Tree) (dir : String) (dest : Place) (name : Name) : Prop where
  fits : Fits dir name
  free : tree.find? (dest ++ [name]) = none → tree.refusal? dest .writing = none
  taken : ∀ node, tree.find? (dest ++ [name]) = some node →
    node.isDirectory = false ∧ tree.refusal? (dest ++ [name]) .writing = none

section

variable (h : LogPlace tree dir dest) (h_name : IsLog name ∨ IsArchive name)
  (h_fits : Fits dir name) (bytes : Bytes) {next : Tree}

include h h_name h_fits

theorem write_free (h_slash : '/' ∉ name) (h_none : tree.find? (dest ++ [name]) = none) :
    tree.write (entryPath dir name) (fun _ => bytes) = .ok next ↔
      tree.refusal? dest .writing = none ∧
        next = tree.put (dest ++ [name]) (.file bytes .fresh) := by
  unfold write openToWrite
  rw [h.leads.resolve_free (isEntry_of_slash h_name h_slash) h_fits true h_none]
  dsimp only
  rw [List.dropLast_concat]
  cases tree.refusal? dest .writing with
  | some r => exact iff_of_false nofun fun h_both => nomatch h_both.1
  | none =>
    rw [and_iff_right rfl]
    exact ⟨fun h_ok => (Except.ok.inj h_ok).symm, fun h_eq => congrArg _ h_eq.symm⟩

theorem write_taken (h_node : tree.find? (dest ++ [name]) = some node) :
    tree.write (entryPath dir name) (fun _ => bytes) = .ok next ↔
      (node.isDirectory = false ∧ tree.refusal? (dest ++ [name]) .writing = none) ∧
        next = tree.put (dest ++ [name]) (.file bytes .fresh) := by
  unfold write openToWrite
  rw [h.resolve_eq h_name h_fits h_node true]
  dsimp only
  cases h_refusal : tree.refusal? (dest ++ [name]) .writing with
  | some r =>
    refine iff_of_false ?_ fun h_both => nomatch h_both.1.2
    cases node.isDirectory <;> nofun
  | none =>
    cases node with
    | directory stamp => exact iff_of_false nofun fun h_both => nomatch h_both.1.1
    | link target => exact absurd h_node (h.direct name target h_name)
    | device stamp => exact absurd h_refusal (h.shut name stamp h_name h_node .writing)
    | file content stamp =>
      have h_alone : tree.putAll (dest ++ [name]) (.file bytes .fresh) =
          tree.put (dest ++ [name]) (.file bytes .fresh) := by
        rw [putAll, h.single name h_name]
        rfl
      rw [and_iff_right ⟨rfl, rfl⟩, ← h_alone]
      exact ⟨fun h_ok => (Except.ok.inj h_ok).symm, fun h_eq => congrArg _ h_eq.symm⟩

end

/-- A file is written anew, whether or not there was one. -/
theorem write_ok_iff (h : LogPlace tree dir dest) (h_name : IsLog name ∨ IsArchive name)
    (h_slash : '/' ∉ name) (bytes : Bytes) {next : Tree} :
    tree.write (entryPath dir name) (fun _ => bytes) = .ok next ↔
      Writable tree dir dest name ∧ next = tree.put (dest ++ [name]) (.file bytes .fresh) := by
  by_cases h_fits : Fits dir name
  · cases h_node : tree.find? (dest ++ [name]) with
    | none =>
      rw [h.write_free h_name h_fits bytes h_slash h_node]
      refine and_congr_left fun _ => ⟨fun h_free => ?_, fun h_writable => h_writable.free h_node⟩
      exact ⟨h_fits, fun _ => h_free, fun node h_some => nomatch h_node.symm.trans h_some⟩
    | some node =>
      rw [h.write_taken h_name h_fits bytes h_node]
      refine and_congr_left fun _ => ⟨fun h_taken => ⟨h_fits, fun h_none => ?_, ?_⟩,
        fun h_writable => h_writable.taken node h_node⟩
      · cases h_node.symm.trans h_none
      · rintro found h_found
        cases h_node.symm.trans h_found
        exact h_taken
  · refine iff_of_false (fun h_write => ?_) fun h_both => h_fits h_both.1.fits
    unfold write openToWrite at h_write
    cases h_resolve : tree.resolve true (entryPath dir name) with
    | ok target => exact h_fits (h.leads.fits (isEntry_of_slash h_name h_slash) h_resolve)
    | error fault =>
      rw [h_resolve] at h_write
      cases h_write

/-- What can be written to leads nowhere further. -/
theorem leadsOn_of_writable (h : LogPlace tree dir dest) (h_name : IsLog name ∨ IsArchive name)
    (h_writable : Writable tree dir dest name) {node : Node}
    (h_node : tree.find? (dest ++ [name]) = some node) : node.leadsOn = false := by
  cases node with
  | directory stamp => cases (h_writable.taken _ h_node).1
  | link target => exact absurd h_node (h.direct name target h_name)
  | _ => rfl

/-! ## Putting away -/

section

variable (h : LogPlace tree dir dest) (h_log : IsLog name) (h_fits : Fits dir name)
  (h_node : tree.find? (dest ++ [name]) = some node) {now : Instant}

include h h_log h_fits h_node

/-- A regular file that may be read, and for whose archive there is room, is put away if the archive
can tell the time and the log can be taken away. -/
theorem archive_eq (h_file : node.isFile = true)
    (h_readable : tree.refusal? (dest ++ [name]) .reading = none)
    (h_writable : Writable tree dir dest (archiveName name)) :
    archive now tree (entryPath dir name) =
      let written (bytes : Bytes) := tree.put (dest ++ [archiveName name]) (.file bytes .fresh)
      match packFault? (now.moment + tree.lead * secondMicros) with
      | some fault => (.error fault, written [])
      | none =>
        attempt (written (Gzip.pack (contentOf node)))
          ((written (Gzip.pack (contentOf node))).unlink (entryPath dir name)) := by
  obtain ⟨stamp, h_node_eq⟩ : ∃ stamp, node = .file (contentOf node) stamp := by
    cases node with
    | file content stamp => exact ⟨stamp, rfl⟩
    | _ => cases h_file
  have h_slash := slash_archiveName (h.slash name node h_node)
  have h_archive : IsLog (archiveName name) ∨ IsArchive (archiveName name) := .inr h_log.isArchive
  have h_read := (h.read_ok_iff (.inl h_log) h_fits h_node).mpr ⟨h_readable, stamp, h_node_eq⟩
  have h_open := (h.write_ok_iff h_archive h_slash []).mpr ⟨h_writable, rfl⟩
  -- The log is still there when its archive is open, and is read once more.
  obtain ⟨opened, h_opened⟩ : ∃ opened, opened =
    tree.put (dest ++ [archiveName name]) (.file [] .fresh) := ⟨_, rfl⟩
  have h_place : LogPlace opened dir dest := by
    rw [h_opened]
    exact h.put h_archive h_slash [] fun found => h.leadsOn_of_writable h_archive h_writable
  have h_still : opened.find? (dest ++ [name]) = some node := by
    rw [h_opened, find?_put_of_ne _ (ne_entry (h_log.ne_archiveName name)), h_node]
  have h_empty : opened.find? (dest ++ [archiveName name]) = some (.file [] .fresh) := by
    rw [h_opened, find?_put_self _ entry_ne_nil]
  have h_again : opened.read (entryPath dir name) = .ok (contentOf node) := by
    rw [h_place.read_ok_iff (.inl h_log) h_fits h_still, h_opened]
    exact ⟨h_readable, stamp, h_node_eq⟩
  have h_fill (bytes : Bytes) : opened.fill (entryPath dir (archiveName name)) bytes =
      tree.put (dest ++ [archiveName name]) (.file bytes .fresh) := by
    rw [Tree.fill, h_place.resolve_eq h_archive h_writable.fits h_empty true]
    dsimp only
    rw [putAll, h_place.single _ h_archive, h_opened, put_put]
    rfl
  unfold archive
  dsimp only
  rw [entryPath_archiveName dir h_log (h.slash name node h_node), h_read]
  dsimp only [Except.bind]
  rw [h_open, ← h_opened]
  cases packFault? (now.moment + tree.lead * secondMicros) with
  | some fault => rfl
  | none =>
    dsimp only
    rw [h_again]
    dsimp only
    rw [h_fill]

/-- So it is put away exactly if the archive can tell the time and the directory may be written to. -/
theorem archive_readable_iff (h_file : node.isFile = true)
    (h_readable : tree.refusal? (dest ++ [name]) .reading = none)
    (h_writable : Writable tree dir dest (archiveName name)) {next : Tree} :
    archive now tree (entryPath dir name) = (.ok (), next) ↔
      (tree.refusal? dest .writing = none ∧
        packFault? (now.moment + tree.lead * secondMicros) = none) ∧
      next = Log.cleared tree dest name (some (Gzip.pack (contentOf node))) := by
  obtain ⟨packed, h_packed⟩ : ∃ packed, packed =
    tree.put (dest ++ [archiveName name]) (.file (Gzip.pack (contentOf node)) .fresh) := ⟨_, rfl⟩
  have h_archive : IsLog (archiveName name) ∨ IsArchive (archiveName name) := .inr h_log.isArchive
  have h_place : LogPlace packed dir dest := by
    rw [h_packed]
    exact h.put h_archive (slash_archiveName (h.slash name node h_node)) _ fun found =>
      h.leadsOn_of_writable h_archive h_writable
  have h_still : packed.find? (dest ++ [name]) = some node := by
    rw [h_packed, find?_put_of_ne _ (ne_entry (h_log.ne_archiveName name)), h_node]
  have h_unlink : packed.unlink (entryPath dir name) = .ok next ↔ _ :=
    h_place.unlink_ok_iff (.inl h_log) h_fits h_still
  have h_kind := isDirectory_of_isFile h_file
  rw [h.archive_eq h_log h_fits h_node h_file h_readable h_writable]
  dsimp only
  rw [← h_packed]
  cases packFault? (now.moment + tree.lead * secondMicros) with
  | some fault => exact iff_of_false nofun fun h_both => nomatch h_both.1.2
  | none =>
    dsimp only
    rw [attempt_ok_iff, h_unlink, and_iff_right h_kind, and_iff_left rfl, Log.cleared, ← h_packed,
      h_packed]
    rfl

/-- What is put away was read, and its archive could be opened. -/
theorem of_archive_ok {next : Tree} (h_ok : archive now tree (entryPath dir name) = (.ok (), next)) :
    (node.isFile = true ∧ tree.refusal? (dest ++ [name]) .reading = none) ∧
      Writable tree dir dest (archiveName name) := by
  have h_archive : IsLog (archiveName name) ∨ IsArchive (archiveName name) := .inr h_log.isArchive
  unfold archive at h_ok
  dsimp only at h_ok
  rw [entryPath_archiveName dir h_log (h.slash name node h_node)] at h_ok
  cases h_read : tree.read (entryPath dir name) with
  | error fault =>
    rw [h_read] at h_ok
    cases h_ok
  | ok content =>
    rw [h_read] at h_ok
    cases h_open : tree.write (entryPath dir (archiveName name)) fun _ => [] with
    | error fault =>
      dsimp only [Except.bind] at h_ok
      rw [h_open] at h_ok
      cases h_ok
    | ok opened =>
      obtain ⟨h_readable, stamp, rfl⟩ := (h.read_ok_iff (.inl h_log) h_fits h_node).mp h_read
      obtain ⟨h_writable, -⟩ :=
        (h.write_ok_iff h_archive (slash_archiveName (h.slash name _ h_node)) []).mp h_open
      exact ⟨⟨rfl, h_readable⟩, h_writable⟩

/-- A log is put away if it is a regular file that may be read, there is room for its archive, which
can tell the time, and the directory may be written to; and then its archive is in its place. -/
theorem archive_ok_iff {next : Tree} :
    archive now tree (entryPath dir name) = (.ok (), next) ↔
      (node.isFile = true ∧ tree.refusal? (dest ++ [name]) .reading = none ∧
        Writable tree dir dest (archiveName name) ∧ tree.refusal? dest .writing = none ∧
        packFault? (now.moment + tree.lead * secondMicros) = none) ∧
      next = Log.cleared tree dest name (some (Gzip.pack (contentOf node))) := by
  constructor
  · intro h_ok
    obtain ⟨⟨h_file, h_readable⟩, h_writable⟩ := h.of_archive_ok h_log h_fits h_node h_ok
    obtain ⟨⟨h_dest, h_clock⟩, h_next⟩ :=
      (h.archive_readable_iff h_log h_fits h_node h_file h_readable h_writable).mp h_ok
    exact ⟨⟨h_file, h_readable, h_writable, h_dest, h_clock⟩, h_next⟩
  · rintro ⟨⟨h_file, h_readable, h_writable, h_dest, h_clock⟩, h_next⟩
    exact (h.archive_readable_iff h_log h_fits h_node h_file h_readable h_writable).mpr
      ⟨⟨h_dest, h_clock⟩, h_next⟩

end

/-- An entry is taken away if it is no directory and its directory may be written to. -/
theorem discard_ok_iff (h : LogPlace tree dir dest) (h_name : IsLog name ∨ IsArchive name)
    (h_fits : Fits dir name) (h_node : tree.find? (dest ++ [name]) = some node) {next : Tree} :
    discard tree (entryPath dir name) = (.ok (), next) ↔
      tree.refusal? dest .writing = none ∧ node.isDirectory = false ∧
        next = Log.cleared tree dest name none := by
  rw [discard, attempt_ok_iff, h.unlink_ok_iff h_name h_fits h_node]
  rfl

/-- A log directory stays one when an entry gives way to its archive, or to nothing. -/
theorem cleared (h : LogPlace tree dir dest) (h_name : IsLog name ∨ IsArchive name)
    (h_node : tree.find? (dest ++ [name]) = some node) (h_kind : node.isDirectory = false)
    {packed : Option Bytes} (h_packed : packed.isSome = true →
      IsLog name ∧ Writable tree dir dest (archiveName name)) :
    LogPlace (Log.cleared tree dest name packed) dir dest := by
  cases packed with
  | none => exact h.remove h_name h_node h_kind
  | some bytes =>
    obtain ⟨h_log, h_writable⟩ := h_packed rfl
    have h_archive : IsLog (archiveName name) ∨ IsArchive (archiveName name) := .inr h_log.isArchive
    have h_written := h.put h_archive (slash_archiveName (h.slash name node h_node)) bytes
      fun found => h.leadsOn_of_writable h_archive h_writable
    refine h_written.remove h_name ?_ h_kind
    rw [find?_put_of_ne _ (ne_entry (h_log.ne_archiveName name)), h_node]

end LogPlace

end ImageIntake.Log
