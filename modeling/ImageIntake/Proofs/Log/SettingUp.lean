/-
  ImageIntake.Proofs.Log.SettingUp

  What a set-up of the log fails by, where its directory is there.  The level, the days,
  the size and the file of the day each have their own reasons to fail; what stands in a
  plain directory is in the way only as it is in that of the clean-up (`Hindered`).
  Settings that were read rule out no more than an odd level, and the command line can
  ask for that (`setUp_fails_iff`).
-/

import ImageIntake.Cli.Outcome
import ImageIntake.Proofs.Files.Opening
import ImageIntake.Proofs.Log.Handlers
import ImageIntake.Proofs.Log.Littering
import ImageIntake.Proofs.Settings

namespace ImageIntake.Log

open ImageIntake.Files ImageIntake.Files.Tree ImageIntake.Number

/-! ## Levels and sizes -/

namespace Logbook

/-- Whether a text asks for a layout in the place of a level. -/
def NamesLayout (text : String) : Prop := Text.upper text ∈ otherNames.map (·.1)

instance (text : String) : Decidable (NamesLayout text) :=
  inferInstanceAs (Decidable (Text.upper text ∈ otherNames.map (·.1)))

theorem levelOf_fails_iff (text : String) :
    (∃ fault, levelOf text = .error fault) ↔ NamesLayout text := by
  unfold levelOf NamesLayout
  dsimp only
  have h_mem : Text.upper text ∈ otherNames.map (·.1) ↔
      (otherNames.lookup (Text.upper text)).isSome = true := by
    rw [List.lookup_isSome_iff, List.mem_map]
    exact exists_congr fun p => and_congr_right fun _ => by rw [beq_iff_eq, eq_comm]
  rw [h_mem]
  cases otherNames.lookup (Text.upper text) with
  | some fault => exact iff_of_true ⟨fault, rfl⟩ rfl
  | none =>
    refine iff_of_false ?_ Bool.false_ne_true
    rintro ⟨fault, ⟨⟩⟩

theorem two_pow_le_div_iff (a b c k m : Nat) :
    twoTo c ≤ m * twoTo a / twoTo b ↔ twoTo (c + b + k) ≤ m * twoTo (a + k) := by
  have h_add (n : Nat) : twoTo (n + k) = twoTo n * twoTo k := Nat.pow_add 2 n k
  have h_below : twoTo (c + b) = twoTo c * twoTo b := Nat.pow_add 2 c b
  rw [Nat.le_div_iff_mul_le (twoTo_pos b), h_add, h_add, ← h_below, ← Nat.mul_assoc]
  exact (Nat.mul_le_mul_right_iff (twoTo_pos k)).symm

/-- Twenty doublings take a number with a fraction past a limit twenty doublings higher. -/
theorem doubled_le_div_iff (m c : Nat) (exponent : Int) :
    twoTo (c + 20) ≤ m * twoTo (exponent + 20).toNat / twoTo (-(exponent + 20)).toNat ↔
      twoTo c ≤ m * twoTo exponent.toNat / twoTo (-exponent).toNat := by
  rw [two_pow_le_div_iff _ _ _ exponent.toNat, two_pow_le_div_iff _ _ _ (exponent + 20).toNat,
    Nat.add_comm exponent.toNat]
  have h_powers : c + 20 + (-(exponent + 20)).toNat + exponent.toNat =
      c + (-exponent).toNat + (exponent + 20).toNat := by omega
  rw [h_powers]

/-- Whether a size in MiB is infinite, no number, or two to the power of 1004 or more. -/
def IsVast (size : Binary64) : Prop := ∀ n ∈ size.truncate?, twoTo 1004 ≤ n.natAbs

theorem bytesOf_fails_iff (size : Binary64) :
    (∃ fault, bytesOf size = .error fault) ↔ IsVast size := by
  unfold bytesOf IsVast Binary64.truncate?
  cases size.content with
  | nan => exact iff_of_true ⟨_, rfl⟩ nofun
  | infinite negative => exact iff_of_true ⟨_, rfl⟩ nofun
  | finite negative mantissa exponent =>
    dsimp only
    have h_size : (if 0 ≤ exponent then mantissa * twoTo exponent.toNat
        else mantissa / twoTo (-exponent).toNat) =
          mantissa * twoTo exponent.toNat / twoTo (-exponent).toNat := by
      split
      next h_whole =>
        rw [Int.toNat_of_nonpos (by omega : -exponent ≤ 0)]
        exact (Nat.div_one _).symm
      next h_fraction =>
        rw [Int.toNat_of_nonpos (by omega : exponent ≤ 0)]
        exact congrArg (· / _) (Nat.mul_one _).symm
    have h_doubled := doubled_le_div_iff mantissa 1004 exponent
    have h_abs (n : Nat) : (if negative then -(n : Int) else (n : Int)).natAbs = n := by
      cases negative with
      | true => exact Int.natAbs_neg n
      | false => exact Int.natAbs_natCast n
    rw [h_size]
    constructor
    · rintro ⟨fault, h_fails⟩ n h_n
      cases h_n
      rw [h_abs]
      refine h_doubled.mp (Decidable.byContradiction fun h_small => ?_)
      rw [if_neg h_small] at h_fails
      cases h_fails
    · intro h_vast
      have h_large := h_vast _ rfl
      rw [h_abs] at h_large
      exact ⟨_, if_pos (h_doubled.mpr h_large)⟩

/-! ## Set-ups -/

/-- Whether a directory is plain, can be written to, and no place is listed twice. -/
structure IsPlain (tree : Tree) (dir : String) (dest : Place) : Prop where
  place : LogPlace tree dir dest
  writable : tree.refusal? dest .writing = none
  distinct : tree.Distinct

/-- What keeps the log file of a day from being opened in a plain directory. -/
inductive Hindered (tree : Tree) (now : Instant) (plan : Plan) (dir : String) (dest : Place) : Prop
  | cleanUp (h_littered : Littered now plan.retention tree dir dest)
  | size (h_vast : IsVast plan.maxSize)
  /-- The place of the file cannot be written to. -/
  | file {cleaned : Tree} (h_clean : Log.cleanUp tree now dir plan.retention = (.ok (), cleaned))
      (h_closed : ¬cleaned.Opens (fileOf tree dir now))

section

variable {tree : Tree} {now : Instant} {plan : Plan} {dir : String} {dest : Place}

/-- A file is opened in a directory that is there after a clean-up, if the size is not vast and the
place of the file can be written to. -/
theorem openFile_ok_iff (h : tree.Leads dir dest) :
    (∃ opened after, openFile tree now plan dir = (.ok opened, after)) ↔
      ∃ cleaned, Log.cleanUp tree now dir plan.retention = (.ok (), cleaned) ∧
        ¬IsVast plan.maxSize ∧ cleaned.Opens (fileOf tree dir now) := by
  unfold openFile
  rw [makeDirectories_of_leads h, ← bytesOf_fails_iff]
  dsimp only
  generalize Log.cleanUp tree now dir plan.retention = result
  generalize fileOf tree dir now = path
  rcases result with ⟨fault | _, cleaned⟩
  · exact iff_of_false (by rintro ⟨_, _, ⟨⟩⟩) (by rintro ⟨_, ⟨⟩, -⟩)
  · have h_file := ensureFile_ok_iff cleaned path
    dsimp only
    cases bytesOf plan.maxSize with
    | error fault =>
      refine iff_of_false (by rintro ⟨_, _, ⟨⟩⟩) ?_
      rintro ⟨_, -, h_small, -⟩
      exact h_small ⟨fault, rfl⟩
    | ok limit =>
      dsimp only
      constructor
      · rintro ⟨opened, after, h_ok⟩
        refine ⟨cleaned, rfl, nofun, h_file.mp ?_⟩
        cases h_ensure : cleaned.ensureFile path with
        | error fault =>
          rw [h_ensure] at h_ok
          cases h_ok
        | ok made => exact ⟨made, rfl⟩
      · rintro ⟨_, h_same, -, h_opens⟩
        obtain rfl : cleaned = _ := congrArg Prod.snd h_same
        obtain ⟨made, h_made⟩ := h_file.mpr h_opens
        rw [h_made]
        exact ⟨(path, limit), made, rfl⟩

theorem openFile_fails_iff (h : IsPlain tree dir dest) :
    (¬∃ opened after, openFile tree now plan dir = (.ok opened, after)) ↔
      Hindered tree now plan dir dest := by
  have h_clean_fails : (∃ fault, (Log.cleanUp tree now dir plan.retention).1 = .error fault) ↔ _ :=
    cleanUp_fails_iff h.place h.writable h.distinct
  rw [openFile_ok_iff h.place.leads]
  constructor
  · intro h_not
    by_cases h_littered : Littered now plan.retention tree dir dest
    · exact .cleanUp h_littered
    · by_cases h_vast : IsVast plan.maxSize
      · exact .size h_vast
      · rw [← h_clean_fails, fails_iff_not_ok, not_not] at h_littered
        obtain ⟨cleaned, h_clean⟩ := h_littered
        refine .file h_clean fun h_opens => h_not ?_
        exact ⟨cleaned, h_clean, h_vast, h_opens⟩
  · rintro h_hindered ⟨cleaned, h_clean, h_small, h_opens⟩
    cases h_hindered with
    | cleanUp h_littered =>
      exact fails_iff_not_ok.mp (h_clean_fails.mpr h_littered) ⟨cleaned, h_clean⟩
    | size h_vast => exact h_small h_vast
    | file h_same h_closed =>
      obtain rfl := congrArg Prod.snd (h_clean.symm.trans h_same)
      exact h_closed h_opens

end

/-- A set-up fails if the level does, or the log file cannot be opened where there is to be one. -/
theorem setUp_fails_iff_or (book : Logbook) (tree : Tree) (now : Instant) (plan : Plan) :
    (∃ fault, (book.setUp tree now plan).1 = .error fault) ↔
      NamesLayout plan.levelName ∨
        ∃ dir ∈ plan.dir, ¬∃ opened after, openFile tree now plan dir = (.ok opened, after) := by
  have h_level_fails := levelOf_fails_iff plan.levelName
  unfold setUp
  cases h_level : levelOf plan.levelName with
  | error fault => exact iff_of_true ⟨fault, rfl⟩ (.inl (h_level_fails.mp ⟨fault, h_level⟩))
  | ok level =>
    have h_known : ¬NamesLayout plan.levelName := by
      rw [← h_level_fails, h_level]
      rintro ⟨fault, ⟨⟩⟩
    rw [or_iff_right h_known]
    cases plan.dir with
    | none => exact iff_of_false (by rintro ⟨fault, ⟨⟩⟩) (by rintro ⟨dir, ⟨⟩, -⟩)
    | some dir =>
      dsimp only
      rcases h_open : openFile tree now plan dir with ⟨fault | ⟨path, limit⟩, after⟩
      · refine iff_of_true ⟨fault, rfl⟩ ⟨dir, rfl, ?_⟩
        rw [h_open]
        nofun
      · refine iff_of_false (by rintro ⟨fault, ⟨⟩⟩) ?_
        rintro ⟨_, ⟨⟩, h_none⟩
        exact h_none ⟨_, _, h_open⟩

/-- The level that is asked for is a layout only if the command line asks for it. -/
theorem namesLayout_settle_iff {given : Settings.Given} {settings : Settings}
    (h_read : Settings.read given = .ok settings) (command : Cli.ImportCommand) :
    NamesLayout (command.settle settings).logLevel ↔
      ∃ word ∈ command.logLevel, NamesLayout (Text.upper word) := by
  have h_own : ¬NamesLayout settings.logLevel := by
    have h_names : ∀ name ∈ Settings.levelNames, ¬NamesLayout name := by decide +kernel
    exact h_names _ (Settings.valid_of_read h_read).logLevel
  unfold Cli.ImportCommand.settle
  cases command.logLevel with
  | none => exact iff_of_false h_own (by rintro ⟨word, ⟨⟩, -⟩)
  | some word =>
    by_cases h_empty : word = ""
    · subst h_empty
      have h_nothing : ¬NamesLayout (Text.upper "") := by decide +kernel
      exact iff_of_false h_own (by rintro ⟨word, ⟨⟩, h_word⟩; exact h_nothing h_word)
    · rw [Option.filter_some, if_pos (decide_eq_true h_empty)]
      simp

/-- A set-up with settings that were read, the level that the command line asks for, and a directory
that is there or none.  Whenever it returns, it leaves the console handler and, with a directory, the
handler for the log file of the day.  Whatever the directory, it fails if the command line names a
layout in the place of a level, no span of time has so many days, the size is vast, or something
leads nowhere among logs and archives of which none is old.  In a plain directory it fails exactly if
the command line names a layout or something keeps the log file from being opened. -/
theorem setUp_fails_iff {given : Settings.Given} {settings : Settings}
    (h_read : Settings.read given = .ok settings) (command : Cli.ImportCommand)
    (dir? : Option String) (book : Logbook) {tree : Tree} (now : Instant)
    (h_dir : ∀ dir ∈ dir?.or settings.logDir, ∃ dest, tree.Leads dir dest) :
    let plan := { (command.settle settings).logPlan with dir := dir?.or settings.logDir }
    let outcome := book.setUp tree now plan
    (outcome.1 = .ok () → outcome.2.1.Holds book.made ⟨tree, now, plan⟩) ∧
    ((∃ word ∈ command.logLevel, NamesLayout (Text.upper word)) ∨
        (∃ dir ∈ plan.dir, dayLimit < plan.retention.natAbs ∨ IsVast plan.maxSize ∨
          ∃ path ∈ pathsEnding tree (plainPath dir) logEnding ++
              pathsEnding tree (plainPath dir) (logEnding ++ archiveEnding),
            (∃ fault, tree.look path = .error fault) ∧
            ∀ other ∈ pathsEnding tree (plainPath dir) logEnding ++
                pathsEnding tree (plainPath dir) (logEnding ++ archiveEnding),
              Young plan.retention tree other) →
      ∃ fault, outcome.1 = .error fault) ∧
    ∀ dest, (∀ dir ∈ plan.dir, IsPlain tree dir dest) →
      ((∃ fault, outcome.1 = .error fault) ↔
        (∃ word ∈ command.logLevel, NamesLayout (Text.upper word)) ∨
          ∃ dir ∈ plan.dir, Hindered tree now plan dir dest) := by
  intro plan outcome
  have h_fails : (∃ fault, outcome.1 = .error fault) ↔ _ := setUp_fails_iff_or book tree now plan
  have h_level : NamesLayout plan.levelName ↔ _ := namesLayout_settle_iff h_read command
  rw [h_level] at h_fails
  refine ⟨@holds_of_perform book ⟨tree, now, plan⟩, ?_, fun dest h_plain => ?_⟩
  · rw [h_fails]
    refine Or.imp_right fun ⟨dir, h_mem, h_reason⟩ => ⟨dir, h_mem, ?_⟩
    obtain ⟨dest, h_leads⟩ := h_dir dir h_mem
    rw [openFile_ok_iff h_leads]
    rintro ⟨cleaned, h_clean, h_small, -⟩
    have h_ends : ¬∃ fault, (Log.cleanUp tree now dir plan.retention).1 = .error fault :=
      mt fails_iff_not_ok.mp (not_not.mpr ⟨cleaned, h_clean⟩)
    rcases h_reason with h_days | h_vast | ⟨path, h_path, ⟨fault, h_lost⟩, h_young⟩
    · exact h_ends (cleanUp_fails_of_days h_days)
    · exact h_small h_vast
    · exact h_ends (cleanUp_fails_of_lost h_young h_path h_lost)
  · rw [h_fails]
    refine or_congr_right (exists_congr fun dir => and_congr_right fun h_mem => ?_)
    exact openFile_fails_iff (h_plain dir h_mem)

theorem isPlain_shelf : IsPlain shelf "l" [['w'], ['l']] :=
  ⟨logDirectory_shelf.place, rfl, by unfold Tree.Distinct; decide⟩

theorem shelf_not_hindered {plan : Plan} (h_days : plan.retention = 1)
    (h_size : plan.maxSize = .ofInt 10) :
    ¬Hindered shelf mayMorning plan "l" [['w'], ['l']] := by
  have h_free : shelfAfter.resolve true (fileOf shelf "l" mayMorning) =
      .ok (.free [['w'], ['l'], "diskimport-20240506.jsonl".toList]) :=
    ok_of_toOption (by decide +kernel)
  have h_opens : shelfAfter.Opens (fileOf shelf "l" mayMorning) := .free h_free rfl
  rw [← openFile_fails_iff isPlain_shelf, not_not, openFile_ok_iff leads_shelf]
  refine ⟨shelfAfter, h_days ▸ cleanUp_shelf, fun h_vast => ?_, h_opens⟩
  exact absurd (h_vast 10 (by rw [h_size]; decide +kernel)) (by decide +kernel)

/-- A log that is a day old is packed away, an older archive goes, and the file of the day is
opened. -/
theorem shelf_set_up :
    let given : Settings.Given :=
      { environment := [("DISKIMPORT_LOG_DIR", "l"), ("diskimport_log_retention_days", "1")] }
    let settings : Settings := { logDir := some "l", logRetention := 1 }
    let command : Cli.ImportCommand := { endpoint := "e", destination := "d", logLevel := some "fine" }
    let outcome := Logbook.setUp {} shelf mayMorning (command.settle settings).logPlan
    Settings.read given = .ok settings ∧ outcome.1 = .ok () ∧ outcome.2.1.ours =
      [⟨0, .console⟩, ⟨1, .file "/w/l/diskimport-20240506.jsonl" 10485760⟩] := by
  intro given settings command outcome
  have h_read : Settings.read given = .ok settings := ok_of_toOption (by decide +kernel)
  have h_dir : ∀ dir ∈ none.or settings.logDir, ∃ dest, shelf.Leads dir dest := by
    rintro dir ⟨⟩
    exact ⟨_, leads_shelf⟩
  obtain ⟨h_holds, -, h_fails⟩ := setUp_fails_iff h_read command none {} mayMorning h_dir
  have h_plain : ∀ dir ∈ none.or settings.logDir, IsPlain shelf dir [['w'], ['l']] := by
    rintro dir ⟨⟩
    exact isPlain_shelf
  have h_ok : outcome.1 = .ok () := by
    cases h_outcome : outcome.1 with
    | ok => rfl
    | error fault =>
      rcases (h_fails _ h_plain).mp ⟨fault, h_outcome⟩ with ⟨word, ⟨⟩, h_word⟩ | ⟨dir, ⟨⟩, h_hindered⟩
      · exact absurd h_word (by decide +kernel)
      · exact absurd h_hindered (shelf_not_hindered rfl rfl)
  refine ⟨h_read, h_ok, ?_⟩
  obtain ⟨limit, h_limit, h_ours⟩ := h_holds h_ok
  have h_ten : bytesOf (.ofInt 10) = .ok 10485760 := ok_of_toOption (by decide +kernel)
  have h_file : fileOf shelf "l" mayMorning = "/w/l/diskimport-20240506.jsonl" := by
    decide +kernel
  obtain rfl : limit = 10485760 := Except.ok.inj (h_limit.symm.trans h_ten)
  rw [← h_file]
  exact h_ours

/-- More days than a span of time can have, which settings may ask for. -/
theorem endless_retention_fails :
    let given : Settings.Given := { environment := [("DISKIMPORT_LOG_RETENTION_DAYS", "1000000000")] }
    ∃ settings, Settings.read given = .ok settings ∧ shelf.Leads "l" [['w'], ['l']] ∧
      ∀ now, (Logbook.setUp {} shelf now { settings.logPlan with dir := some "l" }).1 =
        .error (.overflow "days=1000000000; must have magnitude <= 999999999") := by
  intro given
  refine ⟨{ logRetention := 1000000000 }, ok_of_toOption (by decide +kernel), leads_shelf,
    fun now => ?_⟩
  have h_level : levelOf "INFO" = .ok 20 := ok_of_toOption (by decide +kernel)
  have h_days : dayFault 1000000000 =
      some (.overflow "days=1000000000; must have magnitude <= 999999999") := by decide +kernel
  have h_open : (openFile shelf now
      { Settings.logPlan { logRetention := 1000000000 } with dir := some "l" } "l") =
        (.error (.overflow "days=1000000000; must have magnitude <= 999999999"), shelf) := by
    unfold openFile Log.cleanUp
    rw [makeDirectories_of_leads leads_shelf]
    dsimp only [Settings.logPlan]
    rw [h_days]
  unfold setUp
  dsimp only [Settings.logPlan] at h_open ⊢
  rw [h_level]
  dsimp only
  rw [h_open]

end Logbook

end ImageIntake.Log
