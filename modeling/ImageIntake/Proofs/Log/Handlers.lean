/-
  ImageIntake.Proofs.Log.Handlers

  The handlers of a log that is set up again and again.  A set-up does one of four
  things (`setUp_cases`): it refuses the level before it touches anything; else it
  puts a new console handler in the place of the handlers of earlier set-ups, and
  stops there, or fails to open a log file, or attaches a handler for that too.
  Each of the four keeps account of the handlers made so far (`Orderly`), so that any
  number of set-ups does, whichever of them fail (`setUps_orderly`).
-/

import ImageIntake.Log.Logbook
import ImageIntake.Proofs.Agreement

namespace ImageIntake.Log.Logbook

open ImageIntake.Files

/-! ## Whose handlers there are -/

/-- The handlers that set-ups attached. -/
def ours (book : Logbook) : List Handler := book.handlers.filter (·.managed)

/-- The handlers that others attached. -/
def others (book : Logbook) : List Handler := book.handlers.filter (!·.managed)

section

variable (book : Logbook)

@[simp] theorem ours_detach : book.detach.ours = [] := by
  simp [ours, detach, List.filter_filter]

@[simp] theorem others_detach : book.detach.others = book.others := by
  simp [others, detach, List.filter_filter]

@[simp] theorem closed_detach : book.detach.closed = book.closed ++ book.ours.map (·.id) := rfl

@[simp] theorem made_detach : book.detach.made = book.made := rfl

@[simp] theorem closed_attach (sink : Sink) : (book.attach sink).closed = book.closed := rfl

@[simp] theorem made_attach (sink : Sink) : (book.attach sink).made = book.made + 1 := rfl

variable (sink : Sink) (h : sink ≠ .foreign)

include h

theorem ours_attach : (book.attach sink).ours = book.ours ++ [⟨book.made, sink⟩] := by
  simp [ours, attach, List.filter_append, Handler.managed, h]

theorem others_attach : (book.attach sink).others = book.others := by
  simp [others, attach, List.filter_append, Handler.managed, h]

end

/-! ## What a set-up can do -/

/-- The log when the level is set and a console handler is in the place of earlier ones. -/
def restarted (book : Logbook) (level : Int) : Logbook :=
  ({ book with level }.detach).attach .console

section

variable (book : Logbook) (level : Int)

@[simp] theorem ours_restarted : (book.restarted level).ours = [⟨book.made, .console⟩] := by
  rw [restarted, ours_attach _ .console nofun, ours_detach]
  rfl

@[simp] theorem others_restarted : (book.restarted level).others = book.others := by
  rw [restarted, others_attach _ .console nofun, others_detach]
  rfl

@[simp] theorem closed_restarted :
    (book.restarted level).closed = book.closed ++ book.ours.map (·.id) := rfl

@[simp] theorem made_restarted : (book.restarted level).made = book.made + 1 := rfl

theorem ours_opened (path : String) (limit : Int) :
    ((book.restarted level).attach (.file path limit)).ours =
      [⟨book.made, .console⟩, ⟨book.made + 1, .file path limit⟩] := by
  rw [ours_attach _ (.file path limit) nofun, ours_restarted, made_restarted]
  rfl

theorem others_opened (path : String) (limit : Int) :
    ((book.restarted level).attach (.file path limit)).others = book.others := by
  rw [others_attach _ (.file path limit) nofun, others_restarted]

end

/-- All that a set-up can come to. -/
inductive SetUp (book : Logbook) (tree : Tree) (now : Instant) (plan : Plan) :
    Except Fault Unit × Logbook × Tree → Prop where
  | refused {fault : Fault} (h_level : levelOf plan.levelName = .error fault) :
      SetUp book tree now plan (.error fault, book, tree)
  | console {level : Int} (h_level : levelOf plan.levelName = .ok level)
      (h_dir : plan.dir = none) :
      SetUp book tree now plan (.ok (), book.restarted level, tree)
  | failed {level : Int} {dir : String} {fault : Fault} {after : Tree}
      (h_level : levelOf plan.levelName = .ok level) (h_dir : plan.dir = some dir)
      (h_open : openFile tree now plan dir = (.error fault, after)) :
      SetUp book tree now plan (.error fault, book.restarted level, after)
  | opened {level : Int} {dir path : String} {limit : Int} {after : Tree}
      (h_level : levelOf plan.levelName = .ok level) (h_dir : plan.dir = some dir)
      (h_open : openFile tree now plan dir = (.ok (path, limit), after)) :
      SetUp book tree now plan
        (.ok (), (book.restarted level).attach (.file path limit), after)

theorem setUp_cases (book : Logbook) (tree : Tree) (now : Instant) (plan : Plan) :
    SetUp book tree now plan (book.setUp tree now plan) := by
  unfold setUp
  cases h_level : levelOf plan.levelName with
  | error fault => exact .refused h_level
  | ok level =>
    cases h_dir : plan.dir with
    | none => exact .console h_level h_dir
    | some dir =>
      dsimp only
      cases h_open : openFile tree now plan dir with
      | mk outcome after =>
        cases outcome with
        | error fault => exact .failed h_level h_dir h_open
        | ok opened => exact .opened h_level h_dir h_open

/-- The log file that is opened is that of the day, put aside at the size that was planned. -/
theorem openFile_ok {tree after : Tree} {now : Instant} {plan : Plan} {dir path : String}
    {limit : Int} (h : openFile tree now plan dir = (.ok (path, limit), after)) :
    path = fileOf tree dir now ∧ bytesOf plan.maxSize = .ok limit := by
  unfold openFile at h
  cases h_made : tree.makeDirectories (.read dir) with
  | error fault => simp [h_made] at h
  | ok made =>
    rcases h_clean : cleanUp made now dir plan.retention with ⟨_ | _, cleaned⟩
    · simp [h_made, h_clean] at h
    · cases h_size : bytesOf plan.maxSize with
      | error fault => simp [h_made, h_clean, h_size] at h
      | ok size =>
        cases h_file : cleaned.ensureFile (fileOf tree dir now) with
        | error fault => simp [h_made, h_clean, h_size, h_file] at h
        | ok opened =>
          simp only [h_made, h_clean, h_size, h_file, Prod.mk.injEq, Except.ok.injEq] at h
          obtain ⟨⟨rfl, rfl⟩, -⟩ := h
          exact ⟨rfl, rfl⟩

/-! ## Set-ups in a row -/

/-- One call of a set-up: how the files are by then, the moment, and the plan. -/
structure Call where
  tree : Tree
  now : Instant
  plan : Plan

/-- What is done on a call. -/
def Call.perform (call : Call) (book : Logbook) : Except Fault Unit × Logbook × Tree :=
  book.setUp call.tree call.now call.plan

/-- A log after some calls, whatever they came to. -/
def afterCalls (book : Logbook) (calls : List Call) : Logbook :=
  calls.foldl (fun book call => (call.perform book).2.1) book

/-- Whether a log holds the handlers of one call and no others of ours: a console handler, and
behind it one for the log file of the day if there is to be one. -/
def Holds (book : Logbook) (first : Nat) (call : Call) : Prop :=
  match call.plan.dir with
  | none => book.ours = [⟨first, .console⟩]
  | some dir => ∃ limit, bytesOf call.plan.maxSize = .ok limit ∧
      book.ours = [⟨first, .console⟩, ⟨first + 1, .file (fileOf call.tree dir call.now) limit⟩]

/-- Whether a log is as it was found, but for the handlers that set-ups made: these are numbered
from `start` on, at most one is attached for the console and at most one for a file, and the rest
is closed.  The handlers of others are attached as they were, and not closed. -/
structure Orderly (start : Nat) (found : List Handler) (book : Logbook) : Prop where
  consoles : book.ours.countP (·.sink = .console) ≤ 1
  files : book.ours.countP (·.sink ≠ .console) ≤ 1
  numbered : ∀ h ∈ book.ours, start ≤ h.id
  accounted : ∀ id, start ≤ id → id < book.made → (∃ h ∈ book.ours, h.id = id) ∨ id ∈ book.closed
  others : book.others = found
  spared : ∀ h ∈ found, h.id < start ∧ h.id ∉ book.closed

namespace Orderly

variable {start : Nat} {found : List Handler} {book : Logbook} (h : Orderly start found book)

include h

/-- The handlers that are closed by a restart are ours. -/
theorem spared_restarted (level : Int) :
    ∀ other ∈ found, other.id < start ∧ other.id ∉ (book.restarted level).closed := by
  intro other h_other
  obtain ⟨h_less, h_open⟩ := h.spared other h_other
  refine ⟨h_less, ?_⟩
  intro h_closed
  rw [closed_restarted, List.mem_append] at h_closed
  rcases h_closed with h_before | h_now
  · exact h_open h_before
  · obtain ⟨mine, h_mine, h_id⟩ := List.mem_map.mp h_now
    have h_start := h.numbered mine h_mine
    omega

/-- What is no longer attached after a restart is closed. -/
theorem accounted_restarted (level : Int) {id : Nat} (h_start : start ≤ id)
    (h_made : id < (book.restarted level).made) :
    id = book.made ∨ id ∈ (book.restarted level).closed := by
  rw [made_restarted] at h_made
  rw [closed_restarted, List.mem_append]
  by_cases h_last : id = book.made
  · exact .inl h_last
  · have h_before : id < book.made := by omega
    rcases h.accounted id h_start h_before with ⟨mine, h_mine, h_id⟩ | h_closed
    · exact .inr (.inr (List.mem_map.mpr ⟨mine, h_mine, h_id⟩))
    · exact .inr (.inl h_closed)

theorem restarted (h_made : start ≤ book.made) (level : Int) :
    Orderly start found (book.restarted level) where
  consoles := by simp
  files := by simp
  numbered := by simpa using h_made
  accounted id h_start h_id := by
    refine (h.accounted_restarted level h_start h_id).imp_left ?_
    rintro rfl
    simp
  others := (others_restarted book level).trans h.others
  spared := h.spared_restarted level

theorem opened (h_made : start ≤ book.made) (level : Int) (path : String) (limit : Int) :
    Orderly start found ((book.restarted level).attach (.file path limit)) := by
  have h_ours := ours_opened book level path limit
  refine ⟨?_, ?_, ?_, ?_, ?_, h.spared_restarted level⟩
  · simp [h_ours]
  · simp [h_ours]
  · intro mine h_mine
    rw [h_ours] at h_mine
    rcases List.mem_cons.mp h_mine with rfl | h_mine
    · exact h_made
    · rw [List.mem_singleton.mp h_mine]
      exact Nat.le_succ_of_le h_made
  · intro id h_start h_id
    rw [made_attach] at h_id
    by_cases h_last : id = book.made + 1
    · refine .inl ⟨⟨book.made + 1, .file path limit⟩, ?_, h_last.symm⟩
      rw [h_ours]
      exact List.mem_cons_of_mem _ List.mem_cons_self
    · have h_before : id < (book.restarted level).made := by
        rw [made_restarted] at h_id ⊢
        omega
      refine (h.accounted_restarted level h_start h_before).imp_left ?_
      rintro rfl
      refine ⟨⟨book.made, .console⟩, ?_, rfl⟩
      rw [h_ours]
      exact List.mem_cons_self
  · exact (others_opened book level path limit).trans h.others

/-- No set-up, whatever it comes to, leaves anything in disorder. -/
theorem perform (h_made : start ≤ book.made) (call : Call) :
    Orderly start found (call.perform book).2.1 ∧ start ≤ (call.perform book).2.1.made := by
  have h_cases := setUp_cases book call.tree call.now call.plan
  unfold Call.perform
  generalize book.setUp call.tree call.now call.plan = result at h_cases
  cases h_cases with
  | refused => exact ⟨h, h_made⟩
  | console => exact ⟨h.restarted h_made _, Nat.le_succ_of_le h_made⟩
  | failed => exact ⟨h.restarted h_made _, Nat.le_succ_of_le h_made⟩
  | opened =>
    refine ⟨h.opened h_made _ _ _, ?_⟩
    rw [made_attach, made_restarted]
    omega

theorem afterCalls (h_made : start ≤ book.made) (calls : List Call) :
    Orderly start found (book.afterCalls calls) ∧ start ≤ (book.afterCalls calls).made := by
  induction calls generalizing book with
  | nil => exact ⟨h, h_made⟩
  | cons call rest ih =>
    obtain ⟨h_next, h_made_next⟩ := h.perform h_made call
    exact ih h_next h_made_next

end Orderly

/-- A set-up that returns leaves its own handlers. -/
theorem holds_of_perform {book : Logbook} {call : Call} (h : (call.perform book).1 = .ok ()) :
    (call.perform book).2.1.Holds book.made call := by
  have h_cases := setUp_cases book call.tree call.now call.plan
  unfold Call.perform at h ⊢
  generalize book.setUp call.tree call.now call.plan = result at h h_cases
  cases h_cases with
  | refused => cases h
  | console _ h_dir =>
    unfold Holds
    rw [h_dir]
    exact ours_restarted ..
  | failed => cases h
  | opened _ h_dir h_open =>
    obtain ⟨rfl, h_size⟩ := openFile_ok h_open
    unfold Holds
    rw [h_dir]
    exact ⟨_, h_size, ours_opened ..⟩

/-- A log with no handlers but such as others attached, all of them open. -/
structure Untouched (book : Logbook) : Prop where
  foreign : ∀ h ∈ book.handlers, h.managed = false
  numbered : ∀ h ∈ book.handlers, h.id < book.made
  opened : ∀ h ∈ book.handlers, h.id ∉ book.closed

theorem Untouched.orderly {book : Logbook} (h : book.Untouched) :
    Orderly book.made book.handlers book := by
  have h_ours : book.ours = [] := List.filter_eq_nil_iff.mpr fun other h_other => by
    rw [h.foreign other h_other]
    exact Bool.false_ne_true
  have h_others : book.others = book.handlers := List.filter_eq_self.mpr fun other h_other => by
    rw [h.foreign other h_other]
    rfl
  refine ⟨?_, ?_, ?_, ?_, h_others, fun other h_other =>
    ⟨h.numbered other h_other, h.opened other h_other⟩⟩
  · simp [h_ours]
  · simp [h_ours]
  · simp [h_ours]
  · intro id h_start h_id
    omega

/-- Any set-ups in a row, some of which may fail, on a log to which others have attached handlers.
One that returns leaves the console handler and the file handler of its own plan attached and no
others of ours.  After each, returned or failed, at most one handler of either sort is attached,
every one that was made and is not attached is closed, and the handlers of others are attached in
their order and were never closed. -/
theorem setUps_orderly {book : Logbook} (h : book.Untouched) (calls : List Call) (call : Call) :
    let before := book.afterCalls calls
    let after := (call.perform before).2.1
    ((call.perform before).1 = .ok () → after.Holds before.made call) ∧
    after.ours.countP (·.sink = .console) ≤ 1 ∧
    after.ours.countP (·.sink ≠ .console) ≤ 1 ∧
    (∀ id, book.made ≤ id → id < after.made →
      (∃ mine ∈ after.ours, mine.id = id) ∨ id ∈ after.closed) ∧
    after.others = book.handlers ∧
    ∀ other ∈ book.handlers, other.id ∉ after.closed := by
  intro before after
  obtain ⟨h_before, h_made⟩ := h.orderly.afterCalls (Nat.le_refl _) calls
  obtain ⟨h_after, -⟩ := h_before.perform h_made call
  exact ⟨holds_of_perform, h_after.consoles, h_after.files, h_after.accounted, h_after.others,
    fun other h_other => (h_after.spared other h_other).2⟩

/-- Two set-ups fail, one with its console handler attached and one before that; the next has its
own handler attached beside that of others, and the two that were made before are closed. -/
theorem interrupted_orderly :
    let book : Logbook := { handlers := [⟨0, .foreign⟩], made := 1 }
    let plan (levelName : String) (dir : Option String) : Call :=
      ⟨{}, ⟨2024, 5, 6, 7, 8, 9, 0⟩, ⟨levelName, dir, .ofInt 10, 7⟩⟩
    let before := book.afterCalls
      [plan "INFO" none, plan "INFO" (some "a\x00b"), plan "BASIC_FORMAT" none]
    let after := ((plan "DEBUG" none).perform before).2.1
    before.ours = [⟨2, .console⟩] ∧ after.ours = [⟨3, .console⟩] ∧ after.closed = [1, 2] ∧
      after.others = book.handlers ∧ ∀ other ∈ book.handlers, other.id ∉ after.closed := by
  intro book plan before after
  have h_untouched : book.Untouched := by
    constructor <;> exact List.forall_mem_singleton.mpr (by decide)
  obtain ⟨h_holds, -, -, -, h_others, h_open⟩ :=
    setUps_orderly h_untouched
      [plan "INFO" none, plan "INFO" (some "a\x00b"), plan "BASIC_FORMAT" none] (plan "DEBUG" none)
  have h_made : before.made = 3 := by decide +kernel
  have h_return : ((plan "DEBUG" none).perform before).1 = .ok () :=
    ok_of_toOption (by decide +kernel)
  have h_ours : after.ours = [⟨before.made, .console⟩] := h_holds h_return
  refine ⟨by decide +kernel, ?_, by decide +kernel, h_others, h_open⟩
  rw [h_ours, h_made]

end ImageIntake.Log.Logbook
