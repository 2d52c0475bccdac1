/-
  ImageIntake.Proofs.Metrics.Reporting

  Reporters that share a registry.  Whatever the order in which reporters are made and
  lines are reported, a reporter holds the greatest percentage that went through it, and
  the sample of an owner is what its reporters hold together (`Desk.Tells.act`, hence
  `Desk.Tells.run`): each advances the counter from zero on, whatever another has
  advanced it to.  So a sample is the greatest percentage of its owner only as long as a
  single reporter of that owner is past zero (`run_sample`).  Amounts are exact hundredths.
-/

import Mathlib.Algebra.Ring.Nat
import Mathlib.Data.List.Basic
import ImageIntake.Metrics.Progress
import ImageIntake.Proofs.Metrics.Percentage

namespace ImageIntake.Metrics

/-! ## Reporters of one registry -/

/-- One thing that happens at a registry: a reporter is made, or a line is reported by one of those
made so far. -/
inductive Move where
  | make (owner : String)
  | report (reporter : Nat) (line : String)

/-- A registry with the reporters made at it, in order. -/
structure Desk (α : Type) where
  registry : Registry α
  reporters : List (Reporter α) := []

namespace Desk

variable {α : Type} [Amount α]

def act (d : Desk α) : Move → Desk α
  | .make owner =>
    match Reporter.make owner d.registry with
    | (.ok p, registry) => ⟨registry, d.reporters ++ [p]⟩
    | (.error _, registry) => { d with registry }
  | .report i line =>
    match d.reporters[i]? with
    | some p =>
      let (_, p, registry) := p.report line d.registry
      ⟨registry, d.reporters.set i p⟩
    | none => d

def run (d : Desk α) (moves : List Move) : Desk α := moves.foldl act d

end Desk

/-- The sample of an owner. -/
def ownerSample? {α : Type} (r : Registry α) (owner : String) : Option α :=
  (progressSamples r).lookup [("ownerUID", owner)]

/-! ## What was reported -/

/-- The account of a reporter: its owner, and the percentages reported through it, in order. -/
structure Account where
  owner : String
  reports : List Nat := []

namespace Account

/-- The account of a new reporter. -/
def blank (owner : String) : Account := { owner }

/-- The greatest percentage that was reported. -/
def greatest (a : Account) : Nat := a.reports.foldl max 0

def note (line : String) (a : Account) : Account :=
  { a with reports := a.reports ++ (percent? line).toList }

end Account

def noteMove (accounts : List Account) : Move → List Account
  | .make owner => accounts ++ [.blank owner]
  | .report i line => accounts.modify i (·.note line)

/-- The accounts of the reporters that moves make. -/
def accountsOf (moves : List Move) : List Account := moves.foldl noteMove []

/-- The greatest percentages that the reporters of an owner have come to. -/
def reachedBy (owner : String) (accounts : List Account) : List Nat :=
  (accounts.filter (·.owner = owner)).map (·.greatest)

namespace Account

theorem note_of_none {a : Account} {line : String} (h : percent? line = none) :
    a.note line = a := by
  unfold note
  rw [h, Option.toList_none, List.append_nil]

theorem greatest_note_of_some {a : Account} {line : String} {n : Nat} (h : percent? line = some n) :
    (a.note line).greatest = max a.greatest n := by
  unfold note greatest
  rw [h, Option.toList_some, List.foldl_append, List.foldl_cons, List.foldl_nil]

theorem greatest_le_note (a : Account) (line : String) :
    a.greatest ≤ (a.note line).greatest := by
  cases h_percent : percent? line with
  | none => exact Nat.le_of_eq (congrArg greatest (note_of_none h_percent).symm)
  | some n =>
    rw [greatest_note_of_some h_percent]
    exact Nat.le_max_left a.greatest n

end Account

/-! ## What an owner has come to -/

theorem sum_reachedBy_cons (owner : String) (a : Account) (accounts : List Account) :
    (reachedBy owner (a :: accounts)).sum =
      (if a.owner = owner then a.greatest else 0) + (reachedBy owner accounts).sum := by
  unfold reachedBy
  rw [List.filter_cons]
  by_cases h_owner : a.owner = owner
  · rw [if_pos h_owner, if_pos (decide_eq_true h_owner), List.map_cons, List.sum_cons]
  · rw [if_neg h_owner, if_neg (by simpa using h_owner), Nat.zero_add]

/-- A new reporter adds nothing. -/
theorem sum_reachedBy_make (owner other : String) (accounts : List Account) :
    (reachedBy owner (accounts ++ [.blank other])).sum = (reachedBy owner accounts).sum := by
  induction accounts with
  | nil =>
    rw [List.nil_append, sum_reachedBy_cons]
    exact Nat.add_eq_right.mpr (ite_self 0)
  | cons a rest ih => rw [List.cons_append, sum_reachedBy_cons, sum_reachedBy_cons, ih]

/-- A reporter that comes further takes its owner on by as much, and no other owner. -/
theorem sum_reachedBy_note {accounts : List Account} {i : Nat} {a : Account} (owner line : String)
    (h : accounts[i]? = some a) :
    (reachedBy owner (accounts.modify i (·.note line))).sum =
      if a.owner = owner then (reachedBy owner accounts).sum + ((a.note line).greatest - a.greatest)
      else (reachedBy owner accounts).sum := by
  induction accounts generalizing i with
  | nil => cases h
  | cons first rest ih =>
    cases i with
    | zero =>
      obtain rfl : first = a := Option.some.inj h
      have h_further := first.greatest_le_note line
      rw [List.modify_zero_cons, sum_reachedBy_cons, sum_reachedBy_cons]
      by_cases h_owner : first.owner = owner
      · have h_noted : (first.note line).owner = owner := h_owner
        rw [if_pos h_owner, if_pos h_owner, if_pos h_noted]
        omega
      · have h_noted : (first.note line).owner ≠ owner := h_owner
        rw [if_neg h_owner, if_neg h_owner, if_neg h_noted]
    | succ i =>
      rw [List.modify_succ_cons, sum_reachedBy_cons, sum_reachedBy_cons, ih h]
      by_cases h_owner : a.owner = owner
      · rw [if_pos h_owner, if_pos h_owner, Nat.add_assoc]
      · rw [if_neg h_owner, if_neg h_owner]

/-! ## The counter -/

/-- The progress counter with the samples of its owners. -/
def counterOf (shown : List (String × Nat)) : Collector Nat where
  kind := .counter
  name := progressName
  labels := ["ownerUID"]
  samples := shown.map fun s => ([s.1], s.2)

theorem lookup_map_key {α β γ : Type} [BEq α] [LawfulBEq α] [BEq β] [LawfulBEq β] (key : α → β)
    (h_key : ∀ a b, key a = key b → a = b) (entries : List (α × γ)) (a : α) :
    (entries.map fun entry => (key entry.1, entry.2)).lookup (key a) = entries.lookup a := by
  induction entries with
  | nil => rfl
  | cons entry rest ih =>
    rw [List.map_cons, List.lookup_cons, List.lookup_cons, ih]
    by_cases h_same : a = entry.1
    · rw [h_same, beq_self_eq_true, beq_self_eq_true]
    · have h_keys : (key a == key entry.1) = false :=
        beq_eq_false_iff_ne.mpr fun h_eq => h_same (h_key _ _ h_eq)
      rw [h_keys, beq_eq_false_iff_ne.mpr h_same]

theorem ownerSample?_counterOf (shown : List (String × Nat)) (owner : String) :
    ownerSample? ⟨[counterOf shown]⟩ owner = shown.lookup owner := by
  have h_samples : progressSamples ⟨[counterOf shown]⟩ =
      shown.map fun s => ([("ownerUID", s.1)], s.2) := by
    show (if (counterOf shown).sampleName = progressName ++ "_total" then _ else _) ++ [] = _
    have h_name : (counterOf shown).sampleName = progressName ++ "_total" := rfl
    rw [List.append_nil, if_pos h_name]
    unfold counterOf
    rw [List.map_map]
    rfl
  unfold ownerSample?
  rw [h_samples]
  exact lookup_map_key (fun owner => [("ownerUID", owner)]) (by simp) shown owner

theorem lookup_map_add {κ : Type} [BEq κ] [LawfulBEq κ] [DecidableEq κ] (shown : List (κ × Nat))
    (owner other : κ) (amount : Nat) :
    (shown.map fun s => if s.1 = owner then (s.1, s.2 + amount) else s).lookup other =
      if other = owner then (shown.lookup owner).map (· + amount) else shown.lookup other := by
  induction shown with
  | nil => exact (ite_self none).symm
  | cons first rest ih =>
    rw [List.map_cons, List.lookup_cons, List.lookup_cons, List.lookup_cons, ih]
    by_cases h_first : first.1 = owner
    · rw [if_pos h_first, h_first, beq_self_eq_true]
      by_cases h_same : other = owner
      · rw [if_pos h_same, if_pos h_same, h_same, beq_self_eq_true]
        rfl
      · rw [if_neg h_same, if_neg h_same, beq_eq_false_iff_ne.mpr h_same]
    · rw [if_neg h_first]
      by_cases h_same : other = owner
      · have h_other : owner ≠ first.1 := fun h_eq => h_first h_eq.symm
        rw [if_pos h_same, if_pos h_same, h_same, beq_eq_false_iff_ne.mpr h_other]
      · rw [if_neg h_same, if_neg h_same]

/-- Increasing the sample of an owner leaves those of others as they are. -/
theorem increase_counterOf (shown : List (String × Nat)) (owner : String) (amount : Nat) :
    ∃ shown', (counterOf shown).increase [owner] amount = counterOf shown' ∧
      ∀ other, shown'.lookup other =
        if other = owner then some ((shown.lookup owner).getD 0 + amount)
        else shown.lookup other := by
  have h_samples : (counterOf shown).samples.lookup [owner] = shown.lookup owner :=
    lookup_map_key (fun owner => [owner]) (by simp) shown owner
  unfold Collector.increase
  rw [h_samples]
  cases h_lookup : shown.lookup owner with
  | none =>
    refine ⟨shown ++ [(owner, 0 + amount)], ?_, fun other => ?_⟩
    · unfold counterOf
      rw [List.map_append]
      rfl
    · rw [List.lookup_append, List.lookup_cons, List.lookup_nil, Option.getD_none]
      by_cases h_same : other = owner
      · rw [if_pos h_same, h_same, h_lookup, beq_self_eq_true]
        rfl
      · rw [if_neg h_same, beq_eq_false_iff_ne.mpr h_same]
        exact Option.or_none
  | some value =>
    refine ⟨shown.map fun s => if s.1 = owner then (s.1, s.2 + amount) else s, ?_, fun other => ?_⟩
    · unfold counterOf
      dsimp only
      rw [List.map_map, List.map_map]
      congr 1
      refine List.map_congr_left fun s _ => ?_
      by_cases h_owner : s.1 = owner <;> simp [h_owner, Amount.add]
    · rw [lookup_map_add, h_lookup]
      rfl

/-! ## What reporters and samples tell -/

/-- The reporter of an account; without an owner it never comes to anything. -/
def Account.reporter (a : Account) : Reporter Nat where
  owner := a.owner
  counter := 0
  current := if a.owner = "" then 0 else a.greatest

/-- The sample that accounts come to for an owner: there is one as soon as a reporter of the owner
is past zero. -/
def due (owner : String) (accounts : List Account) : Option Nat :=
  if owner = "" ∨ (reachedBy owner accounts).sum = 0 then none
  else some (reachedBy owner accounts).sum

theorem getD_due {owner : String} (h_owner : owner ≠ "") (accounts : List Account) :
    (due owner accounts).getD 0 = (reachedBy owner accounts).sum := by
  unfold due
  split
  next h =>
    rcases h with h | h
    · exact absurd h h_owner
    · exact h.symm
  · rfl

theorem due_of_sum {owner : String} {accounts accounts' : List Account}
    (h : (reachedBy owner accounts).sum = (reachedBy owner accounts').sum) :
    due owner accounts = due owner accounts' := by
  unfold due
  rw [h]

theorem reporter_blank (owner : String) : (Account.blank owner).reporter = ⟨owner, 0, 0⟩ := by
  unfold Account.reporter
  exact congrArg (Reporter.mk owner 0) (ite_self 0)

theorem make_first (owner : String) :
    Reporter.make owner ({} : Registry Nat) =
      (.ok (Account.blank owner).reporter, ⟨[counterOf []]⟩) := by
  rw [reporter_blank]
  rfl

theorem make_shared (owner : String) (shown : List (String × Nat)) :
    Reporter.make owner ⟨[counterOf shown]⟩ =
      (.ok (Account.blank owner).reporter, ⟨[counterOf shown]⟩) := by
  rw [reporter_blank]
  rfl

/-- A line that takes a reporter no further, or a reporter without an owner, changes nothing. -/
theorem report_idle {a : Account} {line : String}
    (h : a.owner = "" ∨ (a.note line).greatest = a.greatest) (registry : Registry Nat) :
    a.reporter.report line registry = (.ok false, a.reporter, registry) := by
  unfold Reporter.report
  cases h_percent : percent? line with
  | none => rfl
  | some n =>
    have h_idle : a.reporter.owner = "" ∨
        Amount.atMost (Amount.ofHundredths n) a.reporter.current = true := by
      rcases h with h_owner | h_greatest
      · exact .inl h_owner
      · rw [Account.greatest_note_of_some h_percent] at h_greatest
        by_cases h_owner : a.owner = ""
        · exact .inl h_owner
        · have h_atMost : n ≤ a.greatest := by omega
          right
          unfold Account.reporter
          rw [if_neg h_owner]
          exact decide_eq_true h_atMost
    exact if_pos h_idle

/-- A line that takes a reporter further advances the counter by as much. -/
theorem report_further {a : Account} {line : String} (h_owner : a.owner ≠ "")
    (h_further : a.greatest < (a.note line).greatest) (shown : List (String × Nat)) :
    a.reporter.report line ⟨[counterOf shown]⟩ =
      (.ok true, (a.note line).reporter, ⟨[(counterOf shown).increase [a.owner]
        ((a.note line).greatest - a.greatest)]⟩) := by
  cases h_percent : percent? line with
  | none =>
    rw [Account.note_of_none h_percent] at h_further
    exact absurd h_further (Nat.lt_irrefl _)
  | some n =>
    have h_greatest := Account.greatest_note_of_some (a := a) h_percent
    have h_new : (a.note line).greatest = n := by omega
    have h_held : a.reporter.current = a.greatest := if_neg h_owner
    have h_noted : (a.note line).reporter = { a.reporter with current := n } := by
      unfold Account.reporter
      exact congrArg (Reporter.mk a.owner 0) ((if_neg h_owner).trans h_new)
    have h_moves : ¬(a.reporter.owner = "" ∨
        Amount.atMost (Amount.ofHundredths n) a.reporter.current = true) := by
      rw [h_held]
      rintro (h_empty | h_atMost)
      · exact h_owner h_empty
      · have h_le : n ≤ a.greatest := of_decide_eq_true h_atMost
        omega
    unfold Reporter.report
    rw [h_percent]
    dsimp only
    rw [if_neg h_moves, h_held, h_noted, h_new]
    rfl

theorem modify_eq_set {accounts : List Account} {i : Nat} {a : Account} (h : accounts[i]? = some a)
    (change : Account → Account) : accounts.modify i change = accounts.set i (change a) := by
  rw [List.modify_eq_set_getElem?, h]
  rfl

/-- A report takes the reporter to its greatest percentage, and the sample of its owner further by
as much. -/
theorem report_tells {accounts : List Account} {i : Nat} {a : Account} {shown : List (String × Nat)}
    (h_account : accounts[i]? = some a) (h_shown : ∀ owner, shown.lookup owner = due owner accounts)
    (line : String) :
    ∃ advanced shown',
      a.reporter.report line ⟨[counterOf shown]⟩ =
        (.ok advanced, (a.note line).reporter, ⟨[counterOf shown']⟩) ∧
      ∀ owner, shown'.lookup owner = due owner (accounts.modify i (·.note line)) := by
  have h_sum (owner : String) := sum_reachedBy_note owner line h_account
  by_cases h_idle : a.owner = "" ∨ (a.note line).greatest = a.greatest
  · -- Nothing is to be told: the owner is nameless, or the line tells of nothing greater.
    have h_same : (a.note line).reporter = a.reporter := by
      unfold Account.reporter
      rcases h_idle with h_owner | h_greatest
      · have h_noted : (a.note line).owner = "" := h_owner
        rw [if_pos h_owner, if_pos h_noted]
        rfl
      · rw [h_greatest]
        rfl
    refine ⟨false, shown, ?_, fun owner => ?_⟩
    · rw [report_idle h_idle, h_same]
    · rw [h_shown]
      rcases h_idle with h_owner | h_greatest
      · by_cases h_empty : owner = ""
        · rw [due, due, if_pos (.inl h_empty), if_pos (.inl h_empty)]
        · have h_other : a.owner ≠ owner := fun h_eq => h_empty (h_eq.symm.trans h_owner)
          exact due_of_sum ((h_sum owner).trans (if_neg h_other)).symm
      · have h_sum := h_sum owner
        rw [h_greatest, Nat.sub_self, Nat.add_zero, ite_self] at h_sum
        exact due_of_sum h_sum.symm
  · obtain ⟨h_owner, h_changed⟩ := not_or.mp h_idle
    -- The difference goes to the sample of the owner, and to no other.
    have h_further : a.greatest < (a.note line).greatest :=
      Nat.lt_of_le_of_ne (a.greatest_le_note line) (Ne.symm h_changed)
    obtain ⟨shown', h_increase, h_lookup⟩ :=
      increase_counterOf shown a.owner ((a.note line).greatest - a.greatest)
    refine ⟨true, shown', ?_, fun owner => ?_⟩
    · rw [report_further h_owner h_further, h_increase]
    · rw [h_lookup]
      by_cases h_same : owner = a.owner
      · have h_sum := h_sum a.owner
        rw [if_pos rfl] at h_sum
        have h_due : due a.owner (accounts.modify i (·.note line)) =
            some (reachedBy a.owner (accounts.modify i (·.note line))).sum := by
          refine if_neg (not_or.mpr ⟨h_owner, ?_⟩)
          omega
        rw [if_pos h_same, h_same, h_shown, getD_due h_owner, h_due, h_sum]
      · rw [if_neg h_same, h_shown]
        exact due_of_sum ((h_sum owner).trans (if_neg (Ne.symm h_same))).symm

/-- A desk whose reporters and samples tell what was reported: nothing is registered before the
first reporter, and then the one counter is. -/
structure Desk.Tells (d : Desk Nat) (accounts : List Account) : Prop where
  reporters : d.reporters = accounts.map (·.reporter)
  registry : (d.registry = {} ∧ accounts = []) ∨
    ∃ shown, d.registry = ⟨[counterOf shown]⟩ ∧ ∀ owner, shown.lookup owner = due owner accounts

namespace Desk.Tells

variable {d : Desk Nat} {accounts : List Account}

theorem act (h : d.Tells accounts) (move : Move) : (d.act move).Tells (noteMove accounts move) := by
  obtain ⟨registry, reporters⟩ := d
  obtain ⟨h_reporters, h_registry⟩ := h
  obtain rfl : reporters = _ := h_reporters
  cases move with
  | make owner =>
    have h_more : accounts.map (·.reporter) ++ [(Account.blank owner).reporter] =
        (accounts ++ [Account.blank owner]).map (·.reporter) := by
      rw [List.map_append]
      rfl
    rcases h_registry with ⟨rfl, rfl⟩ | ⟨shown, rfl, h_shown⟩
    all_goals rw [Desk.act]
    · rw [make_first]
      refine ⟨h_more, .inr ⟨[], rfl, fun other => ?_⟩⟩
      have h_none := due_of_sum (sum_reachedBy_make other owner [])
      exact (h_none.trans (if_pos (.inr rfl))).symm
    · rw [make_shared]
      refine ⟨h_more, .inr ⟨shown, rfl, fun other => ?_⟩⟩
      exact (h_shown other).trans (due_of_sum (sum_reachedBy_make other owner accounts)).symm
  | report i line =>
    rw [Desk.act]
    dsimp only
    rw [List.getElem?_map]
    cases h_account : accounts[i]? with
    | none =>
      have h_same : noteMove accounts (.report i line) = accounts :=
        List.modify_eq_self (List.getElem?_eq_none_iff.mp h_account)
      rw [h_same]
      exact ⟨rfl, h_registry⟩
    | some a =>
      rcases h_registry with ⟨-, rfl⟩ | ⟨shown, rfl, h_shown⟩
      · cases h_account
      obtain ⟨advanced, shown', h_report, h_shown'⟩ := report_tells h_account h_shown line
      rw [Option.map_some]
      dsimp only
      rw [h_report]
      refine ⟨?_, .inr ⟨shown', rfl, h_shown'⟩⟩
      rw [noteMove, modify_eq_set h_account, List.map_set]

theorem run (h : d.Tells accounts) (moves : List Move) :
    (d.run moves).Tells (moves.foldl noteMove accounts) := by
  induction moves generalizing d accounts with
  | nil => exact h
  | cons move rest ih => exact ih (h.act move)

end Desk.Tells

theorem accountsOf_le (moves : List Move) : ∀ a ∈ accountsOf moves, a.greatest ≤ 10000 := by
  suffices h_all : ∀ accounts : List Account, (∀ a ∈ accounts, a.greatest ≤ 10000) →
      ∀ a ∈ moves.foldl noteMove accounts, a.greatest ≤ 10000 by
    exact h_all [] (fun _ h_mem => nomatch h_mem)
  induction moves with
  | nil => exact fun _ h => h
  | cons move rest ih =>
    intro accounts h_accounts
    apply ih
    intro a h_mem
    cases move with
    | make owner =>
      rcases List.mem_append.mp h_mem with h_mem | h_mem
      · exact h_accounts a h_mem
      · rw [List.mem_singleton.mp h_mem]
        exact Nat.zero_le _
    | report i line =>
      rw [noteMove] at h_mem
      cases h_account : accounts[i]? with
      | none =>
        rw [List.modify_eq_self (List.getElem?_eq_none_iff.mp h_account)] at h_mem
        exact h_accounts a h_mem
      | some noted =>
        rw [modify_eq_set h_account] at h_mem
        rcases List.mem_or_eq_of_mem_set h_mem with h_mem | rfl
        · exact h_accounts a h_mem
        · have h_before := h_accounts noted (List.mem_of_getElem? h_account)
          cases h_percent : percent? line with
          | none => rwa [Account.note_of_none h_percent]
          | some n =>
            rw [Account.greatest_note_of_some h_percent]
            exact Nat.max_le.mpr ⟨h_before, percent?_le h_percent⟩

/-! ## Samples and greatest percentages -/

theorem greatest_le_sum (ns : List Nat) : ns.foldr max 0 ≤ ns.sum := by
  induction ns with
  | nil => exact Nat.le_refl 0
  | cons n rest ih =>
    rw [List.foldr_cons, List.sum_cons]
    omega

/-- Numbers add up to the greatest of them exactly if at most one of them is past zero. -/
theorem sum_eq_greatest_iff (ns : List Nat) :
    ns.sum = ns.foldr max 0 ↔ (ns.filter (0 < ·)).length ≤ 1 := by
  induction ns with
  | nil => exact ⟨fun _ => Nat.zero_le 1, fun _ => rfl⟩
  | cons n rest ih =>
    rw [List.sum_cons, List.foldr_cons]
    by_cases h_zero : n = 0
    · have h_filter : (n :: rest).filter (0 < ·) = rest.filter (0 < ·) := by simp [h_zero]
      rw [h_filter, ← ih, h_zero, Nat.zero_add, Nat.zero_max]
    · have h_pos : 0 < n := Nat.pos_of_ne_zero h_zero
      have h_filter : (n :: rest).filter (0 < ·) = n :: rest.filter (0 < ·) := by simp [h_pos]
      have h_none : (rest.filter (0 < ·)).length = 0 ↔ rest.sum = 0 := by
        rw [List.length_eq_zero_iff, List.filter_eq_nil_iff, List.sum_eq_zero_iff_forall_eq_nat]
        simp
      have h_le := greatest_le_sum rest
      rw [h_filter, List.length_cons]
      omega

theorem foldr_max_le {ns : List Nat} {bound : Nat} (h : ∀ n ∈ ns, n ≤ bound) :
    ns.foldr max 0 ≤ bound := by
  induction ns with
  | nil => exact Nat.zero_le _
  | cons n rest ih =>
    exact Nat.max_le.mpr ⟨h n List.mem_cons_self, ih fun m h_mem => h m (List.mem_cons_of_mem n h_mem)⟩

/-- Whatever reporters are made at a registry that is empty, or holds this counter, and whatever
they report, the sample of an owner is what its reporters have come to together.  It is the greatest
percentage any of them has reported, and so at most the full hundred, exactly as long as no two of
them are past zero. -/
theorem run_sample {start : Registry Nat}
    (h_start : start = {} ∨ start = ⟨[.make .counter progressName ["ownerUID"]]⟩)
    (moves : List Move) (owner : String) :
    let d := Desk.run ⟨start, []⟩ moves
    let accounts := accountsOf moves
    let reached := reachedBy owner accounts
    let greatest := reached.foldr max 0
    d.reporters.map (·.owner) = accounts.map (·.owner) ∧
    ownerSample? d.registry owner =
      (if owner = "" ∨ reached.sum = 0 then none else some reached.sum) ∧
    (owner ≠ "" → ((ownerSample? d.registry owner).getD 0 = greatest ↔
      (reached.filter (0 < ·)).length ≤ 1)) ∧
    greatest ≤ 10000 := by
  intro d accounts reached greatest
  have h_begun : Desk.Tells ⟨start, []⟩ [] := by
    rcases h_start with rfl | rfl
    · exact ⟨rfl, .inl ⟨rfl, rfl⟩⟩
    · exact ⟨rfl, .inr ⟨[], rfl, fun other => (if_pos (.inr rfl)).symm⟩⟩
  obtain ⟨h_reporters, h_registry⟩ := h_begun.run moves
  have h_sample : ownerSample? d.registry owner = due owner accounts := by
    rcases h_registry with ⟨h_none, h_accounts⟩ | ⟨shown, h_one, h_shown⟩
    · show ownerSample? (Desk.run ⟨start, []⟩ moves).registry owner = due owner (moves.foldl _ [])
      rw [h_none, h_accounts]
      exact (if_pos (.inr rfl)).symm
    · show ownerSample? (Desk.run ⟨start, []⟩ moves).registry owner = _
      rw [h_one, ownerSample?_counterOf]
      exact h_shown owner
  refine ⟨?_, h_sample, fun h_owner => ?_, ?_⟩
  · show (Desk.run ⟨start, []⟩ moves).reporters.map _ = _
    rw [h_reporters, List.map_map]
    rfl
  · rw [h_sample, getD_due h_owner]
    exact sum_eq_greatest_iff reached
  · refine foldr_max_le fun n h_mem => ?_
    obtain ⟨a, h_account, rfl⟩ := List.mem_map.mp h_mem
    exact accountsOf_le moves a (List.mem_of_mem_filter h_account)

/-- Two owners with a reporter each. -/
def twoOwners : List Move :=
  [.make "o", .make "p", .report 0 "(50.00/100%)", .report 1 "(60.00/100%)",
    .report 0 "(45.00/100%)"]

theorem twoOwners_sample :
    ownerSample? (Desk.run ⟨⟨[.make .counter progressName ["ownerUID"]]⟩, []⟩ twoOwners).registry "o" =
      some 5000 := by
  obtain ⟨-, h_sample, -⟩ := run_sample (.inr rfl) twoOwners "o"
  exact h_sample

/-- One owner whose second reporter begins anew. -/
def twoReporters : List Move :=
  [.make "o", .report 0 "(50.00/100%)", .make "o", .report 1 "(60.00/100%)"]

theorem twoReporters_sample :
    ownerSample? (Desk.run ⟨{}, []⟩ twoReporters).registry "o" = some 11000 ∧
      (reachedBy "o" (accountsOf twoReporters)).foldr max 0 = 6000 := by
  decide +kernel

end ImageIntake.Metrics
