/-
  ImageIntake.Proofs.Metrics.Advancing

  What one report does, after anything that reporters of a registry have done.  The
  reporters share one counter, whatever else the registry holds (`Desk.Shared`); each
  holds the greatest percentage that went through it.  A line beyond that advances the
  sample of the reporter's owner by the difference and touches no other sample
  (`report_of_exceeding`), unless the counter stood there before with other labels
  (`report_of_mislabelled`); any other line changes nothing (`report_of_not_exceeding`).
  So along any run no sample falls (`Desk.atMost_run`).  Amounts are exact hundredths.
-/

import ImageIntake.Proofs.Metrics.Reporting

namespace ImageIntake.Metrics

/-! ## Samples -/

/-- The sample of label values at the collector in some place. -/
def sampleAt? (r : Registry Nat) (place : Nat) (values : List String) : Option Nat :=
  (r.collectors[place]?).bind (·.samples.lookup values)

theorem lookup_increase (c : Collector Nat) (values other : List String) (amount : Nat) :
    (c.increase values amount).samples.lookup other =
      if other = values then some ((c.samples.lookup values).getD 0 + amount)
      else c.samples.lookup other := by
  unfold Collector.increase
  cases h_lookup : c.samples.lookup values with
  | none =>
    show (c.samples ++ [(values, 0 + amount)]).lookup other = _
    rw [List.lookup_append, List.lookup_cons, List.lookup_nil, Option.getD_none]
    by_cases h_same : other = values
    · rw [if_pos h_same, h_same, h_lookup, beq_self_eq_true]
      rfl
    · rw [if_neg h_same, beq_eq_false_iff_ne.mpr h_same]
      exact Option.or_none
  | some value =>
    show (c.samples.map fun s => if s.1 = values then (s.1, s.2 + amount) else s).lookup other = _
    rw [lookup_map_add, h_lookup]
    rfl

theorem names_increase (c : Collector Nat) (values : List String) (amount : Nat) :
    (c.increase values amount).names = c.names := by
  unfold Collector.increase
  split <;> rfl

theorem labels_increase (c : Collector Nat) (values : List String) (amount : Nat) :
    (c.increase values amount).labels = c.labels := by
  unfold Collector.increase
  split <;> rfl

theorem kind_increase (c : Collector Nat) (values : List String) (amount : Nat) :
    (c.increase values amount).kind = c.kind := by
  unfold Collector.increase
  split <;> rfl

/-- Advancing one sample leaves all others as they are. -/
theorem sampleAt?_set_increase {r : Registry Nat} {place : Nat} {c : Collector Nat}
    (h : r.collectors[place]? = some c) (values : List String) (amount other : Nat)
    (otherValues : List String) :
    sampleAt? ⟨r.collectors.set place (c.increase values amount)⟩ other otherValues =
      if other = place ∧ otherValues = values then
        some ((sampleAt? r other otherValues).getD 0 + amount)
      else sampleAt? r other otherValues := by
  unfold sampleAt?
  dsimp only
  by_cases h_place : other = place
  · have h_lt : place < r.collectors.length := (List.getElem?_eq_some_iff.mp h).1
    rw [h_place, List.getElem?_set_self h_lt, h]
    show (c.increase values amount).samples.lookup otherValues = _
    rw [lookup_increase]
    by_cases h_values : otherValues = values
    · rw [if_pos h_values, if_pos ⟨rfl, h_values⟩, h_values]
      rfl
    · rw [if_neg h_values, if_neg fun h_both => h_values h_both.2]
      rfl
  · rw [List.getElem?_set_ne (Ne.symm h_place), if_neg fun h_both => h_place h_both.1]

/-! ## One report -/

namespace Reporter

variable {p : Reporter Nat} {line : String} {r : Registry Nat}

/-- Whether a line takes a reporter further: it has an owner, and the line has a percentage beyond
what it holds. -/
def Exceeding (p : Reporter Nat) (line : String) : Prop :=
  p.owner ≠ "" ∧ ∃ n, percent? line = some n ∧ p.current < n

theorem report_of_not_exceeding (h : ¬p.Exceeding line) :
    p.report line r = (.ok false, p, r) := by
  unfold report
  cases h_percent : percent? line with
  | none => rfl
  | some n =>
    refine if_pos ?_
    by_cases h_owner : p.owner = ""
    · exact .inl h_owner
    · right
      have h_atMost : n ≤ p.current := by
        refine Nat.le_of_not_lt fun h_lt => h ⟨h_owner, n, h_percent, h_lt⟩
      exact decide_eq_true h_atMost

theorem report_beyond {n : Nat} {c : Collector Nat} (h_owner : p.owner ≠ "")
    (h_percent : percent? line = some n) (h_more : p.current < n)
    (h_counter : r.collectors[p.counter]? = some c) :
    p.report line r = match labelFault c.labels with
      | some f => (.error f, { p with current := n }, r)
      | none => (.ok true, { p with current := n },
          ⟨r.collectors.set p.counter (c.increase [p.owner] (n - p.current))⟩) := by
  have h_moves : ¬(p.owner = "" ∨ Amount.atMost (Amount.ofHundredths n) p.current = true) := by
    rintro (h_empty | h_atMost)
    · exact h_owner h_empty
    · have h_le : n ≤ p.current := of_decide_eq_true h_atMost
      omega
  unfold report
  rw [h_percent]
  dsimp only
  rw [if_neg h_moves, h_counter]
  rfl

theorem report_of_exceeding {n : Nat} {c : Collector Nat} (h_owner : p.owner ≠ "")
    (h_percent : percent? line = some n) (h_more : p.current < n)
    (h_counter : r.collectors[p.counter]? = some c) (h_labels : labelFault c.labels = none) :
    p.report line r = (.ok true, { p with current := n },
      ⟨r.collectors.set p.counter (c.increase [p.owner] (n - p.current))⟩) := by
  rw [report_beyond h_owner h_percent h_more h_counter, h_labels]

/-- A counter with other labels takes nothing, although the reporter goes on. -/
theorem report_of_mislabelled {n : Nat} {c : Collector Nat} {f : Failure} (h_owner : p.owner ≠ "")
    (h_percent : percent? line = some n) (h_more : p.current < n)
    (h_counter : r.collectors[p.counter]? = some c) (h_labels : labelFault c.labels = some f) :
    p.report line r = (.error f, { p with current := n }, r) := by
  rw [report_beyond h_owner h_percent h_more h_counter, h_labels]

theorem labelFault_eq_none_iff (labels : List String) :
    labelFault labels = none ↔ labels.length = 1 := by
  match labels with
  | [] => exact iff_of_false nofun nofun
  | [_] => exact ⟨fun _ => rfl, fun _ => rfl⟩
  | _ :: _ :: _ =>
    refine iff_of_false nofun fun h => ?_
    rw [List.length_cons, List.length_cons] at h
    omega

/-- A report leaves the registry as it is, or advances one sample of one collector. -/
theorem report_registry (p : Reporter Nat) (line : String) (r : Registry Nat) :
    (p.report line r).2.2 = r ∨ ∃ c values amount, r.collectors[p.counter]? = some c ∧
      (p.report line r).2.2 = ⟨r.collectors.set p.counter (c.increase values amount)⟩ := by
  by_cases h_exceeding : p.Exceeding line
  · obtain ⟨h_owner, n, h_percent, h_more⟩ := h_exceeding
    cases h_counter : r.collectors[p.counter]? with
    | none =>
      left
      unfold report
      rw [h_percent]
      dsimp only
      split
      · rfl
      · rw [h_counter]
    | some c =>
      rw [report_beyond h_owner h_percent h_more h_counter]
      cases labelFault c.labels with
      | some f => exact .inl rfl
      | none => exact .inr ⟨c, _, _, rfl, rfl⟩
  · rw [report_of_not_exceeding h_exceeding]
    exact .inl rfl

end Reporter

/-! ## The counter that reporters share -/

/-- Whether the progress counter stands in a place, with these labels. -/
structure Serves (r : Registry Nat) (place : Nat) (labels : List String) : Prop where
  index : r.indexOf? progressName = some place
  counter : ∃ c, r.collectors[place]? = some c ∧ c.kind = .counter ∧ c.labels = labels

/-- A registry in which no reporter can be made. -/
def Barred (r : Registry Nat) : Prop := ∀ owner, ∃ f, Reporter.make owner r = (.error f, r)

/-- Whether labels are those of a new progress counter, or of a counter that has its name. -/
def Offered (r : Registry Nat) (labels : List String) : Prop :=
  labels = ["ownerUID"] ∨
    ∃ c ∈ r.collectors, c.kind = .counter ∧ progressName ∈ c.names ∧ c.labels = labels

/-- A new progress counter. -/
def newCounter : Collector Nat := .make .counter progressName ["ownerUID"]

theorem names_newCounter :
    newCounter.names = [progressName, progressName ++ "_total", progressName ++ "_created"] := rfl

theorem indexOf?_eq (r : Registry Nat) (name : String) :
    r.indexOf? name = (r.collectors.map (·.names)).findIdx? (·.contains name) := by
  rw [List.findIdx?_map]
  rfl

/-- A counter that can be registered is new, and the last of the registry. -/
theorem register?_eq_some {r s : Registry Nat} (h : r.register? newCounter = some s) :
    r.occupied progressName = false ∧ s = ⟨r.collectors ++ [newCounter]⟩ := by
  rw [Registry.register?] at h
  by_cases h_any : newCounter.names.any r.occupied = true
  · rw [if_pos h_any] at h
    cases h
  · rw [if_neg h_any] at h
    rw [names_newCounter, List.any_cons, Bool.or_eq_true, not_or] at h_any
    exact ⟨Bool.eq_false_iff.mpr h_any.1, (Option.some.inj h).symm⟩

theorem make_of_register? {r s : Registry Nat} (h : r.register? newCounter = some s)
    (owner : String) : Reporter.make owner r = (.ok ⟨owner, r.collectors.length, 0⟩, s) := by
  unfold Reporter.make
  rw [show r.register? (.make .counter progressName ["ownerUID"]) = some s from h]
  rfl

/-- Where the counter cannot be registered, whoever has its name is used if it is a counter. -/
theorem make_of_occupied {r : Registry Nat} (h : r.register? newCounter = none) (owner : String) :
    Reporter.make owner r =
      match r.indexOf? progressName with
      | none => (.error Reporter.duplicate, r)
      | some i =>
        if (r.collectors[i]?.map (·.kind)) = some .counter then (.ok ⟨owner, i, 0⟩, r)
        else (.error Reporter.duplicate, r) := by
  unfold Reporter.make
  rw [show r.register? (.make .counter progressName ["ownerUID"]) = none from h]
  rfl

theorem Serves.register? {r : Registry Nat} {place : Nat} {labels : List String}
    (h : Serves r place labels) : r.register? newCounter = none := by
  have h_occupied : r.occupied progressName = true := by
    have h_some : (r.indexOf? progressName).isSome = true := by
      rw [h.index]
      rfl
    rw [Registry.indexOf?, List.findIdx?_isSome] at h_some
    exact h_some
  refine if_pos ?_
  rw [names_newCounter, List.any_cons, h_occupied]
  rfl

/-- Where the counter serves already, every reporter gets it. -/
theorem Serves.make {r : Registry Nat} {place : Nat} {labels : List String}
    (h : Serves r place labels) (owner : String) :
    Reporter.make owner r = (.ok ⟨owner, place, 0⟩, r) := by
  obtain ⟨c, h_counter, h_kind, -⟩ := h.counter
  rw [make_of_occupied h.register?, h.index]
  dsimp only
  rw [h_counter, Option.map_some, h_kind, if_pos rfl]

/-- The counter goes on serving when one of its samples is advanced. -/
theorem Serves.increase {r : Registry Nat} {place : Nat} {labels : List String} {c : Collector Nat}
    (h : Serves r place labels) (h_counter : r.collectors[place]? = some c) (values : List String)
    (amount : Nat) : Serves ⟨r.collectors.set place (c.increase values amount)⟩ place labels := by
  obtain ⟨found, h_found, h_kind, h_labels⟩ := h.counter
  obtain rfl : found = c := Option.some.inj (h_found.symm.trans h_counter)
  have h_lt : place < r.collectors.length := (List.getElem?_eq_some_iff.mp h_counter).1
  constructor
  · have h_named : (r.collectors.map (·.names))[place]? = some found.names := by
      rw [List.getElem?_map, h_counter]
      rfl
    have h_names : (r.collectors.set place (found.increase values amount)).map (·.names) =
        r.collectors.map (·.names) := by
      obtain ⟨_, h_get⟩ := List.getElem?_eq_some_iff.mp h_named
      rw [List.map_set, names_increase, ← h_get]
      exact List.set_getElem_self _
    rw [indexOf?_eq, h_names, ← indexOf?_eq]
    exact h.index
  · refine ⟨found.increase values amount, List.getElem?_set_self h_lt, ?_, ?_⟩
    · rw [kind_increase, h_kind]
    · rw [labels_increase, h_labels]

/-- Making a reporter registers the counter, or leaves the registry as it is. -/
theorem make_registry (owner : String) (r : Registry Nat) :
    (Reporter.make owner r).2 = r ∨
      (Reporter.make owner r).2 = ⟨r.collectors ++ [newCounter]⟩ := by
  cases h_register : r.register? newCounter with
  | some s =>
    rw [make_of_register? h_register]
    exact .inr (register?_eq_some h_register).2
  | none =>
    left
    rw [make_of_occupied h_register]
    cases r.indexOf? progressName with
    | none => rfl
    | some i =>
      dsimp only
      split <;> rfl

/-- Making a reporter fails for every owner, or leads every owner to the same counter. -/
theorem make_cases (r : Registry Nat) :
    Barred r ∨ ∃ place labels s, Serves s place labels ∧ Offered r labels ∧
      ∀ owner, Reporter.make owner r = (.ok ⟨owner, place, 0⟩, s) := by
  cases h_register : r.register? newCounter with
  | some s =>
    obtain ⟨h_free, h_new⟩ := register?_eq_some h_register
    have h_none : r.collectors.findIdx? (fun c => c.names.contains progressName) = none := by
      rw [List.findIdx?_eq_none_iff]
      rw [Registry.occupied, List.any_eq_false] at h_free
      exact fun c h_mem => Bool.eq_false_iff.mpr (h_free c h_mem)
    have h_own : [newCounter].findIdx? (fun c => c.names.contains progressName) = some 0 := by
      decide
    refine .inr ⟨r.collectors.length, ["ownerUID"], s, ⟨?_, newCounter, ?_, rfl, rfl⟩, .inl rfl,
      make_of_register? h_register⟩
    · rw [h_new, Registry.indexOf?, List.findIdx?_append, h_none, h_own, Option.none_or,
        Option.map_some, Nat.zero_add]
    · rw [h_new]
      exact List.getElem?_concat_length
  | none =>
    have h_make := make_of_occupied h_register
    cases h_index : r.indexOf? progressName with
    | none =>
      rw [h_index] at h_make
      exact .inl fun owner => ⟨Reporter.duplicate, h_make owner⟩
    | some place =>
      rw [h_index] at h_make
      by_cases h_kind : (r.collectors[place]?.map (·.kind)) = some .counter
      · obtain ⟨c, h_counter, h_is⟩ := Option.map_eq_some_iff.mp h_kind
        have h_named : progressName ∈ c.names := by
          obtain ⟨h_lt, h_holds, -⟩ := List.findIdx?_eq_some_iff_getElem.mp h_index
          rw [← (List.getElem?_eq_some_iff.mp h_counter).2]
          exact List.contains_iff_mem.mp h_holds
        have h_offered : Offered r c.labels :=
          .inr ⟨c, List.mem_of_getElem? h_counter, h_is, h_named, rfl⟩
        refine .inr ⟨place, c.labels, r, ⟨h_index, c, h_counter, h_is, rfl⟩, h_offered, ?_⟩
        exact fun owner => (h_make owner).trans (if_pos h_kind)
      · refine .inl fun owner => ⟨Reporter.duplicate, ?_⟩
        exact (h_make owner).trans (if_neg h_kind)

/-! ## Accounts and reporters -/

/-- The reporter of an account, at the counter in a place. -/
def Account.reporterAt (place : Nat) (a : Account) : Reporter Nat :=
  { a.reporter with counter := place }

theorem reporterAt_blank (place : Nat) (owner : String) :
    (Account.blank owner).reporterAt place = ⟨owner, place, 0⟩ := by
  rw [Account.reporterAt, reporter_blank]

section

variable {a : Account} {place : Nat} {line : String}

/-- A line that takes the reporter no further leaves it as it is. -/
theorem reporterAt_note_of_not_exceeding (h : ¬(a.reporterAt place).Exceeding line) :
    (a.note line).reporterAt place = a.reporterAt place := by
  have h_current : (a.note line).reporter.current = a.reporter.current := by
    show (if a.owner = "" then 0 else (a.note line).greatest) =
      if a.owner = "" then 0 else a.greatest
    by_cases h_owner : a.owner = ""
    · rw [if_pos h_owner, if_pos h_owner]
    · rw [if_neg h_owner, if_neg h_owner]
      cases h_percent : percent? line with
      | none => rw [Account.note_of_none h_percent]
      | some n =>
        have h_held : (a.reporterAt place).current = a.greatest := if_neg h_owner
        have h_le : n ≤ a.greatest := by
          refine Nat.le_of_not_lt fun h_lt => h ⟨h_owner, n, h_percent, ?_⟩
          rwa [h_held]
        rw [Account.greatest_note_of_some h_percent]
        exact Nat.max_eq_left h_le
  show Reporter.mk a.owner place _ = Reporter.mk a.owner place _
  rw [h_current]

/-- A line beyond what the reporter holds is what it holds next. -/
theorem reporterAt_note_of_exceeding {n : Nat} (h_owner : a.owner ≠ "")
    (h_percent : percent? line = some n) (h_more : (a.reporterAt place).current < n) :
    (a.note line).reporterAt place = { a.reporterAt place with current := n } := by
  have h_held : (a.reporterAt place).current = a.greatest := if_neg h_owner
  have h_current : (a.note line).reporter.current = n := by
    show (if a.owner = "" then 0 else (a.note line).greatest) = n
    rw [if_neg h_owner, Account.greatest_note_of_some h_percent]
    omega
  show Reporter.mk a.owner place _ = Reporter.mk a.owner place n
  rw [h_current]

end

/-! ## Runs -/

namespace Desk

/-- What a desk is like once it began at a registry: no reporter was made yet, or none can be, or
all that were made share the counter in one place and hold what went through them. -/
inductive Shared (start : Registry Nat) (accounts : List Account) (d : Desk Nat) : Prop where
  | untouched (h_accounts : accounts = []) (h_desk : d = ⟨start, []⟩)
  | barred (h_barred : Barred start) (h_desk : d = ⟨start, []⟩)
  | serving (place : Nat) (labels : List String) (h_serves : Serves d.registry place labels)
      (h_offered : Offered start labels)
      (h_reporters : d.reporters = accounts.map (·.reporterAt place))

/-- Without reporters, a report is not made. -/
theorem act_report_of_none {d : Desk Nat} {i : Nat} (h : d.reporters[i]? = none) (line : String) :
    d.act (.report i line) = d := by
  rw [act]
  dsimp only
  rw [h]

variable {start : Registry Nat} {accounts : List Account} {d : Desk Nat}

theorem Shared.make (h : d.Shared start accounts) (owner : String) :
    (d.act (.make owner)).Shared start (noteMove accounts (.make owner)) := by
  obtain ⟨registry, reporters⟩ := d
  rw [act]
  cases h with
  | untouched h_accounts h_desk =>
    cases h_desk
    rcases make_cases start with h_barred | ⟨place, labels, s, h_serves, h_offered, h_make⟩
    · obtain ⟨f, h_make⟩ := h_barred owner
      rw [h_make]
      exact .barred h_barred rfl
    · rw [h_make]
      refine .serving place labels h_serves h_offered ?_
      rw [h_accounts]
      exact congrArg (fun p => [p]) (reporterAt_blank place owner).symm
  | barred h_barred h_desk =>
    cases h_desk
    obtain ⟨f, h_make⟩ := h_barred owner
    rw [h_make]
    exact .barred h_barred rfl
  | serving place labels h_serves h_offered h_reporters =>
    rw [h_serves.make]
    refine .serving place labels h_serves h_offered ?_
    rw [noteMove, List.map_append, List.map_singleton, reporterAt_blank]
    exact congrArg (· ++ _) h_reporters

theorem Shared.report (h : d.Shared start accounts) (i : Nat) (line : String) :
    (d.act (.report i line)).Shared start (noteMove accounts (.report i line)) := by
  cases h with
  | untouched h_accounts h_desk =>
    subst h_accounts h_desk
    rw [act_report_of_none rfl]
    exact .untouched (List.modify_nil _ _) rfl
  | barred h_barred h_desk =>
    subst h_desk
    rw [act_report_of_none rfl]
    exact .barred h_barred rfl
  | serving place labels h_serves h_offered h_reporters =>
    have h_reporter : d.reporters[i]? = (accounts[i]?).map (·.reporterAt place) := by
      rw [h_reporters, List.getElem?_map]
    cases h_account : accounts[i]? with
    | none =>
      rw [h_account] at h_reporter
      have h_same : noteMove accounts (.report i line) = accounts :=
        List.modify_eq_self (List.getElem?_eq_none_iff.mp h_account)
      rw [act_report_of_none h_reporter, h_same]
      exact .serving place labels h_serves h_offered h_reporters
    | some a =>
      rw [h_account, Option.map_some] at h_reporter
      have h_noted : noteMove accounts (.report i line) = accounts.set i (a.note line) :=
        modify_eq_set h_account _
      obtain ⟨c, h_counter, -, -⟩ := h_serves.counter
      rw [act]
      dsimp only
      rw [h_reporter, h_noted]
      dsimp only
      by_cases h_exceeding : (a.reporterAt place).Exceeding line
      · -- The reporter goes on whether or not the counter takes the difference.
        obtain ⟨h_owner, n, h_percent, h_more⟩ := h_exceeding
        have h_next : d.reporters.set i { a.reporterAt place with current := n } =
            (accounts.set i (a.note line)).map (·.reporterAt place) := by
          rw [List.map_set, reporterAt_note_of_exceeding h_owner h_percent h_more, h_reporters]
        cases h_fault : Reporter.labelFault c.labels with
        | none =>
          rw [Reporter.report_of_exceeding h_owner h_percent h_more h_counter h_fault]
          exact .serving place labels (h_serves.increase h_counter _ _) h_offered h_next
        | some f =>
          rw [Reporter.report_of_mislabelled h_owner h_percent h_more h_counter h_fault]
          exact .serving place labels h_serves h_offered h_next
      · rw [Reporter.report_of_not_exceeding h_exceeding]
        refine .serving place labels h_serves h_offered ?_
        rw [List.map_set, reporterAt_note_of_not_exceeding h_exceeding]
        exact congrArg (List.set · i _) h_reporters

/-- Whatever reporters are made and report, they share one counter and hold what went through
them. -/
theorem Shared.run (h : d.Shared start accounts) (moves : List Move) :
    (d.run moves).Shared start (moves.foldl noteMove accounts) := by
  induction moves generalizing d accounts with
  | nil => exact h
  | cons move rest ih =>
    cases move with
    | make owner => exact ih (h.make owner)
    | report i line => exact ih (h.report i line)

/-- Where there is a reporter, the counter serves. -/
theorem Shared.serving_of_mem {p : Reporter Nat} (h : d.Shared start accounts)
    (h_mem : p ∈ d.reporters) :
    ∃ place labels, Serves d.registry place labels ∧ Offered start labels ∧
      d.reporters = accounts.map (·.reporterAt place) := by
  cases h with
  | untouched _ h_desk =>
    rw [h_desk] at h_mem
    exact nomatch h_mem
  | barred _ h_desk =>
    rw [h_desk] at h_mem
    exact nomatch h_mem
  | serving place labels h_serves h_offered h_reporters =>
    exact ⟨place, labels, h_serves, h_offered, h_reporters⟩

end Desk

/-! ## No sample falls -/

/-- Whether every sample of a registry is in another one as well, with no smaller value. -/
def Registry.AtMost (r s : Registry Nat) : Prop :=
  ∀ place values n, sampleAt? r place values = some n →
    ∃ m, sampleAt? s place values = some m ∧ n ≤ m

namespace Registry.AtMost

variable {r s t : Registry Nat}

theorem refl (r : Registry Nat) : r.AtMost r := fun _ _ n h => ⟨n, h, Nat.le_refl n⟩

theorem trans (h_left : r.AtMost s) (h_right : s.AtMost t) : r.AtMost t := by
  intro place values n h_sample
  obtain ⟨m, h_middle, h_le⟩ := h_left place values n h_sample
  obtain ⟨k, h_last, h_more⟩ := h_right place values m h_middle
  exact ⟨k, h_last, Nat.le_trans h_le h_more⟩

/-- Another collector takes nothing from those before it. -/
theorem append (r : Registry Nat) (c : Collector Nat) : r.AtMost ⟨r.collectors ++ [c]⟩ := by
  intro place values n h_sample
  obtain ⟨found, h_found, h_value⟩ := Option.bind_eq_some_iff.mp h_sample
  refine ⟨n, ?_, Nat.le_refl n⟩
  have h_lt : place < r.collectors.length := (List.getElem?_eq_some_iff.mp h_found).1
  unfold sampleAt?
  dsimp only
  rw [List.getElem?_append_left h_lt, h_found]
  exact h_value

theorem increase {place : Nat} {c : Collector Nat} (h : r.collectors[place]? = some c)
    (values : List String) (amount : Nat) :
    r.AtMost ⟨r.collectors.set place (c.increase values amount)⟩ := by
  intro other otherValues n h_sample
  rw [sampleAt?_set_increase h, h_sample]
  by_cases h_both : other = place ∧ otherValues = values
  · rw [if_pos h_both]
    exact ⟨n + amount, rfl, Nat.le_add_right n amount⟩
  · rw [if_neg h_both]
    exact ⟨n, rfl, Nat.le_refl n⟩

end Registry.AtMost

namespace Desk

theorem atMost_act (d : Desk Nat) (move : Move) : d.registry.AtMost (d.act move).registry := by
  cases move with
  | make owner =>
    have h_registry : (d.act (.make owner)).registry = (Reporter.make owner d.registry).2 := by
      rw [act]
      split <;> rename_i h_made <;> rw [h_made]
    rw [h_registry]
    rcases make_registry owner d.registry with h_same | h_new
    · rw [h_same]
      exact .refl _
    · rw [h_new]
      exact .append _ _
  | report i line =>
    cases h_reporter : d.reporters[i]? with
    | none =>
      rw [act_report_of_none h_reporter]
      exact .refl _
    | some p =>
      rw [act, h_reporter]
      show d.registry.AtMost (p.report line d.registry).2.2
      rcases p.report_registry line d.registry with h_same | ⟨c, values, amount, h_counter, h_set⟩
      · rw [h_same]
        exact .refl _
      · rw [h_set]
        exact .increase h_counter values amount

theorem atMost_run (d : Desk Nat) (moves : List Move) :
    d.registry.AtMost (d.run moves).registry := by
  induction moves generalizing d with
  | nil => exact .refl _
  | cons move rest ih => exact (d.atMost_act move).trans (ih (d.act move))

/-- Whatever reporters were made and have reported at a registry, each holds the greatest percentage
that went through it, all advance one counter, and a further report does this: a line that does not
take the reporter beyond what it holds changes nothing; one that does takes the sample of its owner,
and no other, further by the difference.  Only if the registry held the counter from the start, and
not with one label, such a report fails and leaves every sample.  No sample ever falls. -/
theorem run_report_advances (start : Registry Nat) (moves : List Move) :
    let d := Desk.run ⟨start, []⟩ moves
    ((Barred start ∧ d = ⟨start, []⟩) ∨ ∃ place, d.reporters =
      (accountsOf moves).map fun a => ⟨a.owner, place, if a.owner = "" then 0 else a.greatest⟩) ∧
    (∀ p ∈ d.reporters, ∃ labels, Offered start labels ∧ ∀ line,
      (¬p.Exceeding line → p.report line d.registry = (.ok false, p, d.registry)) ∧
      ∀ n, p.owner ≠ "" → percent? line = some n → p.current < n →
        let difference := n - p.current
        let q := { p with current := n }
        0 < difference ∧
        (labels.length = 1 → ∃ s, p.report line d.registry = (.ok true, q, s) ∧
          ∀ place values, sampleAt? s place values =
            if place = p.counter ∧ values = [p.owner] then
              some ((sampleAt? d.registry place values).getD 0 + difference)
            else sampleAt? d.registry place values) ∧
        (labels.length ≠ 1 → ∃ f, Reporter.labelFault labels = some f ∧
          p.report line d.registry = (.error f, q, d.registry))) ∧
    ∀ more, d.registry.AtMost (d.run more).registry := by
  intro d
  have h_begun : Shared start [] ⟨start, []⟩ := .untouched rfl rfl
  have h_shared : d.Shared start (accountsOf moves) := h_begun.run moves
  refine ⟨?_, fun p h_mem => ?_, d.atMost_run⟩
  · cases h_shared with
    | untouched h_accounts h_desk =>
      refine .inr ⟨0, ?_⟩
      rw [h_accounts, h_desk]
      rfl
    | barred h_barred h_desk => exact .inl ⟨h_barred, h_desk⟩
    | serving place _ _ _ h_reporters => exact .inr ⟨place, h_reporters⟩
  · obtain ⟨place, labels, h_serves, h_offered, h_reporters⟩ := h_shared.serving_of_mem h_mem
    obtain ⟨c, h_counter, -, rfl⟩ := h_serves.counter
    obtain ⟨a, -, rfl⟩ := List.mem_map.mp (h_reporters ▸ h_mem)
    refine ⟨c.labels, h_offered, fun line => ⟨Reporter.report_of_not_exceeding, ?_⟩⟩
    intro n h_owner h_percent h_more difference q
    refine ⟨Nat.sub_pos_of_lt h_more, fun h_one => ?_, fun h_many => ?_⟩
    · have h_fault := (Reporter.labelFault_eq_none_iff c.labels).mpr h_one
      exact ⟨_, Reporter.report_of_exceeding h_owner h_percent h_more h_counter h_fault,
        sampleAt?_set_increase h_counter _ _⟩
    · have h_fault : Reporter.labelFault c.labels ≠ none :=
        (Reporter.labelFault_eq_none_iff c.labels).not.mpr h_many
      obtain ⟨f, h_fault⟩ := Option.ne_none_iff_exists'.mp h_fault
      exact ⟨f, h_fault, Reporter.report_of_mislabelled h_owner h_percent h_more h_counter h_fault⟩

/-- A counter of two labels that stood there before takes no report. -/
theorem twoLabels_report_fails :
    let d := Desk.run ⟨⟨[.make .counter progressName ["ownerUID", "host"]]⟩, []⟩ [.make "o"]
    d.reporters = [⟨"o", 0, 0⟩] ∧ Reporter.Exceeding ⟨"o", 0, 0⟩ "(50.00/100%)" ∧
      (Reporter.report ⟨"o", 0, 0⟩ "(50.00/100%)" d.registry).1 =
        .error (.outside (.value "Incorrect label count")) := by
  have h_percent : percent? "(50.00/100%)" = some 5000 := by decide +kernel
  have h_exceeding : Reporter.Exceeding ⟨"o", 0, 0⟩ "(50.00/100%)" :=
    ⟨by decide, 5000, h_percent, by decide⟩
  refine ⟨rfl, h_exceeding, ?_⟩
  rw [Reporter.report_of_mislabelled h_exceeding.1 h_percent (by decide) rfl rfl]

end Desk

end ImageIntake.Metrics
