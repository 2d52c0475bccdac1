/-
  ImageIntake.Proofs.Cli.Showing

  The command line that is shown and the one that is run.  The import is run watched, with
  a note of the commands it hands over; that changes nothing (`NotedRun.after_eq`).  Each of
  them is what the other command shows for the same endpoint, destination and certificate,
  with the filters that were detected (`words_of_wanted`).  What is said of it is read back
  without control sequences, and so as it is exactly if it holds none.
-/

import ImageIntake.Cli.Outcome
import ImageIntake.Proofs.Import.Handing
import ImageIntake.Proofs.Source.Opening
import ImageIntake.Proofs.Text.ShellWords

namespace ImageIntake

open ImageIntake.Action ImageIntake.Conversion ImageIntake.Source

/-! ## Keys -/

/-- A locator is left as it is unless both keys are given. -/
theorem Url.withKeys_of_not_both {accessKey secretKey : Option String} (url : Url)
    (h : ∀ access secret, accessKey = some access → secretKey = some secret →
      access = "" ∨ secret = "") : url.withKeys accessKey secretKey = .ok url := by
  unfold withKeys
  split
  next access secret =>
    refine if_neg ?_
    rintro ⟨h_access, h_secret⟩
    rcases h access secret rfl rfl with h_empty | h_empty
    · exact h_access h_empty
    · exact h_secret h_empty
  · rfl

namespace Cli

/-! ## The command that is shown -/

/-- A command line that is said is read back as its words without control sequences. -/
theorem split_output (site : Site) (words : List String) :
    Text.ShellWords.split (Outcome.ofClosing site (.said (Text.ShellWords.join words))).output =
      some (words.map Text.ControlSequence.plain) := by
  have h_said : (Outcome.ofClosing site (.said (Text.ShellWords.join words))).output =
      Text.ControlSequence.plain (Text.ShellWords.join words ++ "\n") := rfl
  rw [h_said]
  exact Text.ShellWords.split_spoken words

/-- A directory that is empty counts as none whether or not it was taken for none before. -/
theorem arguments_of_trust {request : Request} {certDir : Option String}
    (h : request.certDir = trustOf certDir) (qemuImg : String) :
    ({ request with certDir } : Request).arguments qemuImg = request.arguments qemuImg := by
  have h_certificate : ({ request with certDir } : Request).certificateArguments =
      request.certificateArguments := by
    unfold Request.certificateArguments
    rw [h]
    cases certDir with
    | none => rfl
    | some dir => by_cases h_dir : dir = "" <;> simp [trustOf, Option.filter, h_dir]
  unfold Request.arguments
  rw [h_certificate]
  rfl

namespace ShowCommand

/-- What is shown is what a request with the same source, destination, filters and certificate is
carried out with. -/
theorem words_of_wanted {c : ShowCommand} {settings : Settings} {opened : Source}
    {readers : Readers} {request : Request} {arguments : List String}
    (h : Wanted opened c.destination readers request) (h_filters : request.filters = c.filters)
    (h_trust : opened.certDir = trustOf c.certDir)
    (h_arguments : request.arguments settings.qemuImg = .ok arguments) :
    c.words settings opened.endpoint = .ok (settings.nbdkit :: arguments) := by
  have h_made : c.request opened.endpoint = .ok { request with certDir := c.certDir } := by
    obtain ⟨source, dest, filters, plugins, certDir, accessKey, secretKey, h_some⟩ := request
    obtain ⟨-, rfl, rfl, -, rfl, rfl, rfl⟩ := h
    cases h_filters
    unfold ShowCommand.request Request.make
    rw [dif_neg h_some]
    rfl
  have h_same := arguments_of_trust (h.certDir.trans h_trust) settings.qemuImg
  unfold words
  rw [h_made]
  exact congrArg (fun outcome => outcome.map (settings.nbdkit :: ·)) (h_same.trans h_arguments)

theorem run_of_words {c : ShowCommand} {settings : Settings} {url : Url} {words : List String}
    (h_read : Endpoint.read c.endpoint = .ok url) (h_words : c.words settings url = .ok words) :
    c.run settings = .ok (.said (Text.ShellWords.join words)) := by
  unfold run
  rw [h_read]
  dsimp only
  rw [h_words]

end ShowCommand

/-! ## The command that imports -/

namespace ImportCommand

variable (c : ImportCommand) (settings : Settings)

/-- The command that shows what the import would run if these filters were called for. -/
def shown (filters : List Filter) : ShowCommand where
  endpoint := c.endpoint
  destination := c.destination
  filters := filters
  certDir := c.certDir

/-- What the import does before it fetches: it comes to a source, or to a failure to open one. -/
def opening : Action Site (Except Failure Source) := do
  let settings := c.settle settings
  Site.setUpLog settings.logPlan
  match settings.metricsPort with
  | some port => Site.startMetrics port
  | none => pure ()
  (Source.ofOwnedOrder (c.order settings) settings.ownerUid).attempt

/-- Fetches the image, watched, with a note of the commands that are handed over. -/
def fetchNoting (source : Source) : Action (Watched (Noted Site)) Import.Report :=
  let converter := Site.settledConverter settings
  source.fetch ((Site.collaborators converter).noting converter).watched c.destination c.scratchDir
    settings.scratchFileName

/-- The import, watched, with a note of the commands that are handed over. -/
def runNoting : Action (Watched (Noted Site)) Closing := do
  match ← (c.opening settings).unnoted.unasked with
  | .error f => .give (complain? f)
  | .ok source => closing <$> c.fetchNoting (c.settle settings) source

theorem after_run (site : Site) :
    (c.run settings).after site =
      match (c.opening settings).after site with
      | (.error f, s) => (.error f, s)
      | (.ok (.error f), s) => (complain? f, s)
      | (.ok (.ok source), s) => (c.fetch (c.settle settings) source).after s := by
  have h_run : c.run settings = (do
      match ← c.opening settings with
      | .error f => .give (complain? f)
      | .ok source => c.fetch (c.settle settings) source) := by
    unfold run opening
    simp only [bind_assoc]
    cases (c.settle settings).metricsPort with
    | none => rfl
    | some port =>
      refine congrArg (Site.setUpLog (c.settle settings).logPlan >>= ·) (funext fun _ => ?_)
      exact (bind_assoc (Site.startMetrics port) _ _).symm
  rw [h_run, after_bind]
  rcases (c.opening settings).after site with ⟨f | f | source, opened⟩ <;> rfl

variable {c settings} {site opened : Site} {source : Source} {w : Watched (Noted Site)}

theorem after_fetch_of_noting {outcome : Except Failure Import.Report}
    (h : (c.fetchNoting settings source).after ((site, []), []) = (outcome, w)) :
    (c.fetch settings source).after site = (outcome.map closing, w.1.1) := by
  have h_fetch := fetch_noting (Site.collaborators (Site.settledConverter settings)) c.destination
    (c := Site.settledConverter settings) rfl source c.scratchDir settings.scratchFileName site
  unfold fetchNoting at h
  rw [h] at h_fetch
  unfold fetch
  rw [after_bind, h_fetch]
  cases outcome <;> rfl

/-- How an import that is noted comes to its end: it opens no source and hands nothing over, or it
fetches the image of the source it has opened. -/
inductive NotedRun (c : ImportCommand) (settings : Settings) (site : Site) :
    Except Failure Closing → Watched (Noted Site) → Prop where
  | unopened {outcome s} (h_run : (c.run settings).after site = (outcome, s)) :
    NotedRun c settings site outcome ((s, []), [])
  | fetched {source opened outcome w}
    (h_opened : (c.opening settings).after site = (.ok (.ok source), opened))
    (h_fetched : (c.fetchNoting (c.settle settings) source).after ((opened, []), []) = (outcome, w)) :
    NotedRun c settings site (outcome.map closing) w

theorem notedRun_of_after {outcome : Except Failure Closing}
    (h : (c.runNoting settings).after ((site, []), []) = (outcome, w)) :
    NotedRun c settings site outcome w := by
  unfold runNoting at h
  rw [after_bind, after_unasked, after_unnoted] at h
  have h_run := c.after_run settings site
  rcases h_opened : (c.opening settings).after site with ⟨f | f | source, opened⟩
  all_goals rw [h_opened] at h h_run
  · cases h
    exact .unopened h_run
  · cases h
    exact .unopened h_run
  · dsimp only at h
    rw [after_map] at h
    rcases h_fetched : (c.fetchNoting (c.settle settings) source).after ((opened, []), [])
      with ⟨report, v⟩
    rw [h_fetched] at h
    cases h
    exact .fetched h_opened h_fetched

/-- Neither being watched nor keeping the note changes the import. -/
theorem NotedRun.after_eq {outcome : Except Failure Closing}
    (h : NotedRun c settings site outcome w) : (c.run settings).after site = (outcome, w.1.1) := by
  cases h with
  | unopened h_run => exact h_run
  | fetched h_opened h_fetched =>
    rw [after_run, h_opened]
    exact after_fetch_of_noting h_fetched

/-! ## What the import opens -/

variable (c settings) in
theorem nbdkit_settle : (c.settle settings).nbdkit = settings.nbdkit := by
  unfold settle
  split <;> rfl

variable (c settings) in
theorem qemuImg_settle : (c.settle settings).qemuImg = settings.qemuImg := by
  unfold settle
  split <;> rfl

theorem order_of_opening (h : (c.opening settings).after site = (.ok (.ok source), opened)) :
    ∃ s t, (Source.ofOrder (c.order (c.settle settings))).after s = (.ok source, t) := by
  have h_owned : ∃ s, (Source.ofOwnedOrder (c.order (c.settle settings))
      (c.settle settings).ownerUid).after s = (.ok source, opened) := by
    unfold opening at h
    rw [after_bind] at h
    split at h
    next log s h_log =>
      cases h_port : (c.settle settings).metricsPort with
      | none =>
        rw [h_port] at h
        dsimp only at h
        rw [after_attempt] at h
        obtain ⟨h_outcome, h_state⟩ := Prod.mk.inj h
        exact ⟨s, Prod.ext (Except.ok.inj h_outcome) h_state⟩
      | some port =>
        rw [h_port] at h
        dsimp only at h
        rw [after_bind] at h
        split at h
        next served t h_served =>
          rw [after_attempt] at h
          obtain ⟨h_outcome, h_state⟩ := Prod.mk.inj h
          exact ⟨t, Prod.ext (Except.ok.inj h_outcome) h_state⟩
        · cases h
    · cases h
  obtain ⟨s, h_owned⟩ := h_owned
  unfold ofOwnedOrder at h_owned
  rw [after_bind] at h_owned
  split at h_owned
  next other t h_order =>
    rw [after_bind] at h_owned
    split at h_owned
    · cases h_owned
      exact ⟨s, t, h_order⟩
    · cases h_owned
  · cases h_owned

/-- A source that the import has opened has the endpoint as its locator, unless both keys are
given, and has not been read. -/
theorem opening_ok
    (h_keys : ∀ access secret, c.accessKey = some access → c.secretKey = some secret →
      access = "" ∨ secret = "")
    (h : (c.opening settings).after site = (.ok (.ok source), opened)) :
    Endpoint.read c.endpoint = .ok source.endpoint ∧ source.certDir = trustOf c.certDir ∧
      source.readers = none := by
  obtain ⟨s, t, h_order⟩ := order_of_opening h
  obtain ⟨⟨url, target, response, h_read, -, -, h_endpoint, -⟩, h_made, -⟩ := ofOrder_ok h_order
  have h_plain : url.withKeys c.accessKey c.secretKey = .ok url := url.withKeys_of_not_both h_keys
  have h_same : source.endpoint = url := Except.ok.inj (h_endpoint.symm.trans h_plain)
  refine ⟨?_, ?_, ?_⟩
  · rw [h_same]
    exact h_read
  · rw [h_made]
    rfl
  · rw [h_made]
    rfl

/-! ## What the import runs -/

/-- What an import without scratch space hands over is for the image of the source it has opened. -/
theorem NotedRun.handing {outcome : Except Failure Closing} {command : List String}
    (h : NotedRun c settings site outcome w) (h_scratch : c.scratchDir = none)
    (h_keys : ∀ access secret, c.accessKey = some access → c.secretKey = some secret →
      access = "" ∨ secret = "") (h_command : command ∈ w.1.2) :
    ∃ source later, Endpoint.read c.endpoint = .ok source.endpoint ∧
      source.certDir = trustOf c.certDir ∧
      Handing (Site.settledConverter (c.settle settings)) source c.destination (later, w) := by
  cases h with
  | unopened => exact absurd h_command List.not_mem_nil
  | @fetched source opened report w h_opened h_fetched =>
    obtain ⟨h_read, h_trust, h_unread⟩ := opening_ok h_keys h_opened
    obtain ⟨later, h_handing⟩ := handing_fetch
      (Site.collaborators (Site.settledConverter (c.settle settings)))
      (Site.settledConverter (c.settle settings)) c.destination h_unread
      (c.settle settings).scratchFileName opened
    unfold fetchNoting at h_fetched
    rw [h_scratch] at h_fetched
    rw [h_fetched] at h_handing
    exact ⟨source, later, h_read, h_trust, h_handing⟩

/-- What is handed over for the image of a source is shown for the endpoint it was opened from. -/
theorem shown_of_handing {later : Source} {command : List String}
    (h_read : Endpoint.read c.endpoint = .ok source.endpoint)
    (h_trust : source.certDir = trustOf c.certDir)
    (h_handing : Handing (Site.settledConverter (c.settle settings)) source c.destination (later, w))
    (h_command : command ∈ w.1.2) :
    ∃ readers filters, w.2.filterMap Query.built? = [readers] ∧ Implied readers filters ∧
      (c.shown filters).run settings = .ok (.said (Text.ShellWords.join command)) := by
  obtain ⟨readers, request, h_readers, h_wanted, h_mem⟩ := h_handing.commands command h_command
  obtain ⟨arguments, h_arguments, h_words⟩ := Converter.exists_arguments_of_mem_commands h_mem
  have h_qemuImg : (Site.settledConverter (c.settle settings)).qemuImg = settings.qemuImg :=
    c.qemuImg_settle settings
  have h_nbdkit : (Site.settledConverter (c.settle settings)).nbdkit = settings.nbdkit :=
    c.nbdkit_settle settings
  have h_built := h_handing.built
  rw [h_readers] at h_built
  rw [h_qemuImg] at h_arguments
  rw [h_nbdkit] at h_words
  refine ⟨readers, request.filters, h_built, h_wanted.filters, ?_⟩
  rw [h_words]
  exact ShowCommand.run_of_words h_read
    (ShowCommand.words_of_wanted (c := c.shown request.filters) h_wanted rfl h_trust h_arguments)

variable (c settings site) in
/-- Every command that an import hands over to be run, given neither both keys nor scratch space, is
the one that is shown for the same endpoint, destination and certificate with the filters that the
detected compression implies.  The line that says so is read back as the words of the command without
control sequences: as the command, exactly if no word of it holds one. -/
theorem run_hands_shown (h_scratch : c.scratchDir = none)
    (h_keys : ∀ access secret, c.accessKey = some access → c.secretKey = some secret →
      access = "" ∨ secret = "") :
    ∃ outcome w, (c.runNoting settings).after ((site, []), []) = (outcome, w) ∧
      (c.run settings).after site = (outcome, w.1.1) ∧
      ∀ command ∈ w.1.2, ∃ readers filters closing,
        w.2.filterMap Query.built? = [readers] ∧ Implied readers filters ∧
        (c.shown filters).run settings = .ok closing ∧
        Text.ShellWords.split (Outcome.ofClosing site closing).output =
          some (command.map Text.ControlSequence.plain) ∧
        (Text.ShellWords.split (Outcome.ofClosing site closing).output = some command ↔
          ∀ word ∈ command, ¬Text.ControlSequence.HoldsSequence word.toList) := by
  rcases h_after : (c.runNoting settings).after ((site, []), []) with ⟨outcome, w⟩
  have h_noted := notedRun_of_after h_after
  refine ⟨outcome, w, rfl, h_noted.after_eq, fun command h_command => ?_⟩
  obtain ⟨source, later, h_read, h_trust, h_handing⟩ := h_noted.handing h_scratch h_keys h_command
  obtain ⟨readers, filters, h_built, h_implied, h_run⟩ :=
    shown_of_handing h_read h_trust h_handing h_command
  have h_split := split_output site command
  refine ⟨readers, filters, _, h_built, h_implied, h_run, h_split, ?_⟩
  rw [h_split, Option.some_inj]
  exact Text.ControlSequence.map_plain_eq_self_iff command

/-- A site where a compressed image is to be had. -/
def gzipThere : Site where
  tree := {}
  now := ⟨2025, 1, 1, 0, 0, 0, 0⟩
  line := { replies :=
    [.response { status := 200, headers := [], body := { pieces := [.data [0x1F, 0x8B]] } }] }

/-- The command for a file with an apostrophe and blanks in its name is shown as it is run. -/
theorem gzip_shown_as_run :
    let c : ImportCommand := { endpoint := "https://h/d.img.gz", destination := "/it's a disk.img" }
    ∃ outcome w command filters closing,
      (c.runNoting {}).after ((gzipThere, []), []) = (outcome, w) ∧ w.1.2 = [command] ∧
      (c.shown filters).run {} = .ok closing ∧
      Text.ShellWords.split (Outcome.ofClosing gzipThere closing).output = some command := by
  intro c
  have h_plain : ((c.runNoting {}).after ((gzipThere, []), [])).2.1.2.map
      (fun command => decide (command.map Text.ControlSequence.plain = command)) = [true] := by
    decide +kernel
  obtain ⟨outcome, w, h_after, -, h_shown⟩ := run_hands_shown c {} gzipThere rfl nofun
  rw [h_after] at h_plain
  obtain ⟨command, h_handed, h_same⟩ := List.map_eq_singleton_iff.mp h_plain
  have h_mem : command ∈ w.1.2 := by
    rw [h_handed]
    exact List.mem_singleton_self command
  obtain ⟨readers, filters, closing, -, -, h_run, -, h_split⟩ := h_shown command h_mem
  refine ⟨outcome, w, command, filters, closing, h_after, h_handed, h_run, h_split.mpr ?_⟩
  exact (Text.ControlSequence.map_plain_eq_self_iff command).mp (of_decide_eq_true h_same)

/-- A control sequence in the name of a file is run, and not shown. -/
theorem sequence_run_not_shown :
    let c : ImportCommand := { endpoint := "http://h/d", destination := "a\x1b[0mb" }
    let settings : Settings := { nbdkit := "nbdkit", qemuImg := "qemu" }
    let words := ["nbdkit", "-U", "-", "-r", "curl", "--verbose", "http://h/d", "--filter=gzip",
      "--run"]
    ((c.runNoting settings).after ((gzipThere, []), [])).2.1.2 =
        [words ++ ["qemu convert -p $nbd -t none -O raw 'a\x1b[0mb'"]] ∧
      (((c.shown [.gzip]).run settings).map fun closing =>
        Text.ShellWords.split (Outcome.ofClosing gzipThere closing).output).toOption =
        some (some (words ++ ["qemu convert -p $nbd -t none -O raw 'ab'"])) := by
  decide +kernel

end ImportCommand

end Cli

end ImageIntake
