/-
  ImageIntake.Proofs.Conversion.ReadingBack

  Reading the argument vector of nbdkit back.  A vector is read by its shape: what it starts
  with, the certificate if there is one, the locator, filters, and the command to run
  (`Invocation.read?`).  A locator of the web is not taken for a certificate, for its text
  starts with its scheme.  So the vector of a request says which certificate, locator and
  filters it was made of, and, its command being read as a shell reads it, which destination
  (`arguments_read_back`).
-/

import ImageIntake.Conversion.CommandLine
import ImageIntake.Proofs.Text.ShellReading
import ImageIntake.Proofs.Url.Apart
import ImageIntake.Proofs.Url.Parts
import ImageIntake.Source.Basic

namespace ImageIntake

open ImageIntake.Text

/-! ## Locators of the web -/

namespace Url

theorem scheme_of_withUserinfo {url changed : Url} {user password : String}
    (h_scheme : url.scheme ∈ webSchemes) (h : url.withUserinfo user password = .ok changed) :
    changed.scheme = url.scheme := by
  unfold withUserinfo reread at h
  dsimp only at h
  split at h
  · split at h
    · rw [(ofParts_eq_ok_iff.mp h).scheme]
      show asciiLower (String.ofList url.scheme.toList) = _
      rw [String.ofList_toList, asciiLower_web h_scheme]
    · cases h
  · cases h

theorem scheme_of_withKeys {url keyed : Url} {accessKey secretKey : Option String}
    (h_scheme : url.scheme ∈ webSchemes) (h : url.withKeys accessKey secretKey = .ok keyed) :
    keyed.scheme = url.scheme := by
  unfold withKeys at h
  split at h
  next access secret =>
    split at h
    · cases h_user : url.withUserinfo access secret with
      | error defect =>
        rw [h_user] at h
        cases h
      | ok changed =>
        rw [h_user] at h
        cases h
        exact scheme_of_withUserinfo h_scheme h_user
    · cases h
      rfl
  · cases h
    rfl

theorem print_of_web {url : Url} (h : url.scheme ∈ webSchemes) :
    ∃ rest, url.print.toList = 'h' :: rest := by
  have h_some : url.scheme ≠ "" := by
    intro h_empty
    rw [h_empty] at h
    exact absurd h (by decide)
  obtain ⟨rest, h_rest⟩ : ∃ rest, url.scheme.toList = 'h' :: rest := by
    rcases web_cases h with h_http | h_https
    · exact ⟨_, by rw [h_http]; rfl⟩
    · exact ⟨_, by rw [h_https]; rfl⟩
  unfold print
  rw [if_neg h_some]
  simp only [String.toList_append, h_rest, List.cons_append]
  exact ⟨_, rfl⟩

end Url

/-! ## Texts between marks -/

/-- What stands between a mark in front and one behind. -/
def between? (front back word : List Char) : Option (List Char) :=
  (word.dropPrefix? front).bind (·.dropSuffix? back)

theorem between?_append (front word back : List Char) :
    between? front back (front ++ word ++ back) = some word := by
  rw [between?, List.append_assoc, List.dropPrefix?_append_of_beq _ BEq.rfl, Option.bind_some]
  exact List.dropSuffix?_eq_some_iff.mpr ⟨back, rfl, BEq.rfl⟩

theorem between?_of_ne {c d : Char} (front back word : List Char) (h : d ≠ c) :
    between? (c :: front) back (d :: word) = none := by
  have h_differ : (d == c) = false := beq_eq_false_iff_ne.mpr h
  rw [between?, List.dropPrefix?, h_differ]
  rfl

namespace Conversion

/-! ## Vectors -/

/-- What the argument vector of nbdkit says. -/
structure Invocation where
  /-- The directory of the certificate to trust. -/
  certDir : Option String
  /-- The text of the locator. -/
  url : String
  filters : List Filter
  /-- The command to run once the device is there. -/
  command : String
deriving DecidableEq, Repr

namespace Invocation

/-- What a vector starts with. -/
def opening : List String := ["-U", "-", "-r", "curl", "--verbose"]

/-- Reads a word as the certificate to trust: the directory it is in. -/
def readTrust? (word : String) : Option String :=
  (between? "cainfo=".toList "/tls.crt".toList word.toList).map String.ofList

/-- Reads a word as a filter. -/
def readFilter? (word : String) : Option Filter :=
  (between? "--filter=".toList [] word.toList).bind (Filter.vocabulary.read? <| String.ofList ·)

/-- Reads filters as long as there are some. -/
def readFilters : List String → List Filter × List String
  | [] => ([], [])
  | word :: rest =>
    match readFilter? word with
    | some filter => (filter :: (readFilters rest).1, (readFilters rest).2)
    | none => ([], word :: rest)

/-- Reads what follows the certificate. -/
def readRest? (certDir : Option String) : List String → Option Invocation
  | [] => none
  | url :: rest =>
    match readFilters rest with
    | (filters, ["--run", command]) => some { certDir, url, filters, command }
    | _ => none

/-- Reads a vector by its shape. -/
def read? (words : List String) : Option Invocation :=
  match words.dropPrefix? opening with
  | some (word :: rest) =>
    match readTrust? word with
    | some dir => readRest? (some dir) rest
    | none => readRest? none (word :: rest)
  | _ => none

/-! ## Reading parts back -/

theorem readTrust?_certificate (dir : String) :
    readTrust? ("cainfo=" ++ dir ++ "/" ++ certificateName) = some dir := by
  have h_word : ("cainfo=" ++ dir ++ "/" ++ certificateName).toList =
      "cainfo=".toList ++ dir.toList ++ "/tls.crt".toList := by
    have h_name : "/".toList ++ certificateName.toList = "/tls.crt".toList := by decide
    simp only [String.toList_append, ← h_name, List.append_assoc]
  rw [readTrust?, h_word, between?_append, Option.map_some, String.ofList_toList]

theorem readTrust?_of_web {url : Url} (h : url.scheme ∈ Url.webSchemes) :
    readTrust? url.print = none := by
  obtain ⟨rest, h_print⟩ := Url.print_of_web h
  rw [readTrust?, h_print]
  exact congrArg (Option.map String.ofList) (between?_of_ne _ _ rest (by decide))

theorem readFilter?_word (filter : Filter) : readFilter? ("--filter=" ++ filter.word) = some filter := by
  cases filter <;> decide

theorem readFilters_append (filters : List Filter) {rest : List String}
    (h_rest : readFilters rest = ([], rest)) :
    readFilters (filters.map (fun filter => "--filter=" ++ filter.word) ++ rest) = (filters, rest) := by
  induction filters with
  | nil => exact h_rest
  | cons filter filters ih =>
    rw [List.map_cons, List.cons_append, readFilters, readFilter?_word, ih]

theorem readFilters_run (command : String) : readFilters ["--run", command] = ([], ["--run", command]) := by
  have h_run : readFilter? "--run" = none := by decide
  rw [readFilters, h_run]

end Invocation

/-! ## Requests -/

namespace Request

open Invocation ShellWords Source

theorem certificateArguments_eq (r : Request) : r.certificateArguments =
    ((trustOf r.certDir).map fun dir => "cainfo=" ++ dir ++ "/" ++ certificateName).toList := by
  unfold certificateArguments
  cases r.certDir with
  | none => rfl
  | some dir => by_cases h_dir : dir = "" <;> simp [trustOf, Option.filter, h_dir]

theorem scheme_of_effectiveUrl {r : Request} {url : Url} (h_scheme : r.source.scheme ∈ Url.webSchemes)
    (h : r.effectiveUrl = .ok url) : url.scheme ∈ Url.webSchemes := by
  unfold effectiveUrl at h
  split at h
  · cases h
    exact h_scheme
  · rw [Url.scheme_of_withKeys h_scheme h]
    exact h_scheme

/-- What the vector of a request is read as. -/
theorem read?_arguments {r : Request} {qemuImg : String} {words : List String}
    (h_scheme : r.source.scheme ∈ Url.webSchemes) (h : r.arguments qemuImg = .ok words) :
    ∃ url, r.effectiveUrl = .ok url ∧
      read? words = some ⟨trustOf r.certDir, url.print, r.filters, r.runCommand qemuImg⟩ := by
  unfold arguments at h
  cases h_url : r.effectiveUrl with
  | error fault =>
    rw [h_url] at h
    cases h
  | ok url =>
    refine ⟨url, rfl, ?_⟩
    have h_web := scheme_of_effectiveUrl h_scheme h_url
    have h_words : words = opening ++ (((trustOf r.certDir).map fun dir =>
        "cainfo=" ++ dir ++ "/" ++ certificateName).toList ++
        url.print :: (r.filterArguments ++ ["--run", r.runCommand qemuImg])) := by
      rw [h_url] at h
      cases h
      rw [certificateArguments_eq]
      -- There is no plugin but one.
      cases r.plugin
      simp [opening, Plugin.word, Plugin.vocabulary, Vocabulary.word]
    have h_rest (certDir : Option String) :
        readRest? certDir (url.print :: (r.filterArguments ++ ["--run", r.runCommand qemuImg])) =
          some ⟨certDir, url.print, r.filters, r.runCommand qemuImg⟩ := by
      rw [readRest?, filterArguments, readFilters_append r.filters (readFilters_run _)]
      rfl
    rw [h_words, read?, List.dropPrefix?_append_of_beq _ BEq.rfl]
    cases h_trust : trustOf r.certDir with
    | none =>
      show (match readTrust? url.print with | some _ => _ | none => _) = _
      rw [readTrust?_of_web h_web]
      exact h_rest none
    | some dir =>
      show (match readTrust? ("cainfo=" ++ dir ++ "/" ++ certificateName) with
        | some _ => _ | none => _) = _
      rw [readTrust?_certificate]
      exact h_rest (some dir)

/-- What follows the converter in the command of a request. -/
def copyCommand (r : Request) : String := " convert -p $nbd -t none -O raw " ++ quote r.dest

theorem runCommand_eq (r : Request) (qemuImg : String) :
    r.runCommand qemuImg = qemuImg ++ r.copyCommand := String.append_assoc

/-- The words in front of the destination, for a shell that expands nothing but the exported
device. -/
def copyWords : List (List Part) :=
  [literals "convert".toList, literals "-p".toList, [.parameter "nbd".toList], literals "-t".toList,
    literals "none".toList, literals "-O".toList, literals "raw".toList]

theorem read_copyCommand (r : Request) :
    read r.copyCommand = some (copyWords ++ [literals r.dest.toList]) := by
  have h_front : Reading.start.steps " convert -p $nbd -t none -O raw ".toList =
      some ⟨.within .plain, copyWords, none⟩ := by
    have h_line : " convert -p $nbd -t none -O raw " = String.ofList _ := rfl
    rw [h_line, String.toList_ofList]
    rfl
  exact read_append_quote r.dest h_front

theorem dest_of_copyCommand {r r' : Request} (h : r.copyCommand = r'.copyCommand) :
    r.dest = r'.dest := by
  have h_read := congrArg read h
  rw [read_copyCommand, read_copyCommand, Option.some_inj] at h_read
  have h_last : literals r.dest.toList = literals r'.dest.toList :=
    List.singleton_inj.mp (List.append_cancel_left h_read)
  have h_injective : Function.Injective Part.literal := fun _ _ h_part => Part.literal.inj h_part
  exact String.toList_inj.mp (List.map_injective_iff.mpr h_injective h_last)

/-- The vector of a request for a locator of the web can be read back: it says the certificate, the
locator that is in effect and the filters, and its command behind the converter's name is read as
the copy of the exported device to the destination, which is one word without anything to expand.
So another request has the same vector only if it says the same. -/
theorem arguments_read_back {r : Request} {qemuImg : String} {words : List String}
    (h_scheme : r.source.scheme ∈ Url.webSchemes) (h : r.arguments qemuImg = .ok words) :
    (∃ url rest, r.effectiveUrl = .ok url ∧
      read? words = some ⟨trustOf r.certDir, url.print, r.filters, qemuImg ++ rest⟩ ∧
      read rest = some (copyWords ++ [literals r.dest.toList])) ∧
    ∀ r' : Request, r'.source.scheme ∈ Url.webSchemes → r'.arguments qemuImg = .ok words →
      trustOf r'.certDir = trustOf r.certDir ∧
      r'.effectiveUrl.map Url.print = r.effectiveUrl.map Url.print ∧
      r'.filters = r.filters ∧ r'.dest = r.dest := by
  obtain ⟨url, h_url, h_read⟩ := read?_arguments h_scheme h
  rw [runCommand_eq] at h_read
  refine ⟨⟨url, r.copyCommand, h_url, h_read, r.read_copyCommand⟩, ?_⟩
  intro r' h_scheme' h'
  obtain ⟨url', h_url', h_read'⟩ := read?_arguments h_scheme' h'
  rw [runCommand_eq, h_read, Option.some_inj, Invocation.mk.injEq] at h_read'
  obtain ⟨h_trust, h_print, h_filters, h_command⟩ := h_read'
  refine ⟨h_trust.symm, ?_, h_filters.symm, ?_⟩
  · rw [h_url, h_url']
    exact congrArg Except.ok h_print.symm
  · have h_copy : r.copyCommand = r'.copyCommand := by
      rw [← String.toList_inj, String.toList_append, String.toList_append] at h_command
      exact String.toList_inj.mp (List.append_cancel_left h_command)
    exact (dest_of_copyCommand h_copy).symm

/-- A destination that a shell would take apart if it were not quoted. -/
theorem arguments_read_back_quoted :
    let r : Request := {
      source := { scheme := "https", host := "h", path := "/d" }, dest := "it's $x;\n", plugins := [],
      filters := [.xz, .gzip, .xz], certDir := some "/c", accessKey := none, secretKey := some "k",
      dest_ne_empty := by decide }
    ∃ words rest, r.arguments "q" = .ok words ∧
      read? words = some ⟨some "/c", "https://h/d", [.xz, .gzip, .xz], "q" ++ rest⟩ ∧
      read rest = some (copyWords ++ [literals "it's $x;\n".toList]) := by
  intro r
  have h_scheme : r.source.scheme ∈ Url.webSchemes := by decide
  have h_vector : r.arguments "q" = .ok _ := rfl
  obtain ⟨⟨url, rest, h_url, h_read, h_words⟩, -⟩ := arguments_read_back h_scheme h_vector
  have h_print : url.print = "https://h/d" := by
    rw [← Except.ok.inj h_url]
    decide
  rw [h_print] at h_read
  exact ⟨_, rest, rfl, h_read, h_words⟩

end Request

end Conversion

end ImageIntake
