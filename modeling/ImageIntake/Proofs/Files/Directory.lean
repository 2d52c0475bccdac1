/-
  ImageIntake.Proofs.Files.Directory

  The entries of a directory.  A walk that comes to a directory meets directories and
  links only on its way (`Tree.ComesTo`).  So it comes there still when something else is
  put or taken away (`Tree.ComesTo.of_keeps`), and with one name behind it, it comes to
  the entry of that name (`Tree.ComesTo.walk_concat`, hence `Tree.resolve_taken` and
  `Tree.resolve_free`), unless the name or the text is too long or holds a NUL.
-/

import ImageIntake.Proofs.Files.Plain
import ImageIntake.Proofs.Files.Removal

namespace ImageIntake.Files

/-- Whether a walk can go on from the node. -/
def Node.leadsOn : Node → Bool
  | .directory _ => true
  | .link _ => true
  | _ => false

namespace Tree

/-! ## What stands where -/

theorem find?_put_self (tree : Tree) {place : Place} (h : place ≠ []) (node : Node) :
    (tree.put place node).find? place = some node := by
  unfold find? put
  rw [if_neg h, List.lookup_append, lookup_filter_self, Option.none_or, List.lookup_cons,
    beq_self_eq_true]

theorem find?_put_of_ne (tree : Tree) {place other : Place} (h : other ≠ place) (node : Node) :
    (tree.put place node).find? other = tree.find? other := by
  unfold find? put
  rw [List.lookup_append, lookup_filter_of_ne h, List.lookup_cons, beq_false_of_ne h,
    List.lookup_nil, Option.or_none]

/-- What is put at a place takes the place of what was put there before. -/
theorem put_put (tree : Tree) (place : Place) (node other : Node) :
    (tree.put place node).put place other = tree.put place other := by
  unfold put
  simp [List.filter_append, List.filter_filter]

/-- The names in a directory are those that something stands at. -/
theorem mem_namesIn_iff {tree : Tree} {place : Place} {name : Name} :
    name ∈ tree.namesIn place ↔ ∃ node, tree.find? (place ++ [name]) = some node := by
  have h_some : place ++ [name] ≠ [] := by simp
  have h_key (entry : Place × Node) :
      (if entry.1 ≠ [] ∧ entry.1.dropLast = place then entry.1.getLast? else none) = some name ↔
        place ++ [name] = entry.1 := by
    constructor
    · intro h
      split at h
      next h_place =>
        obtain ⟨front, h_front⟩ := List.getLast?_eq_some_iff.mp h
        rw [h_front, List.dropLast_concat] at h_place
        rw [h_front, h_place.2]
      next => cases h
    · intro h
      rw [← h, if_pos ⟨h_some, List.dropLast_concat⟩, List.getLast?_concat]
  unfold namesIn find?
  rw [if_neg h_some, List.mem_filterMap]
  simp only [h_key]
  constructor
  · rintro ⟨⟨_, node⟩, h_mem, rfl⟩
    cases h_lookup : tree.entries.lookup (place ++ [name]) with
    | some found => exact ⟨found, rfl⟩
    | none =>
      have h_other := List.lookup_eq_none_iff.mp h_lookup _ h_mem
      exact absurd rfl (bne_iff_ne.mp h_other)
  · rintro ⟨node, h_lookup⟩
    obtain ⟨front, back, h_entries, -⟩ := List.lookup_eq_some_iff.mp h_lookup
    refine ⟨(place ++ [name], node), ?_, rfl⟩
    rw [h_entries]
    simp

/-- Whether no place is listed twice. -/
def Distinct (tree : Tree) : Prop := (tree.entries.map (·.1)).Nodup

theorem Distinct.remove {tree : Tree} (h : tree.Distinct) (place : Place) :
    (tree.remove place).Distinct :=
  h.sublist (List.filter_sublist.map _)

theorem Distinct.put {tree : Tree} (h : tree.Distinct) (place : Place) (node : Node) :
    (tree.put place node).Distinct := by
  have h_others := h.remove place
  unfold Distinct Tree.put
  rw [List.map_append, List.nodup_append]
  refine ⟨h_others, by simp, fun other h_other new h_new => ?_⟩
  obtain ⟨entry, h_entry, rfl⟩ := List.mem_map.mp h_other
  rw [List.map_singleton, List.mem_singleton] at h_new
  rw [h_new]
  exact of_decide_eq_true (List.mem_filter.mp h_entry).2

theorem Distinct.namesIn {tree : Tree} (h : tree.Distinct) (place : Place) :
    (tree.namesIn place).Nodup := by
  have h_names : tree.namesIn place = (tree.entries.map (·.1)).filterMap fun other =>
      if other ≠ [] ∧ other.dropLast = place then other.getLast? else none := by
    rw [List.filterMap_map]
    rfl
  rw [h_names]
  refine List.Pairwise.filterMap _ (fun first second h_ne name h_first other h_second => ?_) h
  rintro rfl
  refine h_ne ?_
  split at h_first
  next h_one =>
    split at h_second
    next h_two =>
      obtain ⟨front, rfl⟩ := List.getLast?_eq_some_iff.mp h_first
      obtain ⟨back, rfl⟩ := List.getLast?_eq_some_iff.mp h_second
      rw [List.dropLast_concat] at h_one h_two
      rw [h_one.2, h_two.2]
    next => cases h_second
  next => cases h_first

/-! ## Along a path into a directory -/

section

variable {tree : Tree} {last : Bool} {links : Nat} {place : Place} {step : Name} {rest : List Name}
  {stamp : Stamp} (h_here : tree.find? place = some (.directory stamp))

include h_here

theorem walk_dot :
    tree.walk last links place (['.'] :: rest) = tree.walk last links place rest := by
  obtain ⟨onward, h_walk⟩ := walk_eq_follow tree last links
  rw [h_walk, follow, h_here]
  exact if_pos rfl

theorem walk_up : tree.walk last links place (['.', '.'] :: rest) =
    tree.walk last links place.dropLast rest := by
  obtain ⟨onward, h_walk⟩ := walk_eq_follow tree last links
  rw [h_walk, follow, h_here]
  dsimp only
  rw [if_neg (by decide), if_pos rfl]

variable (h_step : step ≠ ['.'] ∧ step ≠ ['.', '.'])

include h_step

theorem walk_of_nameTooLong (h_length : nameLimit < (Text.utf8 (String.ofList step)).length) :
    tree.walk last links place (step :: rest) = .error .nameTooLong := by
  obtain ⟨onward, h_walk⟩ := walk_eq_follow tree last links
  rw [h_walk, follow, h_here]
  simp only [h_step, h_length, if_false, if_true]

variable (h_length : (Text.utf8 (String.ofList step)).length ≤ nameLimit)

include h_length

theorem walk_onto_nothing (h_next : tree.find? (place ++ [step]) = none) :
    tree.walk last links place [step] = .ok (.free (place ++ [step])) := by
  obtain ⟨onward, h_walk⟩ := walk_eq_follow tree last links
  rw [h_walk, follow, h_here]
  simp only [h_step, Nat.not_lt.mpr h_length, h_next, if_false, if_true]

/-- A walk goes on from all but a link; only from a directory it gets any further. -/
theorem walk_into {node : Node} (h_next : tree.find? (place ++ [step]) = some node)
    (h_link : ∀ target, node ≠ .link target) :
    tree.walk last links place (step :: rest) = tree.walk last links (place ++ [step]) rest := by
  obtain ⟨onward, h_walk⟩ := walk_eq_follow tree last links
  rw [h_walk, follow, h_here]
  simp only [h_step, Nat.not_lt.mpr h_length, h_next, if_false]

end

/-- Whether the walk along a path comes to a place, with so many links left to be followed. -/
inductive ComesTo (tree : Tree) (dest : Place) (left : Nat) : Nat → Place → List Name → Prop where
  | here : ComesTo tree dest left left dest []
  | dot {links : Nat} {place : Place} {rest : List Name} {stamp : Stamp}
      (h_here : tree.find? place = some (.directory stamp))
      (h : ComesTo tree dest left links place rest) :
      ComesTo tree dest left links place (['.'] :: rest)
  | up {links : Nat} {place : Place} {rest : List Name} {stamp : Stamp}
      (h_here : tree.find? place = some (.directory stamp))
      (h : ComesTo tree dest left links place.dropLast rest) :
      ComesTo tree dest left links place (['.', '.'] :: rest)
  | into {links : Nat} {place : Place} {step : Name} {rest : List Name} {stamp written : Stamp}
      (h_here : tree.find? place = some (.directory stamp))
      (h_step : step ≠ ['.'] ∧ step ≠ ['.', '.'])
      (h_length : (Text.utf8 (String.ofList step)).length ≤ nameLimit)
      (h_next : tree.find? (place ++ [step]) = some (.directory written))
      (h : ComesTo tree dest left links (place ++ [step]) rest) :
      ComesTo tree dest left links place (step :: rest)
  | along {links : Nat} {place : Place} {step : Name} {rest : List Name} {stamp : Stamp}
      {target : String} (h_here : tree.find? place = some (.directory stamp))
      (h_step : step ≠ ['.'] ∧ step ≠ ['.', '.'])
      (h_length : (Text.utf8 (String.ofList step)).length ≤ nameLimit)
      (h_next : tree.find? (place ++ [step]) = some (.link target))
      (h : ComesTo tree dest left links (origin target.toList place)
        (steps target.toList ++ rest)) :
      ComesTo tree dest left (links + 1) place (step :: rest)

/-- Whether another tree has all directories and links where a tree has them. -/
structure Keeps (tree after : Tree) : Prop where
  home : after.home = tree.home
  find? : ∀ place node, tree.find? place = some node → node.leadsOn = true →
    after.find? place = some node

variable {tree after : Tree} {dest : Place} {left links : Nat} {start : Place} {path : List Name}
  {stamp : Stamp}

/-- A walk to a directory, as far as it is followed at once, starts at one. -/
theorem directory_of_follow {last : Bool} {onward : Place → List Name → Except Refusal Target}
    (h : tree.follow last onward start path = .ok (.taken dest (.directory stamp))) :
    ∃ written, tree.find? start = some (.directory written) := by
  cases path with
  | nil =>
    rw [follow] at h
    split at h
    next h_here =>
      cases h
      exact ⟨stamp, h_here⟩
    next => cases h
  | cons step rest =>
    rw [follow] at h
    split at h
    next h_here => exact ⟨_, h_here⟩
    next => cases h
    next => cases h

/-- It comes there if a walk does from each link on. -/
theorem comesTo_of_follow {onward : Place → List Name → Except Refusal Target}
    (h_onward : ∀ start path, onward start path = .ok (.taken dest (.directory stamp)) →
      ∃ left fewer, links = fewer + 1 ∧ tree.ComesTo dest left fewer start path)
    (h : tree.follow true onward start path = .ok (.taken dest (.directory stamp))) :
    ∃ left, tree.ComesTo dest left links start path := by
  generalize h_last : true = last at h
  fun_induction follow tree last onward start path with
  | case1 =>
    cases h
    exact ⟨links, .here⟩
  | case3 _ _ _ h_here ih =>
    obtain ⟨left, h_rest⟩ := ih h
    exact ⟨left, .dot h_here h_rest⟩
  | case4 _ _ _ h_here _ ih =>
    obtain ⟨left, h_rest⟩ := ih h
    exact ⟨left, .up h_here h_rest⟩
  | case8 _ _ _ _ _ _ _ _ _ _ _ h_stop => exact absurd (h_last.trans h_stop.2) (by decide)
  | case9 _ _ _ _ h_here h_dot h_dots h_length _ _ h_next =>
    obtain ⟨left, fewer, rfl, h_rest⟩ := h_onward _ _ h
    exact ⟨left, .along h_here ⟨h_dot, h_dots⟩ (Nat.not_lt.mp h_length) h_next h_rest⟩
  | case10 _ _ _ _ h_here h_dot h_dots h_length _ _ _ h_next ih =>
    obtain ⟨left, h_rest⟩ := ih h
    obtain ⟨written, h_directory⟩ := directory_of_follow h
    exact ⟨left, .into h_here ⟨h_dot, h_dots⟩ (Nat.not_lt.mp h_length) h_directory h_rest⟩
  | _ => cases h

theorem comesTo_of_walk
    (h : tree.walk true links start path = .ok (.taken dest (.directory stamp))) :
    ∃ left, tree.ComesTo dest left links start path := by
  induction links generalizing start path with
  | zero =>
    refine comesTo_of_follow (fun _ _ h_onward => ?_) h
    cases h_onward
  | succ links ih =>
    refine comesTo_of_follow (fun _ _ h_onward => ?_) h
    obtain ⟨left, h_rest⟩ := ih h_onward
    exact ⟨left, links, rfl, h_rest⟩

namespace ComesTo

variable (h : tree.ComesTo dest left links start path)

include h

/-- With one step more, the walk goes on from where it comes to. -/
theorem walk_concat (last : Bool) (step : Name) :
    tree.walk last links start (path ++ [step]) = tree.walk last left dest [step] := by
  induction h with
  | here => rfl
  | dot h_here _ ih => rwa [List.cons_append, walk_dot h_here]
  | up h_here _ ih => rwa [List.cons_append, walk_up h_here]
  | into h_here h_step h_length h_next _ ih =>
    rwa [List.cons_append, walk_into h_here h_step h_length h_next (by simp)]
  | along h_here h_step h_length h_next _ ih =>
    rw [List.cons_append, walk_through_link h_here h_step h_length h_next (by simp)]
    rwa [List.append_assoc] at ih

theorem walk_eq (h_dest : tree.find? dest = some (.directory stamp)) :
    tree.walk true links start path = .ok (.taken dest (.directory stamp)) := by
  induction h with
  | here =>
    obtain ⟨onward, h_walk⟩ := walk_eq_follow tree true left
    rw [h_walk, follow, h_dest]
  | dot h_here _ ih => rwa [walk_dot h_here]
  | up h_here _ ih => rwa [walk_up h_here]
  | into h_here h_step h_length h_next _ ih =>
    rwa [walk_into h_here h_step h_length h_next (by simp)]
  | along h_here h_step h_length h_next _ ih =>
    rwa [walk_through_link h_here h_step h_length h_next (by simp)]

/-- No walk to a directory comes past anything but directories and links. -/
theorem of_keeps (h_keeps : tree.Keeps after) : after.ComesTo dest left links start path := by
  induction h with
  | here => exact .here
  | dot h_here _ ih => exact .dot (h_keeps.find? _ _ h_here rfl) ih
  | up h_here _ ih => exact .up (h_keeps.find? _ _ h_here rfl) ih
  | into h_here h_step h_length h_next _ ih =>
    exact .into (h_keeps.find? _ _ h_here rfl) h_step h_length (h_keeps.find? _ _ h_next rfl) ih
  | along h_here h_step h_length h_next _ ih =>
    exact .along (h_keeps.find? _ _ h_here rfl) h_step h_length (h_keeps.find? _ _ h_next rfl) ih

end ComesTo

/-! ## Entries of a directory -/

/-- The path of an entry of a directory. -/
def entryPath (dir : String) (name : Name) : String :=
  pathBelow (plainPath dir) (String.ofList name)

/-- Whether a name can be that of an entry. -/
structure IsEntry (name : Name) : Prop where
  slash : '/' ∉ name
  named : Path.isName name = true
  dots : name ≠ ['.', '.']

theorem IsEntry.step {name : Name} (h : IsEntry name) : name ≠ ['.'] ∧ name ≠ ['.', '.'] := by
  refine ⟨?_, h.dots⟩
  rintro rfl
  exact absurd h.named (by decide)

/-- Whether the system follows the path of an entry. -/
structure Fits (dir : String) (name : Name) : Prop where
  nul : '\x00' ∉ (entryPath dir name).toList
  path : (Text.utf8 (entryPath dir name)).length ≤ pathLimit
  name : (Text.utf8 (String.ofList name)).length ≤ nameLimit

/-- Whether a path, in its plainest form, leads to a directory in some place. -/
def Leads (tree : Tree) (dir : String) (dest : Place) : Prop :=
  ∃ stamp, tree.resolve true (plainPath dir) = .ok (.taken dest (.directory stamp))

/-- A path that leads somewhere is walked along. -/
theorem walk_of_resolve {last : Bool} {path : String} {target : Target}
    (h : tree.resolve last path = .ok target) :
    '\x00' ∉ path.toList ∧ (Text.utf8 path).length ≤ pathLimit ∧ path ≠ "" ∧
      tree.walk last linkLimit (origin path.toList tree.home) (steps path.toList) = .ok target := by
  unfold resolve at h
  dsimp only at h
  split at h
  next => cases h
  next h_nul =>
    split at h
    next => cases h
    next h_some =>
      split at h
      next => cases h
      next h_length =>
        refine ⟨fun h_mem => h_nul (List.contains_iff_mem.mpr h_mem), Nat.not_lt.mp h_length,
          h_some, ?_⟩
        cases h_walk : tree.walk last linkLimit (origin path.toList tree.home)
            (steps path.toList) with
        | error refusal =>
          rw [h_walk] at h
          cases h
        | ok found =>
          rw [h_walk] at h
          exact congrArg Except.ok (Except.ok.inj h)

theorem resolve_of_walk {last : Bool} {path : String} (h_nul : '\x00' ∉ path.toList)
    (h_length : (Text.utf8 path).length ≤ pathLimit) (h_some : path ≠ "") :
    tree.resolve last path =
      (tree.walk last linkLimit (origin path.toList tree.home) (steps path.toList)).mapError
        (·.fault path) := by
  have h_contains : path.toList.contains '\x00' = false := by
    rw [List.contains_eq_mem]
    exact decide_eq_false h_nul
  exact resolve_eq_walk h_contains h_some h_length

namespace ComesTo

/-- A walk along the text of a path is one along its names. -/
theorem names {p : Path} (h_plain : p.Plain)
    (h : tree.ComesTo dest left links start (steps p.chars)) :
    tree.ComesTo dest left links start p.names := by
  by_cases h_none : p.names = []
  · rcases Path.steps_chars_of_nil h_none with h_steps | h_steps
    · rwa [h_steps, ← h_none] at h
    · rw [h_steps] at h
      rw [h_none]
      cases h with
      | dot _ h_rest => exact h_rest
      | into _ h_step => exact absurd rfl h_step.1
      | along _ h_step => exact absurd rfl h_step.1
  · rwa [Path.steps_chars h_plain h_none] at h

end ComesTo

namespace Leads

variable {dir : String} {name : Name} (h : tree.Leads dir dest)

include h

theorem directory : ∃ stamp, tree.find? dest = some (.directory stamp) := by
  obtain ⟨stamp, h_there⟩ := h
  obtain ⟨-, -, -, h_walk⟩ := walk_of_resolve h_there
  exact ⟨stamp, find?_of_walk h_walk⟩

/-- A path goes on leading to a directory as long as directories and links stay. -/
theorem of_keeps (h_keeps : tree.Keeps after) : after.Leads dir dest := by
  obtain ⟨stamp, h_there⟩ := h
  obtain ⟨h_nul, h_length, h_some, h_walk⟩ := walk_of_resolve h_there
  obtain ⟨left, h_comes⟩ := comesTo_of_walk h_walk
  have h_dest := h_keeps.find? _ _ (find?_of_walk h_walk) rfl
  refine ⟨stamp, ?_⟩
  rw [resolve_of_walk h_nul h_length h_some, h_keeps.home,
    (h_comes.of_keeps h_keeps).walk_eq h_dest]
  rfl

/-- The path of an entry leads where the name of the entry leads from its directory. -/
theorem resolve_entry (h_entry : IsEntry name) (h_nul : '\x00' ∉ (entryPath dir name).toList)
    (h_length : (Text.utf8 (entryPath dir name)).length ≤ pathLimit) (last : Bool) :
    ∃ left, tree.resolve last (entryPath dir name) =
      (tree.walk last left dest [name]).mapError (·.fault (entryPath dir name)) := by
  obtain ⟨stamp, h_there⟩ := h
  obtain ⟨-, -, -, h_walk⟩ := walk_of_resolve h_there
  obtain ⟨left, h_comes⟩ := comesTo_of_walk h_walk
  have h_base := Path.plain_read dir
  have h_read : Path.read (plainPath dir) = Path.read dir := Path.read_print h_base
  have h_chars : (plainPath dir).toList = (Path.read dir).chars := String.toList_ofList
  obtain ⟨below, h_below⟩ : ∃ below, below =
      Path.mk (Path.read dir).start ((Path.read dir).names ++ [name]) := ⟨_, rfl⟩
  have h_plain : below.Plain := by
    rw [h_below]
    intro part h_mem
    rcases List.mem_append.mp h_mem with h_mem | h_mem
    · exact h_base part h_mem
    · rw [List.mem_singleton.mp h_mem]
      exact ⟨h_entry.slash, h_entry.named⟩
  have h_text : (entryPath dir name).toList = below.chars := by
    rw [entryPath, pathBelow_name _ h_entry.slash h_entry.named, h_read, ← h_below, Path.print,
      String.toList_ofList]
  have h_origin : origin below.chars tree.home = origin (plainPath dir).toList tree.home := by
    rw [h_chars, Path.origin_chars h_plain, Path.origin_chars h_base, h_below]
  have h_steps : steps below.chars = (Path.read dir).names ++ [name] := by
    have h_some : below.names ≠ [] := by simp [h_below]
    rw [Path.steps_chars h_plain h_some, h_below]
  rw [h_chars] at h_comes
  refine ⟨left, ?_⟩
  rw [resolve_of_walk h_nul h_length (pathBelow_ne_empty _ _), h_text, h_origin, h_steps, h_chars,
    (h_comes.names h_base).walk_concat]

/-- An entry whose path is followed has a name that is short enough as well. -/
theorem fits (h_entry : IsEntry name) {last : Bool} {target : Target}
    (h_target : tree.resolve last (entryPath dir name) = .ok target) : Fits dir name := by
  obtain ⟨h_nul, h_length, -, -⟩ := walk_of_resolve h_target
  refine ⟨h_nul, h_length, Nat.not_lt.mp fun h_long => ?_⟩
  obtain ⟨left, h_resolve⟩ := h.resolve_entry h_entry h_nul h_length last
  obtain ⟨stamp, h_dest⟩ := h.directory
  rw [h_resolve, walk_of_nameTooLong h_dest h_entry.step h_long] at h_target
  cases h_target

variable (h_entry : IsEntry name) (h_fits : Fits dir name) (last : Bool)

include h_entry h_fits

theorem resolve_taken {node : Node} (h_node : tree.find? (dest ++ [name]) = some node)
    (h_link : ∀ target, node ≠ .link target) :
    tree.resolve last (entryPath dir name) = .ok (.taken (dest ++ [name]) node) := by
  obtain ⟨left, h_resolve⟩ := h.resolve_entry h_entry h_fits.nul h_fits.path last
  obtain ⟨stamp, h_dest⟩ := h.directory
  rw [h_resolve, walk_onto h_dest h_entry.step h_fits.name h_node h_link]
  rfl

theorem resolve_free (h_none : tree.find? (dest ++ [name]) = none) :
    tree.resolve last (entryPath dir name) = .ok (.free (dest ++ [name])) := by
  obtain ⟨left, h_resolve⟩ := h.resolve_entry h_entry h_fits.nul h_fits.path last
  obtain ⟨stamp, h_dest⟩ := h.directory
  rw [h_resolve, walk_onto_nothing h_dest h_entry.step h_fits.name h_none]
  rfl

end Leads

end Tree

end ImageIntake.Files
