/-
  ImageIntake.Proofs.Text.ShellReading

  Reading command lines in which parameters are expanded.  A word is read as its parts:
  characters that stand for themselves, and parameters outside quotes, whose values a shell
  puts there (`Part`).  The reader goes character by character (`Reading.step`), so that a
  line is read piece by piece.  It reads what `split` reads in the same way
  (`read_of_split`), and whatever follows, a quoted word as nothing but its characters
  (`steps_spelled`).
-/

import ImageIntake.Proofs.Text.ShellWords

namespace ImageIntake.Text.ShellWords

/-! ## Parts of words -/

/-- A part of a shell word. -/
inductive Part where
  /-- A character that stands for itself. -/
  | literal (c : Char)
  /-- A parameter outside quotes; what its value holds may be split into words again. -/
  | parameter (name : List Char)
deriving DecidableEq, Repr

/-- A word that holds nothing but characters. -/
def literals (word : List Char) : List Part := word.map .literal

/-- Characters a parameter's name starts with. -/
def startsName (c : Char) : Bool := c.isAlpha || c == '_'

/-- Characters a parameter's name goes on with. -/
def continuesName (c : Char) : Bool := c.isAlphanum || c == '_'

/-- Where a reader of parts stands. -/
inductive Place where
  | within (mode : Mode)
  /-- Behind a dollar sign. -/
  | dollar
  /-- In the name of a parameter. -/
  | name (name : List Char)
  /-- Behind the line feed that ends the line. -/
  | ended
deriving DecidableEq, Repr

/-- A line that is read in part: the words that are complete, and the current one if one has
begun. -/
structure Reading where
  place : Place
  words : List (List Part)
  word : Option (List Part)
deriving DecidableEq, Repr

namespace Reading

/-- Before the first character. -/
def start : Reading := ⟨.within .plain, [], none⟩

/-- The words so far, with the current one. -/
def all (r : Reading) : List (List Part) := r.words ++ r.word.toList

/-- The current word with one part more, from where reading goes on in some mode. -/
def add (r : Reading) (mode : Mode) (part : Part) : Reading :=
  ⟨.within mode, r.words, some (r.word.getD [] ++ [part])⟩

/-- Reads a character outside quotes. -/
def stepPlain (r : Reading) (c : Char) : Option Reading :=
  if c = ' ' ∨ c = '\t' then some ⟨.within .plain, r.all, none⟩
  else if c = '\n' then some { r with place := .ended }
  else if c = '\'' then some ⟨.within .single, r.words, some (r.word.getD [])⟩
  else if c = '"' then some ⟨.within .double, r.words, some (r.word.getD [])⟩
  else if c = '\\' then some { r with place := .within .escaped }
  else if c = '$' then some { r with place := .dollar }
  else if isSpecial c then none
  else some (r.add .plain (.literal c))

/-- Reads a character.  There is no answer where a shell would do anything but read words and
expand parameters outside quotes. -/
def step (r : Reading) (c : Char) : Option Reading :=
  match r.place with
  | .within .plain => r.stepPlain c
  | .within .escaped =>
    if c = '\n' then some { r with place := .within .plain } else some (r.add .plain (.literal c))
  | .within .single =>
    if c = '\'' then some { r with place := .within .plain } else some (r.add .single (.literal c))
  | .within .double =>
    if c = '"' then some { r with place := .within .plain }
    else if c = '\\' then some { r with place := .within .doubleEscaped }
    else if isSpecialInside c then none
    else some (r.add .double (.literal c))
  | .within .doubleEscaped =>
    if c = '\n' then some { r with place := .within .double }
    else if isSpecialInside c then some (r.add .double (.literal c))
    else some ((r.add .double (.literal '\\')).add .double (.literal c))
  | .dollar => if startsName c then some { r with place := .name [c] } else none
  | .name name =>
    if continuesName c then some { r with place := .name (name ++ [c]) }
    else (r.add .plain (.parameter name)).stepPlain c
  | .ended => none

/-- The words of a line that was read to its end. -/
def finish (r : Reading) : Option (List (List Part)) :=
  match r.place with
  | .within .plain | .ended => some r.all
  | .name name => some (r.add .plain (.parameter name)).all
  | .within _ | .dollar => none

/-- Reads characters. -/
def steps (r : Reading) (cs : List Char) : Option Reading := cs.foldlM step r

theorem steps_cons (r : Reading) (c : Char) (cs : List Char) :
    r.steps (c :: cs) = (r.step c).bind (·.steps cs) := List.foldlM_cons

theorem steps_append (r : Reading) (front back : List Char) :
    r.steps (front ++ back) = (r.steps front).bind (·.steps back) := List.foldlM_append

end Reading

/-- The words of a line, with the parameters that are expanded in them. -/
def read (line : String) : Option (List (List Part)) :=
  (Reading.start.steps line.toList).bind Reading.finish

/-! ## What is split is read -/

/-- What a reader that splits a line stands at; it keeps its current word reversed. -/
def readingOf (mode : Mode) (words : List (List Part)) (word : Option (List Char)) : Reading :=
  ⟨.within mode, words, word.map fun cs => literals cs.reverse⟩

section

variable {words : List (List Part)} {word : Option (List Char)}

theorem add_readingOf (mode mode' : Mode) (c : Char) :
    (readingOf mode words word).add mode' (.literal c) = readingOf mode' words (push c word) := by
  cases word with
  | none => rfl
  | some cs => simp [Reading.add, readingOf, push, literals]

theorem all_readingOf (mode : Mode) :
    (readingOf mode words word).all =
      words ++ (word.toList.map List.reverse).map literals := by
  cases word <;> rfl

theorem begin_readingOf (mode mode' : Mode) :
    (⟨.within mode', (readingOf mode words word).words,
      some ((readingOf mode words word).word.getD [])⟩ : Reading) =
      readingOf mode' words (some (word.getD [])) := by
  cases word <;> rfl

/-- How reading goes on where splitting does: from somewhere else, with the words that this has
completed, or to the end of the line. -/
inductive GoesOn (words : List (List Part)) (r : Option Reading) (rest : List Char) :
    List (List Char) → Prop where
  | on {mode : Mode} {word : Option (List Char)} {more : List (List Char)}
      (h : r = some (readingOf mode words word)) (h_rest : splitFrom mode word rest = some more) :
      GoesOn words r rest more
  | next {done more : List (List Char)}
      (h : r = some (readingOf .plain (words ++ done.map literals) none))
      (h_rest : splitFrom .plain none rest = some more) : GoesOn words r rest (done ++ more)
  | ended {more : List (List Char)} {last : Reading} (h : r = some last) (h_rest : rest = [])
      (h_last : last.finish = some (words ++ more.map literals)) : GoesOn words r rest more

section

variable {c : Char} {rest : List Char} {more : List (List Char)}

theorem goesOn_plain (h : splitFrom .plain word (c :: rest) = some more) :
    GoesOn words ((readingOf .plain words word).step c) rest more := by
  have h_step : (readingOf .plain words word).step c =
    (readingOf .plain words word).stepPlain c := rfl
  rw [h_step, Reading.stepPlain]
  rw [splitFrom] at h
  by_cases h_blank : c = ' ' ∨ c = '\t'
  · rw [if_pos h_blank] at h ⊢
    obtain ⟨others, h_others, rfl⟩ := Option.map_eq_some_iff.mp h
    rw [all_readingOf]
    exact .next rfl h_others
  rw [if_neg h_blank] at h ⊢
  by_cases h_feed : c = '\n'
  · rw [if_pos h_feed] at h ⊢
    cases h_rest : rest.isEmpty with
    | false =>
      rw [h_rest] at h
      cases h
    | true =>
      rw [h_rest] at h
      cases h
      exact .ended rfl (List.isEmpty_iff.mp h_rest) (congrArg some (all_readingOf .plain))
  rw [if_neg h_feed] at h ⊢
  by_cases h_mark : c = '\''
  · rw [if_pos h_mark] at h ⊢
    rw [begin_readingOf]
    exact .on rfl h
  rw [if_neg h_mark] at h ⊢
  by_cases h_quote : c = '"'
  · rw [if_pos h_quote] at h ⊢
    rw [begin_readingOf]
    exact .on rfl h
  rw [if_neg h_quote] at h ⊢
  by_cases h_slash : c = '\\'
  · rw [if_pos h_slash] at h ⊢
    exact .on rfl h
  rw [if_neg h_slash] at h ⊢
  by_cases h_special : isSpecial c = true
  · rw [if_pos h_special] at h
    cases h
  have h_dollar : c ≠ '$' := by
    rintro rfl
    exact h_special (by decide)
  rw [if_neg h_special] at h ⊢
  rw [if_neg h_dollar, add_readingOf]
  exact .on rfl h

theorem goesOn_escaped (h : splitFrom .escaped word (c :: rest) = some more) :
    GoesOn words ((readingOf .escaped words word).step c) rest more := by
  show GoesOn words (if c = '\n' then _ else _) rest more
  rw [splitFrom] at h
  by_cases h_feed : c = '\n'
  · rw [if_pos h_feed] at h ⊢
    exact .on rfl h
  rw [if_neg h_feed] at h ⊢
  rw [add_readingOf]
  exact .on rfl h

theorem goesOn_single (h : splitFrom .single word (c :: rest) = some more) :
    GoesOn words ((readingOf .single words word).step c) rest more := by
  show GoesOn words (if c = '\'' then _ else _) rest more
  rw [splitFrom] at h
  by_cases h_mark : c = '\''
  · rw [if_pos h_mark] at h ⊢
    exact .on rfl h
  rw [if_neg h_mark] at h ⊢
  rw [add_readingOf]
  exact .on rfl h

theorem goesOn_double (h : splitFrom .double word (c :: rest) = some more) :
    GoesOn words ((readingOf .double words word).step c) rest more := by
  show GoesOn words (if c = '"' then _ else if c = '\\' then _ else _) rest more
  rw [splitFrom] at h
  by_cases h_quote : c = '"'
  · rw [if_pos h_quote] at h ⊢
    exact .on rfl h
  rw [if_neg h_quote] at h ⊢
  by_cases h_slash : c = '\\'
  · rw [if_pos h_slash] at h ⊢
    exact .on rfl h
  rw [if_neg h_slash] at h ⊢
  by_cases h_special : isSpecialInside c = true
  · rw [if_pos h_special] at h
    cases h
  rw [if_neg h_special] at h ⊢
  rw [add_readingOf]
  exact .on rfl h

theorem goesOn_doubleEscaped (h : splitFrom .doubleEscaped word (c :: rest) = some more) :
    GoesOn words ((readingOf .doubleEscaped words word).step c) rest more := by
  show GoesOn words (if c = '\n' then _ else if isSpecialInside c then _ else _) rest more
  rw [splitFrom] at h
  by_cases h_feed : c = '\n'
  · rw [if_pos h_feed] at h ⊢
    exact .on rfl h
  rw [if_neg h_feed] at h ⊢
  by_cases h_special : isSpecialInside c = true
  · rw [if_pos h_special] at h ⊢
    rw [add_readingOf]
    exact .on rfl h
  rw [if_neg h_special] at h ⊢
  rw [add_readingOf, add_readingOf]
  exact .on rfl h

theorem goesOn_of_splitFrom {mode : Mode} (h : splitFrom mode word (c :: rest) = some more) :
    GoesOn words ((readingOf mode words word).step c) rest more :=
  match mode with
  | .plain => goesOn_plain h
  | .escaped => goesOn_escaped h
  | .single => goesOn_single h
  | .double => goesOn_double h
  | .doubleEscaped => goesOn_doubleEscaped h

end

/-- What is split is read in the same way, from wherever reading has come to. -/
theorem steps_of_splitFrom {mode : Mode} {cs : List Char} {more : List (List Char)}
    (h : splitFrom mode word cs = some more) :
    ((readingOf mode words word).steps cs).bind Reading.finish =
      some (words ++ more.map literals) := by
  induction cs generalizing mode words word more with
  | nil =>
    cases mode with
    | plain =>
      cases h
      exact congrArg some (all_readingOf .plain)
    | _ => cases h
  | cons c rest ih =>
    rw [Reading.steps_cons]
    cases (goesOn_of_splitFrom h : GoesOn words _ rest more) with
    | on h_step h_rest =>
      rw [h_step]
      exact ih h_rest
    | next h_step h_rest =>
      rw [h_step, Option.bind_some, ih h_rest, List.map_append, List.append_assoc]
    | ended h_step h_rest h_last =>
      rw [h_step, h_rest]
      exact h_last

end

theorem read_of_split {line : String} {words : List String} (h : split line = some words) :
    read line = some (words.map fun word => literals word.toList) := by
  obtain ⟨parts, h_parts, rfl⟩ := Option.map_eq_some_iff.mp h
  have h_words : (parts.map String.ofList).map (fun word => literals word.toList) =
      parts.map literals := by
    rw [List.map_map]
    exact List.map_congr_left fun word _ => congrArg literals String.toList_ofList
  rw [h_words]
  have h_read : ((readingOf .plain [] none).steps line.toList).bind Reading.finish =
      some ([] ++ parts.map literals) := steps_of_splitFrom h_parts
  exact h_read

/-! ## A quoted word among others -/

section

variable (words : List (List Part))

theorem step_isPlain {c : Char} (h : isPlain c) (word : Option (List Part)) :
    (⟨.within .plain, words, word⟩ : Reading).step c =
      some ⟨.within .plain, words, some (word.getD [] ++ [.literal c])⟩ := by
  have h_blank : ¬(c = ' ' ∨ c = '\t') :=
    not_or.mpr ⟨ne_of_isPlain h (by decide), ne_of_isPlain h (by decide)⟩
  rw [Reading.step, Reading.stepPlain, if_neg h_blank, if_neg (ne_of_isPlain h (by decide)),
    if_neg (ne_of_isPlain h (by decide)), if_neg (ne_of_isPlain h (by decide)),
    if_neg (ne_of_isPlain h (by decide)), if_neg (ne_of_isPlain h (by decide)),
    not_isSpecial_of_isPlain h, if_neg Bool.false_ne_true]
  rfl

theorem steps_isPlain {cs : List Char} (h : ∀ c ∈ cs, isPlain c) (begun : List Part) :
    (⟨.within .plain, words, some begun⟩ : Reading).steps cs =
      some ⟨.within .plain, words, some (begun ++ literals cs)⟩ := by
  induction cs generalizing begun with
  | nil => rw [literals, List.map_nil, List.append_nil]; rfl
  | cons c rest ih =>
    obtain ⟨h_c, h_rest⟩ := List.forall_mem_cons.mp h
    rw [Reading.steps_cons, step_isPlain words h_c, Option.bind_some, ih h_rest]
    simp [literals]

/-- Within quotes every character stands for itself. -/
theorem steps_inside (cs : List Char) (begun : List Part) :
    (⟨.within .single, words, some begun⟩ : Reading).steps (cs.flatMap insideQuotes ++ ['\'']) =
      some ⟨.within .plain, words, some (begun ++ literals cs)⟩ := by
  induction cs generalizing begun with
  | nil => rw [literals, List.map_nil, List.append_nil]; rfl
  | cons c rest ih =>
    have h_next : (⟨.within .single, words, some begun⟩ : Reading).steps (insideQuotes c) =
        some ⟨.within .single, words, some (begun ++ [.literal c])⟩ := by
      unfold insideQuotes
      split
      next h_mark => rw [h_mark]; rfl
      next h_mark =>
        have h_step : (⟨.within .single, words, some begun⟩ : Reading).step c =
            some ⟨.within .single, words, some (begun ++ [.literal c])⟩ := if_neg h_mark
        rw [Reading.steps_cons, h_step]
        rfl
    rw [List.flatMap_cons, List.append_assoc, Reading.steps_append, h_next, Option.bind_some, ih]
    simp [literals]

/-- A form of a word is read as nothing but its characters. -/
theorem steps_spelled {word form : List Char} (h : Spells word form) :
    (⟨.within .plain, words, none⟩ : Reading).steps form =
      some ⟨.within .plain, words, some (literals word)⟩ := by
  cases h with
  | plain h_some h_plain =>
    obtain ⟨c, rest, rfl⟩ := List.exists_cons_of_ne_nil h_some
    obtain ⟨h_c, h_rest⟩ := List.forall_mem_cons.mp h_plain
    rw [Reading.steps_cons, step_isPlain words h_c, Option.bind_some, steps_isPlain words h_rest]
    rfl
  | quoted =>
    have h_open : (⟨.within .plain, words, none⟩ : Reading).step '\'' =
        some ⟨.within .single, words, some []⟩ := rfl
    rw [quoted, List.cons_append, Reading.steps_cons, h_open, Option.bind_some, steps_inside]
    rfl

end

/-- A quoted word behind a piece of a line that leaves the reader between words. -/
theorem read_append_quote {front : String} {words : List (List Part)} (word : String)
    (h : Reading.start.steps front.toList = some ⟨.within .plain, words, none⟩) :
    read (front ++ quote word) = some (words ++ [literals word.toList]) := by
  rw [read, String.toList_append, Reading.steps_append, h, Option.bind_some, quote,
    String.toList_ofList, steps_spelled words (spells_quoteChars word.toList)]
  rfl

end ImageIntake.Text.ShellWords
