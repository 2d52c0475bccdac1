/-
  ImageIntake.Proofs.Stream.Buffered

  What a buffer keeps of the source behind it.  A source is steady if each of its
  reads hands out the next of the bytes it has left, and none only at their end
  (`Steady`).  The bytes that a buffer has left are those it read ahead, followed
  by those of its source (`Ready`); peeking leaves all of them, a read hands out as
  many as it was asked for, and reading to the end hands out the rest.  So what any
  sequence of reads hands out is told from the bytes and the asks alone
  (`answers_ready`), whatever the sizes in which the source gives them.
-/

import ImageIntake.Stream.Buffered

namespace ImageIntake.Stream

/-! ## Steady sources -/

/-- Under a relation between sources and the bytes they have left, a source is open, and each of
its reads hands out the next of them, and none only at their end. -/
structure Steady {σ : Type} [ByteSource σ] (Holds : σ → Bytes → Prop) : Prop where
  opened {s : σ} {data : Bytes} : Holds s data → ByteSource.closed s = false
  length_le {s : σ} {data : Bytes} : Holds s data → data.length ≤ ByteSource.bound s
  read {s : σ} {data : Bytes} (count : Nat) : 0 < count → Holds s data →
    ∃ bytes rest s', ByteSource.read count s = (.ok (some bytes), s') ∧ data = bytes ++ rest ∧
      bytes.length ≤ count ∧ (bytes = [] → rest = []) ∧ Holds s' rest

section

variable {σ : Type} [ByteSource σ] {Holds : σ → Bytes → Prop} {s : σ} {data : Bytes}

/-- Pieces of a steady source make up all that it has left, as each of them is shorter than that. -/
theorem Steady.drain (h_steady : Steady Holds) (h : Holds s data) {fuel : Nat}
    (h_fuel : data.length < fuel) (sofar : Bytes) :
    ∃ s', drain fuel sofar s = (.ok (some (sofar ++ data)), s') ∧ Holds s' [] := by
  induction fuel generalizing s data sofar with
  | zero => omega
  | succ fuel ih =>
    obtain ⟨bytes, rest, s', h_read, rfl, -, h_end, h_after⟩ :=
      h_steady.read pieceSize (by decide) h
    by_cases h_none : bytes = []
    · obtain rfl := h_end h_none
      exact ⟨s', by simp [Stream.drain, h_read, h_none], h_after⟩
    · have h_pos : 0 < bytes.length := List.length_pos_iff.mpr h_none
      have h_less : rest.length < fuel := by
        rw [List.length_append] at h_fuel
        omega
      obtain ⟨s'', h_drain, h_done⟩ := ih h_after h_less (sofar ++ bytes)
      refine ⟨s'', ?_, h_done⟩
      rw [← List.append_assoc, ← h_drain]
      simp [Stream.drain, h_read, h_none]

theorem Steady.readAll (h_steady : Steady Holds) (h : Holds s data) :
    ∃ s', readAll s = (.ok (some data), s') ∧ Holds s' [] := by
  have h_fuel : data.length < ByteSource.bound s + 1 := Nat.lt_succ_of_le (h_steady.length_le h)
  exact h_steady.drain h h_fuel []

/-! ## Blocks and what is left of them -/

/-- Whole blocks hand out the next of the data, until less than a block is wanted or nothing is
left. -/
theorem Steady.readBlocks (h_steady : Steady Holds) {capacity : Nat} (h_capacity : 0 < capacity)
    (h : Holds s data) {fuel : Nat} (h_fuel : data.length < fuel) (wanted : Nat) (got : Bytes) :
    ∃ taken rest outcome s', data = taken ++ rest ∧ taken.length ≤ wanted ∧ Holds s' rest ∧
      Buffered.readBlocks capacity fuel wanted got s =
        (.ok (got ++ taken, wanted - taken.length, outcome), s') ∧
      (outcome = none ∧ wanted - taken.length < capacity ∨ outcome = some true ∧ rest = []) := by
  induction fuel generalizing s data wanted got with
  | zero => omega
  | succ fuel ih =>
    have h_block : capacity * (wanted / capacity) ≤ wanted := Nat.mul_div_le wanted capacity
    have h_none : capacity * (wanted / capacity) = 0 ↔ wanted < capacity := by
      rw [Nat.mul_eq_zero, Nat.div_eq_zero_iff]
      omega
    by_cases h_size : capacity * (wanted / capacity) = 0
    · refine ⟨[], data, none, s, rfl, Nat.zero_le _, h, ?_, .inl ⟨rfl, h_none.mp h_size⟩⟩
      simp [Buffered.readBlocks, h_size]
    · obtain ⟨bytes, rest, s', h_read, rfl, h_length, h_end, h_after⟩ :=
        h_steady.read _ (Nat.pos_of_ne_zero h_size) h
      by_cases h_bytes : bytes = []
      · obtain rfl := h_end h_bytes
        refine ⟨[], [], some true, s', by simp [h_bytes], Nat.zero_le _, h_after, ?_,
          .inr ⟨rfl, rfl⟩⟩
        simp [Buffered.readBlocks, h_size, h_read, h_bytes]
      · have h_pos : 0 < bytes.length := List.length_pos_iff.mpr h_bytes
        have h_less : rest.length < fuel := by
          rw [List.length_append] at h_fuel
          omega
        obtain ⟨taken, left, outcome, s'', rfl, h_taken, h_left, h_blocks, h_outcome⟩ :=
          ih h_after h_less (wanted - bytes.length) (got ++ bytes)
        have h_wanted :
            wanted - bytes.length - taken.length = wanted - (bytes ++ taken).length := by
          rw [List.length_append]
          omega
        rw [h_wanted] at h_blocks h_outcome
        refine ⟨bytes ++ taken, left, outcome, s'', (List.append_assoc _ _ _).symm, ?_, h_left, ?_,
          h_outcome⟩
        · rw [List.length_append]
          omega
        · rw [← List.append_assoc, ← h_blocks]
          simp [Buffered.readBlocks, h_size, h_read, h_bytes]

/-- Less than a block more hands out the next of the data, and keeps what came beyond it. -/
theorem Steady.readRest (h_steady : Steady Holds) (h : Holds s data) {fuel : Nat}
    (h_fuel : data.length < fuel) {capacity filled wanted : Nat}
    (h_room : filled + wanted ≤ capacity) (got : Bytes) :
    ∃ ahead rest s', Buffered.readRest capacity fuel filled wanted got s =
        (.ok (some (got ++ data.take wanted), ahead), s') ∧
      data.drop wanted = ahead ++ rest ∧ Holds s' rest := by
  induction fuel generalizing s data filled wanted got with
  | zero => omega
  | succ fuel ih =>
    by_cases h_wanted : wanted = 0
    · refine ⟨[], data, s, ?_, by simp [h_wanted], h⟩
      simp [Buffered.readRest, h_wanted]
    · obtain ⟨bytes, rest, s', h_read, rfl, -, h_end, h_after⟩ :=
        h_steady.read (capacity - filled) (by omega) h
      by_cases h_bytes : bytes = []
      · obtain rfl := h_end h_bytes
        refine ⟨[], [], s', ?_, by simp [h_bytes], h_after⟩
        simp [Buffered.readRest, h_wanted, h_read, h_bytes]
      · by_cases h_more : bytes.length < wanted
        · have h_pos : 0 < bytes.length := List.length_pos_iff.mpr h_bytes
          have h_less : rest.length < fuel := by
            rw [List.length_append] at h_fuel
            omega
          have h_left : filled + bytes.length + (wanted - bytes.length) ≤ capacity := by omega
          obtain ⟨ahead, left, s'', h_rest, h_kept, h_holds⟩ :=
            ih h_after h_less h_left (got ++ bytes)
          have h_le : bytes.length ≤ wanted := Nat.le_of_lt h_more
          refine ⟨ahead, left, s'', ?_, ?_, h_holds⟩
          · rw [List.take_append, List.take_of_length_le h_le, ← List.append_assoc, ← h_rest]
            simp [Buffered.readRest, h_wanted, h_read, h_bytes, h_more]
          · rw [List.drop_append, List.drop_of_length_le h_le, List.nil_append, h_kept]
        · -- The last of these reads gave as much as was wanted, and perhaps more.
          have h_le : wanted ≤ bytes.length := Nat.le_of_not_lt h_more
          refine ⟨bytes.drop wanted, rest, s', ?_, List.drop_append_of_le_length h_le, h_after⟩
          rw [List.take_append_of_le_length h_le]
          simp [Buffered.readRest, h_wanted, h_read, h_bytes, h_more]

/-! ## A buffer in front of a steady source -/

namespace Buffered

/-- A buffer of some size has these bytes left: those it read ahead, then those of its source. -/
structure Ready (Holds : σ → Bytes → Prop) (b : Buffered σ) (data : Bytes) : Prop where
  capacity_pos : 0 < b.capacity
  left : ∃ rest, data = b.ahead ++ rest ∧ Holds b.source rest

namespace Ready

variable {b : Buffered σ}

theorem exhausted (h_steady : Steady Holds) (h : b.Ready Holds data) : b.exhausted = false := by
  obtain ⟨rest, -, h_source⟩ := h.left
  simp [Buffered.exhausted, h_steady.opened h_source]

/-- Peeking shows the next of the bytes and leaves all of them. -/
theorem peek (h_steady : Steady Holds) (h : b.Ready Holds data) :
    ∃ bytes b', b.peek = (.ok bytes, b') ∧ bytes <+: data ∧ b'.Ready Holds data := by
  have h_open := h.exhausted h_steady
  obtain ⟨rest, rfl, h_source⟩ := h.left
  by_cases h_ahead : b.ahead = []
  · obtain ⟨bytes, left, s', h_read, rfl, -, -, h_after⟩ :=
      h_steady.read b.capacity h.capacity_pos h_source
    refine ⟨bytes, { b with source := s', ahead := bytes }, ?_, ?_, h.capacity_pos, left, ?_,
      h_after⟩
    · simp [Buffered.peek, h_open, h_ahead, h_read]
    · rw [h_ahead, List.nil_append]
      exact List.prefix_append _ _
    · rw [h_ahead, List.nil_append]
  · refine ⟨b.ahead, b, ?_, List.prefix_append _ _, h⟩
    simp [Buffered.peek, h_open, h_ahead]

/-- A read hands out as many of the bytes as it was asked for, or all that are left. -/
theorem read (h_steady : Steady Holds) (h : b.Ready Holds data) (count : Nat) :
    ∃ b', b.read count = (.ok (some (data.take count)), b') ∧ b'.Ready Holds (data.drop count) := by
  have h_open := h.exhausted h_steady
  have h_capacity := h.capacity_pos
  obtain ⟨rest, rfl, h_source⟩ := h.left
  by_cases h_count : count ≤ b.ahead.length
  · refine ⟨{ b with ahead := b.ahead.drop count }, ?_, h_capacity, rest, ?_, h_source⟩
    · simp [Buffered.read, h_open, h_count, List.take_append_of_le_length h_count]
    · exact List.drop_append_of_le_length h_count
  · have h_le : b.ahead.length ≤ count := by omega
    have h_fuel : rest.length < ByteSource.bound b.source + 1 :=
      Nat.lt_succ_of_le (h_steady.length_le h_source)
    obtain ⟨taken, left, outcome, s', rfl, h_taken, h_left, h_blocks, h_outcome⟩ :=
      h_steady.readBlocks h_capacity h_source h_fuel (count - b.ahead.length) b.ahead
    have h_all : (b.ahead ++ taken).length ≤ count := by
      rw [List.length_append]
      omega
    rw [← List.append_assoc, List.take_append, List.take_of_length_le h_all, List.drop_append,
      List.drop_of_length_le h_all, List.nil_append]
    rcases h_outcome with ⟨rfl, h_rest⟩ | ⟨rfl, rfl⟩
    · have h_fuel' : left.length < ByteSource.bound s' + 1 :=
        Nat.lt_succ_of_le (h_steady.length_le h_left)
      have h_room : 0 + (count - b.ahead.length - taken.length) ≤ b.capacity := by omega
      obtain ⟨ahead, kept, s'', h_read, h_kept, h_after⟩ :=
        h_steady.readRest h_left h_fuel' h_room (b.ahead ++ taken)
      have h_wanted : count - b.ahead.length - taken.length =
          count - (b.ahead ++ taken).length := by
        rw [List.length_append]
        omega
      rw [h_wanted] at h_blocks h_read h_kept
      refine ⟨{ b with source := s'', ahead }, ?_, h_capacity, kept, h_kept, h_after⟩
      simp only [Buffered.read, h_open, h_count, h_blocks, h_read]
      rfl
    · refine ⟨{ b with source := s', ahead := [] }, ?_, h_capacity, [], ?_, h_left⟩
      · simp [Buffered.read, h_open, h_count, h_blocks, shortAnswer]
      · rw [List.drop_nil, List.append_nil]

/-- Reading to the end hands out all that is left. -/
theorem readToEnd (h_steady : Steady Holds) (h : b.Ready Holds data) :
    ∃ b', b.readToEnd = (.ok (some data), b') ∧ b'.Ready Holds [] := by
  have h_open := h.exhausted h_steady
  obtain ⟨rest, rfl, h_source⟩ := h.left
  obtain ⟨s', h_read, h_after⟩ := h_steady.readAll h_source
  refine ⟨{ b with source := s', ahead := [] }, ?_, h.capacity_pos, [], rfl, h_after⟩
  by_cases h_ahead : b.ahead = [] <;> simp [Buffered.readToEnd, h_open, h_read, h_ahead]

end Ready

/-! ## Any sequence of reads -/

/-- What a stream is asked for: so many bytes, or all to the end. -/
inductive Ask where
  | upTo (count : Nat)
  | all
deriving DecidableEq, Repr

namespace Ask

/-- What an ask comes to of the bytes that are left. -/
def part : Ask → Bytes → Bytes
  | upTo count, data => data.take count
  | all, data => data

/-- What an ask leaves of the bytes. -/
def rest : Ask → Bytes → Bytes
  | upTo count, data => data.drop count
  | all, _ => []

@[simp] theorem part_append_rest (ask : Ask) (data : Bytes) :
    ask.part data ++ ask.rest data = data := by
  cases ask with
  | upTo count => exact List.take_append_drop count data
  | all => exact List.append_nil data

/-- Whether bytes fall short of an ask, so that there were no more of them. -/
def unmet : Ask → Bytes → Bool
  | upTo count, bytes => decide (bytes.length < count)
  | all, _ => true

theorem rest_of_unmet {ask : Ask} {data : Bytes} (h : ask.unmet (ask.part data) = true) :
    ask.rest data = [] := by
  cases ask with
  | upTo count =>
    have h_short : (data.take count).length < count := of_decide_eq_true h
    rw [List.length_take] at h_short
    have h_le : data.length ≤ count := by omega
    exact List.drop_of_length_le h_le
  | all => rfl

/-- What asks come to one after the other. -/
def parts : List Ask → Bytes → List Bytes
  | [], _ => []
  | ask :: asks, data => ask.part data :: parts asks (ask.rest data)

@[simp] theorem parts_nil (data : Bytes) : parts [] data = [] := rfl

@[simp] theorem parts_cons (ask : Ask) (asks : List Ask) (data : Bytes) :
    parts (ask :: asks) data = ask.part data :: parts asks (ask.rest data) := rfl

/-- What asks leave of the bytes. -/
def left : List Ask → Bytes → Bytes
  | [], data => data
  | ask :: asks, data => left asks (ask.rest data)

theorem left_nil (asks : List Ask) : left asks [] = [] := by
  induction asks with
  | nil => rfl
  | cons ask asks ih =>
    have h_rest : ask.rest [] = [] := by cases ask <;> simp [rest]
    show left asks (ask.rest []) = []
    rw [h_rest, ih]

/-- No byte is handed out twice, left out or moved. -/
theorem flatten_parts_append_left (asks : List Ask) (data : Bytes) :
    (parts asks data).flatten ++ left asks data = data := by
  induction asks generalizing data with
  | nil => rfl
  | cons ask asks ih =>
    show ask.part data ++ (parts asks (ask.rest data)).flatten ++ left asks (ask.rest data) = data
    rw [List.append_assoc, ih, part_append_rest]

/-- Whether some ask got less than it wanted: who sees this has read to the end. -/
def reached (asks : List Ask) (data : Bytes) : Bool :=
  (asks.zip (parts asks data)).any fun (ask, bytes) => ask.unmet bytes

theorem left_of_reached {asks : List Ask} {data : Bytes} (h : reached asks data = true) :
    left asks data = [] := by
  induction asks generalizing data with
  | nil => simp [reached] at h
  | cons ask asks ih =>
    show left asks (ask.rest data) = []
    rcases Bool.or_eq_true_iff.mp h with h_here | h_later
    · rw [rest_of_unmet h_here, left_nil]
    · exact ih h_later

theorem flatten_parts_of_reached {asks : List Ask} {data : Bytes}
    (h : reached asks data = true) : (parts asks data).flatten = data := by
  have h_split := flatten_parts_append_left asks data
  rwa [left_of_reached h, List.append_nil] at h_split

end Ask

/-- Answers one ask. -/
def answer (ask : Ask) (b : Buffered σ) : ReadResult × Buffered σ :=
  match ask with
  | .upTo count => b.read count
  | .all => b.readToEnd

/-- Answers asks one after the other, whatever comes of each. -/
def answers : List Ask → Buffered σ → List ReadResult × Buffered σ
  | [], b => ([], b)
  | ask :: asks, b =>
    let (outcome, b) := b.answer ask
    let (outcomes, b) := answers asks b
    (outcome :: outcomes, b)

theorem Ready.answer {b : Buffered σ} (h_steady : Steady Holds) (h : b.Ready Holds data)
    (ask : Ask) : ∃ b', b.answer ask = (.ok (some (ask.part data)), b') ∧
      b'.Ready Holds (ask.rest data) := by
  cases ask with
  | upTo count => exact h.read h_steady count
  | all => exact h.readToEnd h_steady

/-- Any sequence of reads hands out what the asks come to of the bytes that are left. -/
theorem answers_ready (h_steady : Steady Holds) {b : Buffered σ} (h : b.Ready Holds data)
    (asks : List Ask) :
    (b.answers asks).1 = (Ask.parts asks data).map fun bytes => .ok (some bytes) := by
  induction asks generalizing b data with
  | nil => rfl
  | cons ask asks ih =>
    obtain ⟨b', h_answer, h_after⟩ := h.answer h_steady ask
    rw [Buffered.answers, h_answer, Ask.parts_cons, List.map_cons, ← ih h_after]

end Buffered

end

end ImageIntake.Stream
