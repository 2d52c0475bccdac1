/-
  ImageIntake.Proofs.Format.Header

  How much of a header its class hangs on.  The two tables of magic bytes are
  put into one, in which every magic tells a whole class and ends at a known
  offset.  No two magics at the start of a header go together, so that the
  first one found never ends behind another (`classMagic_apart`).  What is left
  of a header that is cut short therefore shows its class in full or nothing at
  all (`ofHeader_take`): it never shows another class.
-/

import Mathlib.Data.List.Find
import ImageIntake.Format.Magic

namespace ImageIntake.Format

/-! ## One magic -/

namespace Magic

variable {α β : Type}

/-- Where the bytes of a magic end. -/
def stop (m : Magic α) : Nat := m.offset + m.bytes.length

/-- The same bytes, telling something else. -/
def map (f : α → β) (m : Magic α) : Magic β := ⟨f m.kind, m.offset, m.bytes⟩

@[simp] theorem shows_map (f : α → β) (m : Magic α) (header : Bytes) :
    (m.map f).shows header = m.shows header := rfl

/-- A header that is cut short shows a magic as long as the cut is behind it. -/
theorem shows_take {m : Magic α} (h_bytes : m.bytes ≠ []) (header : Bytes) (n : Nat) :
    m.shows (header.take n) = (m.shows header && decide (m.stop ≤ n)) := by
  have h_pos : 0 < m.bytes.length := List.length_pos_iff.2 h_bytes
  by_cases h_stop : m.stop ≤ n
  · have h_fits : m.bytes.length ≤ n - m.offset := by
      unfold stop at h_stop
      omega
    simp [shows, h_stop, List.drop_take, List.take_take, Nat.min_eq_left h_fits]
  · -- A cut in front of its end leaves too few bytes to show it.
    have h_short : ((header.take n).drop m.offset).length < m.bytes.length := by
      unfold stop at h_stop
      rw [List.length_drop, List.length_take]
      omega
    have h_ne : ((header.take n).drop m.offset).take m.bytes.length ≠ m.bytes := by
      intro h_eq
      have h_len := congrArg List.length h_eq
      rw [List.length_take] at h_len
      omega
    simp [shows, h_stop, h_ne]

/-- A header that shows a magic at its start begins with the first of its bytes. -/
theorem head?_of_shows {m : Magic α} {header : Bytes} (h_bytes : m.bytes ≠ [])
    (h_start : m.offset = 0) (h : m.shows header = true) : header.head? = m.bytes.head? := by
  have h_eq : header.take m.bytes.length = m.bytes := by simpa [shows, h_start] using h
  have h_pos : m.bytes.length ≠ 0 := by simpa using h_bytes
  rw [← h_eq, List.head?_take, if_neg (by simpa [h_eq] using h_pos)]

end Magic

/-! ## One table -/

/-- The class of a header that shows nothing. -/
def Class.plain : Class := ⟨none, none⟩

/-- All magics, each with the class that it tells. -/
def classMagic : List (Magic Class) :=
  compressionMagic.map (·.map fun c => ⟨some c, none⟩) ++
    imageMagic.map (·.map fun i => ⟨none, some i⟩)

theorem bytes_ne_nil_of_mem : ∀ m ∈ classMagic, m.bytes ≠ [] := by decide

/-- Of two magics the first ends no later, or both stand at the start and begin differently. -/
theorem classMagic_apart : classMagic.Pairwise fun m m' =>
    m.stop ≤ m'.stop ∨ (m.offset = 0 ∧ m'.offset = 0 ∧ m.bytes.head? ≠ m'.bytes.head?) := by
  decide

/-- Of two magics in one header the first ends no later. -/
theorem classMagic_ordered (header : Bytes) : classMagic.Pairwise fun m m' =>
    m.shows header = true → m'.shows header = true → m.stop ≤ m'.stop := by
  refine classMagic_apart.imp_of_mem fun {m m'} h_m h_m' h h_shows h_shows' => ?_
  rcases h with h_le | ⟨h_start, h_start', h_ne⟩
  · exact h_le
  · -- Two magics that begin differently cannot both stand at the start.
    have h_head := Magic.head?_of_shows (bytes_ne_nil_of_mem m h_m) h_start h_shows
    have h_head' := Magic.head?_of_shows (bytes_ne_nil_of_mem m' h_m') h_start' h_shows'
    exact absurd (h_head.symm.trans h_head') h_ne

theorem find?_append_map {α : Type} (tell : α → Class) (table : List (Magic α)) (header : Bytes) :
    ((table.map (·.map tell)).find? (·.shows header)).map (·.kind) =
      (detect? table header).map tell := by
  simp only [detect?, List.find?_map, Function.comp_def, Magic.shows_map, Option.map_map]
  rfl

/-- The class of a header is what the first magic tells that it shows. -/
theorem ofHeader_eq_detect? (header : Bytes) :
    Class.ofHeader header = (detect? classMagic header).getD .plain := by
  have h_split : detect? classMagic header =
      ((detect? compressionMagic header).map fun c => (⟨some c, none⟩ : Class)).or
        ((detect? imageMagic header).map fun i => ⟨none, some i⟩) := by
    rw [← find?_append_map, ← find?_append_map]
    simp only [detect?, classMagic, List.find?_append, Option.map_or]
  rw [h_split, Class.ofHeader]
  cases detect? compressionMagic header with
  | some c => rfl
  | none => cases h : detect? imageMagic header <;> rfl

/-! ## Cut headers -/

/-- What is found first under a bound is what is found first at all, if that is within the bound
and later finds are no smaller. -/
theorem find?_and_le {α : Type} (p : α → Bool) (size : α → Nat) (n : Nat) {xs : List α}
    (h : xs.Pairwise fun x y => p x = true → p y = true → size x ≤ size y) :
    xs.find? (fun x => p x && decide (size x ≤ n)) =
      (xs.find? p).filter fun x => decide (size x ≤ n) := by
  induction xs with
  | nil => rfl
  | cons x xs ih =>
    obtain ⟨h_head, h_tail⟩ := List.pairwise_cons.1 h
    cases h_p : p x with
    | false => simpa [List.find?_cons, h_p] using ih h_tail
    | true =>
      by_cases h_le : size x ≤ n
      · simp [h_p, h_le, Option.filter]
      · -- The first find is too large, and no later one is smaller.
        have h_none : xs.find? (fun y => p y && decide (size y ≤ n)) = none := by
          rw [List.find?_eq_none]
          intro y h_mem h_y
          obtain ⟨h_py, h_size⟩ : p y = true ∧ size y ≤ n := by simpa using h_y
          have := h_head y h_mem h_p h_py
          omega
        simp [h_p, h_le, h_none, Option.filter]

namespace Class

/-- The number of bytes of a header that its class is told from. -/
def reach (c : Class) : Nat := ((classMagic.find? (·.kind == c)).map Magic.stop).getD 0

@[simp] theorem reach_plain : plain.reach = 0 := by decide

theorem reach_kind : ∀ m ∈ classMagic, m.kind.reach = m.stop := by decide

/-- What so many bytes show of a class: all of it, if they reach as far as it is told from. -/
def within (n : Nat) (c : Class) : Class := if c.reach ≤ n then c else plain

theorem within_of_reach_le {c : Class} {n : Nat} (h : c.reach ≤ n) : c.within n = c := if_pos h

theorem within_of_lt_reach {c : Class} {n : Nat} (h : n < c.reach) : c.within n = plain :=
  if_neg (Nat.not_le.2 h)

theorem plain_ne_of_lt_reach {c : Class} {n : Nat} (h : n < c.reach) : plain ≠ c := by
  rintro rfl
  rw [reach_plain] at h
  omega

theorem within_eq_self_iff {c : Class} {n : Nat} : c.within n = c ↔ c.reach ≤ n := by
  by_cases h : c.reach ≤ n
  · simp [within_of_reach_le h, h]
  · have h_lt := Nat.not_le.1 h
    simp [within_of_lt_reach h_lt, plain_ne_of_lt_reach h_lt, h]

theorem within_eq_within_iff {c : Class} {n n' : Nat} :
    c.within n = c.within n' ↔ (c.reach ≤ n ↔ c.reach ≤ n') := by
  by_cases h : c.reach ≤ n
  · rw [within_of_reach_le h, eq_comm, within_eq_self_iff]
    simp [h]
  · by_cases h' : c.reach ≤ n'
    · rw [within_of_reach_le h', within_eq_self_iff]
      simp [h']
    · rw [within_of_lt_reach (Nat.not_le.1 h), within_of_lt_reach (Nat.not_le.1 h')]
      simp [h, h']

/-- A header that is cut short shows its class as long as the cut is behind what that is told
from, and nothing otherwise. -/
theorem ofHeader_take (header : Bytes) (n : Nat) :
    ofHeader (header.take n) = (ofHeader header).within n := by
  -- A cut filters the magics by where they end; as they are ordered, it filters the first of them.
  have h_find : classMagic.find? (·.shows (header.take n)) =
      (classMagic.find? (·.shows header)).filter fun m => decide (m.stop ≤ n) := by
    rw [← find?_and_le _ _ _ (classMagic_ordered header)]
    refine List.find?_congr fun m h_mem => ?_
    rw [Magic.shows_take (bytes_ne_nil_of_mem m h_mem)]
  rw [ofHeader_eq_detect?, ofHeader_eq_detect?, detect?, detect?, h_find]
  cases h_first : classMagic.find? (·.shows header) with
  | none => simp [within]
  | some m =>
    have h_reach : m.kind.reach = m.stop := reach_kind m (List.mem_of_find?_eq_some h_first)
    by_cases h_le : m.stop ≤ n <;> simp [within, h_reach, h_le, Option.filter]

end Class

/-- An xz header is told from six bytes, a tar archive from those up to offset 262. -/
example : (⟨some .xz, none⟩ : Class).reach = 6 ∧ (⟨none, some .tar⟩ : Class).reach = 262 := by
  decide

end ImageIntake.Format
