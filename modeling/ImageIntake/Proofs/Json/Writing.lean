/-
  ImageIntake.Proofs.Json.Writing

  Which values can be written (`obstacle?_eq_none_iff`): those that have no more lists and
  objects inside each other than there is room for, and whose whole numbers have no more
  digits than a number may have.
-/

import ImageIntake.Json.Printer

namespace ImageIntake.Json

open ImageIntake.Number

/-! ## The size of a value -/

mutual

/-- The lists and objects inside each other in a value, itself counted. -/
def height : Json → Nat
  | .list items => itemsHeight items + 1
  | .object fields => fieldsHeight fields + 1
  | _ => 0

/-- The height of the highest of the items of a list. -/
def itemsHeight : List Json → Nat
  | [] => 0
  | x :: xs => max (height x) (itemsHeight xs)

/-- The height of the highest of the values of an object. -/
def fieldsHeight : List (Wording × Json) → Nat
  | [] => 0
  | (_, x) :: rest => max (height x) (fieldsHeight rest)

end

mutual

/-- The whole numbers in a value. -/
def wholes : Json → List Int
  | .int n => [n]
  | .list items => itemsWholes items
  | .object fields => fieldsWholes fields
  | _ => []

/-- The whole numbers in the items of a list. -/
def itemsWholes : List Json → List Int
  | [] => []
  | x :: xs => wholes x ++ itemsWholes xs

/-- The whole numbers in the values of an object. -/
def fieldsWholes : List (Wording × Json) → List Int
  | [] => []
  | (_, x) :: rest => wholes x ++ fieldsWholes rest

end

theorem fieldsHeight_le_iff {fields : List (Wording × Json)} {bound : Nat} :
    fieldsHeight fields ≤ bound ↔ ∀ field ∈ fields, field.2.height ≤ bound := by
  induction fields with
  | nil => exact iff_of_true (Nat.zero_le bound) fun _ h_mem => nomatch h_mem
  | cons field rest ih => rw [fieldsHeight, Nat.max_le, ih, List.forall_mem_cons]

/-! ## Writing -/

/-- Whether all numbers have no more digits than a number may have. -/
def Short (ns : List Int) : Prop :=
  ∀ n ∈ ns, n.natAbs < tenTo digitLimit

instance (ns : List Int) : Decidable (Short ns) :=
  inferInstanceAs (Decidable (∀ n ∈ ns, n.natAbs < tenTo digitLimit))

theorem short_append {ns ms : List Int} : Short (ns ++ ms) ↔ Short ns ∧ Short ms :=
  List.forall_mem_append

theorem short_fieldsWholes_iff {fields : List (Wording × Json)} :
    Short (fieldsWholes fields) ↔ ∀ field ∈ fields, Short field.2.wholes := by
  induction fields with
  | nil => exact iff_of_true (fun _ h_mem => nomatch h_mem) fun _ h_mem => nomatch h_mem
  | cons field rest ih => rw [fieldsWholes, short_append, ih, List.forall_mem_cons]

mutual

/-- A value can be written exactly if there is room for it and its numbers are short. -/
theorem obstacle?_eq_none_iff (j : Json) (room : Nat) :
    j.obstacle? room = none ↔ j.height ≤ room ∧ Short j.wholes := by
  match j, room with
  | .null, _ | .bool _, _ | .real _, _ | .text _, _ | .broken _, _ =>
    exact iff_of_true rfl ⟨Nat.zero_le _, fun _ h_mem => nomatch h_mem⟩
  | .int n, room =>
    simp [obstacle?, height, wholes, Short]
  | .list items, 0 | .object fields, 0 => simp [obstacle?, height]
  | .list items, room + 1 =>
    rw [obstacle?, height, wholes, itemsObstacle?_eq_none_iff items room, Nat.succ_le_succ_iff]
  | .object fields, room + 1 =>
    rw [obstacle?, height, wholes, fieldsObstacle?_eq_none_iff fields room, Nat.succ_le_succ_iff]

/-- So can the items of a list. -/
theorem itemsObstacle?_eq_none_iff (items : List Json) (room : Nat) :
    itemsObstacle? room items = none ↔ itemsHeight items ≤ room ∧ Short (itemsWholes items) := by
  match items with
  | [] => exact iff_of_true rfl ⟨Nat.zero_le _, fun _ h_mem => nomatch h_mem⟩
  | x :: xs =>
    rw [itemsObstacle?, Option.or_eq_none_iff, obstacle?_eq_none_iff x room,
      itemsObstacle?_eq_none_iff xs room, itemsHeight, itemsWholes, Nat.max_le, short_append]
    exact and_and_and_comm

/-- So can the values of an object. -/
theorem fieldsObstacle?_eq_none_iff (fields : List (Wording × Json)) (room : Nat) :
    fieldsObstacle? room fields = none ↔
      fieldsHeight fields ≤ room ∧ Short (fieldsWholes fields) := by
  match fields with
  | [] => exact iff_of_true rfl ⟨Nat.zero_le _, fun _ h_mem => nomatch h_mem⟩
  | (_, x) :: rest =>
    rw [fieldsObstacle?, Option.or_eq_none_iff, obstacle?_eq_none_iff x room,
      fieldsObstacle?_eq_none_iff rest room, fieldsHeight, fieldsWholes, Nat.max_le, short_append]
    exact and_and_and_comm

end

/-- What is written of a value is its text. -/
theorem write_eq_ok_iff {j : Json} {room : Nat} {s : String} :
    j.write room = .ok s ↔ j.obstacle? room = none ∧ j.print = s := by
  unfold write
  split <;> simp_all

end ImageIntake.Json
