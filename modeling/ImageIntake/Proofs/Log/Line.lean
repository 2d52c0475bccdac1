/-
  ImageIntake.Proofs.Log.Line

  What stands in the log file for a record.  Whatever the record holds, its line is
  printable ASCII (`printed_line`), so that no text in it starts another line.  A record of
  texts, whole numbers, truth values, nulls, lists and objects is read back from its line:
  its own fields and the further ones in one object, which masks what they hold
  (`Record.write_is_one_object`).  There is no line for a number of too many digits or for
  too many lists and objects inside each other, and a line cannot tell a character from the
  two halves of its pair (`Record.not_every_line_is_such`).
-/

import ImageIntake.Log.Line
import ImageIntake.Proofs.Json.Fields
import ImageIntake.Proofs.Json.Printing
import ImageIntake.Proofs.Json.Reading
import ImageIntake.Proofs.Json.Writing
import ImageIntake.Proofs.Log.Masking

namespace ImageIntake.Log

/-! ## Records that are read back -/

/-- Whether a field holds what JSON text keeps as it is: texts, whole numbers, truth values, nulls,
lists and objects. -/
def Datum.isExact : Datum → Bool
  | .plain value => value.isExact
  | _ => false

/-- A record of such data that is about no failure.  Its further fields have distinct keys. -/
structure Record.IsExact (r : Record) : Prop where
  message : r.message.isExact = true
  stage : r.stage.isExact = true
  fields : ∀ field ∈ r.fields.getD [], field.1.isExact = true ∧ field.2.isExact = true
  distinct : ((r.fields.getD []).map Prod.fst).Nodup
  no_failure : r.failure = none

/-! ## Masked texts -/

theorem eq_of_charOf {n : Nat} {c : Char} (h : Message.charOf n = c) (h_c : c ≠ '\uFFFD') :
    n = c.toNat := by
  unfold Message.charOf Json.charOf at h
  split at h
  case isTrue h_valid =>
    rw [← h, Char.ofNat, dif_pos h_valid]
    rfl
  case isFalse => exact absurd h.symm h_c

/-- Masking changes nothing at the head of a text. -/
theorem Masked.head?_eq {α : Type} {char : α → Char} {hidden units masked : List α}
    (h : Masked char hidden units masked) : masked.head? = units.head? := by
  cases h with
  | nil => rfl
  | keep => rfl
  | @hide head _ _ _ _ h_head =>
    cases head with
    | nil =>
      generalize h_chars : [].map char = cs at h_head
      cases h_head
      cases h_chars
    | cons => rfl

/-- What stands for a password is written apart from what stands around it. -/
theorem Masked.apart {codes masked : List Nat}
    (h : Masked Message.charOf (mask.toList.map Char.toNat) codes masked) (h_codes : Json.Apart codes) :
    Json.Apart masked := by
  induction h with
  | nil => exact h_codes
  | @keep n codes masked _ h_rest ih =>
    have h_masked := ih h_codes.tail
    refine ⟨List.forall_mem_cons.mpr ⟨h_codes.bounded n List.mem_cons_self, h_masked.bounded⟩, ?_⟩
    refine List.isChain_cons.mpr ⟨fun m h_mem => ?_, h_masked.chain⟩
    rw [h_rest.head?_eq] at h_mem
    exact (List.isChain_cons.mp h_codes.chain).1 m h_mem
  | @hide head password rest masked sign _ _ h_sign _ ih =>
    obtain ⟨h_kept, h_behind, -⟩ := Json.apart_append.mp (List.append_assoc .. ▸ h_codes)
    obtain ⟨-, h_behind, -⟩ := Json.apart_append.mp h_behind
    have h_signed : sign = '@'.toNat := eq_of_charOf h_sign (by decide)
    have h_masked := ih h_behind.tail
    subst h_signed
    refine Json.apart_append.mpr ⟨Json.apart_append.mpr ⟨h_kept, by decide, ?_⟩, ?_, ?_⟩
    · rintro n - m h_m ⟨-, h_low⟩
      cases h_m
      exact absurd h_low (by decide)
    · refine ⟨List.forall_mem_cons.mpr ⟨by decide, h_masked.bounded⟩, ?_⟩
      exact List.isChain_cons.mpr ⟨fun _ _ h_pair => absurd h_pair.1 (by decide), h_masked.chain⟩
    · rintro n - m h_m ⟨-, h_low⟩
      cases h_m
      exact absurd h_low (by decide)

/-- Masking keeps such data such. -/
theorem Datum.isExact_maskDatum (key : Json.Wording) {value : Datum} (h : value.isExact = true) :
    (maskDatum key value).toJson.isExact = true := by
  cases h_key : isSecretKey key with
  | true =>
    rw [maskDatum_of_secret key h_key]
    rfl
  | false =>
    cases value with
    | path | bytes | failure => cases h
    | plain value =>
      cases value with
      | text s =>
        rw [maskDatum_text key h_key rfl]
        rfl
      | broken codes =>
        rw [isExact, Json.isExact, Json.Wording.isExact, Bool.and_eq_true, decide_eq_true_eq] at h
        rw [maskDatum_broken key h_key]
        exact (Json.isExact_toJson _).trans
          (Json.Wording.isExact_ofCodes ((masked_maskUnits _ codes).apart h.1))
      | null | bool | int | real | list | object =>
        rw [maskDatum_of_not_text key h_key rfl]
        exact h

theorem Record.isExact_ownFields {r : Record} (h : r.IsExact) (now : Instant) :
    ∀ field ∈ r.ownFields now, field.1.isExact = true ∧ field.2.isExact = true := by
  simp only [ownFields, List.forall_mem_cons]
  have h_message := (Json.isExact_toJson r.message).trans h.message
  exact ⟨⟨rfl, rfl⟩, ⟨rfl, rfl⟩, ⟨rfl, rfl⟩, ⟨rfl, h_message⟩, ⟨rfl, h.stage⟩, nofun⟩

theorem Record.nodup_ownFields (r : Record) (now : Instant) :
    ((r.ownFields now).map Prod.fst).Nodup := by
  show (["timestamp", "level", "logger", "message", "stage"].map Json.Wording.text).Nodup
  decide

/-! ## Lines -/

/-- A line is printable ASCII, whatever the record holds. -/
theorem printed_line (r : Record) (now : Instant) : Json.Printed (r.line now).toList := by
  unfold Record.line objectLine Json.print
  rw [String.toList_ofList]
  exact Json.printed_chars _

theorem map_toJson_maskFields (payload : List (Json.Wording × Datum)) :
    (maskFields payload).map (fun (key, value) => (key, value.toJson)) =
      payload.map fun (key, value) => (key, (maskDatum key value).toJson) := by
  rw [maskFields, List.map_map]
  rfl

/-- Masked fields are read back from their line. -/
theorem read?_objectLine {payload : List (Json.Wording × Datum)}
    (h : ∀ field ∈ payload, field.1.isExact = true ∧ field.2.isExact = true) :
    Json.read? (objectLine payload) =
      some (.object (payload.map fun (key, value) => (key, (maskDatum key value).toJson))) := by
  unfold objectLine maskedObject
  rw [map_toJson_maskFields]
  refine Json.read?_print (Json.fieldsExact_iff.mpr (List.forall_mem_map.mpr fun field h_mem => ?_))
  exact ⟨(h field h_mem).1, Datum.isExact_maskDatum field.1 (h field h_mem).2⟩

/-- Every key of the record's own fields and of the further ones stands in what is read from its line
once; the value under it is the further field's, or else the record's own, masked. -/
theorem Record.read?_line (r : Record) (now : Instant) (h : r.IsExact) :
    ∃ fields, Json.read? (r.line now) = some (.object fields) ∧
      (fields.map Prod.fst).Nodup ∧
      ∀ key, fields.lookup key =
        (((r.fields.getD []).lookup key).or ((r.ownFields now).lookup key)).map
          fun value => (maskDatum key value).toJson := by
  have h_payload : r.payload now = Json.mergeFields (r.ownFields now) (r.fields.getD []) := by
    unfold payload
    rw [h.no_failure]
  have h_exact : ∀ field ∈ r.payload now, field.1.isExact = true ∧ field.2.isExact = true := by
    intro field h_mem
    rw [h_payload] at h_mem
    exact (Json.mem_mergeFields h_mem).elim (r.isExact_ownFields h now field) (h.fields field)
  refine ⟨_, read?_objectLine h_exact, ?_, fun key => ?_⟩
  · rw [List.map_map, h_payload]
    exact Json.nodup_mergeFields (r.nodup_ownFields now) _
  · rw [Json.lookup_map_values fun key value => (maskDatum key value).toJson, h_payload,
      Json.lookup_mergeFields _ h.distinct]

/-! ## Lines that can be written -/

/-- Fields that can be written as one object where there is room for so many lists and objects inside
each other. -/
structure Writable (fields : List (Json.Wording × Datum)) (room : Nat) : Prop where
  height : ∀ field ∈ fields, field.2.toJson.height < room
  short : ∀ field ∈ fields, Json.Short field.2.toJson.wholes

/-- Every record has some fields. -/
theorem Record.payload_ne_nil (r : Record) (now : Instant) : r.payload now ≠ [] := by
  have h_own : r.ownFields now ≠ [] := List.cons_ne_nil _ _
  unfold payload
  split
  · exact Json.setField_ne_nil _ _ _
  · exact Json.mergeFields_ne_nil h_own _

/-- What is written for a record is its line, if its masked fields can be written. -/
theorem Record.write_eq_ok_iff (r : Record) (now : Instant) (room : Nat) {line : String} :
    r.write now room = .ok line ↔ Writable (maskFields (r.payload now)) room ∧ r.line now = line := by
  have h_writable : (maskedObject (r.payload now)).obstacle? room = none ↔
      Writable (maskFields (r.payload now)) room := by
    rw [Json.obstacle?_eq_none_iff, maskedObject, Json.height, Json.wholes,
      Json.short_fieldsWholes_iff, List.forall_mem_map]
    constructor
    · rintro ⟨h_height, h_short⟩
      obtain ⟨room, rfl⟩ := Nat.exists_eq_succ_of_ne_zero (Nat.ne_of_gt (Nat.zero_lt_of_lt h_height))
      rw [Nat.succ_le_succ_iff, Json.fieldsHeight_le_iff, List.forall_mem_map] at h_height
      exact ⟨fun field h_mem => Nat.lt_succ_of_le (h_height field h_mem), h_short⟩
    · rintro ⟨h_height, h_short⟩
      refine ⟨?_, h_short⟩
      have h_some : maskFields (r.payload now) ≠ [] :=
        fun h_nil => r.payload_ne_nil now (List.map_eq_nil_iff.mp h_nil)
      obtain ⟨first, rest, h_first⟩ := List.exists_cons_of_ne_nil h_some
      have h_room := h_height first (by simp [h_first])
      obtain ⟨room, rfl⟩ := Nat.exists_eq_succ_of_ne_zero (Nat.ne_of_gt (Nat.zero_lt_of_lt h_room))
      rw [Nat.succ_le_succ_iff, Json.fieldsHeight_le_iff, List.forall_mem_map]
      exact fun field h_mem => Nat.le_of_lt_succ (h_height field h_mem)
  rw [write, Json.write_eq_ok_iff, h_writable]
  rfl

/-- The line of a record that can be written holds no control character, and reads as one JSON
object.  Every key of the record's own fields and of the further ones stands in it once; the value
under it is the further field's, or else the record's own, masked.  A record can be written exactly
if there is room for the lists and objects in its masked fields, and the whole numbers in them have
no more digits than a number may have. -/
theorem Record.write_is_one_object (r : Record) (now : Instant) (room : Nat) (h : r.IsExact) :
    ((∃ line, r.write now room = .ok line) ↔ Writable (maskFields (r.payload now)) room) ∧
    ∀ line, r.write now room = .ok line →
      (∀ c ∈ line.toList, 0x20 ≤ c.toNat) ∧
      ∃ fields, Json.read? line = some (.object fields) ∧
        (fields.map Prod.fst).Nodup ∧
        ∀ key, fields.lookup key =
          (((r.fields.getD []).lookup key).or ((r.ownFields now).lookup key)).map
            fun value => (maskDatum key value).toJson := by
  constructor
  · constructor
    · rintro ⟨line, h_write⟩
      exact ((r.write_eq_ok_iff now room).mp h_write).1
    · exact fun h_writable => ⟨_, (r.write_eq_ok_iff now room).mpr ⟨h_writable, rfl⟩⟩
  · intro line h_write
    obtain ⟨-, rfl⟩ := (r.write_eq_ok_iff now room).mp h_write
    exact ⟨fun c h_mem => (printed_line r now c h_mem).1, r.read?_line now h⟩

/-- A record whose message looks like the end of its line and the start of another, and in which
halves of pairs stand alone, in a key too. -/
def forgedRecord : Record where
  level := .info
  logger := libraryLogger
  message := .text "done\"\n\"level\": \"CRITICAL\"\r\u2028 é 😀"
  fields := some [("level", .plain (.list [.int (-3), .object [("\t", .bool true)], .null])),
    ("url", .plain (.text "https://u:p@h")), (.broken [0xD83D], .plain (.broken [0xDE00, 0xD83D]))]

theorem forgedRecord_is_one_object :
    let now : Instant := ⟨2024, 2, 29, 23, 59, 60, 1⟩
    forgedRecord.IsExact ∧ ∃ line, forgedRecord.write now 3 = .ok line ∧
    (∀ c ∈ line.toList, 0x20 ≤ c.toNat) ∧
    ∃ fields, Json.read? line = some (.object fields) ∧
      (fields.map Prod.fst).Nodup ∧
      fields.lookup (.text "message") = some (.text "done\"\n\"level\": \"CRITICAL\"\r\u2028 é 😀") ∧
      fields.lookup (.text "stage") = some .null ∧
      fields.lookup (.text "level") = some (.list [.int (-3), .object [("\t", .bool true)], .null]) ∧
      fields.lookup (.text "url") = some (.text "https://u:***masked***@h") ∧
      fields.lookup (.broken [0xD83D]) = some (.broken [0xDE00, 0xD83D]) := by
  have h_exact : forgedRecord.IsExact :=
    ⟨rfl, rfl, by simp [forgedRecord, Datum.isExact, Json.isExact, Json.allExact,
      Json.fieldsExact]; decide, by decide, rfl⟩
  intro now
  have h_writable : Writable (maskFields (forgedRecord.payload now)) 3 :=
    ⟨by decide +kernel, by decide +kernel⟩
  obtain ⟨h_iff, h_object⟩ := Record.write_is_one_object forgedRecord now 3 h_exact
  obtain ⟨line, h_write⟩ := h_iff.mpr h_writable
  obtain ⟨h_plain, fields, h_read, h_keys, h_lookup⟩ := h_object line h_write
  refine ⟨h_exact, line, h_write, h_plain, fields, h_read, h_keys, ?_, ?_, ?_, ?_, ?_⟩
  · rw [h_lookup]
    refine congrArg (some ∘ Datum.toJson) (maskDatum_text "message" (by decide) ?_)
    decide +kernel
  · rw [h_lookup]
    exact congrArg (some ∘ Datum.toJson) (maskDatum_of_not_text "stage" (by decide) rfl)
  · rw [h_lookup]
    exact congrArg (some ∘ Datum.toJson) (maskDatum_of_not_text "level" (by decide) rfl)
  · rw [h_lookup]
    refine congrArg (some ∘ Datum.toJson) (maskDatum_text "url" (by decide) ?_)
    decide +kernel
  · rw [h_lookup]
    have h_masked : maskCodes [0xDE00, 0xD83D] = [0xDE00, 0xD83D] := by decide +kernel
    have h_datum := maskDatum_broken (.broken [0xD83D]) rfl [0xDE00, 0xD83D]
    rw [h_masked] at h_datum
    exact congrArg (some ∘ Datum.toJson) h_datum

/-! ## Lines that are no such object -/

/-- Lists inside each other. -/
def nested : Nat → Json
  | 0 => .null
  | n + 1 => .list [nested n]

theorem height_nested (n : Nat) : (nested n).height = n := by
  induction n with
  | zero => rfl
  | succ n ih => simp [nested, Json.height, Json.itemsHeight, ih]

/-- A record with one further field. -/
def noted (message : Message) (value : Json) : Record where
  level := .info
  logger := libraryLogger
  message := message
  fields := some [("value", .plain value)]

theorem mem_noted (message : Message) {value : Json} (h : (Datum.plain value).isText = false)
    (now : Instant) :
    (.text "value", .plain value) ∈ maskFields ((noted message value).payload now) := by
  have h_masked := maskDatum_of_not_text "value" (by decide) h
  refine List.mem_map.mpr ⟨("value", .plain value), ?_, ?_⟩
  · exact List.mem_of_getElem? (i := 5) rfl
  · exact congrArg (Prod.mk (Json.Wording.text "value")) h_masked

/-- Not every record has a line that is one object with what the record holds: the two halves of a
pair, one by one, are read as one character, and there is no line for a number of 4301 digits, nor
for lists that fill the room. -/
theorem Record.not_every_line_is_such :
    let now : Instant := ⟨2024, 5, 6, 7, 8, 9, 0⟩
    (∃ line fields, (noted (.broken [0xD83D, 0xDE00]) .null).write now 900 = .ok line ∧
      Json.read? line = some (.object fields) ∧ fields.lookup (.text "message") = some (.text "😀")) ∧
    (∀ line, (noted "" (.int (Number.tenTo 4300))).write now 900 ≠ .ok line) ∧
    ∀ line, (noted "" (nested 900)).write now 900 ≠ .ok line := by
  intro now
  refine ⟨?_, fun line h_write => ?_, fun line h_write => ?_⟩
  · -- The line is the one of the record whose message is the character.
    have h_line : (noted (.text "😀") .null).line now =
        (noted (.broken [0xD83D, 0xDE00]) .null).line now := by
      decide +kernel
    have h_exact : (noted (.text "😀") .null).IsExact :=
      ⟨rfl, rfl, by simp [noted, Datum.isExact, Json.isExact, Json.Wording.isExact], by decide, rfl⟩
    obtain ⟨fields, h_read, -, h_lookup⟩ := Record.read?_line _ now h_exact
    refine ⟨_, fields, (Record.write_eq_ok_iff _ now 900).mpr ⟨?_, rfl⟩, h_line ▸ h_read, ?_⟩
    · exact ⟨by decide +kernel, by decide +kernel⟩
    · rw [h_lookup]
      refine congrArg (some ∘ Datum.toJson) (maskDatum_text "message" (by decide) ?_)
      decide +kernel
  · obtain ⟨⟨-, h_short⟩, -⟩ := (Record.write_eq_ok_iff _ now 900).mp h_write
    have h_value := h_short _ (mem_noted "" rfl now) (Number.tenTo 4300) (List.mem_singleton_self _)
    exact absurd h_value (by decide +kernel)
  · obtain ⟨⟨h_height, -⟩, -⟩ := (Record.write_eq_ok_iff _ now 900).mp h_write
    have h_value := h_height _ (mem_noted "" (by rw [nested]; rfl) now)
    exact absurd (height_nested 900) (Nat.ne_of_lt h_value)

end ImageIntake.Log
