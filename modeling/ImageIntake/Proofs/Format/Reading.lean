/-
  ImageIntake.Proofs.Format.Reading

  What reading a classified stream gives, and what its class rests on.  The reader of
  a body that nobody disturbs is a steady source of the data it has left
  (`Guarded.Left`), in whatever chunks that arrives, and looking at the header of a
  steady source takes nothing away (`ofSource_ready`).  So any reads behind the
  classification hand out the body from its first byte, and as the header is the
  beginning of the body, a class that is shown has its magic in the body itself.
-/

import ImageIntake.Proofs.Feed
import ImageIntake.Proofs.Http.Reading
import ImageIntake.Proofs.Stream.Buffered

namespace ImageIntake

open ImageIntake.Cancellation ImageIntake.Format ImageIntake.Http ImageIntake.Stream
open ImageIntake.Stream.Buffered

/-! ## Readers as steady sources -/

namespace Http.Guarded

variable {g g' : Guarded} {data bytes : Bytes} {count : Nat}

/-- A reader that nobody disturbs has these bytes left: those that arrived and were not asked for
yet, then those of its body. -/
structure Left (g : Guarded) (data : Bytes) : Prop where
  undisturbed : g.Undisturbed
  ended : g.reader.body.ended = true → g.reader.body.pieces = []
  data_eq : data = g.reader.buffer ++ Body.dataOf g.reader.body.pieces

/-- What a reader holds back passes for a piece of the body in front of the others. -/
theorem Left.passed (h : g.Left data) :
    Passed (.data g.reader.buffer :: g.reader.body.pieces) [] g := by
  refine ⟨h.ended, [.data g.reader.buffer], rfl, ?_, ?_⟩
  · intro piece h_mem
    rw [List.mem_singleton.mp h_mem]
    rfl
  · exact List.append_nil _

theorem length_le_of_read (h_read : g.read count = (.ok bytes, g')) : bytes.length ≤ count := by
  unfold Guarded.read at h_read
  split at h_read
  · cases h_read
  · split at h_read
    · cases h_read
    · cases h_read
      exact List.length_take_le _ _

/-- A read hands out the next of the data, and none only at its end. -/
theorem Left.read (h : g.Left data) (h_count : 0 < count) :
    ∃ bytes rest g', g.read count = (.ok bytes, g') ∧ data = bytes ++ rest ∧
      bytes.length ≤ count ∧ (bytes = [] → rest = []) ∧ g'.Left rest := by
  obtain ⟨bytes, g', h_read, h_after⟩ := h.undisturbed.read count
  have h_data : data = Body.dataOf (.data g.reader.buffer :: g.reader.body.pieces) := h.data_eq
  obtain ⟨h_ended, passed, h_pieces, -, h_passed⟩ := h.passed.read h_read
  refine ⟨bytes, g'.reader.buffer ++ Body.dataOf g'.reader.body.pieces, g', h_read, ?_,
    length_le_of_read h_read, ?_, h_after, h_ended, rfl⟩
  · rw [h_data, h_pieces, Body.dataOf_append, h_passed, List.nil_append, List.append_assoc]
  · rintro rfl
    have h_none := (h.passed.read_nil h_count h_read).1
    rw [h_pieces, Body.dataOf_append, h_passed, List.nil_append] at h_none
    exact h_none.symm

end Http.Guarded

namespace Feed

variable {feed : Feed} {g : Guarded} {data : Bytes}

theorem Holds.read_fst (h : feed.Holds g) (count : Nat) :
    (feed.read count).1 = (g.read count).1.map some := by
  unfold Feed.read
  rw [h.source, h.token]

theorem Holds.bound (h : feed.Holds g) : ByteSource.bound feed = ByteSource.bound g := by
  obtain ⟨token, source, abandoned⟩ := feed
  obtain rfl : token = g.token := h.token
  obtain rfl : source = .response g.reader := h.source
  rfl

/-- A stream that is the reader of a response, undisturbed, with these bytes left. -/
def Left (feed : Feed) (data : Bytes) : Prop := ∃ g, feed.Holds g ∧ g.Left data

/-- The stream of a response is steady as long as nobody disturbs it. -/
theorem steady : Steady Left where
  opened := by
    rintro feed data ⟨g, h_holds, h_left⟩
    exact h_holds.closed.trans h_left.undisturbed.closed
  length_le := by
    rintro feed data ⟨g, h_holds, h_left⟩
    rw [h_holds.bound, h_left.data_eq, List.length_append]
    exact Nat.le_refl _
  read := by
    rintro feed data count h_count ⟨g, h_holds, h_left⟩
    obtain ⟨bytes, rest, g', h_read, h_data, h_length, h_end, h_after⟩ := h_left.read h_count
    have h_fst := h_holds.read_fst count
    have h_snd := h_holds.read count
    rw [h_read] at h_fst h_snd
    exact ⟨bytes, rest, (feed.read count).2, Prod.ext h_fst rfl, h_data, h_length, h_end,
      g', h_snd, h_after⟩

end Feed

/-! ## Classified streams -/

namespace Format

/-- Whether the bytes of a magic stand at their offset. -/
def Magic.StandsIn {α : Type} (m : Magic α) (data : Bytes) : Prop := m.bytes <+: data.drop m.offset

/-- A magic that the beginning of the data shows stands in the data. -/
theorem Magic.standsIn_of_shows {α : Type} {m : Magic α} {header data : Bytes}
    (h : m.shows header = true) (h_header : header <+: data) : m.StandsIn data := by
  have h_bytes : (header.drop m.offset).take m.bytes.length = m.bytes := eq_of_beq h
  have h_drop : header.drop m.offset <+: data.drop m.offset := by
    obtain ⟨rest, rfl⟩ := h_header
    rw [List.drop_append]
    exact List.prefix_append _ _
  rw [Magic.StandsIn, ← h_bytes]
  exact (List.take_prefix _ _).trans h_drop

theorem standsIn_of_detect? {α : Type} {table : List (Magic α)} {header data : Bytes} {kind : α}
    (h : detect? table header = some kind) (h_header : header <+: data) :
    ∃ m ∈ table, m.kind = kind ∧ m.StandsIn data := by
  obtain ⟨m, h_find, rfl⟩ := Option.map_eq_some_iff.mp h
  have h_shows := List.find?_some h_find
  exact ⟨m, List.mem_of_find?_eq_some h_find, rfl, m.standsIn_of_shows h_shows h_header⟩

namespace Stack

variable {σ : Type} [ByteSource σ] {Holds : σ → Bytes → Prop} {source : σ} {data : Bytes}

/-- Classifying a steady source by the beginning of its bytes leaves all of them to be read. -/
theorem ofSource_ready (h_steady : Steady Holds) (h : Holds source data) {hint : Int}
    {stack : Stack σ} (h_built : ofSource source hint = .ok stack) :
    stack.reader.Ready Holds data ∧
      ∃ header, header <+: data ∧ stack.shown = .ofHeader header := by
  have h_ready : (⟨source, headerSize, []⟩ : Buffered σ).Ready Holds data :=
    ⟨show 0 < headerSize by decide, data, rfl, h⟩
  obtain ⟨bytes, reader, h_peek, h_bytes, h_after⟩ := h_ready.peek h_steady
  cases h_attach : ByteSource.attach source with
  | error f => simp [ofSource, Buffered.attach, h_attach, Except.map] at h_built
  | ok _ =>
    simp only [ofSource, Buffered.attach, h_attach, Except.map, ofBuffered, h_peek] at h_built
    by_cases h_none : (bytes.take (headerLimit hint)).isEmpty = true
    · rw [if_pos h_none] at h_built
      cases h_built
    · rw [if_neg h_none] at h_built
      cases h_built
      exact ⟨h_after, _, (List.take_prefix _ _).trans h_bytes, rfl⟩

end Stack

end Format

namespace Feed

variable (pending : List Hold) (ownsClient : Bool)

theorem left_divided (chunks : List Bytes) :
    (divided pending ownsClient none chunks).Left chunks.flatten := by
  refine ⟨.divided pending ownsClient none chunks, ⟨rfl, rfl⟩, ⟨rfl, rfl, rfl, ?_⟩, nofun, ?_⟩
  · intro piece h_mem
    obtain ⟨bytes, -, rfl⟩ := List.mem_map.mp h_mem
    exact ⟨bytes, rfl⟩
  · show chunks.flatten = Body.dataOf (chunks.map .data)
    rw [Body.dataOf, List.flatMap_map, List.flatMap_def, List.map_id']

/-- Behind the classification of a body in chunks, any sequence of reads hands out the body from
its first byte: each read as many of the next bytes as it asks for, or all that are left, and all
of the body together once one of them comes to its end.  A compression or image format that is
shown has its magic at its offset in the body, and an image format is shown only without
compression. -/
theorem whole_of_ofSource_divided (hint : Int) (chunks : List Bytes) {stack : Stack Feed}
    (h_built : Stack.ofSource (divided pending ownsClient none chunks) hint = .ok stack) :
    let body := chunks.flatten
    (∀ asks, (stack.reader.answers asks).1 =
        (Ask.parts asks body).map (fun bytes => .ok (some bytes)) ∧
      (Ask.parts asks body).flatten ++ Ask.left asks body = body ∧
      (Ask.reached asks body = true → (Ask.parts asks body).flatten = body)) ∧
    (∀ compression, stack.shown.compression = some compression →
      ∃ m ∈ compressionMagic, m.kind = compression ∧ m.StandsIn body) ∧
    ¬(stack.shown.xz = true ∧ stack.shown.gz = true) ∧
    (∀ image, stack.shown.image = some image →
      stack.shown.compression = none ∧ ∃ m ∈ imageMagic, m.kind = image ∧ m.StandsIn body) := by
  intro body
  obtain ⟨h_ready, header, h_header, h_shown⟩ :=
    Stack.ofSource_ready steady (left_divided pending ownsClient chunks) h_built
  refine ⟨fun asks => ⟨answers_ready steady h_ready asks, Ask.flatten_parts_append_left asks body,
    Ask.flatten_parts_of_reached⟩, ?_, ?_, ?_⟩
  · intro compression h_compression
    rw [h_shown, Class.ofHeader] at h_compression
    cases h_detect : detect? compressionMagic header with
    | some found =>
      rw [h_detect] at h_compression
      cases h_compression
      exact standsIn_of_detect? h_detect h_header
    | none =>
      rw [h_detect] at h_compression
      cases h_compression
  · rintro ⟨h_xz, h_gz⟩
    rw [Class.xz, beq_iff_eq] at h_xz
    rw [Class.gz, beq_iff_eq, h_xz] at h_gz
    cases h_gz
  · intro image h_image
    rw [h_shown, Class.ofHeader] at h_image ⊢
    cases h_detect : detect? compressionMagic header with
    | some found =>
      rw [h_detect] at h_image
      cases h_image
    | none =>
      rw [h_detect] at h_image
      exact ⟨rfl, standsIn_of_detect? h_image h_header⟩

/-- A gzip body in chunks, of which a server has announced two bytes only: reads across the chunks
give it from its first byte. -/
theorem gzip_read_across_chunks :
    let chunks : List Bytes := [[], [0x1F, 0x8B, 0x08], [0x00, 0x01], [], [0x02]]
    let asks : List Ask := [.upTo 0, .upTo 1, .upTo 3, .all]
    ∃ stack, Stack.ofSource (divided [.reader] true none chunks) 2 = .ok stack ∧
      (stack.reader.answers asks).1 =
        [.ok (some []), .ok (some [0x1F]), .ok (some [0x8B, 0x08, 0x00]),
          .ok (some [0x01, 0x02])] ∧
      (Ask.parts asks chunks.flatten).flatten = chunks.flatten ∧
      ∃ m ∈ compressionMagic, m.kind = .gzip ∧ m.StandsIn chunks.flatten := by
  intro chunks asks
  refine ⟨_, rfl, ?_⟩
  obtain ⟨h_reads, h_compression, -, -⟩ := whole_of_ofSource_divided [.reader] true 2 chunks rfl
  exact ⟨(h_reads asks).1, (h_reads asks).2.2 rfl, h_compression .gzip rfl⟩

end Feed

end ImageIntake
