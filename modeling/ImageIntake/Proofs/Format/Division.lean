/-
  ImageIntake.Proofs.Format.Division

  Classifying a body that arrives in chunks.  A header is looked at with one
  read, and one read gives no more than the first chunk that holds anything
  (`await_divided`), so that a class is told from that chunk alone.  The class
  shown is therefore that of the whole body exactly if that chunk reaches as far
  as the class is told from; otherwise the image passes for plain data, and two
  divisions of one body are classified differently exactly if one of them
  reaches far enough and the other does not.
-/

import ImageIntake.Feed
import ImageIntake.Proofs.Format.Header

namespace ImageIntake

open ImageIntake.Cancellation ImageIntake.Format ImageIntake.Http ImageIntake.Stream

/-! ## One look at a header -/

/-- Peeking at an open stream with nothing buffered is one read. -/
theorem Stream.Buffered.peek_fst {σ : Type} [ByteSource σ] {b : Buffered σ}
    (h_open : ByteSource.closed b.source = false) (h_ahead : b.ahead = []) :
    b.peek.1 = (ByteSource.read b.capacity b.source).1.map fun bytes? => bytes?.getD [] := by
  cases h_read : ByteSource.read b.capacity b.source with
  | mk outcome source =>
    cases outcome <;> simp [peek, exhausted, h_open, h_ahead, h_read, Except.map]

namespace Format

theorem headerLimit_pos (hint : Int) : 0 < headerLimit hint := by
  unfold headerLimit headerSize
  split <;> omega

theorem headerLimit_le (hint : Int) : headerLimit hint ≤ headerSize := by
  unfold headerLimit
  split
  · omega
  · exact Nat.le_refl _

/-- The class that the bytes at the head of a stream come to; there must be any. -/
def classOf (hint : Int) (bytes : Bytes) : Except Failure Format.Class :=
  if bytes.isEmpty then .error Stack.emptyStream
  else .ok (.ofHeader (bytes.take (headerLimit hint)))

namespace Stack

variable {σ : Type} [ByteSource σ]

theorem shown_ofBuffered (reader : Buffered σ) (hint : Int) :
    (ofBuffered reader hint).1.map (·.shown) = reader.peek.1.bind (classOf hint) := by
  have h_pos := headerLimit_pos hint
  unfold ofBuffered
  rcases reader.peek with ⟨f | bytes, reader⟩
  · rfl
  · by_cases h_bytes : bytes = []
    · simp [classOf, h_bytes, Except.map, Except.bind]
    · -- The limit is never 0, so the header is empty only if nothing came.
      have h_header : bytes.take (headerLimit hint) ≠ [] := by
        rw [ne_eq, List.take_eq_nil_iff]
        rintro (h | h)
        · omega
        · exact h_bytes h
      simp [classOf, h_bytes, h_header, Except.map, Except.bind]

theorem shown_ofSource {source : σ} (h_attach : ByteSource.attach source = .ok ()) (hint : Int) :
    ((ofSource source hint).mapError (·.failure)).map (·.shown) =
      (⟨source, headerSize, []⟩ : Buffered σ).peek.1.bind (classOf hint) := by
  rw [← shown_ofBuffered]
  simp only [ofSource, Buffered.attach, h_attach, Except.map]
  rcases ofBuffered (⟨source, headerSize, []⟩ : Buffered σ) hint with ⟨_ | _, _⟩ <;> rfl

end Stack

end Format

/-- An open stream is classified by what one read of a header's size gives. -/
theorem Feed.classify_fst {feed : Feed} (h_attach : ByteSource.attach feed = .ok ())
    (h_open : feed.closed = false) (hint : Int) :
    (feed.classify hint).1 =
      ((feed.read headerSize).1.map fun bytes? => bytes?.getD []).bind (classOf hint) := by
  have h_peek := Buffered.peek_fst (b := ⟨feed, headerSize, []⟩) h_open rfl
  have h_shown := Stack.shown_ofSource h_attach hint
  rw [h_peek] at h_shown
  refine Eq.trans ?_ h_shown
  unfold classify
  cases Stack.ofSource feed hint <;> rfl

/-! ## Divided bodies -/

namespace Http

/-- A body that arrives in chunks. -/
def Body.divided (closeFailure : Option Failure) (chunks : List Bytes) : Body :=
  { pieces := chunks.map .data, closeFailure }

/-- The first chunk that holds anything. -/
def firstChunk (chunks : List Bytes) : Bytes := (chunks.find? (!·.isEmpty)).getD []

@[simp] theorem firstChunk_nil_cons (chunks : List Bytes) :
    firstChunk ([] :: chunks) = firstChunk chunks := rfl

@[simp] theorem firstChunk_cons_cons (b : UInt8) (chunk : Bytes) (chunks : List Bytes) :
    firstChunk ((b :: chunk) :: chunks) = b :: chunk := rfl

theorem firstChunk_isPrefix (chunks : List Bytes) : firstChunk chunks <+: chunks.flatten := by
  induction chunks with
  | nil => exact List.nil_prefix
  | cons chunk chunks ih =>
    cases chunk with
    | nil => simpa using ih
    | cons b rest => exact List.prefix_append _ _

theorem firstChunk_eq_nil_iff (chunks : List Bytes) :
    firstChunk chunks = [] ↔ chunks.flatten = [] := by
  induction chunks with
  | nil => simp [firstChunk]
  | cons chunk chunks ih =>
    cases chunk with
    | nil => simpa using ih
    | cons b rest => simp

/-- A body of chunks gives the first that holds anything; one without data is closed instead. -/
theorem Guarded.await_divided (g : Guarded) (chunks : List Bytes) :
    (g.await (chunks.map .data)).1 =
      if chunks.flatten = [] then (g.ended []).reader.body.close.1.map fun _ => []
      else .ok (firstChunk chunks) := by
  induction chunks with
  | nil =>
    rw [List.map_nil, await]
    cases h : (g.ended []).reader.body.close with
    | mk outcome body => cases outcome <;> simp [Except.map]
  | cons chunk chunks ih =>
    rw [List.map_cons, await]
    cases chunk with
    | nil => simpa using ih
    | cons b rest => simp

/-- A read of an open reader that has nothing buffered takes from what it waits for. -/
theorem Guarded.read_fst {g : Guarded} (count : Nat) (h_open : g.reader.closed = false)
    (h_live : g.token.cancelled = false) (h_buffer : g.reader.buffer = [])
    (h_ended : g.reader.body.ended = false) :
    (g.read count).1 = match g.await g.reader.body.pieces with
      | (.ok bytes, _) => .ok (bytes.take count)
      | (.error f, g') => .error (g'.readFailure f) := by
  simp only [read, fill, h_open, h_live, h_buffer, h_ended]
  rcases g.await g.reader.body.pieces with ⟨_ | _, _⟩ <;> rfl

namespace Guarded

/-- The reader of a body in chunks, under a token that was not cancelled. -/
def divided (pending : List Hold) (ownsClient : Bool) (closeFailure : Option Failure)
    (chunks : List Bytes) : Guarded where
  token := { pending }
  reader := { body := .divided closeFailure chunks, ownsClient }

variable (pending : List Hold) (ownsClient : Bool) (closeFailure : Option Failure)

/-- One read gives what it asks for of the first chunk that holds anything. -/
theorem read_divided_of_ne_nil (count : Nat) {chunks : List Bytes} (h : chunks.flatten ≠ []) :
    ((divided pending ownsClient closeFailure chunks).read count).1 =
      .ok ((firstChunk chunks).take count) := by
  let g := divided pending ownsClient closeFailure chunks
  have h_await : (g.await g.reader.body.pieces).1 = .ok (firstChunk chunks) :=
    (g.await_divided chunks).trans (if_neg h)
  rw [read_fst count rfl rfl rfl rfl]
  rcases h_eq : g.await g.reader.body.pieces with ⟨outcome, g'⟩
  rw [h_eq] at h_await
  obtain rfl : outcome = .ok (firstChunk chunks) := h_await
  rfl

/-- A body without data gives nothing to read, if it can be closed. -/
theorem read_divided_of_nil (count : Nat) {chunks : List Bytes} {bytes : Bytes}
    (h : chunks.flatten = [])
    (h_read : ((divided pending ownsClient closeFailure chunks).read count).1 = .ok bytes) :
    bytes = [] := by
  let g := divided pending ownsClient closeFailure chunks
  have h_await : (g.await g.reader.body.pieces).1 =
      (g.ended []).reader.body.close.1.map fun _ => [] :=
    (g.await_divided chunks).trans (if_pos h)
  rw [read_fst count rfl rfl rfl rfl] at h_read
  rcases h_eq : g.await g.reader.body.pieces with ⟨outcome, g'⟩
  rw [h_eq] at h_await
  cases outcome with
  | error f => simp [g, h_eq] at h_read
  | ok got =>
    have h_got : got = [] := by
      cases h_close : (g.ended []).reader.body.close.1 with
      | error f => simp [h_close, Except.map] at h_await
      | ok _ => simpa [h_close, Except.map] using h_await
    simp only [g, h_eq, h_got] at h_read
    simpa using h_read.symm

end Guarded

end Http

/-! ## Their classification -/

namespace Feed

/-- The stream of a response whose body arrives in chunks, under a token that was not cancelled. -/
def divided (pending : List Hold) (ownsClient : Bool) (closeFailure : Option Failure)
    (chunks : List Bytes) : Feed where
  token := { pending }
  source := .response { body := .divided closeFailure chunks, ownsClient }

variable (pending : List Hold) (ownsClient : Bool) (closeFailure : Option Failure) (hint : Int)

theorem read_divided (count : Nat) (chunks : List Bytes) :
    ((divided pending ownsClient closeFailure chunks).read count).1 =
      ((Guarded.divided pending ownsClient closeFailure chunks).read count).1.map some := rfl

/-- The class that is shown is told from the first chunk that holds anything. -/
theorem classify_divided {chunks : List Bytes} (h : chunks.flatten ≠ []) :
    ((divided pending ownsClient closeFailure chunks).classify hint).1 =
      .ok (.ofHeader ((firstChunk chunks).take (headerLimit hint))) := by
  have h_first : firstChunk chunks ≠ [] := by simpa [firstChunk_eq_nil_iff] using h
  have h_limit : min (headerLimit hint) headerSize = headerLimit hint :=
    Nat.min_eq_left (headerLimit_le hint)
  rw [classify_fst rfl rfl, read_divided,
    Guarded.read_divided_of_ne_nil pending ownsClient closeFailure headerSize h]
  simp only [Except.map, Except.bind, classOf, Option.getD_some]
  rw [if_neg (by simpa [headerSize] using h_first), List.take_take, h_limit]

/-- A body is classified exactly if it holds anything. -/
theorem classify_divided_isOk (chunks : List Bytes) :
    ((divided pending ownsClient closeFailure chunks).classify hint).1.isOk =
      !chunks.flatten.isEmpty := by
  by_cases h : chunks.flatten = []
  · rw [classify_fst rfl rfl, read_divided]
    cases h_read :
      ((Guarded.divided pending ownsClient closeFailure chunks).read headerSize).1 with
    | error f => simp [h, Except.map, Except.bind, Except.isOk, Except.toBool]
    | ok bytes =>
      obtain rfl := Guarded.read_divided_of_nil pending ownsClient closeFailure headerSize h h_read
      simp [h, Except.map, Except.bind, classOf, Except.isOk, Except.toBool]
  · rw [classify_divided pending ownsClient closeFailure hint h]
    simp [h, Except.isOk, Except.toBool]

/-- The class of the whole body, as far as a header may reach. -/
def wholeClass (hint : Int) (chunks : List Bytes) : Format.Class :=
  .ofHeader (chunks.flatten.take (headerLimit hint))

/-- What is shown is what the first chunk that holds anything shows of the class of the whole
body. -/
theorem eq_within_of_classify_divided {chunks : List Bytes} {shown : Format.Class}
    (h_shown : ((divided pending ownsClient closeFailure chunks).classify hint).1 = .ok shown) :
    shown = (wholeClass hint chunks).within (firstChunk chunks).length := by
  have h_data : chunks.flatten ≠ [] := by
    intro h
    have h_ok := classify_divided_isOk pending ownsClient closeFailure hint chunks
    simp [h_shown, h, Except.isOk, Except.toBool] at h_ok
  have h_seen : (firstChunk chunks).take (headerLimit hint) =
      (chunks.flatten.take (headerLimit hint)).take (firstChunk chunks).length := by
    rw [List.take_take, Nat.min_comm, ← List.take_take,
      ← List.prefix_iff_eq_take.1 (firstChunk_isPrefix chunks)]
  rw [classify_divided pending ownsClient closeFailure hint h_data, h_seen,
    Class.ofHeader_take] at h_shown
  exact (Except.ok.inj h_shown).symm

/-- A class that is shown is that of the whole body exactly if the first chunk that holds anything
reaches as far as the class is told from, and otherwise none at all; so two divisions of a body are
classified alike exactly if both reach that far or neither does. -/
theorem classified_as_whole_iff {chunks : List Bytes} {shown : Format.Class}
    (h_shown : ((divided pending ownsClient closeFailure chunks).classify hint).1 = .ok shown) :
    (shown = wholeClass hint chunks ↔
      (wholeClass hint chunks).reach ≤ (firstChunk chunks).length) ∧
    (shown ≠ wholeClass hint chunks → shown = .plain) ∧
    ∀ pending' ownsClient' closeFailure' chunks' shown', chunks'.flatten = chunks.flatten →
      ((divided pending' ownsClient' closeFailure' chunks').classify hint).1 = .ok shown' →
      (shown = shown' ↔ ((wholeClass hint chunks).reach ≤ (firstChunk chunks).length ↔
        (wholeClass hint chunks).reach ≤ (firstChunk chunks').length)) := by
  have h_eq := eq_within_of_classify_divided pending ownsClient closeFailure hint h_shown
  refine ⟨?_, ?_, ?_⟩
  · rw [h_eq, Class.within_eq_self_iff]
  · intro h_ne
    rw [h_eq, ne_eq, Class.within_eq_self_iff] at h_ne
    rw [h_eq, Class.within_of_lt_reach (Nat.not_le.1 h_ne)]
  · intro pending' ownsClient' closeFailure' chunks' shown' h_same h_shown'
    -- Both are measured against the class of the one body.
    have h_eq' := eq_within_of_classify_divided pending' ownsClient' closeFailure' hint h_shown'
    have h_whole : wholeClass hint chunks' = wholeClass hint chunks := by
      rw [wholeClass, h_same, wholeClass]
    rw [h_eq, h_eq', h_whole, Class.within_eq_within_iff]

/-- A vhdx image is classified as a whole if its eight bytes come with the first data. -/
theorem vhdx_classified_as_whole :
    ((divided [.reader] true none
      [[], [0x76, 0x68, 0x64, 0x78, 0x66, 0x69, 0x6C, 0x65], [0x01]]).classify 400).1 =
        .ok ⟨none, some .vhdx⟩ ∧
    ⟨none, some .vhdx⟩ =
      wholeClass 400 [[], [0x76, 0x68, 0x64, 0x78, 0x66, 0x69, 0x6C, 0x65], [0x01]] :=
  ⟨rfl, (classified_as_whole_iff [.reader] true none 400 rfl).1.2 (by decide)⟩

/-- The header of an xz image in two chunks passes for plain data, and in one chunk it does not. -/
theorem xz_unseen_in_two_chunks :
    ((divided [] false none [[0xFD, 0x37, 0x7A, 0x58, 0x5A], [0x00]]).classify 0).1 = .ok .plain ∧
    ((divided [] false none [[0xFD, 0x37, 0x7A, 0x58, 0x5A, 0x00]]).classify 0).1 =
      .ok ⟨some .xz, none⟩ ∧
    wholeClass 0 [[0xFD, 0x37, 0x7A, 0x58, 0x5A], [0x00]] = ⟨some .xz, none⟩ :=
  ⟨rfl, rfl, rfl⟩

end Feed

end ImageIntake
