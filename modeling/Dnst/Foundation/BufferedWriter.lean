import Dnst.Foundation.Effect
import Mathlib.Data.List.Basic

/-! # Buffered output

A device takes part of what it is given, or fails. A buffered writer collects what it is
given and passes it on in blocks. What is left in its buffer at the end is passed on when
the writer is dropped, and nobody hears whether that fails. A line writer leaves nothing
behind complete lines.
-/

namespace Dnst.BufferedWriter

variable {Byte : Type}

/-! ## Devices -/

/-- What a device makes of one call. -/
inductive Attempt where
  | takes (count : Nat)
  | fails
  deriving DecidableEq

/-- What has been written, and what becomes of the calls to come. After those the device
takes everything. -/
structure Device (Byte : Type) where
  content : List Byte
  attempts : List Attempt

/-- The device after a write, and what is left to be written. -/
structure Written (Byte : Type) where
  device : Device Byte
  rest : List Byte

/-- A call that takes nothing counts as a failure. -/
def writeAttempts (content : List Byte) : List Attempt → List Byte → Written Byte
  | attempts, [] => ⟨⟨content, attempts⟩, []⟩
  | [], bytes => ⟨⟨content ++ bytes, []⟩, []⟩
  | .fails :: attempts, bytes => ⟨⟨content, attempts⟩, bytes⟩
  | .takes 0 :: attempts, bytes => ⟨⟨content, attempts⟩, bytes⟩
  | .takes (count + 1) :: attempts, bytes =>
      writeAttempts (content ++ bytes.take (count + 1)) attempts (bytes.drop (count + 1))

namespace Device

/-- `write_all`: call the device until everything is written or a call fails. -/
def writeAll (device : Device Byte) (bytes : List Byte) : Written Byte :=
  writeAttempts device.content device.attempts bytes

/-- Write a block completely. -/
def accept (device : Device Byte) (block : List Byte) : Option (Device Byte) :=
  if (device.writeAll block).rest.isEmpty then some (device.writeAll block).device else none

/-- Write blocks one after the other. -/
def accepts (device : Device Byte) (blocks : List (List Byte)) : Option (Device Byte) :=
  blocks.foldlM accept device

end Device

section Device

variable {device next : Device Byte} {bytes : List Byte}

theorem writeAttempts_content (content : List Byte) (attempts : List Attempt)
    (bytes : List Byte) :
    (writeAttempts content attempts bytes).device.content ++
      (writeAttempts content attempts bytes).rest = content ++ bytes := by
  induction attempts generalizing content bytes with
  | nil => cases bytes <;> simp [writeAttempts]
  | cons attempt attempts induction =>
      cases bytes with
      | nil => simp [writeAttempts]
      | cons byte bytes =>
          cases attempt with
          | fails => rfl
          | takes count =>
              cases count with
              | zero => rfl
              | succ count =>
                  rw [writeAttempts, induction, List.append_assoc, List.take_append_drop]
                  simp

/-- What is not written is left. -/
theorem Device.writeAll_content (device : Device Byte) (bytes : List Byte) :
    (device.writeAll bytes).device.content ++ (device.writeAll bytes).rest =
      device.content ++ bytes := writeAttempts_content _ _ _

theorem Device.content_of_accept {block : List Byte} (accepted : device.accept block = some next) :
    next.content = device.content ++ block := by
  unfold Device.accept at accepted
  split at accepted
  · next noRest =>
      cases accepted
      have written := device.writeAll_content block
      rw [List.isEmpty_iff.mp noRest, List.append_nil] at written
      exact written
  · cases accepted

theorem Device.content_of_accepts {blocks : List (List Byte)}
    (accepted : device.accepts blocks = some next) :
    next.content = device.content ++ blocks.flatten := by
  induction blocks generalizing device with
  | nil =>
      cases accepted
      simp
  | cons block blocks induction =>
      unfold Device.accepts at accepted
      rw [List.foldlM_cons] at accepted
      cases first : device.accept block with
      | none =>
          rw [first] at accepted
          cases accepted
      | some after =>
          rw [first] at accepted
          rw [induction accepted, Device.content_of_accept first]
          simp

theorem Device.accept_of_noAttempts (never : device.attempts = []) (block : List Byte) :
    device.accept block = some ⟨device.content ++ block, []⟩ := by
  unfold Device.accept Device.writeAll
  rw [never]
  cases block <;> simp [writeAttempts]

end Device

/-! ## Block writers -/

structure BufWriter (Byte : Type) where
  device : Device Byte
  buffer : List Byte

namespace BufWriter

/-- Pass the buffer on. After an error it keeps what is left. -/
def flushBuf (writer : BufWriter Byte) : Except (BufWriter Byte) (BufWriter Byte) :=
  let written := writer.device.writeAll writer.buffer
  if written.rest.isEmpty then .ok ⟨written.device, []⟩ else .error ⟨written.device, written.rest⟩

/-- Write past the buffer. -/
def writeThrough (writer : BufWriter Byte) (bytes : List Byte) :
    Except (BufWriter Byte) (BufWriter Byte) :=
  let written := writer.device.writeAll bytes
  if written.rest.isEmpty then .ok { writer with device := written.device }
  else .error { writer with device := written.device }

/-- Collect what has room in the buffer. What fills a buffer of its own goes past it. -/
def writeAll (capacity : Nat) (writer : BufWriter Byte) (bytes : List Byte) :
    Except (BufWriter Byte) (BufWriter Byte) :=
  let room := capacity - writer.buffer.length
  if bytes.length < room then .ok { writer with buffer := writer.buffer ++ bytes }
  else do
    let writer ← if room < bytes.length then writer.flushBuf else .ok writer
    if capacity ≤ bytes.length then writer.writeThrough bytes
    else .ok { writer with buffer := writer.buffer ++ bytes }

/-- The buffer is passed on as far as possible. Errors are ignored. -/
def drop (writer : BufWriter Byte) : Device Byte := (writer.device.writeAll writer.buffer).device

end BufWriter

/-- The blocks that are passed on for a chunk, and the buffer behind it. -/
def pass (capacity : Nat) (buffer chunk : List Byte) : List (List Byte) × List Byte :=
  let room := capacity - buffer.length
  if chunk.length < room then ([], buffer ++ chunk)
  else
    let flushed := if room < chunk.length then [buffer] else []
    let kept := if room < chunk.length then [] else buffer
    if capacity ≤ chunk.length then (flushed ++ [chunk], kept) else (flushed, kept ++ chunk)

/-- The blocks that are passed on for all chunks, and what is left for the end. -/
def blocks (capacity : Nat) : List Byte → List (List Byte) → List (List Byte) × List Byte
  | buffer, [] => ([], buffer)
  | buffer, chunk :: chunks =>
      let now := pass capacity buffer chunk
      let later := blocks capacity now.2 chunks
      (now.1 ++ later.1, later.2)

section BufWriter

variable {capacity : Nat} {device : Device Byte} {buffer bytes chunk : List Byte}
variable {chunks : List (List Byte)} {writer : BufWriter Byte}

theorem toOption_bind {Failure Value Result : Type} (first : Except Failure Value)
    (next : Value → Except Failure Result) :
    (first >>= next).toOption = first.toOption >>= fun value => (next value).toOption := by
  cases first <;> rfl

theorem flushBuf_toOption : (writer.flushBuf).toOption =
    (writer.device.accept writer.buffer).map (⟨·, []⟩) := by
  unfold BufWriter.flushBuf Device.accept
  dsimp only
  split <;> rfl

theorem writeThrough_toOption : (writer.writeThrough bytes).toOption =
    (writer.device.accept bytes).map (⟨·, writer.buffer⟩) := by
  unfold BufWriter.writeThrough Device.accept
  dsimp only
  split <;> rfl

theorem accepts_nil : device.accepts [] = some device := rfl

theorem accepts_cons {block : List Byte} {later : List (List Byte)} :
    device.accepts (block :: later) = device.accept block >>= fun next => next.accepts later :=
  List.foldlM_cons

theorem accepts_append {one other : List (List Byte)} :
    device.accepts (one ++ other) = device.accepts one >>= fun next => next.accepts other :=
  List.foldlM_append

/-- The writer succeeds exactly when the device takes the blocks. -/
theorem writeAll_toOption :
    (BufWriter.writeAll capacity ⟨device, buffer⟩ chunk).toOption =
      (device.accepts (pass capacity buffer chunk).1).map
        (⟨·, (pass capacity buffer chunk).2⟩) := by
  unfold BufWriter.writeAll pass
  dsimp only
  split
  · rfl
  · by_cases exceeds : capacity - buffer.length < chunk.length
    · simp only [if_pos exceeds]
      rw [toOption_bind, flushBuf_toOption]
      by_cases full : capacity ≤ chunk.length
      · simp only [if_pos full]
        rw [List.cons_append, accepts_cons]
        cases device.accept buffer with
        | none => rfl
        | some next =>
            change (BufWriter.writeThrough ⟨next, []⟩ chunk).toOption =
              (next.accepts [chunk]).map _
            rw [writeThrough_toOption, accepts_cons]
            cases next.accept chunk <;> rfl
      · simp only [if_neg full]
        rw [accepts_cons]
        cases device.accept buffer <;> rfl
    · simp only [if_neg exceeds]
      by_cases full : capacity ≤ chunk.length
      · simp only [if_pos full]
        change (BufWriter.writeThrough ⟨device, buffer⟩ chunk).toOption = _
        rw [writeThrough_toOption, List.nil_append, accepts_cons]
        cases device.accept chunk <;> rfl
      · simp only [if_neg full]
        rfl

theorem writeChunks_toOption :
    (chunks.foldlM (BufWriter.writeAll capacity) ⟨device, buffer⟩).toOption =
      (device.accepts (blocks capacity buffer chunks).1).map
        (⟨·, (blocks capacity buffer chunks).2⟩) := by
  induction chunks generalizing device buffer with
  | nil => rfl
  | cons chunk chunks induction =>
      rw [List.foldlM_cons, toOption_bind, writeAll_toOption, blocks]
      dsimp only
      rw [accepts_append]
      cases device.accepts (pass capacity buffer chunk).1 with
      | none => rfl
      | some next => exact induction

theorem pass_flatten (positive : 0 < capacity) :
    (pass capacity buffer chunk).1.flatten ++ (pass capacity buffer chunk).2 =
      buffer ++ chunk := by
  unfold pass
  dsimp only
  split
  · rfl
  · by_cases exceeds : capacity - buffer.length < chunk.length
    · simp only [if_pos exceeds]
      split <;> simp
    · simp only [if_neg exceeds]
      by_cases full : capacity ≤ chunk.length
      · have noBuffer : buffer.length = 0 := by omega
        simp [if_pos full, List.eq_nil_of_length_eq_zero noBuffer]
      · simp [if_neg full]

/-- The blocks and the end make up everything. -/
theorem blocks_flatten (positive : 0 < capacity) :
    (blocks capacity buffer chunks).1.flatten ++ (blocks capacity buffer chunks).2 =
      buffer ++ chunks.flatten := by
  induction chunks generalizing buffer with
  | nil => simp [blocks]
  | cons chunk chunks induction =>
      rw [blocks]
      dsimp only
      rw [List.flatten_append, List.append_assoc, induction, List.flatten_cons,
        ← List.append_assoc, pass_flatten positive, List.append_assoc]

/-- When nothing has failed so far, the output is complete exactly when the end is taken
too. -/
theorem drop_complete_iff (positive : 0 < capacity)
    (written : chunks.foldlM (BufWriter.writeAll capacity) ⟨device, []⟩ = .ok writer) :
    writer.drop.content = device.content ++ chunks.flatten ↔
      (writer.device.accept (blocks capacity [] chunks).2).isSome = true := by
  have option := @writeChunks_toOption _ capacity device [] chunks
  rw [written] at option
  cases accepted : device.accepts (blocks capacity [] chunks).1 with
  | none =>
      rw [accepted] at option
      cases option
  | some next =>
      rw [accepted] at option
      cases option
      have before := Device.content_of_accepts accepted
      have all := @blocks_flatten _ capacity [] chunks positive
      have wrote := next.writeAll_content (blocks capacity [] chunks).2
      rw [before, List.append_assoc, all, List.nil_append] at wrote
      change (next.writeAll _).device.content = _ ↔ _
      unfold Device.accept
      constructor
      · intro complete
        rw [complete, List.append_right_eq_self] at wrote
        simp [wrote]
      · intro taken
        have noRest : (next.writeAll (blocks capacity [] chunks).2).rest = [] := by
          by_contra left_
          simp [left_] at taken
        rw [noRest, List.append_nil] at wrote
        exact wrote

end BufWriter

/-! ## Line writers -/

namespace LineWriter

/-- Is the last byte the end of a line? -/
def endsLine (newline : Byte → Bool) (bytes : List Byte) : Bool := bytes.getLast?.any newline

/-- What comes behind the last complete line. -/
def tail (newline : Byte → Bool) (bytes : List Byte) : List Byte :=
  (bytes.reverse.takeWhile fun byte => !newline byte).reverse

/-- The complete lines. -/
def lines (newline : Byte → Bool) (bytes : List Byte) : List Byte :=
  (bytes.reverse.dropWhile fun byte => !newline byte).reverse

def flushIfCompletedLine (newline : Byte → Bool) (writer : BufWriter Byte) :
    Except (BufWriter Byte) (BufWriter Byte) :=
  if endsLine newline writer.buffer then writer.flushBuf else .ok writer

/-- Write complete lines behind what is in the buffer. -/
def passLines (capacity : Nat) (writer : BufWriter Byte) (lines : List Byte) :
    Except (BufWriter Byte) (BufWriter Byte) :=
  if writer.buffer.isEmpty then writer.writeThrough lines
  else do
    let writer ← writer.writeAll capacity lines
    writer.flushBuf

/-- Complete lines are passed on at once. -/
def writeAll (newline : Byte → Bool) (capacity : Nat) (writer : BufWriter Byte)
    (bytes : List Byte) : Except (BufWriter Byte) (BufWriter Byte) :=
  if (lines newline bytes).isEmpty then do
    let writer ← flushIfCompletedLine newline writer
    writer.writeAll capacity bytes
  else do
    let writer ← passLines capacity writer (lines newline bytes)
    writer.writeAll capacity (tail newline bytes)

end LineWriter

section LineWriter

variable {newline : Byte → Bool} {capacity : Nat} {bytes : List Byte}
variable {chunks : List (List Byte)} {writer next : BufWriter Byte}

theorem flushBuf_ok (flushed : writer.flushBuf = .ok next) :
    next.buffer = [] ∧ next.device.content = writer.device.content ++ writer.buffer := by
  have option := @flushBuf_toOption _ writer
  rw [flushed] at option
  have ⟨device, accepted, same⟩ := Option.map_eq_some_iff.mp option.symm
  rw [← same]
  exact ⟨rfl, Device.content_of_accept accepted⟩

theorem writeThrough_ok (written : writer.writeThrough bytes = .ok next) :
    next.buffer = writer.buffer ∧ next.device.content = writer.device.content ++ bytes := by
  have option := @writeThrough_toOption _ bytes writer
  rw [written] at option
  have ⟨device, accepted, same⟩ := Option.map_eq_some_iff.mp option.symm
  rw [← same]
  exact ⟨rfl, Device.content_of_accept accepted⟩

theorem writeAll_ok (positive : 0 < capacity)
    (written : writer.writeAll capacity bytes = .ok next) :
    next.device.content ++ next.buffer = writer.device.content ++ (writer.buffer ++ bytes) := by
  have option := @writeAll_toOption _ capacity writer.device writer.buffer bytes
  rw [written] at option
  have ⟨device, accepted, same⟩ := Option.map_eq_some_iff.mp option.symm
  rw [← same, Device.content_of_accepts accepted, List.append_assoc, pass_flatten positive]

theorem writeAll_nil (positive : 0 < capacity) (device : Device Byte) :
    BufWriter.writeAll capacity ⟨device, []⟩ [] = .ok ⟨device, []⟩ := by
  simp [BufWriter.writeAll, positive]

namespace LineWriter

theorem lines_append_tail : lines newline bytes ++ tail newline bytes = bytes := by
  unfold lines tail
  rw [← List.reverse_append, List.takeWhile_append_dropWhile, List.reverse_reverse]

theorem tail_of_endsLine {before : List Byte} {last : Byte} (ends : newline last = true) :
    tail newline (before ++ [last]) = [] := by
  simp [tail, ends]

/-- Complete lines go before the rest of a chunk, and nothing stays in the buffer between
the two. -/
theorem writeAll_ok_cases (positive : 0 < capacity)
    (written : LineWriter.writeAll newline capacity writer bytes = .ok next) :
    ∃ flushed : BufWriter Byte, flushed.device.content ++ (flushed.buffer ++ tail newline bytes) =
        writer.device.content ++ (writer.buffer ++ bytes) ∧
      flushed.writeAll capacity (tail newline bytes) = .ok next ∧
      (lines newline bytes ≠ [] → flushed.buffer = []) := by
  have whole := @lines_append_tail _ newline bytes
  unfold LineWriter.writeAll at written
  split at written
  · next noLines =>
      have noLine : lines newline bytes = [] := List.isEmpty_iff.mp noLines
      rw [noLine, List.nil_append] at whole
      have ⟨flushed, first, rest⟩ := Effect.bind_eq_ok written
      refine ⟨flushed, ?_, by rw [whole]; exact rest, fun lines_ => absurd noLine lines_⟩
      rw [whole]
      unfold flushIfCompletedLine at first
      split at first
      · have ⟨emptied, passed⟩ := flushBuf_ok first
        rw [emptied, passed]
        simp
      · cases first
        rfl
  · have ⟨flushed, first, rest⟩ := Effect.bind_eq_ok written
    have passedLines : flushed.buffer = [] ∧
        flushed.device.content =
          writer.device.content ++ (writer.buffer ++ lines newline bytes) := by
      unfold passLines at first
      split at first
      · next noBuffer =>
          have ⟨sameBuffer, passed⟩ := writeThrough_ok first
          rw [List.isEmpty_iff] at noBuffer
          rw [sameBuffer, passed, noBuffer]
          exact ⟨rfl, rfl⟩
      · have ⟨collected, collects, flushes⟩ := Effect.bind_eq_ok first
        have ⟨emptied, passed⟩ := flushBuf_ok flushes
        exact ⟨emptied, passed.trans (writeAll_ok positive collects)⟩
    refine ⟨flushed, ?_, rest, fun _ => passedLines.1⟩
    rw [passedLines.1, passedLines.2, List.nil_append, List.append_assoc, List.append_assoc, whole]

theorem content_of_writeAll (positive : 0 < capacity)
    (written : LineWriter.writeAll newline capacity writer bytes = .ok next) :
    next.device.content ++ next.buffer = writer.device.content ++ (writer.buffer ++ bytes) := by
  have ⟨flushed, before, rest, _⟩ := writeAll_ok_cases positive written
  rw [writeAll_ok positive rest, before]

/-- The end of a line leaves nothing in the buffer. -/
theorem buffer_of_writeAll (positive : 0 < capacity) {before : List Byte} {last : Byte}
    (ends : newline last = true)
    (written : LineWriter.writeAll newline capacity writer (before ++ [last]) = .ok next) :
    next.buffer = [] := by
  have ⟨flushed, _, rest, emptied⟩ := writeAll_ok_cases positive written
  have whole := @lines_append_tail _ newline (before ++ [last])
  rw [tail_of_endsLine ends] at rest whole
  have complete : lines newline (before ++ [last]) ≠ [] := by
    intro noLines
    rw [noLines] at whole
    simp at whole
  have noBuffer := emptied complete
  have same : flushed = ⟨flushed.device, []⟩ := by rw [← noBuffer]
  rw [same, writeAll_nil positive] at rest
  cases rest
  rfl

theorem content_of_writeChunks (positive : 0 < capacity)
    (written : chunks.foldlM (LineWriter.writeAll newline capacity) writer = .ok next) :
    next.device.content ++ next.buffer =
      writer.device.content ++ (writer.buffer ++ chunks.flatten) := by
  induction chunks generalizing writer with
  | nil =>
      cases written
      simp
  | cons chunk chunks induction =>
      rw [List.foldlM_cons] at written
      have ⟨after, first, rest⟩ := Effect.bind_eq_ok written
      rw [induction rest, ← List.append_assoc, content_of_writeAll positive first]
      simp

/-- Behind the end of a line, all of the output has been passed on. -/
theorem complete_of_writeChunks (positive : 0 < capacity) {device : Device Byte}
    {before : List Byte} {last : Byte} (ends : newline last = true)
    (written : (chunks ++ [before ++ [last]]).foldlM (LineWriter.writeAll newline capacity)
      ⟨device, []⟩ = .ok next) :
    next.device.content = device.content ++ (chunks ++ [before ++ [last]]).flatten := by
  have all := content_of_writeChunks positive written
  rw [List.foldlM_append] at written
  have ⟨after, _, rest⟩ := Effect.bind_eq_ok written
  rw [List.foldlM_cons] at rest
  have ⟨done, final, same⟩ := Effect.bind_eq_ok rest
  cases same
  rw [buffer_of_writeAll positive ends final, List.append_nil] at all
  simpa using all

end LineWriter

end LineWriter

/-! ## Devices that never fail -/

/-- On a device that takes everything, writing succeeds. -/
def Reliable (write : BufWriter Byte → List Byte → Except (BufWriter Byte) (BufWriter Byte)) :
    Prop :=
  ∀ writer bytes, writer.device.attempts = [] →
    ∃ next, write writer bytes = .ok next ∧ next.device.attempts = []

section Reliable

variable {capacity : Nat} {writer : BufWriter Byte}

theorem flushBuf_of_noAttempts (never : writer.device.attempts = []) :
    ∃ next, writer.flushBuf = .ok next ∧ next.device.attempts = [] := by
  have option := @flushBuf_toOption _ writer
  rw [Device.accept_of_noAttempts never] at option
  cases flushed : writer.flushBuf with
  | error stopped =>
      rw [flushed] at option
      cases option
  | ok next =>
      rw [flushed] at option
      cases option
      exact ⟨_, rfl, rfl⟩

theorem writeThrough_reliable : Reliable (@BufWriter.writeThrough Byte) := by
  intro writer bytes never
  have option := @writeThrough_toOption _ bytes writer
  rw [Device.accept_of_noAttempts never] at option
  cases written : writer.writeThrough bytes with
  | error stopped =>
      rw [written] at option
      cases option
  | ok next =>
      rw [written] at option
      cases option
      exact ⟨_, rfl, rfl⟩

theorem accepts_of_noAttempts {device : Device Byte} (never : device.attempts = [])
    (passed : List (List Byte)) :
    ∃ next, device.accepts passed = some next ∧ next.attempts = [] := by
  induction passed generalizing device with
  | nil => exact ⟨device, rfl, never⟩
  | cons block passed induction =>
      rw [accepts_cons, Device.accept_of_noAttempts never]
      exact induction rfl

theorem writeAll_reliable : Reliable (@BufWriter.writeAll Byte capacity) := by
  intro writer bytes never
  have ⟨device, accepted, still⟩ :=
    accepts_of_noAttempts never (pass capacity writer.buffer bytes).1
  have option := @writeAll_toOption _ capacity writer.device writer.buffer bytes
  rw [accepted] at option
  cases written : writer.writeAll capacity bytes with
  | error stopped =>
      rw [written] at option
      cases option
  | ok next =>
      rw [written] at option
      cases option
      exact ⟨_, rfl, still⟩

theorem lineWriteAll_reliable {newline : Byte → Bool} :
    Reliable (@LineWriter.writeAll Byte newline capacity) := by
  intro writer bytes never
  unfold LineWriter.writeAll
  split
  · have ⟨flushed, first, still⟩ : ∃ flushed,
        LineWriter.flushIfCompletedLine newline writer = .ok flushed ∧
          flushed.device.attempts = [] := by
      unfold LineWriter.flushIfCompletedLine
      split
      · exact flushBuf_of_noAttempts never
      · exact ⟨writer, rfl, never⟩
    rw [first]
    exact writeAll_reliable flushed bytes still
  · have ⟨flushed, first, still⟩ : ∃ flushed,
        LineWriter.passLines capacity writer (LineWriter.lines newline bytes) = .ok flushed ∧
          flushed.device.attempts = [] := by
      unfold LineWriter.passLines
      split
      · exact writeThrough_reliable writer _ never
      · have ⟨collected, collects, yet⟩ :=
          @writeAll_reliable _ capacity writer (LineWriter.lines newline bytes) never
        rw [collects]
        exact flushBuf_of_noAttempts yet
    rw [first]
    exact writeAll_reliable flushed _ still

theorem writeChunks_of_reliable
    {write : BufWriter Byte → List Byte → Except (BufWriter Byte) (BufWriter Byte)}
    (reliable : Reliable write) (never : writer.device.attempts = []) (chunks : List (List Byte)) :
    ∃ next, chunks.foldlM write writer = .ok next ∧ next.device.attempts = [] := by
  induction chunks generalizing writer with
  | nil => exact ⟨writer, rfl, never⟩
  | cons chunk chunks induction =>
      have ⟨next, written, still⟩ := reliable writer chunk never
      rw [List.foldlM_cons, written]
      exact induction still

end Reliable

end Dnst.BufferedWriter
