import Lamb.Error
import Lamb.Lib.Slice
import Mathlib.Data.List.Sort
import Mathlib.Logic.Function.Basic

/-!
The sample ring of `sample_ring.rs`. Positions are absolute frame numbers;
the frames of chunk number `k` are kept in slot `k % chunkCount`, and a slot
is recycled only when the write head reaches it and nobody has pinned it.

The ring's atomics are plain fields here: every function below that touches a
chunk runs under the `write_chunk` lock in the source, and the parts of
snapshot creation and reading that do not only touch pinned chunks, which no
writer changes. A sample is a value of an arbitrary type with a zero.
-/

namespace Lamb.Ring

open Lamb.Lib

inductive SampleFormat
  | f32Le
  deriving DecidableEq, Repr

inductive ChunkState
  | writable
  | writing
  | published
  | stale
  deriving DecidableEq, Repr

/-- A half-open range of frame positions. -/
structure Range where
  start : ℕ
  stop : ℕ
  deriving DecidableEq, Repr

structure RingConfig where
  channels : ℕ
  sampleRate : ℕ
  format : SampleFormat
  chunkFrames : ℕ
  chunkCount : ℕ
  maxActiveSnapshots : ℕ
  deriving DecidableEq, Repr

structure Chunk (α : Type) where
  sequence : ℕ
  state : ChunkState
  pinCount : ℕ
  validStartFrame : ℕ
  validFrameCount : ℕ
  data : List α

def Chunk.validEndFrame {α : Type} (chunk : Chunk α) : ℕ :=
  chunk.validStartFrame + chunk.validFrameCount

/-- The chunk array is a function of the slot index; its length is
`cfg.chunkCount`. `lastOverrun` is a clock reading. -/
structure SampleRing (α : Type) where
  cfg : RingConfig
  chunks : ℕ → Chunk α
  writeChunk : ℕ
  globalWriteFrame : ℕ
  clearAfterFrame : ℕ
  nextSequence : ℕ
  droppedFrames : ℕ
  activeSnapshots : ℕ
  lastOverrun : Option ℕ

structure RingStatus where
  droppedFrames : ℕ
  retainedFrames : ℕ
  capacityFrames : ℕ
  activeSnapshots : ℕ
  lastOverrun : Option ℕ
  deriving DecidableEq, Repr

/-- A pinned part of one chunk; the chunk is named by its slot. -/
structure SnapshotSegment where
  slot : ℕ
  expectedSequence : ℕ
  startFrameInChunk : ℕ
  frameCount : ℕ
  deriving DecidableEq, Repr

/-- `holdsSlot` says whether the snapshot carries the active-snapshot counter. -/
structure Snapshot where
  segments : List SnapshotSegment
  startFrame : ℕ
  endFrame : ℕ
  channels : ℕ
  sampleRate : ℕ
  format : SampleFormat
  totalFrames : ℕ
  holdsSlot : Bool
  deriving DecidableEq, Repr

variable {α : Type}

/-! ### Construction and reset -/

def emptyChunk (cfg : RingConfig) (zero : α) : Chunk α where
  sequence := 0
  state := .writable
  pinCount := 0
  validStartFrame := 0
  validFrameCount := 0
  data := List.replicate (cfg.chunkFrames * cfg.channels) zero

/-- `SampleRing::new`. The byte counts it also computes are only reported;
the configurations it refuses because one of them overflows are accepted here. -/
def SampleRing.new (cfg : RingConfig) (zero : α) : Result (SampleRing α) :=
  if cfg.channels = 0 then .error (.validation "channels must be > 0")
  else if cfg.sampleRate = 0 then .error (.validation "sample_rate must be > 0")
  else if cfg.chunkFrames = 0 then .error (.validation "chunk_frames must be > 0")
  else if cfg.chunkCount = 0 then .error (.validation "chunk_count must be > 0")
  else if cfg.maxActiveSnapshots = 0 then
    .error (.validation "max_active_snapshots must be > 0")
  else .ok
    { cfg
      chunks := fun _ => emptyChunk cfg zero
      writeChunk := 0
      globalWriteFrame := 0
      clearAfterFrame := 0
      nextSequence := 1
      droppedFrames := 0
      activeSnapshots := 0
      lastOverrun := none }

/-- The slots of the chunk array, in order. -/
def SampleRing.slots (ring : SampleRing α) : List ℕ := List.range ring.cfg.chunkCount

def SampleRing.reset (ring : SampleRing α) : Result Unit × SampleRing α :=
  if ring.activeSnapshots ≠ 0 ∨ ∃ i ∈ ring.slots, (ring.chunks i).pinCount ≠ 0 then
    (.error (.control "cannot reset ring while a snapshot is active"), ring)
  else if ∃ i ∈ ring.slots, (ring.chunks i).state = .writing then
    (.error (.control "cannot reset ring while a writer is active"), ring)
  else
    (.ok (), { ring with
      chunks := fun i => { ring.chunks i with
        sequence := 0, validStartFrame := 0, validFrameCount := 0, state := .writable }
      writeChunk := 0
      globalWriteFrame := 0
      clearAfterFrame := 0
      nextSequence := 1
      droppedFrames := 0
      lastOverrun := none })

def SampleRing.clear (ring : SampleRing α) : SampleRing α :=
  { ring with clearAfterFrame := ring.globalWriteFrame }

/-! ### The retained window -/

/-- The slot that holds absolute frame `frame`. -/
def SampleRing.slotOf (ring : SampleRing α) (frame : ℕ) : ℕ :=
  (frame / ring.cfg.chunkFrames) % ring.cfg.chunkCount

/-- The backward walk of `oldest_frame_at`, with the number of iterations left. -/
def SampleRing.walkOldest (ring : SampleRing α) : ℕ → ℕ → ℕ
  | 0, oldest => oldest
  | n + 1, oldest =>
      if oldest = 0 then oldest
      else
        let chunk := ring.chunks (ring.slotOf (oldest - 1))
        if chunk.state ≠ .published then oldest
        else if oldest ≤ chunk.validStartFrame ∨ chunk.validEndFrame < oldest then oldest
        else ring.walkOldest n chunk.validStartFrame

def SampleRing.oldestFrameAt (ring : SampleRing α) (head : ℕ) : ℕ :=
  max (ring.walkOldest ring.cfg.chunkCount head) ring.clearAfterFrame

def SampleRing.writeHeadFrame (ring : SampleRing α) : ℕ := ring.globalWriteFrame

def SampleRing.oldestFrame (ring : SampleRing α) : ℕ :=
  ring.oldestFrameAt ring.writeHeadFrame

def SampleRing.status (ring : SampleRing α) : RingStatus where
  droppedFrames := ring.droppedFrames
  retainedFrames := ring.globalWriteFrame - ring.oldestFrameAt ring.globalWriteFrame
  capacityFrames := ring.cfg.chunkFrames * ring.cfg.chunkCount
  activeSnapshots := ring.activeSnapshots
  lastOverrun := ring.lastOverrun

/-- The copy loop of `copy_interleaved_range_into` from `cursor` to `copyEnd`.
Every iteration advances `cursor`, so `copyEnd - start` iterations suffice;
`destinationFrame` counts the frames copied so far. -/
def SampleRing.copyLoop (ring : SampleRing α) (copyEnd : ℕ) :
    ℕ → ℕ → ℕ → List α → Result (ℕ × List α)
  | 0, _, destinationFrame, destination => .ok (destinationFrame, destination)
  | fuel + 1, cursor, destinationFrame, destination =>
      if cursor < copyEnd then
        let chunk := ring.chunks (ring.slotOf cursor)
        if chunk.state ≠ .published then
          .error (.exportInvariant "copy range has incomplete coverage")
        else match checkedAdd chunk.validStartFrame chunk.validFrameCount with
          | none => .error (.exportInvariant "chunk frame range overflow")
          | some validEnd =>
              if cursor < chunk.validStartFrame ∨ validEnd ≤ cursor then
                .error (.exportInvariant "copy range has incomplete coverage")
              else
                let segmentEnd := min copyEnd validEnd
                let segmentFrames := segmentEnd - cursor
                let channels := ring.cfg.channels
                let source := slice chunk.data ((cursor - chunk.validStartFrame) * channels)
                  (segmentFrames * channels)
                ring.copyLoop copyEnd fuel segmentEnd (destinationFrame + segmentFrames)
                  (copyFromSlice destination (destinationFrame * channels) source)
      else .ok (destinationFrame, destination)

/-- Returns the number of frames copied together with the new contents of
`destination`. -/
def SampleRing.copyInterleavedRangeInto (ring : SampleRing α) (range : Range)
    (destination : List α) : Result (ℕ × List α) :=
  if range.stop < range.start then
    .error (.exportInvariant "copy range start exceeds end")
  else if destination.length % ring.cfg.channels ≠ 0 then
    .error (.exportInvariant "destination sample length is not whole frames")
  else
    let head := ring.writeHeadFrame
    let oldest := ring.oldestFrameAt head
    if range.start < oldest ∨ head < range.stop then
      .error (.exportInvariant "copy range is outside retained range")
    else match checkedAdd range.start (destination.length / ring.cfg.channels) with
      | none => .error (.exportInvariant "copy frame range overflow")
      | some capacityEnd =>
          let copyEnd := min range.stop capacityEnd
          ring.copyLoop copyEnd (copyEnd - range.start) range.start 0 destination

/-! ### Writing -/

/-- `add_dropped_frames`, shared by `record_dropped_frames` and the overrun path. -/
def SampleRing.addDroppedFrames (ring : SampleRing α) (frames : ℕ) :
    Result Unit × SampleRing α :=
  match checkedAdd ring.droppedFrames frames with
  | none => (.error (.captureInvariant "dropped frame counter exhausted"), ring)
  | some total => (.ok (), { ring with droppedFrames := total })

def SampleRing.recordDroppedFrames (ring : SampleRing α) (frames : ℕ) :
    Result Unit × SampleRing α :=
  ring.addDroppedFrames frames

def SampleRing.recordOverrun (ring : SampleRing α) (now frames : ℕ) :
    Result Unit × SampleRing α :=
  match ring.addDroppedFrames frames with
  | (.error e, ring) => (.error e, ring)
  | (.ok (), ring) => (.ok (), { ring with lastOverrun := some now })

/-- How one iteration of the write loop ends: with the next frame index, or
with the result of the whole call. -/
inductive WriteStep (α : Type)
  | more (ring : SampleRing α) (frameIndex : ℕ)
  | stop (result : Result Unit) (ring : SampleRing α)

/-- The chunk as the writer leaves it after copying `frames` frames at
`offset`. A write at offset zero starts a new generation of the slot. -/
def SampleRing.writtenChunk (ring : SampleRing α) (samples : List α)
    (frameIndex offset frames : ℕ) : Chunk α :=
  let chunk := ring.chunks ring.writeChunk
  let opened : Chunk α :=
    if offset = 0 then
      { chunk with
        state := .writing
        validStartFrame := ring.globalWriteFrame
        validFrameCount := 0
        sequence := ring.nextSequence }
    else { chunk with state := .writing }
  { opened with
    data := copyFromSlice opened.data (offset * ring.cfg.channels)
      (slice samples (frameIndex * ring.cfg.channels) (frames * ring.cfg.channels))
    validFrameCount := offset + frames
    state := .published }

/-- One iteration of the loop of `write_interleaved`. -/
def SampleRing.writeIteration (ring : SampleRing α) (now : ℕ) (samples : List α)
    (totalFrames frameIndex : ℕ) : WriteStep α :=
  let globalFrame := ring.globalWriteFrame
  let offset := globalFrame % ring.cfg.chunkFrames
  let framesToCopy := min (ring.cfg.chunkFrames - offset) (totalFrames - frameIndex)
  match checkedAdd globalFrame framesToCopy with
  | none => .stop (.error (.captureInvariant "local frame counter exhausted")) ring
  | some newGlobal =>
      if offset = 0 ∧ checkedAdd ring.nextSequence 1 = none then
        .stop (.error (.captureInvariant "ring sequence exhausted")) ring
      else if 0 < (ring.chunks ring.writeChunk).pinCount then
        -- a pinned chunk is never written, at offset zero or in its middle
        let (result, ring) := ring.recordOverrun now (totalFrames - frameIndex)
        .stop result ring
      else
        let newValid := offset + framesToCopy
        .more
          { ring with
            chunks := Function.update ring.chunks ring.writeChunk
              (ring.writtenChunk samples frameIndex offset framesToCopy)
            nextSequence := if offset = 0 then ring.nextSequence + 1 else ring.nextSequence
            globalWriteFrame := newGlobal
            writeChunk :=
              if ring.cfg.chunkFrames ≤ newValid then
                (ring.writeChunk + 1) % ring.cfg.chunkCount
              else ring.writeChunk }
          (frameIndex + framesToCopy)

/-- The loop of `write_interleaved`. An iteration that goes on has copied at
least one frame, so `totalFrames` iterations suffice. -/
def SampleRing.writeLoop (now : ℕ) (samples : List α) (totalFrames : ℕ) :
    ℕ → SampleRing α → ℕ → Result Unit × SampleRing α
  | 0, ring, _ => (.ok (), ring)
  | fuel + 1, ring, frameIndex =>
      if frameIndex < totalFrames then
        match ring.writeIteration now samples totalFrames frameIndex with
        | .more ring frameIndex => writeLoop now samples totalFrames fuel ring frameIndex
        | .stop result ring => (result, ring)
      else (.ok (), ring)

def SampleRing.writeInterleaved (ring : SampleRing α) (now : ℕ) (samples : List α)
    (channels : ℕ) : Result Unit × SampleRing α :=
  if channels ≠ ring.cfg.channels then
    (.error (.captureInvariant "incoming channels do not match ring channels"), ring)
  else if channels = 0 ∨ samples.length % channels ≠ 0 then
    (.error (.captureInvariant "input sample length is not whole frames"), ring)
  else
    let totalFrames := samples.length / channels
    SampleRing.writeLoop now samples totalFrames totalFrames ring 0

/-! ### Snapshots -/

def Chunk.pin (chunk : Chunk α) : Chunk α := { chunk with pinCount := chunk.pinCount + 1 }

def Chunk.unpin (chunk : Chunk α) : Chunk α := { chunk with pinCount := chunk.pinCount - 1 }

/-- One iteration of `collect_segments` on the chunk in `slot`: pin it when
it is published and overlaps the range, and check it again after the pin. -/
def collectSegment (chunks : ℕ → Chunk α) (slot rangeStart rangeEnd : ℕ) :
    (ℕ → Chunk α) × Option SnapshotSegment :=
  let chunk := chunks slot
  if chunk.state ≠ .published then (chunks, none)
  else if chunk.validEndFrame ≤ rangeStart ∨ rangeEnd ≤ chunk.validStartFrame then (chunks, none)
  else
    let overlapStart := max chunk.validStartFrame rangeStart
    let overlapEnd := min chunk.validEndFrame rangeEnd
    if overlapEnd ≤ overlapStart then (chunks, none)
    else
      let pinned := chunk.pin
      if pinned.state ≠ .published ∨ pinned.sequence ≠ chunk.sequence then
        (Function.update chunks slot pinned.unpin, none)
      else
        (Function.update chunks slot pinned,
          some
            { slot
              expectedSequence := chunk.sequence
              startFrameInChunk := overlapStart - chunk.validStartFrame
              frameCount := overlapEnd - overlapStart })

def collectSegments (rangeStart rangeEnd : ℕ) :
    List ℕ → (ℕ → Chunk α) → (ℕ → Chunk α) × List SnapshotSegment
  | [], chunks => (chunks, [])
  | slot :: slots, chunks =>
      let (chunks, segment) := collectSegment chunks slot rangeStart rangeEnd
      let (chunks, segments) := collectSegments rangeStart rangeEnd slots chunks
      (chunks, segment.toList ++ segments)

/-- The slots in the order `collect_segments` visits them. -/
def SampleRing.visitOrder (ring : SampleRing α) (firstChunk : ℕ) : List ℕ :=
  ring.slots.map fun offset => (firstChunk + offset) % ring.cfg.chunkCount

/-- Returns the collected segments and whether an active-snapshot slot was
acquired for them. -/
def SampleRing.pinSnapshotRange (ring : SampleRing α) (range : Range) (head oldest : ℕ) :
    Result (List SnapshotSegment × Bool) × SampleRing α :=
  if range.stop < range.start then
    (.error (.control ("snapshot range start " ++ toString range.start ++ " exceeds end " ++
      toString range.stop)), ring)
  else if range.start < oldest then
    (.error (.control ("snapshot range starts at " ++ toString range.start ++
      ", before oldest retained frame " ++ toString oldest)), ring)
  else if head < range.stop then
    (.error (.control ("snapshot range ends at " ++ toString range.stop ++
      ", after write head " ++ toString head)), ring)
  else if range.start = range.stop then (.ok ([], false), ring)
  else if ring.cfg.maxActiveSnapshots ≤ ring.activeSnapshots then
    (.error (.control "export already active"), ring)
  else
    let (chunks, segments) := collectSegments range.start range.stop
      (ring.visitOrder (ring.slotOf range.start)) ring.chunks
    (.ok (segments, true),
      { ring with chunks, activeSnapshots := ring.activeSnapshots + 1 })

def SampleRing.segmentStart (ring : SampleRing α) (segment : SnapshotSegment) : ℕ :=
  (ring.chunks segment.slot).validStartFrame + segment.startFrameInChunk

/-- The coverage loop of `finish_snapshot`: the position reached, or the
position at which a segment does not join on. -/
def SampleRing.coveredUntil (ring : SampleRing α) :
    ℕ → List SnapshotSegment → Except ℕ ℕ
  | expected, [] => .ok expected
  | expected, segment :: segments =>
      if ring.segmentStart segment ≠ expected then .error expected
      else ring.coveredUntil (ring.segmentStart segment + segment.frameCount) segments

def incompleteCoverage (frame : ℕ) : LambError :=
  .control ("snapshot range has incomplete coverage at frame " ++ toString frame)

/-- `Snapshot::drop` on the ring. -/
def SampleRing.dropSnapshot (ring : SampleRing α) (snapshot : Snapshot) : SampleRing α :=
  { ring with
    chunks := snapshot.segments.foldl
      (fun chunks segment => Function.update chunks segment.slot (chunks segment.slot).unpin)
      ring.chunks
    activeSnapshots :=
      if snapshot.holdsSlot then ring.activeSnapshots - 1 else ring.activeSnapshots }

/-- A creation that fails here drops the partial snapshot, which unpins its
segments, and the guard, which gives the active-snapshot slot back. -/
def SampleRing.finishSnapshot (ring : SampleRing α) (range : Range)
    (segments : List SnapshotSegment) (guard : Bool) : Result Snapshot × SampleRing α :=
  let sorted := segments.insertionSort fun a b => ring.segmentStart a ≤ ring.segmentStart b
  let snapshot : Snapshot :=
    { segments := sorted
      startFrame := range.start
      endFrame := range.stop
      channels := ring.cfg.channels
      sampleRate := ring.cfg.sampleRate
      format := ring.cfg.format
      totalFrames := (sorted.map SnapshotSegment.frameCount).sum
      holdsSlot := guard }
  match ring.coveredUntil range.start sorted with
  | .error frame => (.error (incompleteCoverage frame), ring.dropSnapshot snapshot)
  | .ok frame =>
      if frame ≠ range.stop then (.error (incompleteCoverage frame), ring.dropSnapshot snapshot)
      else (.ok snapshot, ring)

/-- The part shared by the three ways of taking a snapshot. -/
def SampleRing.takeSnapshot (ring : SampleRing α) (range : Range) (head oldest : ℕ) :
    Result Snapshot × SampleRing α :=
  match ring.pinSnapshotRange range head oldest with
  | (.error e, ring) => (.error e, ring)
  | (.ok (segments, guard), ring) => ring.finishSnapshot range segments guard

def SampleRing.snapshotRange (ring : SampleRing α) (range : Range) :
    Result Snapshot × SampleRing α :=
  let head := ring.writeHeadFrame
  ring.takeSnapshot range head (ring.oldestFrameAt head)

def SampleRing.snapshotLastFrames (ring : SampleRing α) (requestedFrames : ℕ) :
    Result Snapshot × SampleRing α :=
  let head := ring.writeHeadFrame
  let oldest := ring.oldestFrameAt head
  ring.takeSnapshot ⟨max (head - requestedFrames) oldest, head⟩ head oldest

/-- Returns the requested start and the oldest frame with the snapshot. -/
def SampleRing.selectSnapshot (ring : SampleRing α) (committedStart : Option ℕ) :
    Result (ℕ × ℕ × Snapshot) × SampleRing α :=
  let head := ring.writeHeadFrame
  let oldest := ring.oldestFrameAt head
  let requestedStart := committedStart.getD oldest
  match ring.takeSnapshot ⟨max requestedStart oldest, head⟩ head oldest with
  | (.error e, ring) => (.error e, ring)
  | (.ok snapshot, ring) => (.ok (requestedStart, oldest, snapshot), ring)

/-- The samples of one channel in one segment. -/
def Chunk.channelSamples (chunk : Chunk α) (channels channelIndex start count : ℕ) : List α :=
  (List.range count).filterMap fun frameOffset =>
    chunk.data[(start + frameOffset) * channels + channelIndex]?

def SampleRing.readSegments (ring : SampleRing α) (channels channelIndex : ℕ) :
    List SnapshotSegment → Result (List α)
  | [] => .ok []
  | segment :: segments =>
      let chunk := ring.chunks segment.slot
      if chunk.sequence ≠ segment.expectedSequence ∨ chunk.state ≠ .published then
        .error (.export "snapshot segment generation mismatch")
      else match ring.readSegments channels channelIndex segments with
        | .error e => .error e
        | .ok rest =>
            .ok (chunk.channelSamples channels channelIndex segment.startFrameInChunk
              segment.frameCount ++ rest)

/-- `Snapshot::read_channel_samples` against the chunks as they are now. -/
def SampleRing.readChannelSamples (ring : SampleRing α) (snapshot : Snapshot)
    (channelIndex : ℕ) : Result (List α) :=
  if snapshot.channels ≤ channelIndex then
    .error (.export ("channel index " ++ toString channelIndex ++ " out of range for " ++
      toString snapshot.channels ++ " channels"))
  else ring.readSegments snapshot.channels channelIndex snapshot.segments

end Lamb.Ring
