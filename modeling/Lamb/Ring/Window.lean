import Lamb.Ring.Basic
import Lamb.Lib.Blocks

/-!
The retained window. `Represents ring history` ties the ring to the
interleaved samples accepted since the last reset: the chunks numbered
`started - chunkCount` up to `started` are published in their slots and hold
the samples of `history` at their own positions. Everything a reader can
see follows from it: where the window begins, and what a copy returns.
-/

namespace Lamb.Ring

open Lamb.Lib

variable {α : Type}

/-- The number of chunks written to so far, the head chunk included. -/
def SampleRing.startedChunks (ring : SampleRing α) : ℕ :=
  ring.globalWriteFrame ⌈/⌉ ring.cfg.chunkFrames

/-- `chunk` is published and holds the part of chunk number `k` that lies
below `head`. -/
structure Chunk.Holds (chunk : Chunk α) (cfg : RingConfig) (head : ℕ) (history : List α)
    (k : ℕ) : Prop where
  state : chunk.state = .published
  start : chunk.validStartFrame = k * cfg.chunkFrames
  count : chunk.validFrameCount = min cfg.chunkFrames (head - k * cfg.chunkFrames)
  data : ∀ i < chunk.validFrameCount * cfg.channels,
    chunk.data[i]? = history[k * cfg.chunkFrames * cfg.channels + i]?

structure SampleRing.Represents (ring : SampleRing α) (history : List α) : Prop where
  channels_pos : 0 < ring.cfg.channels
  chunkFrames_pos : 0 < ring.cfg.chunkFrames
  chunkCount_pos : 0 < ring.cfg.chunkCount
  history_length : history.length = ring.globalWriteFrame * ring.cfg.channels
  head_le : ring.globalWriteFrame ≤ u64Max
  clear_le : ring.clearAfterFrame ≤ ring.globalWriteFrame
  writeChunk_eq : ring.writeChunk = ring.slotOf ring.globalWriteFrame
  sequence_eq : ring.nextSequence = ring.startedChunks + 1
  data_length : ∀ i, (ring.chunks i).data.length = ring.cfg.chunkFrames * ring.cfg.channels
  unwritten : ∀ i, ring.startedChunks ≤ i → i < ring.cfg.chunkCount →
    (ring.chunks i).state = .writable
  live : ∀ k, k < ring.startedChunks → ring.startedChunks ≤ k + ring.cfg.chunkCount →
    (ring.chunks (k % ring.cfg.chunkCount)).Holds ring.cfg ring.globalWriteFrame history k

theorem SampleRing.new_cfg {cfg : RingConfig} {zero : α} {ring : SampleRing α}
    (hnew : SampleRing.new cfg zero = .ok ring) :
    ring =
      { cfg
        chunks := fun _ => emptyChunk cfg zero
        writeChunk := 0, globalWriteFrame := 0, clearAfterFrame := 0, nextSequence := 1
        droppedFrames := 0, activeSnapshots := 0, lastOverrun := none } ∧
      0 < cfg.channels ∧ 0 < cfg.chunkFrames ∧ 0 < cfg.chunkCount := by
  unfold SampleRing.new at hnew
  split_ifs at hnew
  simp only [Except.ok.injEq] at hnew
  refine ⟨hnew.symm, ?_, ?_, ?_⟩ <;> omega

theorem SampleRing.new_represents {cfg : RingConfig} {zero : α} {ring : SampleRing α}
    (hnew : SampleRing.new cfg zero = .ok ring) : ring.Represents [] := by
  obtain ⟨rfl, hch, hcf, hcc⟩ := SampleRing.new_cfg hnew
  exact
    { channels_pos := hch
      chunkFrames_pos := hcf
      chunkCount_pos := hcc
      history_length := by simp
      head_le := by simp
      clear_le := le_rfl
      writeChunk_eq := by simp [SampleRing.slotOf]
      sequence_eq := by simp [SampleRing.startedChunks]
      data_length := fun i => by simp [emptyChunk]
      unwritten := fun i _ _ => rfl
      live := fun k hk _ => by simp [SampleRing.startedChunks] at hk }

namespace SampleRing.Represents

variable {ring : SampleRing α} {history : List α}

theorem lt_started_iff (h : ring.Represents history) {k : ℕ} :
    k < ring.startedChunks ↔ k * ring.cfg.chunkFrames < ring.globalWriteFrame :=
  lt_ceilDiv_iff h.chunkFrames_pos

/-- A frame below the head whose chunk has not been recycled is in a live chunk. -/
theorem live_of_frame (h : ring.Represents history) {frame : ℕ}
    (hhead : frame < ring.globalWriteFrame)
    (hold : (ring.startedChunks - ring.cfg.chunkCount) * ring.cfg.chunkFrames ≤ frame) :
    (ring.chunks (ring.slotOf frame)).Holds ring.cfg ring.globalWriteFrame history
      (frame / ring.cfg.chunkFrames) := by
  refine h.live _ ?_ ?_
  · rw [h.lt_started_iff]
    exact lt_of_le_of_lt (Nat.div_mul_le_self _ _) hhead
  · have := (Nat.le_div_iff_mul_le h.chunkFrames_pos).mpr hold
    omega

theorem started_pos (h : ring.Represents history) (hhead : 0 < ring.globalWriteFrame) :
    0 < ring.startedChunks := by
  rw [h.lt_started_iff]
  omega

theorem head_le_started_mul (h : ring.Represents history) :
    ring.globalWriteFrame ≤ ring.startedChunks * ring.cfg.chunkFrames := by
  have := (ceilDiv_le_iff_le_mul (b := ring.globalWriteFrame) (c := ring.startedChunks)
    h.chunkFrames_pos).mp le_rfl
  rw [mul_comm]
  exact this

end SampleRing.Represents

theorem Chunk.Holds.validEnd {chunk : Chunk α} {cfg : RingConfig} {head k : ℕ}
    {history : List α} (h : chunk.Holds cfg head history k) (hk : k * cfg.chunkFrames ≤ head) :
    chunk.validEndFrame = min head ((k + 1) * cfg.chunkFrames) := by
  have := h.start
  have := h.count
  have : (k + 1) * cfg.chunkFrames = k * cfg.chunkFrames + cfg.chunkFrames := Nat.succ_mul _ _
  unfold Chunk.validEndFrame
  omega

/-! ### Where the window begins -/

/-- The walk steps from chunk boundary to chunk boundary. It starts with as
many steps as there are slots, so it stops either at frame zero or exactly
when the next slot has been recycled. -/
theorem SampleRing.Represents.walkOldest_eq {ring : SampleRing α} {history : List α}
    (h : ring.Represents history) (fuel k : ℕ) (hk : k ≤ ring.startedChunks)
    (hfuel : k + ring.cfg.chunkCount = ring.startedChunks + fuel) :
    ring.walkOldest fuel (min ring.globalWriteFrame (k * ring.cfg.chunkFrames)) =
      (k - fuel) * ring.cfg.chunkFrames := by
  have hpos := h.chunkCount_pos
  induction fuel generalizing k with
  | zero =>
      have hlow : k * ring.cfg.chunkFrames < ring.globalWriteFrame :=
        h.lt_started_iff.mp (by omega)
      simp only [SampleRing.walkOldest, Nat.sub_zero]
      omega
  | succ fuel ih =>
      cases k with
      | zero => simp [SampleRing.walkOldest]
      | succ k =>
          have hstarted : k < ring.startedChunks := by omega
          have hlow : k * ring.cfg.chunkFrames < ring.globalWriteFrame :=
            h.lt_started_iff.mp hstarted
          have hstep : (k + 1) * ring.cfg.chunkFrames =
              k * ring.cfg.chunkFrames + ring.cfg.chunkFrames := Nat.succ_mul _ _
          have hcf := h.chunkFrames_pos
          have hslot : ring.slotOf
              (min ring.globalWriteFrame ((k + 1) * ring.cfg.chunkFrames) - 1) =
              k % ring.cfg.chunkCount := by
            unfold SampleRing.slotOf
            rw [pred_div_eq (k := k) (by omega) (by omega)]
          have hlive := h.live k hstarted (by omega)
          have hend := hlive.validEnd hlow.le
          have hnext := ih k (by omega) (by omega)
          rw [min_eq_right hlow.le] at hnext
          rw [SampleRing.walkOldest, if_neg (by omega)]
          simp only [hslot, hlive.state, hlive.start, hend, ne_eq, not_true_eq_false,
            if_false, hnext]
          rw [if_neg (by omega), Nat.succ_sub_succ]

theorem SampleRing.Represents.oldestFrame_eq {ring : SampleRing α} {history : List α}
    (h : ring.Represents history) :
    ring.oldestFrameAt ring.globalWriteFrame =
      max ring.clearAfterFrame
        ((ring.startedChunks - ring.cfg.chunkCount) * ring.cfg.chunkFrames) := by
  have hwalk := h.walkOldest_eq ring.cfg.chunkCount ring.startedChunks le_rfl rfl
  rw [min_eq_left h.head_le_started_mul] at hwalk
  rw [SampleRing.oldestFrameAt, hwalk, max_comm]

theorem SampleRing.Represents.oldest_le_head {ring : SampleRing α} {history : List α}
    (h : ring.Represents history) :
    ring.oldestFrameAt ring.globalWriteFrame ≤ ring.globalWriteFrame := by
  rw [h.oldestFrame_eq]
  refine max_le h.clear_le ?_
  rcases Nat.eq_zero_or_pos ring.startedChunks with hzero | hpos
  · simp [hzero]
  · have hcount := h.chunkCount_pos
    exact (h.lt_started_iff.mp (by omega)).le

/-- A ring never holds more than its chunks. -/
theorem SampleRing.Represents.window_le {ring : SampleRing α} {history : List α} (h : ring.Represents history) :
    ring.globalWriteFrame ≤
      ring.oldestFrame + ring.cfg.chunkCount * ring.cfg.chunkFrames := by
  have holdest : ring.oldestFrame = _ := h.oldestFrame_eq
  have hhead := h.head_le_started_mul
  have hstarted : ring.startedChunks ≤
      ring.startedChunks - ring.cfg.chunkCount + ring.cfg.chunkCount := by omega
  have hmul := Nat.mul_le_mul_right ring.cfg.chunkFrames hstarted
  rw [Nat.add_mul] at hmul
  have hmax := le_max_right ring.clearAfterFrame
    ((ring.startedChunks - ring.cfg.chunkCount) * ring.cfg.chunkFrames)
  omega

/-! ### What a copy returns -/

theorem Chunk.Holds.slice_eq {chunk : Chunk α} {cfg : RingConfig} {head k : ℕ}
    {history : List α} (h : chunk.Holds cfg head history k) (frame frames : ℕ)
    (hlow : k * cfg.chunkFrames ≤ frame)
    (hhigh : frame + frames ≤ chunk.validEndFrame) :
    slice chunk.data ((frame - chunk.validStartFrame) * cfg.channels) (frames * cfg.channels) =
      slice history (frame * cfg.channels) (frames * cfg.channels) := by
  refine List.ext_getElem? fun i => ?_
  rw [getElem?_slice, getElem?_slice]
  split
  case isFalse => rfl
  case isTrue hi =>
    have hstart := h.start
    obtain ⟨d, rfl⟩ := Nat.exists_eq_add_of_le hlow
    have hd : k * cfg.chunkFrames + d - chunk.validStartFrame = d := by omega
    have hbound : d * cfg.channels + frames * cfg.channels ≤
        chunk.validFrameCount * cfg.channels := by
      rw [← Nat.add_mul]
      refine Nat.mul_le_mul_right _ ?_
      unfold Chunk.validEndFrame at hhigh
      omega
    rw [hd, h.data _ (by omega), Nat.add_mul, Nat.add_assoc]

theorem SampleRing.Represents.copyLoop_eq {ring : SampleRing α} {history : List α}
    (h : ring.Represents history) (copyEnd : ℕ) (hend : copyEnd ≤ ring.globalWriteFrame)
    (fuel cursor destinationFrame : ℕ) (destination : List α)
    (hfuel : copyEnd - cursor ≤ fuel) (hcursor : cursor ≤ copyEnd)
    (hold : (ring.startedChunks - ring.cfg.chunkCount) * ring.cfg.chunkFrames ≤ cursor)
    (hroom : (destinationFrame + (copyEnd - cursor)) * ring.cfg.channels ≤ destination.length) :
    ring.copyLoop copyEnd fuel cursor destinationFrame destination =
      .ok (destinationFrame + (copyEnd - cursor),
        copyFromSlice destination (destinationFrame * ring.cfg.channels)
          (slice history (cursor * ring.cfg.channels)
            ((copyEnd - cursor) * ring.cfg.channels))) := by
  induction fuel generalizing cursor destinationFrame destination with
  | zero =>
      have : copyEnd - cursor = 0 := by omega
      simp [SampleRing.copyLoop, this, copyFromSlice]
  | succ fuel ih =>
      by_cases hlt : cursor < copyEnd
      · have hlive : (ring.chunks (ring.slotOf cursor)).Holds ring.cfg ring.globalWriteFrame history
            (cursor / ring.cfg.chunkFrames) := h.live_of_frame (by omega) hold
        have hdiv := Nat.div_mul_le_self cursor ring.cfg.chunkFrames
        have hvalid := hlive.validEnd (by omega)
        have hnext : cursor < (cursor / ring.cfg.chunkFrames + 1) * ring.cfg.chunkFrames := by
          rw [mul_comm]
          exact Nat.lt_mul_div_succ _ h.chunkFrames_pos
        have hadd : checkedAdd (ring.chunks (ring.slotOf cursor)).validStartFrame
            (ring.chunks (ring.slotOf cursor)).validFrameCount =
            some (ring.chunks (ring.slotOf cursor)).validEndFrame := by
          refine checkedAdd_of_le ?_
          have := h.head_le
          unfold Chunk.validEndFrame at hvalid
          omega
        have hstart := hlive.start
        set segmentEnd := min copyEnd (ring.chunks (ring.slotOf cursor)).validEndFrame
          with hsegment
        -- the rest of the range, copied by the remaining iterations
        have hsplit : copyEnd - cursor = (segmentEnd - cursor) + (copyEnd - segmentEnd) := by
          omega
        have hsource := hlive.slice_eq cursor (segmentEnd - cursor) hdiv (by omega)
        have hlen : (slice history (cursor * ring.cfg.channels)
            ((segmentEnd - cursor) * ring.cfg.channels)).length =
            (segmentEnd - cursor) * ring.cfg.channels := by
          refine length_slice_of_le ?_
          rw [h.history_length, ← Nat.add_mul]
          exact Nat.mul_le_mul_right _ (by omega)
        have hwritten : destinationFrame * ring.cfg.channels +
            (segmentEnd - cursor) * ring.cfg.channels ≤ destination.length := by
          rw [← Nat.add_mul]
          exact (Nat.mul_le_mul_right _ (by omega)).trans hroom
        have hrest := ih segmentEnd (destinationFrame + (segmentEnd - cursor))
          (copyFromSlice destination (destinationFrame * ring.cfg.channels)
            (slice history (cursor * ring.cfg.channels)
              ((segmentEnd - cursor) * ring.cfg.channels)))
          (by omega) (by omega) (by omega) (by
            rw [length_copyFromSlice (by omega), Nat.add_assoc, ← hsplit]
            exact hroom)
        rw [SampleRing.copyLoop, if_pos hlt]
        simp only [hlive.state, ne_eq, not_true_eq_false, if_false, hadd]
        rw [if_neg (by omega), ← hsegment, hsource, hrest]
        have hjoin := copyFromSlice_copyFromSlice destination
          (slice history (cursor * ring.cfg.channels)
            ((segmentEnd - cursor) * ring.cfg.channels))
          (slice history (segmentEnd * ring.cfg.channels)
            ((copyEnd - segmentEnd) * ring.cfg.channels))
          (destinationFrame * ring.cfg.channels) (by
            rw [hlen, length_slice]
            rw [hsplit, ← Nat.add_assoc, Nat.add_mul, Nat.add_mul] at hroom
            omega)
        have hfrom : cursor * ring.cfg.channels + (segmentEnd - cursor) * ring.cfg.channels =
            segmentEnd * ring.cfg.channels := by
          rw [← Nat.add_mul]
          congr 1
          omega
        rw [hlen, ← Nat.add_mul] at hjoin
        rw [hjoin, ← hfrom, slice_append_slice, ← Nat.add_mul, ← hsplit, Nat.add_assoc, ← hsplit]
      · have : copyEnd - cursor = 0 := by omega
        simp [SampleRing.copyLoop, hlt, this, copyFromSlice]

/-- The readable window is `[oldest, head]`: a copy of a range inside it
delivers as many frames as fit, from the front of the destination, and each
is the frame accepted at its position. -/
theorem SampleRing.Represents.copy_inside {ring : SampleRing α} {history : List α}
    (h : ring.Represents history) (range : Range) (destination : List α) (frames : ℕ)
    (hrange : range.start ≤ range.stop)
    (hlow : ring.oldestFrameAt ring.globalWriteFrame ≤ range.start)
    (hhigh : range.stop ≤ ring.globalWriteFrame)
    (hframes : destination.length = frames * ring.cfg.channels)
    (hlimit : range.start + frames ≤ u64Max) :
    ring.copyInterleavedRangeInto range destination =
      .ok (min (range.stop - range.start) frames,
        copyFromSlice destination 0 (slice history (range.start * ring.cfg.channels)
          (min (range.stop - range.start) frames * ring.cfg.channels))) := by
  have hdiv : destination.length / ring.cfg.channels = frames := by
    rw [hframes, Nat.mul_div_cancel _ h.channels_pos]
  have holdest := h.oldestFrame_eq
  have hcount : min range.stop (range.start + frames) - range.start =
      min (range.stop - range.start) frames := by omega
  unfold SampleRing.copyInterleavedRangeInto SampleRing.writeHeadFrame
  rw [if_neg (by omega), if_neg (by simp [hframes])]
  simp only [hdiv, checkedAdd_of_le hlimit]
  rw [if_neg (by omega), h.copyLoop_eq _ (by omega) _ _ _ _ le_rfl (by omega) (by omega) (by
    rw [hframes, hcount, Nat.zero_add]
    exact Nat.mul_le_mul_right _ (by omega)), hcount, Nat.zero_add, Nat.zero_mul]

/-- A copy is refused when the destination would reach past the last frame
number. -/
theorem SampleRing.limit_of_copy {ring : SampleRing α} {range : Range} {destination : List α}
    {copied : ℕ × List α} (h : ring.copyInterleavedRangeInto range destination = .ok copied) :
    range.start + destination.length / ring.cfg.channels ≤ u64Max := by
  unfold SampleRing.copyInterleavedRangeInto at h
  split_ifs at h
  by_contra hlimit
  simp only [checkedAdd, hlimit, if_false] at h
  split_ifs at h

theorem SampleRing.copy_outside {ring : SampleRing α} {range : Range} {destination : List α}
    (hout : range.stop < range.start ∨ destination.length % ring.cfg.channels ≠ 0 ∨
      range.start < ring.oldestFrameAt ring.globalWriteFrame ∨
      ring.globalWriteFrame < range.stop) :
    ∃ e, ring.copyInterleavedRangeInto range destination = .error e := by
  unfold SampleRing.copyInterleavedRangeInto SampleRing.writeHeadFrame
  by_cases h₁ : range.stop < range.start
  · exact ⟨_, if_pos h₁⟩
  by_cases h₂ : destination.length % ring.cfg.channels ≠ 0
  · exact ⟨_, by rw [if_neg h₁, if_pos h₂]⟩
  · rw [if_neg h₁, if_neg h₂]
    exact ⟨_, if_pos (by omega)⟩

end Lamb.Ring
