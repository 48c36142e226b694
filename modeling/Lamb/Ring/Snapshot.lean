import Lamb.Ring.Write

/-!
Snapshots. What `collect_segments` returns does not depend on pins, so it is
a filter of the visited slots (`collectSegments_eq`); on a range inside the
window the kept slots are the chunks of the range in order, and their parts
join up to exactly the samples accepted there (`Represents.collected`).
-/

namespace Lamb.Ring

open Lamb.Lib

variable {α : Type}

/-! ### Pins -/

/-- The number of segments that pin `slot`. -/
def segmentPins (segments : List SnapshotSegment) (slot : ℕ) : ℕ :=
  segments.countP fun segment => segment.slot = slot

/-- The part of a chunk that a snapshot of `[rangeStart, rangeEnd)` keeps. -/
def Chunk.segment (chunk : Chunk α) (slot rangeStart rangeEnd : ℕ) : Option SnapshotSegment :=
  if chunk.state = .published ∧
      max chunk.validStartFrame rangeStart < min chunk.validEndFrame rangeEnd then
    some
      { slot
        expectedSequence := chunk.sequence
        startFrameInChunk := max chunk.validStartFrame rangeStart - chunk.validStartFrame
        frameCount := min chunk.validEndFrame rangeEnd - max chunk.validStartFrame rangeStart }
  else none

theorem collectSegment_eq (chunks : ℕ → Chunk α) (slot rangeStart rangeEnd : ℕ) :
    collectSegment chunks slot rangeStart rangeEnd =
      match (chunks slot).segment slot rangeStart rangeEnd with
      | none => (chunks, none)
      | some segment => (Function.update chunks slot (chunks slot).pin, some segment) := by
  unfold collectSegment Chunk.segment
  by_cases hstate : (chunks slot).state = .published
  · by_cases hlap : max (chunks slot).validStartFrame rangeStart <
        min (chunks slot).validEndFrame rangeEnd
    · simp only [hstate, hlap, and_self, if_true, ne_eq, not_true_eq_false, if_false, Chunk.pin,
        or_self]
      rw [if_neg (by omega), if_neg (by omega)]
    · simp only [hstate, hlap, and_false, if_false, ne_eq, not_true_eq_false]
      split_ifs <;> first | rfl | omega
  · simp [hstate]

theorem Chunk.segment_slot {chunk : Chunk α} {slot rangeStart rangeEnd : ℕ}
    {segment : SnapshotSegment} (h : chunk.segment slot rangeStart rangeEnd = some segment) :
    segment.slot = slot := by
  unfold Chunk.segment at h
  split_ifs at h
  simp only [Option.some.injEq] at h
  rw [← h]

theorem Chunk.segment_pins (chunk : Chunk α) (pins slot rangeStart rangeEnd : ℕ) :
    Chunk.segment { chunk with pinCount := pins } slot rangeStart rangeEnd =
      chunk.segment slot rangeStart rangeEnd := rfl

/-- Every visited slot is judged on its own; a kept one is pinned once. -/
theorem collectSegments_eq (rangeStart rangeEnd : ℕ) (slots : List ℕ) (chunks : ℕ → Chunk α) :
    (collectSegments rangeStart rangeEnd slots chunks).2 =
        slots.filterMap (fun slot => (chunks slot).segment slot rangeStart rangeEnd) ∧
      ∀ i, (collectSegments rangeStart rangeEnd slots chunks).1 i =
        { chunks i with
          pinCount := (chunks i).pinCount +
            segmentPins (collectSegments rangeStart rangeEnd slots chunks).2 i } := by
  induction slots generalizing chunks with
  | nil => simp [collectSegments, segmentPins]
  | cons slot slots ih =>
      simp only [collectSegments, collectSegment_eq]
      cases hseg : (chunks slot).segment slot rangeStart rangeEnd with
      | none => simpa [hseg] using ih chunks
      | some segment =>
          obtain ⟨hsegments, hchunks⟩ := ih (Function.update chunks slot (chunks slot).pin)
          have hsame : ∀ i, (Function.update chunks slot (chunks slot).pin i).segment i
              rangeStart rangeEnd = (chunks i).segment i rangeStart rangeEnd := by
            intro i
            by_cases hi : i = slot
            · subst hi
              rw [Function.update_self]
              exact Chunk.segment_pins _ _ _ _ _
            · rw [Function.update_of_ne hi]
          have hslot := Chunk.segment_slot hseg
          refine ⟨by simp [hsegments, hsame, hseg], fun i => ?_⟩
          simp only [Option.toList_some, List.singleton_append]
          rw [hchunks i]
          by_cases hi : i = slot
          · subst hi
            simp only [Function.update_self, Chunk.pin, segmentPins, List.countP_cons, hslot,
              decide_true, if_true, Chunk.mk.injEq, true_and, and_true]
            omega
          · simp [Function.update_of_ne hi, segmentPins, hslot, Ne.symm hi]

theorem dropSnapshot_chunks (segments : List SnapshotSegment) (chunks : ℕ → Chunk α) (i : ℕ) :
    segments.foldl
        (fun chunks segment => Function.update chunks segment.slot (chunks segment.slot).unpin)
        chunks i =
      { chunks i with pinCount := (chunks i).pinCount - segmentPins segments i } := by
  induction segments generalizing chunks with
  | nil => simp [segmentPins]
  | cons segment segments ih =>
      rw [List.foldl_cons, ih]
      by_cases hi : i = segment.slot
      · subst hi
        simp only [Function.update_self, Chunk.unpin, segmentPins, List.countP_cons, decide_true,
          if_true, Chunk.mk.injEq, true_and, and_true]
        omega
      · simp [Function.update_of_ne hi, segmentPins, Ne.symm hi]

/-! ### What a snapshot reads -/

/-- Channel `channel` of `frames` interleaved frames. -/
def deinterleave (channels channel frames : ℕ) (samples : List α) : List α :=
  (List.range frames).filterMap fun frame => samples[frame * channels + channel]?

theorem deinterleave_append (channels channel m n : ℕ) (xs ys : List α)
    (hxs : xs.length = m * channels) (hchannel : channel < channels) :
    deinterleave channels channel (m + n) (xs ++ ys) =
      deinterleave channels channel m xs ++ deinterleave channels channel n ys := by
  unfold deinterleave
  rw [List.range_add, List.filterMap_append, List.filterMap_map]
  congr 1
  · refine List.filterMap_congr fun frame hframe => ?_
    rw [List.mem_range] at hframe
    have := Nat.mul_le_mul_right channels (Nat.succ_le_of_lt hframe)
    rw [Nat.succ_mul] at this
    rw [List.getElem?_append_left (by omega)]
  · refine List.filterMap_congr fun frame _ => ?_
    have : (m + frame) * channels + channel = xs.length + (frame * channels + channel) := by
      rw [hxs, Nat.add_mul]
      omega
    simp only [Function.comp_apply, this]
    rw [List.getElem?_append_right (by omega)]
    congr 1
    omega

theorem Chunk.channelSamples_eq (chunk : Chunk α) {channels channel start count : ℕ}
    (hchannel : channel < channels) :
    chunk.channelSamples channels channel start count =
      deinterleave channels channel count
        (slice chunk.data (start * channels) (count * channels)) := by
  unfold Chunk.channelSamples deinterleave
  refine List.filterMap_congr fun frame hframe => ?_
  rw [List.mem_range] at hframe
  have := Nat.mul_le_mul_right channels (Nat.succ_le_of_lt hframe)
  rw [Nat.succ_mul] at this
  rw [getElem?_slice, if_pos (by omega), Nat.add_mul, Nat.add_assoc]

/-- The segments are intact, and their parts in order are the interleaved
samples `expected` of `frames` frames. -/
inductive SampleRing.Reads (ring : SampleRing α) :
    List SnapshotSegment → ℕ → List α → Prop
  | nil : ring.Reads [] 0 []
  | cons {segment : SnapshotSegment} {segments : List SnapshotSegment} {frames : ℕ}
      {expected : List α}
      (hstate : (ring.chunks segment.slot).state = .published)
      (hsequence : (ring.chunks segment.slot).sequence = segment.expectedSequence)
      (hinside : (segment.startFrameInChunk + segment.frameCount) * ring.cfg.channels ≤
        (ring.chunks segment.slot).data.length)
      (hrest : ring.Reads segments frames expected) :
      ring.Reads (segment :: segments) (segment.frameCount + frames)
        (slice (ring.chunks segment.slot).data (segment.startFrameInChunk * ring.cfg.channels)
          (segment.frameCount * ring.cfg.channels) ++ expected)

/-- Intact segments are readable, whatever has happened to the rest of the ring. -/
theorem SampleRing.Reads.readSegments {ring : SampleRing α} {segments : List SnapshotSegment}
    {frames : ℕ} {expected : List α} (h : ring.Reads segments frames expected) {channel : ℕ}
    (hchannel : channel < ring.cfg.channels) :
    ring.readSegments ring.cfg.channels channel segments =
      .ok (deinterleave ring.cfg.channels channel frames expected) := by
  induction h with
  | nil => simp [SampleRing.readSegments, deinterleave]
  | cons hstate hsequence hinside _ ih =>
      have hlen : (slice _ _ _).length = _ := length_slice_of_le (by
        rw [← Nat.add_mul]
        exact hinside)
      simp only [SampleRing.readSegments, hstate, hsequence, ih, ne_eq, not_true_eq_false,
        or_self, if_false, Chunk.channelSamples_eq _ hchannel]
      rw [deinterleave_append _ _ _ _ _ _ hlen hchannel]

/-- Reading only looks at the chunks the segments name. -/
theorem SampleRing.Reads.congr {ring ring' : SampleRing α} {segments : List SnapshotSegment}
    {frames : ℕ} {expected : List α} (h : ring.Reads segments frames expected)
    (hcfg : ring'.cfg = ring.cfg)
    (hsame : ∀ segment ∈ segments, ∃ pins,
      ring'.chunks segment.slot = { ring.chunks segment.slot with pinCount := pins }) :
    ring'.Reads segments frames expected := by
  induction h with
  | nil => exact .nil
  | @cons segment segments frames expected hstate hsequence hinside _ ih =>
      obtain ⟨pins, hpins⟩ := hsame segment (by simp)
      have hrest := ih fun segment hmem => hsame segment (by simp [hmem])
      have hdata : (ring'.chunks segment.slot).data = (ring.chunks segment.slot).data := by
        rw [hpins]
      have hcons := @SampleRing.Reads.cons α ring' segment _ _ _
        (by rw [hpins]; exact hstate) (by rw [hpins]; exact hsequence)
        (by rw [hdata, hcfg]; exact hinside) hrest
      rwa [hdata, hcfg] at hcons

/-! ### Collecting a range inside the window -/

section Collect

variable {ring : SampleRing α} {history : List α} {a b : ℕ}

/-- The segment taken from chunk number `k` when the range starts at or
before its end and ends after its start. -/
theorem Chunk.Holds.segment_eq {chunk : Chunk α} {cfg : RingConfig} {head k : ℕ}
    (h : chunk.Holds cfg head history k) (slot : ℕ) (hcf : 0 < cfg.chunkFrames)
    (hk : k * cfg.chunkFrames < b) (hb : b ≤ head)
    (ha : a < (k + 1) * cfg.chunkFrames) (hab : a < b) :
    chunk.segment slot a b = some
      { slot
        expectedSequence := chunk.sequence
        startFrameInChunk := max a (k * cfg.chunkFrames) - k * cfg.chunkFrames
        frameCount := min b ((k + 1) * cfg.chunkFrames) - max a (k * cfg.chunkFrames) } := by
  have hend := h.validEnd (by omega)
  have hsucc : (k + 1) * cfg.chunkFrames = k * cfg.chunkFrames + cfg.chunkFrames :=
    Nat.succ_mul _ _
  have hmin : min (min head ((k + 1) * cfg.chunkFrames)) b = min b ((k + 1) * cfg.chunkFrames) := by
    omega
  unfold Chunk.segment
  rw [h.state, h.start, hend, hmin, max_comm, if_pos ⟨rfl, by omega⟩]

/-- A chunk that ends at or before the range, or starts after it, is skipped. -/
theorem Chunk.Holds.segment_none {chunk : Chunk α} {cfg : RingConfig} {head k slot : ℕ}
    (h : chunk.Holds cfg head history k) (hk : k * cfg.chunkFrames ≤ head)
    (hout : (k + 1) * cfg.chunkFrames ≤ a ∨ b ≤ k * cfg.chunkFrames) :
    chunk.segment slot a b = none := by
  have hend := h.validEnd hk
  have hstart := h.start
  unfold Chunk.segment
  rw [if_neg]
  omega

/-- From the chunk of `a` on, slot after slot: the chunks of the range come
first, and every slot behind them holds an older chunk or none. -/
theorem SampleRing.Represents.collected (h : ring.Represents history)
    (hlow : (ring.startedChunks - ring.cfg.chunkCount) * ring.cfg.chunkFrames ≤ a)
    (hab : a < b) (hb : b ≤ ring.globalWriteFrame) (left offset : ℕ)
    (hoffset : offset + left = ring.cfg.chunkCount) :
    let q := a / ring.cfg.chunkFrames
    let reached := min b (max a ((q + offset) * ring.cfg.chunkFrames))
    let segments := (List.range' offset left).filterMap fun offset =>
      (ring.chunks ((q + offset) % ring.cfg.chunkCount)).segment
        ((q + offset) % ring.cfg.chunkCount) a b
    ring.coveredUntil reached segments = .ok b ∧
      ring.Reads segments (b - reached)
        (slice history (reached * ring.cfg.channels) ((b - reached) * ring.cfg.channels)) := by
  have hcf := h.chunkFrames_pos
  have hcc := h.chunkCount_pos
  have hq := Nat.div_mul_le_self a ring.cfg.chunkFrames
  have hq' : a < (a / ring.cfg.chunkFrames + 1) * ring.cfg.chunkFrames := by
    rw [mul_comm]
    exact Nat.lt_mul_div_succ _ hcf
  have hqlow : ring.startedChunks ≤ a / ring.cfg.chunkFrames + ring.cfg.chunkCount := by
    have := (Nat.le_div_iff_mul_le hcf).mpr hlow
    omega
  have hqstarted : a / ring.cfg.chunkFrames < ring.startedChunks :=
    h.lt_started_iff.mpr (by omega)
  induction left generalizing offset with
  | zero =>
      obtain rfl : offset = ring.cfg.chunkCount := by omega
      have hfar := Nat.mul_le_mul_right ring.cfg.chunkFrames hqlow
      have hhead := h.head_le_started_mul
      have hreached : min b (max a ((a / ring.cfg.chunkFrames + ring.cfg.chunkCount) *
          ring.cfg.chunkFrames)) = b := by omega
      simp only [hreached, List.range'_zero, List.filterMap_nil, SampleRing.coveredUntil,
        Nat.sub_self, Nat.zero_mul, slice_zero, true_and]
      exact .nil
  | succ left ih =>
      obtain ⟨hcovered, hreads⟩ := ih (offset + 1) (by omega)
      set q := a / ring.cfg.chunkFrames with hqdef
      have hsucc : (q + (offset + 1)) * ring.cfg.chunkFrames =
          (q + offset) * ring.cfg.chunkFrames + ring.cfg.chunkFrames := by
        rw [← Nat.add_assoc, Nat.succ_mul]
      have hge : q * ring.cfg.chunkFrames ≤ (q + offset) * ring.cfg.chunkFrames :=
        Nat.mul_le_mul_right _ (by omega)
      rw [Nat.succ_mul] at hq'
      simp only [List.range'_succ, List.filterMap_cons]
      by_cases hinside : (q + offset) * ring.cfg.chunkFrames < b
      · -- the chunk overlaps the range: its part joins on where the last one ended
        have hlive := h.live (q + offset) (h.lt_started_iff.mpr (by omega)) (by omega)
        have hsegment := hlive.segment_eq ((q + offset) % ring.cfg.chunkCount)
          (a := a) hcf hinside hb (by rw [Nat.add_assoc]; omega) hab
        rw [Nat.add_assoc, hsucc] at hsegment
        rw [hsucc] at hcovered hreads
        have hreached : min b (max a ((q + offset) * ring.cfg.chunkFrames)) =
            max a ((q + offset) * ring.cfg.chunkFrames) := by omega
        have hnext : min b (max a ((q + offset) * ring.cfg.chunkFrames + ring.cfg.chunkFrames)) =
            min b ((q + offset) * ring.cfg.chunkFrames + ring.cfg.chunkFrames) := by omega
        rw [hnext] at hcovered hreads
        simp only [hsegment, hreached]
        set low := max a ((q + offset) * ring.cfg.chunkFrames) with hlowdef
        set high := min b ((q + offset) * ring.cfg.chunkFrames + ring.cfg.chunkFrames)
          with hhighdef
        have hstart : ring.segmentStart
            { slot := (q + offset) % ring.cfg.chunkCount
              expectedSequence :=
                (ring.chunks ((q + offset) % ring.cfg.chunkCount)).sequence
              startFrameInChunk := low - (q + offset) * ring.cfg.chunkFrames
              frameCount := high - low } = low := by
          simp only [SampleRing.segmentStart, hlive.start]
          omega
        have hend := hlive.validEnd (by omega)
        rw [Nat.add_assoc, hsucc] at hend
        have hslice := hlive.slice_eq low (high - low) (by omega) (by omega)
        rw [hlive.start] at hslice
        refine ⟨?_, ?_⟩
        · simp only [SampleRing.coveredUntil, hstart, ne_eq, not_true_eq_false, if_false]
          rw [show low + (high - low) = high by omega]
          exact hcovered
        · have hcons := @SampleRing.Reads.cons α ring
            { slot := (q + offset) % ring.cfg.chunkCount
              expectedSequence :=
                (ring.chunks ((q + offset) % ring.cfg.chunkCount)).sequence
              startFrameInChunk := low - (q + offset) * ring.cfg.chunkFrames
              frameCount := high - low }
            _ _ _ hlive.state rfl (by
              rw [h.data_length]
              refine Nat.mul_le_mul_right _ ?_
              change low - (q + offset) * ring.cfg.chunkFrames + (high - low) ≤ _
              omega) hreads
          simp only [hslice] at hcons
          have hjoin : low * ring.cfg.channels + (high - low) * ring.cfg.channels =
              high * ring.cfg.channels := by
            rw [← Nat.add_mul]
            congr 1
            omega
          rw [← hjoin, slice_append_slice, ← Nat.add_mul,
            show high - low + (b - high) = b - low by omega] at hcons
          exact hcons
      · -- behind the range: nothing more is kept
        have hnone : (ring.chunks ((q + offset) % ring.cfg.chunkCount)).segment
            ((q + offset) % ring.cfg.chunkCount) a b = none := by
          by_cases hstarted : q + offset < ring.startedChunks
          · exact (h.live _ hstarted (by omega)).segment_none
              (h.lt_started_iff.mp hstarted).le (.inr (by omega))
          · by_cases hwrapped : q + offset < ring.cfg.chunkCount
            · rw [Nat.mod_eq_of_lt hwrapped]
              simp [Chunk.segment, h.unwritten _ (by omega) hwrapped]
            · have hslot : (q + offset) % ring.cfg.chunkCount =
                  (q + offset - ring.cfg.chunkCount) % ring.cfg.chunkCount := by
                rw [← Nat.add_mod_right (q + offset - ring.cfg.chunkCount)]
                congr 1
                omega
              have hlive := h.live (q + offset - ring.cfg.chunkCount) (by omega) (by omega)
              rw [← hslot] at hlive
              have hold : (q + offset - ring.cfg.chunkCount + 1) * ring.cfg.chunkFrames ≤
                  q * ring.cfg.chunkFrames := Nat.mul_le_mul_right _ (by omega)
              have hstart : (q + offset - ring.cfg.chunkCount) * ring.cfg.chunkFrames ≤
                  q * ring.cfg.chunkFrames := Nat.mul_le_mul_right _ (by omega)
              exact hlive.segment_none (by omega) (.inl (by omega))
        have hreached : min b (max a ((q + offset) * ring.cfg.chunkFrames)) =
            min b (max a ((q + (offset + 1)) * ring.cfg.chunkFrames)) := by omega
        simp only [hnone, hreached]
        exact ⟨hcovered, hreads⟩

end Collect

/-! ### Taking a snapshot -/

theorem SampleRing.coveredUntil_congr {ring ring' : SampleRing α}
    (hsame : ∀ i, (ring'.chunks i).validStartFrame = (ring.chunks i).validStartFrame)
    (reached : ℕ) (segments : List SnapshotSegment) :
    ring'.coveredUntil reached segments = ring.coveredUntil reached segments := by
  induction segments generalizing reached with
  | nil => rfl
  | cons segment segments ih =>
      have hstart : ring'.segmentStart segment = ring.segmentStart segment := by
        unfold SampleRing.segmentStart
        rw [hsame]
      rw [SampleRing.coveredUntil, SampleRing.coveredUntil, hstart, ih]

/-- Segments that join up are already in the order the sort asks for. -/
theorem SampleRing.coveredUntil_sorted {ring : SampleRing α} {reached last : ℕ}
    {segments : List SnapshotSegment} (h : ring.coveredUntil reached segments = .ok last) :
    segments.Pairwise (fun a b => ring.segmentStart a ≤ ring.segmentStart b) ∧
      ∀ segment ∈ segments, reached ≤ ring.segmentStart segment := by
  induction segments generalizing reached with
  | nil => simp
  | cons segment segments ih =>
      unfold SampleRing.coveredUntil at h
      split_ifs at h with hne
      have hstart := not_not.mp hne
      obtain ⟨hsorted, hfrom⟩ := ih h
      refine ⟨List.Pairwise.cons (fun other hother => ?_) hsorted, ?_⟩
      · have := hfrom other hother
        omega
      · rintro other (_ | ⟨_, hother⟩)
        · exact hstart.ge
        · have := hfrom other hother
          omega

theorem SampleRing.visitOrder_eq (ring : SampleRing α) (frame : ℕ) :
    ring.visitOrder (ring.slotOf frame) = (List.range ring.cfg.chunkCount).map fun offset =>
      (frame / ring.cfg.chunkFrames + offset) % ring.cfg.chunkCount := by
  unfold SampleRing.visitOrder SampleRing.slots SampleRing.slotOf
  refine List.map_congr_left fun offset _ => ?_
  rw [Nat.mod_add_mod]

theorem SampleRing.visitOrder_nodup (ring : SampleRing α) (frame : ℕ) :
    (ring.visitOrder (ring.slotOf frame)).Nodup := by
  rw [ring.visitOrder_eq]
  refine List.Nodup.map_on (fun x hx y hy hxy => ?_) List.nodup_range
  rw [List.mem_range] at hx hy
  rcases Nat.lt_trichotomy x y with hlt | rfl | hlt
  · exact absurd hxy (mod_ne_of_lt (by omega) (by omega))
  · rfl
  · exact absurd hxy.symm (mod_ne_of_lt (by omega) (by omega))

theorem filterMap_segment_slots (chunks : ℕ → Chunk α) (slots : List ℕ) (a b : ℕ) :
    ((slots.filterMap fun slot => (chunks slot).segment slot a b).map
      SnapshotSegment.slot).Sublist slots := by
  induction slots with
  | nil => simp
  | cons slot slots ih =>
      rw [List.filterMap_cons]
      cases hseg : (chunks slot).segment slot a b with
      | none => exact ih.cons slot
      | some segment =>
          rw [List.map_cons, Chunk.segment_slot hseg]
          exact ih.cons_cons slot

/-- The condition under which a snapshot of `range` is granted. -/
def SampleRing.Grants (ring : SampleRing α) (range : Range) : Prop :=
  range.start ≤ range.stop ∧ ring.oldestFrameAt ring.globalWriteFrame ≤ range.start ∧
    range.stop ≤ ring.globalWriteFrame ∧
    (range.start = range.stop ∨ ring.activeSnapshots < ring.cfg.maxActiveSnapshots)

/-- What the ring and the new snapshot look like when `range` was granted. -/
structure SampleRing.Granted (ring : SampleRing α) (history : List α) (range : Range)
    (ring' : SampleRing α) (snapshot : Snapshot) : Prop where
  window : ring.SameWindow ring'
  chunks : ∀ i, ring'.chunks i = { ring.chunks i with
    pinCount := (ring.chunks i).pinCount + segmentPins snapshot.segments i }
  active : ring'.activeSnapshots = ring.activeSnapshots + if snapshot.holdsSlot then 1 else 0
  limit : snapshot.holdsSlot = true → ring.activeSnapshots < ring.cfg.maxActiveSnapshots
  empty : snapshot.holdsSlot = false → snapshot.segments = []
  nodup : (snapshot.segments.map SnapshotSegment.slot).Nodup
  channels : snapshot.channels = ring.cfg.channels
  reads : ring'.Reads snapshot.segments (range.stop - range.start)
    (slice history (range.start * ring.cfg.channels)
      ((range.stop - range.start) * ring.cfg.channels))

theorem SampleRing.finishSnapshot_of_covered {ring : SampleRing α} {range : Range}
    {segments : List SnapshotSegment} (guard : Bool)
    (h : ring.coveredUntil range.start segments = .ok range.stop) :
    ring.finishSnapshot range segments guard =
      (.ok
        { segments
          startFrame := range.start
          endFrame := range.stop
          channels := ring.cfg.channels
          sampleRate := ring.cfg.sampleRate
          format := ring.cfg.format
          totalFrames := (segments.map SnapshotSegment.frameCount).sum
          holdsSlot := guard }, ring) := by
  have hsorted := (SampleRing.coveredUntil_sorted h).1.insertionSort_eq
  unfold SampleRing.finishSnapshot
  simp only [hsorted, h, ne_eq, not_true_eq_false, if_false]

/-- A snapshot is refused only for its bounds or for want of a slot; a
refusal changes nothing, and a range inside the window is always covered. -/
theorem SampleRing.Represents.takeSnapshot {ring : SampleRing α} {history : List α}
    (h : ring.Represents history) (range : Range) :
    (¬ring.Grants range ∧ ∃ e, ring.takeSnapshot range ring.globalWriteFrame
      (ring.oldestFrameAt ring.globalWriteFrame) = (.error e, ring)) ∨
    (ring.Grants range ∧ ∃ snapshot ring', ring.takeSnapshot range ring.globalWriteFrame
      (ring.oldestFrameAt ring.globalWriteFrame) = (.ok snapshot, ring') ∧
      ring.Granted history range ring' snapshot) := by
  unfold SampleRing.takeSnapshot SampleRing.pinSnapshotRange SampleRing.Grants
  by_cases horder : range.stop < range.start
  · exact .inl ⟨by omega, _, by rw [if_pos horder]⟩
  by_cases hlow : range.start < ring.oldestFrameAt ring.globalWriteFrame
  · exact .inl ⟨by omega, _, by rw [if_neg horder, if_pos hlow]⟩
  by_cases hhigh : ring.globalWriteFrame < range.stop
  · exact .inl ⟨by omega, _, by rw [if_neg horder, if_neg hlow, if_pos hhigh]⟩
  by_cases hempty : range.start = range.stop
  · rw [if_neg horder, if_neg hlow, if_neg hhigh, if_pos hempty]
    refine .inr ⟨by omega, _, _,
      ring.finishSnapshot_of_covered false (by simp [SampleRing.coveredUntil, hempty]), ?_⟩
    exact
      { window := .refl ring
        chunks := fun i => by simp [segmentPins]
        active := by simp
        limit := fun hslot => by simp at hslot
        empty := fun _ => rfl
        nodup := by simp
        channels := rfl
        reads := by
          rw [hempty, Nat.sub_self, Nat.zero_mul, slice_zero]
          exact .nil }
  by_cases hslot : ring.cfg.maxActiveSnapshots ≤ ring.activeSnapshots
  · exact .inl ⟨by omega, _, by
      rw [if_neg horder, if_neg hlow, if_neg hhigh, if_neg hempty, if_pos hslot]⟩
  · rw [if_neg horder, if_neg hlow, if_neg hhigh, if_neg hempty, if_neg hslot]
    refine .inr ⟨by omega, ?_⟩
    have holdest := h.oldestFrame_eq
    obtain ⟨hsegments, hchunks⟩ := collectSegments_eq range.start range.stop
      (ring.visitOrder (ring.slotOf range.start)) ring.chunks
    -- the collected segments, listed by chunk number from that of the range start
    have hlist : (ring.visitOrder (ring.slotOf range.start)).filterMap
          (fun slot => (ring.chunks slot).segment slot range.start range.stop) =
        (List.range' 0 ring.cfg.chunkCount).filterMap fun offset =>
          (ring.chunks ((range.start / ring.cfg.chunkFrames + offset) %
            ring.cfg.chunkCount)).segment
            ((range.start / ring.cfg.chunkFrames + offset) % ring.cfg.chunkCount)
            range.start range.stop := by
      rw [ring.visitOrder_eq, List.filterMap_map, List.range_eq_range']
      rfl
    obtain ⟨hcovered, hreads⟩ := h.collected (a := range.start) (b := range.stop) (by omega)
      (by omega) (by omega) ring.cfg.chunkCount 0 (by omega)
    have hfrom : min range.stop (max range.start
        ((range.start / ring.cfg.chunkFrames + 0) * ring.cfg.chunkFrames)) = range.start := by
      have := Nat.div_mul_le_self range.start ring.cfg.chunkFrames
      rw [Nat.add_zero]
      omega
    simp only [hfrom, ← hlist, ← hsegments] at hcovered hreads
    generalize hcollect : collectSegments range.start range.stop
      (ring.visitOrder (ring.slotOf range.start)) ring.chunks = collected at *
    obtain ⟨chunks, segments⟩ := collected
    simp only at hchunks hcovered hreads hsegments
    refine ⟨_, _, SampleRing.finishSnapshot_of_covered true ?_, ?_⟩
    · rw [@SampleRing.coveredUntil_congr α ring _ fun i => by simp [hchunks i]]
      exact hcovered
    exact
      { window := ⟨rfl, rfl, rfl, rfl, rfl, fun i => ⟨_, hchunks i⟩⟩
        chunks := hchunks
        active := by simp
        limit := fun _ => by omega
        empty := fun hfalse => by simp at hfalse
        nodup := by
          simp only [hsegments]
          exact (filterMap_segment_slots _ _ _ _).nodup (ring.visitOrder_nodup _)
        channels := rfl
        reads := hreads.congr rfl fun segment _ => ⟨_, hchunks segment.slot⟩ }

end Lamb.Ring
