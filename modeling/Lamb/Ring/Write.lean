import Lamb.Ring.Window

/-!
Writing. One iteration of the write loop either stops, leaving every chunk as
it was, or appends a run of frames to the head chunk; `writeIteration_cases`
says so once, and the invariant of the window and the accounting of a whole
write follow by induction on the loop.
-/

namespace Lamb.Ring

open Lamb.Lib

variable {α : Type}

/-- `ring'` shows a reader the same window as `ring`: the chunks agree except
for their pins. -/
structure SampleRing.SameWindow (ring ring' : SampleRing α) : Prop where
  cfg : ring'.cfg = ring.cfg
  writeChunk : ring'.writeChunk = ring.writeChunk
  nextSequence : ring'.nextSequence = ring.nextSequence
  globalWriteFrame : ring'.globalWriteFrame = ring.globalWriteFrame
  clearAfterFrame : ring'.clearAfterFrame = ring.clearAfterFrame
  chunks : ∀ i, ∃ pins, ring'.chunks i = { ring.chunks i with pinCount := pins }

theorem SampleRing.SameWindow.refl (ring : SampleRing α) : ring.SameWindow ring :=
  ⟨rfl, rfl, rfl, rfl, rfl, fun _ => ⟨_, rfl⟩⟩

theorem SampleRing.SameWindow.trans {ring ring' ring'' : SampleRing α}
    (h : ring.SameWindow ring') (h' : ring'.SameWindow ring'') : ring.SameWindow ring'' := by
  refine ⟨h'.cfg.trans h.cfg, h'.writeChunk.trans h.writeChunk,
    h'.nextSequence.trans h.nextSequence, h'.globalWriteFrame.trans h.globalWriteFrame, h'.clearAfterFrame.trans h.clearAfterFrame,
    fun i => ?_⟩
  obtain ⟨pins, hpins⟩ := h.chunks i
  obtain ⟨pins', hpins'⟩ := h'.chunks i
  exact ⟨pins', by rw [hpins', hpins]⟩

theorem SampleRing.SameWindow.represents {ring ring' : SampleRing α} {history : List α}
    (hsame : ring.SameWindow ring') (h : ring.Represents history) :
    ring'.Represents history := by
  obtain ⟨hcfg, hwrite, hsequence, hhead, hclear, hchunks⟩ := hsame
  have hstarted : ring'.startedChunks = ring.startedChunks := by
    unfold SampleRing.startedChunks
    rw [hcfg, hhead]
  exact
    { channels_pos := hcfg ▸ h.channels_pos
      chunkFrames_pos := hcfg ▸ h.chunkFrames_pos
      chunkCount_pos := hcfg ▸ h.chunkCount_pos
      history_length := by rw [hcfg, hhead, h.history_length]
      head_le := hhead ▸ h.head_le
      clear_le := by rw [hclear, hhead]; exact h.clear_le
      writeChunk_eq := by rw [hwrite, hhead, h.writeChunk_eq, SampleRing.slotOf,
        SampleRing.slotOf, hcfg]
      sequence_eq := by rw [hsequence, hstarted, h.sequence_eq]
      data_length := fun i => by
        obtain ⟨pins, hpins⟩ := hchunks i
        rw [hpins, hcfg]
        exact h.data_length i
      unwritten := fun i hi hic => by
        obtain ⟨pins, hpins⟩ := hchunks i
        rw [hpins]
        exact h.unwritten i (hstarted ▸ hi) (hcfg ▸ hic)
      live := fun k hk hkc => by
        obtain ⟨pins, hpins⟩ := hchunks (k % ring'.cfg.chunkCount)
        rw [hstarted] at hk hkc
        rw [hcfg] at hkc hpins ⊢
        have hlive := h.live k hk hkc
        rw [hpins, hhead]
        exact ⟨hlive.state, hlive.start, hlive.count, hlive.data⟩ }

theorem SampleRing.recordOverrun_eq (ring : SampleRing α) (now frames : ℕ) :
    ∃ dropped overrun,
      (ring.recordOverrun now frames).2 =
        { ring with droppedFrames := dropped, lastOverrun := overrun } ∧
      ((ring.recordOverrun now frames).1 = .ok () → dropped = ring.droppedFrames + frames) := by
  unfold SampleRing.recordOverrun SampleRing.addDroppedFrames
  cases hadd : checkedAdd ring.droppedFrames frames with
  | none => exact ⟨_, _, rfl, fun h => by simp at h⟩
  | some total => exact ⟨_, _, rfl, fun _ => (checkedAdd_eq_some.mp hadd).1⟩

/-- The ring after `frames` frames, from `frameIndex` on, were appended to
the head chunk. -/
def SampleRing.appended (ring : SampleRing α) (samples : List α) (frameIndex frames : ℕ) :
    SampleRing α :=
  let offset := ring.globalWriteFrame % ring.cfg.chunkFrames
  { ring with
    chunks := Function.update ring.chunks ring.writeChunk
      (ring.writtenChunk samples frameIndex offset frames)
    nextSequence := if offset = 0 then ring.nextSequence + 1 else ring.nextSequence
    globalWriteFrame := ring.globalWriteFrame + frames
    writeChunk :=
      if ring.cfg.chunkFrames ≤ offset + frames then
        (ring.writeChunk + 1) % ring.cfg.chunkCount
      else ring.writeChunk }

/-- What one iteration can do. -/
theorem SampleRing.writeIteration_cases (ring : SampleRing α) (now : ℕ) (samples : List α)
    (totalFrames frameIndex : ℕ) :
    (∃ e, ring.writeIteration now samples totalFrames frameIndex = .stop (.error e) ring ∧
      (u64Max < ring.globalWriteFrame +
          min (ring.cfg.chunkFrames - ring.globalWriteFrame % ring.cfg.chunkFrames)
            (totalFrames - frameIndex) ∨
        ring.globalWriteFrame % ring.cfg.chunkFrames = 0 ∧ u64Max < ring.nextSequence + 1)) ∨
    (0 < (ring.chunks ring.writeChunk).pinCount ∧
      ring.writeIteration now samples totalFrames frameIndex =
        .stop (ring.recordOverrun now (totalFrames - frameIndex)).1
          (ring.recordOverrun now (totalFrames - frameIndex)).2) ∨
    (∃ frames,
      frames = min (ring.cfg.chunkFrames - ring.globalWriteFrame % ring.cfg.chunkFrames)
        (totalFrames - frameIndex) ∧
      ring.globalWriteFrame + frames ≤ u64Max ∧
      (ring.chunks ring.writeChunk).pinCount = 0 ∧
      ring.writeIteration now samples totalFrames frameIndex =
        .more (ring.appended samples frameIndex frames) (frameIndex + frames)) := by
  unfold SampleRing.writeIteration
  cases hadd : checkedAdd ring.globalWriteFrame
      (min (ring.cfg.chunkFrames - ring.globalWriteFrame % ring.cfg.chunkFrames)
        (totalFrames - frameIndex)) with
  | none =>
      exact .inl ⟨.captureInvariant "local frame counter exhausted", by simp only [hadd],
        .inl (checkedAdd_eq_none.mp hadd)⟩
  | some newGlobal =>
      obtain ⟨rfl, hle⟩ := checkedAdd_eq_some.mp hadd
      simp only [hadd]
      by_cases hsequence : ring.globalWriteFrame % ring.cfg.chunkFrames = 0 ∧
          checkedAdd ring.nextSequence 1 = none
      · exact .inl ⟨.captureInvariant "ring sequence exhausted", by rw [if_pos hsequence],
          .inr ⟨hsequence.1, checkedAdd_eq_none.mp hsequence.2⟩⟩
      by_cases hpin : 0 < (ring.chunks ring.writeChunk).pinCount
      · exact .inr (.inl ⟨hpin, by rw [if_neg hsequence, if_pos hpin]⟩)
      · exact .inr (.inr ⟨_, rfl, hle, by omega, by
          rw [if_neg hsequence, if_neg hpin]
          rfl⟩)

/-! ### Appending frames keeps the window -/

section Append

variable {ring : SampleRing α} {history samples : List α} {frameIndex frames : ℕ}

theorem SampleRing.writtenChunk_pinCount (offset : ℕ) :
    (ring.writtenChunk samples frameIndex offset frames).pinCount =
      (ring.chunks ring.writeChunk).pinCount := by
  unfold SampleRing.writtenChunk
  split <;> rfl

theorem SampleRing.writtenChunk_data (offset : ℕ) :
    (ring.writtenChunk samples frameIndex offset frames).data =
      copyFromSlice (ring.chunks ring.writeChunk).data (offset * ring.cfg.channels)
        (slice samples (frameIndex * ring.cfg.channels) (frames * ring.cfg.channels)) := by
  unfold SampleRing.writtenChunk
  split <;> rfl

/-- The head chunk before an append: its number is `head / chunkFrames`, and
it already holds the `offset` frames written to it. -/
theorem SampleRing.Represents.head_chunk (h : ring.Represents history) {offset q : ℕ}
    (hoffset : offset = ring.globalWriteFrame % ring.cfg.chunkFrames)
    (hq : q = ring.globalWriteFrame / ring.cfg.chunkFrames) :
    ring.globalWriteFrame = q * ring.cfg.chunkFrames + offset ∧ offset < ring.cfg.chunkFrames ∧
      ring.writeChunk = q % ring.cfg.chunkCount ∧
      (offset = 0 → ring.startedChunks = q) ∧ (0 < offset → ring.startedChunks = q + 1) := by
  have hsplit := Nat.div_add_mod' ring.globalWriteFrame ring.cfg.chunkFrames
  have hlt := Nat.mod_lt ring.globalWriteFrame h.chunkFrames_pos
  have hsucc : (q + 1) * ring.cfg.chunkFrames = q * ring.cfg.chunkFrames + ring.cfg.chunkFrames :=
    Nat.succ_mul _ _
  rw [← hoffset, ← hq] at hsplit
  refine ⟨hsplit.symm, by omega, ?_, fun hzero => ?_, fun hpos => ?_⟩
  · rw [h.writeChunk_eq, SampleRing.slotOf, hq]
  · have heq : ring.globalWriteFrame = q * ring.cfg.chunkFrames := by omega
    rw [SampleRing.startedChunks, heq, mul_ceilDiv h.chunkFrames_pos]
  · exact ceilDiv_eq_succ h.chunkFrames_pos (by omega) (by omega)

/-- The written chunk holds the head chunk's part of the longer history. -/
theorem SampleRing.Represents.writtenChunk_holds (h : ring.Represents history)
    (hfit : ring.globalWriteFrame % ring.cfg.chunkFrames + frames ≤ ring.cfg.chunkFrames)
    (hsource : (frameIndex + frames) * ring.cfg.channels ≤ samples.length) :
    (ring.writtenChunk samples frameIndex (ring.globalWriteFrame % ring.cfg.chunkFrames)
        frames).Holds ring.cfg (ring.globalWriteFrame + frames)
      (history ++ slice samples (frameIndex * ring.cfg.channels) (frames * ring.cfg.channels))
      (ring.globalWriteFrame / ring.cfg.chunkFrames) := by
  obtain ⟨hhead, hlt, hwrite, hzero, hpos⟩ := h.head_chunk rfl rfl
  set offset := ring.globalWriteFrame % ring.cfg.chunkFrames with hoffset
  set q := ring.globalWriteFrame / ring.cfg.chunkFrames with hq
  have hcount : (ring.writtenChunk samples frameIndex offset frames).validFrameCount =
      offset + frames := rfl
  have hsamples : (slice samples (frameIndex * ring.cfg.channels)
      (frames * ring.cfg.channels)).length = frames * ring.cfg.channels := by
    refine length_slice_of_le ?_
    rw [← Nat.add_mul]
    exact hsource
  have hbase : history.length =
      q * ring.cfg.chunkFrames * ring.cfg.channels + offset * ring.cfg.channels := by
    rw [h.history_length, hhead, Nat.add_mul]
  have hroom : offset * ring.cfg.channels + frames * ring.cfg.channels ≤
      (ring.chunks ring.writeChunk).data.length := by
    rw [h.data_length, ← Nat.add_mul]
    exact Nat.mul_le_mul_right _ hfit
  -- before the append the chunk holds its first `offset` frames
  have hold : ∀ i < offset * ring.cfg.channels, (ring.chunks ring.writeChunk).data[i]? =
      history[q * ring.cfg.chunkFrames * ring.cfg.channels + i]? := by
    intro i hi
    have hoff : 0 < offset := by
      rcases Nat.eq_zero_or_pos offset with hz | hp
      · simp [hz] at hi
      · exact hp
    have hcc := h.chunkCount_pos
    have hlive := h.live q (by rw [hpos hoff]; omega) (by rw [hpos hoff]; omega)
    rw [← hwrite] at hlive
    refine hlive.data i ?_
    rw [hlive.count, hhead]
    have : min ring.cfg.chunkFrames
        (q * ring.cfg.chunkFrames + offset - q * ring.cfg.chunkFrames) = offset := by omega
    rwa [this]
  refine ⟨rfl, ?_, ?_, ?_⟩
  · unfold SampleRing.writtenChunk
    by_cases hz : offset = 0
    · simp only [hz, if_true]
      omega
    · have hcc := h.chunkCount_pos
      have hlive := h.live q (by rw [hpos (by omega)]; omega) (by rw [hpos (by omega)]; omega)
      rw [← hwrite] at hlive
      simp only [hz, if_false]
      exact hlive.start
  · rw [hcount]
    omega
  · intro i hi
    rw [hcount, Nat.add_mul] at hi
    rw [SampleRing.writtenChunk_data, getElem?_copyFromSlice _ (by rw [hsamples]; exact hroom),
      hsamples]
    by_cases hi' : i < offset * ring.cfg.channels
    · rw [if_pos hi', hold i hi', List.getElem?_append_left (by omega)]
    · rw [if_neg hi', if_pos hi, List.getElem?_append_right (by omega)]
      congr 1
      omega

theorem Chunk.Holds.mono {chunk : Chunk α} {cfg : RingConfig} {head head' k : ℕ}
    {history more : List α} (h : chunk.Holds cfg head history k)
    (hfull : (k + 1) * cfg.chunkFrames ≤ head) (hhead : head ≤ head')
    (hlen : history.length = head * cfg.channels) :
    chunk.Holds cfg head' (history ++ more) k := by
  have hsucc : (k + 1) * cfg.chunkFrames = k * cfg.chunkFrames + cfg.chunkFrames :=
    Nat.succ_mul _ _
  refine ⟨h.state, h.start, ?_, fun i hi => ?_⟩
  · rw [h.count]
    omega
  · rw [h.data i hi, List.getElem?_append_left]
    have hcount := h.count
    have hbound : chunk.validFrameCount * cfg.channels ≤ cfg.chunkFrames * cfg.channels :=
      Nat.mul_le_mul_right _ (by omega)
    have htotal := Nat.mul_le_mul_right cfg.channels hfull
    rw [hsucc, Nat.add_mul] at htotal
    omega

theorem SampleRing.Represents.appended (h : ring.Represents history)
    (hframes : 0 < frames) (hlimit : ring.globalWriteFrame + frames ≤ u64Max)
    (hfit : ring.globalWriteFrame % ring.cfg.chunkFrames + frames ≤ ring.cfg.chunkFrames)
    (hsource : (frameIndex + frames) * ring.cfg.channels ≤ samples.length) :
    (ring.appended samples frameIndex frames).Represents
      (history ++
        slice samples (frameIndex * ring.cfg.channels) (frames * ring.cfg.channels)) := by
  obtain ⟨hhead, hlt, hwrite, hzero, hpos⟩ := h.head_chunk rfl rfl
  have hheld := h.writtenChunk_holds hfit hsource
  have hcc := h.chunkCount_pos
  have hcf := h.chunkFrames_pos
  set offset := ring.globalWriteFrame % ring.cfg.chunkFrames with hoffset
  set q := ring.globalWriteFrame / ring.cfg.chunkFrames with hq
  have hsucc : (q + 1) * ring.cfg.chunkFrames = q * ring.cfg.chunkFrames + ring.cfg.chunkFrames :=
    Nat.succ_mul _ _
  have hstarted : (ring.appended samples frameIndex frames).startedChunks = q + 1 := by
    refine ceilDiv_eq_succ (q := q) hcf ?_ ?_ <;>
    · simp only [SampleRing.appended]
      omega
  have hsamples : (slice samples (frameIndex * ring.cfg.channels)
      (frames * ring.cfg.channels)).length = frames * ring.cfg.channels := by
    refine length_slice_of_le ?_
    rw [← Nat.add_mul]
    exact hsource
  exact
    { channels_pos := h.channels_pos
      chunkFrames_pos := hcf
      chunkCount_pos := hcc
      history_length := by
        rw [List.length_append, hsamples, h.history_length]
        exact (Nat.add_mul _ _ _).symm
      head_le := hlimit
      clear_le := h.clear_le.trans (Nat.le_add_right _ _)
      writeChunk_eq := by
        simp only [SampleRing.appended, SampleRing.slotOf, ← hoffset]
        by_cases hfull : ring.cfg.chunkFrames ≤ offset + frames
        · have : ring.globalWriteFrame + frames = (q + 1) * ring.cfg.chunkFrames := by omega
          rw [if_pos hfull, this, Nat.mul_div_cancel _ hcf, hwrite, Nat.mod_add_mod]
        · rw [if_neg hfull, hwrite, Nat.div_eq_of_lt_le (k := q) (by omega) (by omega)]
      sequence_eq := by
        rw [hstarted]
        simp only [SampleRing.appended, h.sequence_eq, ← hoffset]
        rcases Nat.eq_zero_or_pos offset with hz | hp
        · rw [if_pos hz, hzero hz]
        · rw [if_neg hp.ne', hpos hp]
      data_length := fun i => by
        simp only [SampleRing.appended, ← hoffset]
        by_cases hi : i = ring.writeChunk
        · subst hi
          rw [Function.update_self, SampleRing.writtenChunk_data, length_copyFromSlice,
            h.data_length]
          rw [hsamples, h.data_length, ← Nat.add_mul]
          exact Nat.mul_le_mul_right _ hfit
        · rw [Function.update_of_ne hi, h.data_length]
      unwritten := fun i hi hic => by
        rw [hstarted] at hi
        have hic' : i < ring.cfg.chunkCount := hic
        have hne : i ≠ ring.writeChunk := by
          rw [hwrite, Nat.mod_eq_of_lt (by omega)]
          omega
        simp only [SampleRing.appended, Function.update_of_ne hne]
        refine h.unwritten i ?_ hic'
        rcases Nat.eq_zero_or_pos offset with hz | hp
        · rw [hzero hz]
          omega
        · rw [hpos hp]
          omega
      live := fun k hk hkc => by
        rw [hstarted] at hk hkc
        have hkc' : q + 1 ≤ k + ring.cfg.chunkCount := hkc
        simp only [SampleRing.appended, ← hoffset]
        rcases Nat.lt_succ_iff_lt_or_eq.mp hk with hlow | rfl
        · -- an older chunk: another slot, already full
          have hne : k % ring.cfg.chunkCount ≠ ring.writeChunk := by
            rw [hwrite]
            exact mod_ne_of_lt hlow (by omega)
          have hfull : (k + 1) * ring.cfg.chunkFrames ≤ q * ring.cfg.chunkFrames :=
            Nat.mul_le_mul_right _ hlow
          rw [Function.update_of_ne hne]
          refine (h.live k ?_ ?_).mono (by omega) (Nat.le_add_right _ _) h.history_length
          · rcases Nat.eq_zero_or_pos offset with hz | hp
            · rw [hzero hz]
              omega
            · rw [hpos hp]
              omega
          · rcases Nat.eq_zero_or_pos offset with hz | hp
            · rw [hzero hz]
              omega
            · rw [hpos hp]
              omega
        · rw [← hwrite, Function.update_self]
          exact hheld }

end Append

/-! ### A whole write -/

/-- How a write that accepted `accepted` frames may change the ring: no
pinned chunk is touched, and no pin. -/
structure SampleRing.Wrote (ring ring' : SampleRing α) (accepted : ℕ) : Prop where
  cfg : ring'.cfg = ring.cfg
  head : ring'.globalWriteFrame = ring.globalWriteFrame + accepted
  clear : ring'.clearAfterFrame = ring.clearAfterFrame
  active : ring'.activeSnapshots = ring.activeSnapshots
  pins : ∀ i, (ring'.chunks i).pinCount = (ring.chunks i).pinCount
  pinned : ∀ i, 0 < (ring.chunks i).pinCount → ring'.chunks i = ring.chunks i

theorem SampleRing.Wrote.refl (ring : SampleRing α) : ring.Wrote ring 0 :=
  ⟨rfl, rfl, rfl, rfl, fun _ => rfl, fun _ _ => rfl⟩

theorem SampleRing.Wrote.trans {ring ring' ring'' : SampleRing α} {m n : ℕ}
    (h : ring.Wrote ring' m) (h' : ring'.Wrote ring'' n) : ring.Wrote ring'' (m + n) where
  cfg := h'.cfg.trans h.cfg
  head := by rw [h'.head, h.head, Nat.add_assoc]
  clear := h'.clear.trans h.clear
  active := h'.active.trans h.active
  pins i := (h'.pins i).trans (h.pins i)
  pinned i hi := by rw [h'.pinned i (by rw [h.pins]; exact hi), h.pinned i hi]

theorem SampleRing.wrote_appended {ring : SampleRing α} (samples : List α)
    (frameIndex frames : ℕ) (hpin : (ring.chunks ring.writeChunk).pinCount = 0) :
    ring.Wrote (ring.appended samples frameIndex frames) frames where
  cfg := rfl
  head := rfl
  clear := rfl
  active := rfl
  pins i := by
    by_cases hi : i = ring.writeChunk
    · subst hi
      simp [SampleRing.appended, SampleRing.writtenChunk_pinCount]
    · simp [SampleRing.appended, Function.update_of_ne hi]
  pinned i hi := by
    have hne : i ≠ ring.writeChunk := by
      rintro rfl
      omega
    simp [SampleRing.appended, Function.update_of_ne hne]

/-- The loop accepts a prefix of the frames that are left, in order; unless
a counter is exhausted, it counts all the others as dropped. -/
theorem SampleRing.Represents.writeLoop {ring : SampleRing α} {history samples : List α}
    (h : ring.Represents history) {totalFrames : ℕ} (now fuel frameIndex : ℕ)
    (hfuel : totalFrames ≤ frameIndex + fuel) (hindex : frameIndex ≤ totalFrames)
    (hsamples : samples.length = totalFrames * ring.cfg.channels) :
    ∃ accepted, frameIndex + accepted ≤ totalFrames ∧
      (SampleRing.writeLoop now samples totalFrames fuel ring frameIndex).2.Represents
        (history ++
          slice samples (frameIndex * ring.cfg.channels) (accepted * ring.cfg.channels)) ∧
      ring.Wrote (SampleRing.writeLoop now samples totalFrames fuel ring frameIndex).2 accepted ∧
      ((SampleRing.writeLoop now samples totalFrames fuel ring frameIndex).1 = .ok () →
        (SampleRing.writeLoop now samples totalFrames fuel ring frameIndex).2.droppedFrames =
          ring.droppedFrames + (totalFrames - (frameIndex + accepted))) := by
  induction fuel generalizing ring history frameIndex with
  | zero =>
      exact ⟨0, by omega, by simpa [SampleRing.writeLoop] using h, .refl ring,
        fun _ => by simp only [SampleRing.writeLoop]; omega⟩
  | succ fuel ih =>
      by_cases hlt : frameIndex < totalFrames
      · rcases ring.writeIteration_cases now samples totalFrames frameIndex with
          ⟨e, hstop, -⟩ | ⟨-, hstop⟩ | ⟨frames, hframes, hlimit, hpin, hmore⟩
        · simp only [SampleRing.writeLoop, if_pos hlt, hstop]
          exact ⟨0, by omega, by simpa using h, .refl ring, fun hok => by simp at hok⟩
        · obtain ⟨dropped, overrun, heq, hdropped⟩ :=
            ring.recordOverrun_eq now (totalFrames - frameIndex)
          simp only [SampleRing.writeLoop, if_pos hlt, hstop]
          refine ⟨0, by omega, ?_, ?_, fun hok => ?_⟩
          · rw [heq]
            have hsame : ring.SameWindow
                { ring with droppedFrames := dropped, lastOverrun := overrun } :=
              ⟨rfl, rfl, rfl, rfl, rfl, fun _ => ⟨_, rfl⟩⟩
            exact hsame.represents (by simpa using h)
          · rw [heq]
            exact ⟨rfl, rfl, rfl, rfl, fun _ => rfl, fun _ _ => rfl⟩
          · rw [heq]
            exact hdropped hok
        · have hmod := Nat.mod_lt ring.globalWriteFrame h.chunkFrames_pos
          have hsource : (frameIndex + frames) * ring.cfg.channels ≤ samples.length := by
            rw [hsamples]
            exact Nat.mul_le_mul_right _ (by omega)
          have hstep : (ring.appended samples frameIndex frames).Represents
              (history ++ slice samples (frameIndex * ring.cfg.channels)
                (frames * ring.cfg.channels)) :=
            h.appended (by omega) hlimit (by omega) hsource
          obtain ⟨accepted, hle, hrep, hwrote, hdropped⟩ :=
            ih hstep (frameIndex + frames) (by omega) (by omega) hsamples
          simp only [SampleRing.writeLoop, if_pos hlt, hmore]
          refine ⟨frames + accepted, by omega, ?_,
            (SampleRing.wrote_appended samples frameIndex frames hpin).trans hwrote,
            fun hok => ?_⟩
          · have hcfg : (ring.appended samples frameIndex frames).cfg = ring.cfg := rfl
            rw [hcfg, List.append_assoc, Nat.add_mul, slice_append_slice, ← Nat.add_mul] at hrep
            exact hrep
          · rw [hdropped hok]
            simp only [SampleRing.appended]
            omega
      · simp only [SampleRing.writeLoop, if_neg hlt]
        exact ⟨0, by omega, by simpa using h, .refl ring, fun _ => by omega⟩

theorem SampleRing.Represents.writeInterleaved {ring : SampleRing α} {history : List α}
    (h : ring.Represents history) (now : ℕ) (samples : List α) (channels : ℕ) :
    ∃ accepted,
      accepted * ring.cfg.channels ≤ samples.length ∧
      (ring.writeInterleaved now samples channels).2.Represents
        (history ++ samples.take (accepted * ring.cfg.channels)) ∧
      ring.Wrote (ring.writeInterleaved now samples channels).2 accepted ∧
      ((ring.writeInterleaved now samples channels).1 = .ok () →
        (ring.writeInterleaved now samples channels).2.droppedFrames =
          ring.droppedFrames + (samples.length / ring.cfg.channels - accepted)) := by
  unfold SampleRing.writeInterleaved
  split_ifs with hch hwhole
  · exact ⟨0, by simp, by simpa using h, .refl ring, fun hok => by simp at hok⟩
  · exact ⟨0, by simp, by simpa using h, .refl ring, fun hok => by simp at hok⟩
  · obtain rfl : channels = ring.cfg.channels := not_not.mp hch
    have hsamples : samples.length =
        samples.length / ring.cfg.channels * ring.cfg.channels :=
      (Nat.div_mul_cancel (Nat.dvd_of_mod_eq_zero (by omega))).symm
    obtain ⟨accepted, hle, hrep, hwrote, hdropped⟩ :=
      h.writeLoop now (samples.length / ring.cfg.channels) 0 (by simp) (Nat.zero_le _) hsamples
    refine ⟨accepted, ?_, ?_, hwrote, fun hok => ?_⟩
    · rw [hsamples]
      exact Nat.mul_le_mul_right _ (by omega)
    · simpa [slice] using hrep
    · simpa using hdropped hok

/-- The sequence counter is far behind the frame counter unless every chunk
is a single frame. -/
theorem SampleRing.Represents.sequence_lt {ring : SampleRing α} {history : List α}
    (h : ring.Represents history) (hwide : 2 ≤ ring.cfg.chunkFrames) :
    ring.nextSequence + 1 ≤ u64Max := by
  have hstarted : ring.startedChunks ≤ ring.globalWriteFrame / 2 + 1 := by
    by_contra hlarge
    have hlt := h.lt_started_iff.mp (Nat.not_le.mp hlarge)
    have hdouble := Nat.mul_le_mul_left (ring.globalWriteFrame / 2 + 1) hwide
    omega
  have hhead := h.head_le
  rw [h.sequence_eq]
  unfold u64Max at hhead ⊢
  omega

/-- Without pins the loop writes everything that is left. Only a ring of
single-frame chunks can run out of sequence numbers, and then before it has
written anything. -/
theorem SampleRing.Represents.writeLoop_unpinned {ring : SampleRing α}
    {history samples : List α} (h : ring.Represents history)
    (hpins : ∀ i, (ring.chunks i).pinCount = 0) {totalFrames : ℕ} (now fuel frameIndex : ℕ)
    (hfuel : totalFrames ≤ frameIndex + fuel) (hindex : frameIndex ≤ totalFrames)
    (hsamples : samples.length = totalFrames * ring.cfg.channels)
    (hlimit : ring.globalWriteFrame + (totalFrames - frameIndex) ≤ u64Max)
    (hblock : 2 ≤ ring.cfg.chunkFrames ∨ totalFrames ≤ frameIndex + 1) :
    (∃ e, SampleRing.writeLoop now samples totalFrames fuel ring frameIndex = (.error e, ring) ∧
      ring.cfg.chunkFrames < 2 ∧ frameIndex < totalFrames) ∨
    ((SampleRing.writeLoop now samples totalFrames fuel ring frameIndex).1 = .ok () ∧
      (SampleRing.writeLoop now samples totalFrames fuel ring frameIndex).2.globalWriteFrame =
        ring.globalWriteFrame + (totalFrames - frameIndex)) := by
  induction fuel generalizing ring history frameIndex with
  | zero =>
      refine .inr ⟨rfl, ?_⟩
      simp only [SampleRing.writeLoop]
      omega
  | succ fuel ih =>
      by_cases hlt : frameIndex < totalFrames
      · simp only [SampleRing.writeLoop, if_pos hlt]
        rcases ring.writeIteration_cases now samples totalFrames frameIndex with
          ⟨e, hstop, hfull⟩ | ⟨hpinned, -⟩ | ⟨frames, hframes, hfits, hpin, hmore⟩
        · refine .inl ⟨e, by rw [hstop], ?_, hlt⟩
          rcases hfull with hframe | ⟨-, hsequence⟩
          · omega
          · by_contra hwide
            have := h.sequence_lt (Nat.not_lt.mp hwide)
            omega
        · have := hpins ring.writeChunk
          omega
        · have hmod := Nat.mod_lt ring.globalWriteFrame h.chunkFrames_pos
          have hsource : (frameIndex + frames) * ring.cfg.channels ≤ samples.length := by
            rw [hsamples]
            exact Nat.mul_le_mul_right _ (by omega)
          have hstep : (ring.appended samples frameIndex frames).Represents
              (history ++ slice samples (frameIndex * ring.cfg.channels)
                (frames * ring.cfg.channels)) :=
            h.appended (by omega) hfits (by omega) hsource
          have hwrote := SampleRing.wrote_appended samples frameIndex frames hpin
          have hhead := hwrote.head
          rw [hmore]
          rcases ih hstep (fun i => (hwrote.pins i).trans (hpins i)) (frameIndex + frames)
            (by omega) (by omega) hsamples (by omega)
            (hblock.imp_right fun hshort => by omega) with ⟨e, -, hnarrow, hless⟩ | ⟨hok, hend⟩
          · have hnarrow : ring.cfg.chunkFrames < 2 := hnarrow
            omega
          · refine .inr ⟨hok, ?_⟩
            rw [hend]
            omega
      · simp only [SampleRing.writeLoop, if_neg hlt]
        exact .inr ⟨trivial, by omega⟩

/-- A block that is no longer than a chunk is written whole to an unpinned
ring, or not at all. -/
theorem SampleRing.Represents.writeInterleaved_unpinned {ring : SampleRing α}
    {history samples : List α} (h : ring.Represents history)
    (hpins : ∀ i, (ring.chunks i).pinCount = 0) (now : ℕ)
    (hblock : samples.length / ring.cfg.channels ≤ ring.cfg.chunkFrames)
    (hlimit : ring.globalWriteFrame + samples.length / ring.cfg.channels ≤ u64Max) :
    (∃ e, ring.writeInterleaved now samples ring.cfg.channels = (.error e, ring)) ∨
    ((ring.writeInterleaved now samples ring.cfg.channels).1 = .ok () ∧
      (ring.writeInterleaved now samples ring.cfg.channels).2.globalWriteFrame =
        ring.globalWriteFrame + samples.length / ring.cfg.channels) := by
  unfold SampleRing.writeInterleaved
  rw [if_neg (by simp)]
  split_ifs with hwhole
  · exact .inl ⟨_, rfl⟩
  · have hsamples : samples.length =
        samples.length / ring.cfg.channels * ring.cfg.channels :=
      (Nat.div_mul_cancel (Nat.dvd_of_mod_eq_zero (by omega))).symm
    rcases h.writeLoop_unpinned hpins now (samples.length / ring.cfg.channels) 0 (by simp)
      (Nat.zero_le _) hsamples hlimit (by omega) with ⟨e, herror, -⟩ | hok
    · exact .inl ⟨e, herror⟩
    · exact .inr hok

/-- Chunks of two frames or more never run out of sequence numbers. -/
theorem SampleRing.Represents.writeInterleaved_ok {ring : SampleRing α}
    {history samples : List α} (h : ring.Represents history)
    (hpins : ∀ i, (ring.chunks i).pinCount = 0) (now : ℕ) (hwide : 2 ≤ ring.cfg.chunkFrames)
    (hwhole : samples.length % ring.cfg.channels = 0)
    (hlimit : ring.globalWriteFrame + samples.length / ring.cfg.channels ≤ u64Max) :
    (ring.writeInterleaved now samples ring.cfg.channels).1 = .ok () := by
  have hchannels := h.channels_pos
  have hsamples : samples.length = samples.length / ring.cfg.channels * ring.cfg.channels :=
    (Nat.div_mul_cancel (Nat.dvd_of_mod_eq_zero hwhole)).symm
  unfold SampleRing.writeInterleaved
  rw [if_neg (by simp), if_neg (by omega)]
  rcases h.writeLoop_unpinned hpins now (samples.length / ring.cfg.channels) 0 (by simp)
    (Nat.zero_le _) hsamples hlimit (.inl hwide) with ⟨e, -, hnarrow, -⟩ | hok
  · omega
  · exact hok.1

/-! ### Clear and reset -/

theorem SampleRing.Represents.clear {ring : SampleRing α} {history : List α}
    (h : ring.Represents history) : ring.clear.Represents history :=
  { h with clear_le := le_rfl }

/-- A reset either refuses and changes nothing, or empties the ring; it only
succeeds when nobody holds a snapshot. -/
theorem SampleRing.Represents.reset {ring : SampleRing α} {history : List α}
    (h : ring.Represents history) :
    (∃ e, ring.reset = (.error e, ring)) ∨
    (ring.reset.1 = .ok () ∧ ring.reset.2.Represents [] ∧ ring.reset.2.cfg = ring.cfg ∧
      ring.activeSnapshots = 0 ∧ ring.reset.2.activeSnapshots = 0 ∧
      (∀ i, (ring.reset.2.chunks i).pinCount = (ring.chunks i).pinCount) ∧
      ∀ i < ring.cfg.chunkCount, (ring.chunks i).pinCount = 0) := by
  unfold SampleRing.reset
  split_ifs with hpins hwriting
  · exact .inl ⟨_, rfl⟩
  · exact .inl ⟨_, rfl⟩
  · push Not at hpins
    refine .inr ⟨rfl, ?_, rfl, hpins.1, hpins.1, fun _ => rfl, fun i hi =>
      hpins.2 i (by simpa [SampleRing.slots] using hi)⟩
    exact
      { channels_pos := h.channels_pos
        chunkFrames_pos := h.chunkFrames_pos
        chunkCount_pos := h.chunkCount_pos
        history_length := by simp
        head_le := by simp
        clear_le := le_rfl
        writeChunk_eq := by simp [SampleRing.slotOf]
        sequence_eq := by simp [SampleRing.startedChunks]
        data_length := h.data_length
        unwritten := fun _ _ _ => rfl
        live := fun k hk _ => by simp [SampleRing.startedChunks] at hk }

theorem SampleRing.Represents.not_writing {ring : SampleRing α} {history : List α}
    (h : ring.Represents history) {i : ℕ} (hi : i < ring.cfg.chunkCount) :
    (ring.chunks i).state ≠ .writing := by
  rcases Nat.lt_or_ge i ring.startedChunks with hstarted | hunwritten
  · -- the newest chunk that stands in slot `i`
    obtain ⟨k, hk, hkc, hmod⟩ : ∃ k, k < ring.startedChunks ∧
        ring.startedChunks ≤ k + ring.cfg.chunkCount ∧ k % ring.cfg.chunkCount = i := by
      have hdiv := Nat.div_add_mod (ring.startedChunks - 1 - i) ring.cfg.chunkCount
      have hmod := Nat.mod_lt (ring.startedChunks - 1 - i) h.chunkCount_pos
      refine ⟨i + ring.cfg.chunkCount * ((ring.startedChunks - 1 - i) / ring.cfg.chunkCount),
        by omega, by omega, ?_⟩
      rw [Nat.add_mul_mod_self_left, Nat.mod_eq_of_lt hi]
    have hlive := h.live k hk hkc
    rw [hmod] at hlive
    rw [hlive.state]
    decide
  · rw [h.unwritten i hunwritten hi]
    decide

theorem SampleRing.Represents.reset_unpinned {ring : SampleRing α} {history : List α}
    (h : ring.Represents history) (hpins : ∀ i, (ring.chunks i).pinCount = 0)
    (hactive : ring.activeSnapshots = 0) : ring.reset.1 = .ok () := by
  unfold SampleRing.reset
  rw [if_neg (by simp [hpins, hactive]), if_neg]
  rintro ⟨i, hi, hwriting⟩
  exact h.not_writing (List.mem_range.mp hi) hwriting

end Lamb.Ring
