import Lamb.Ring.Run

/-!
The account of one write. The frames offered are split in two: the ones in front
stand at consecutive positions from the head, the others are counted as dropped.
Only a counter that runs out of its 64 bits ends a write without the second part.
-/

namespace Lamb.Ring

open Lamb.Lib

variable {α : Type}

/-! ### The loop -/

/-- The loop of `write_interleaved` from `frameIndex` on runs to its end, with a
result and the ring it leaves. -/
inductive SampleRing.WriteRuns (now : ℕ) (samples : List α) (totalFrames : ℕ) :
    SampleRing α → ℕ → Result Unit → SampleRing α → Prop
  | done {ring : SampleRing α} {frameIndex : ℕ} (h : ¬frameIndex < totalFrames) :
      WriteRuns now samples totalFrames ring frameIndex (.ok ()) ring
  | stop {ring ring' : SampleRing α} {frameIndex : ℕ} {result : Result Unit}
      (h : frameIndex < totalFrames)
      (hstop : ring.writeIteration now samples totalFrames frameIndex = .stop result ring') :
      WriteRuns now samples totalFrames ring frameIndex result ring'
  | more {ring next ring' : SampleRing α} {frameIndex nextIndex : ℕ} {result : Result Unit}
      (h : frameIndex < totalFrames)
      (hmore : ring.writeIteration now samples totalFrames frameIndex = .more next nextIndex)
      (hrest : WriteRuns now samples totalFrames next nextIndex result ring') :
      WriteRuns now samples totalFrames ring frameIndex result ring'

/-- One of the counters cannot take the next step of a write that has
`remaining` frames left. -/
def SampleRing.Exhausted (ring : SampleRing α) (remaining : ℕ) : Prop :=
  u64Max < ring.globalWriteFrame +
      min (ring.cfg.chunkFrames - ring.globalWriteFrame % ring.cfg.chunkFrames) remaining ∨
    ring.globalWriteFrame % ring.cfg.chunkFrames = 0 ∧ u64Max < ring.nextSequence + 1 ∨
    u64Max < ring.droppedFrames + remaining

theorem SampleRing.recordOverrun_error {ring : SampleRing α} {now frames : ℕ} {e : LambError}
    (h : (ring.recordOverrun now frames).1 = .error e) :
    (ring.recordOverrun now frames).2 = ring ∧ u64Max < ring.droppedFrames + frames := by
  unfold SampleRing.recordOverrun SampleRing.addDroppedFrames at h ⊢
  cases hadd : checkedAdd ring.droppedFrames frames with
  | none => exact ⟨rfl, checkedAdd_eq_none.mp hadd⟩
  | some total =>
      rw [hadd] at h
      cases h

section Loop

variable {samples : List α} {totalFrames : ℕ}

/-- Every iteration that goes on has written a frame, so the loop ends within the
iterations it is given. -/
theorem SampleRing.writeLoop_runs (now fuel : ℕ) {ring : SampleRing α} (frameIndex : ℕ)
    (hchunk : 0 < ring.cfg.chunkFrames) (hfuel : totalFrames ≤ frameIndex + fuel) :
    SampleRing.WriteRuns now samples totalFrames ring frameIndex
      (SampleRing.writeLoop now samples totalFrames fuel ring frameIndex).1
      (SampleRing.writeLoop now samples totalFrames fuel ring frameIndex).2 := by
  induction fuel generalizing ring frameIndex with
  | zero => exact .done (by omega)
  | succ fuel ih =>
      by_cases hlt : frameIndex < totalFrames
      · simp only [SampleRing.writeLoop, if_pos hlt]
        rcases ring.writeIteration_cases now samples totalFrames frameIndex with
          ⟨e, hstop, -⟩ | ⟨-, hstop⟩ | ⟨frames, hframes, -, -, hmore⟩
        · rw [hstop]
          exact .stop hlt hstop
        · rw [hstop]
          exact .stop hlt hstop
        · have hmod := Nat.mod_lt ring.globalWriteFrame hchunk
          rw [hmore]
          exact .more hlt hmore (ih (frameIndex + frames) hchunk (by omega))
      · simp only [SampleRing.writeLoop, if_neg hlt]
        exact .done hlt

/-- A loop that fails has counted nothing as dropped, and it fails at a counter
that is exhausted. -/
theorem SampleRing.writeLoop_error (now fuel : ℕ) {ring : SampleRing α} (frameIndex : ℕ)
    {e : LambError}
    (h : (SampleRing.writeLoop now samples totalFrames fuel ring frameIndex).1 = .error e) :
    ∃ accepted,
      (SampleRing.writeLoop now samples totalFrames fuel ring frameIndex).2.globalWriteFrame =
        ring.globalWriteFrame + accepted ∧
      (SampleRing.writeLoop now samples totalFrames fuel ring frameIndex).2.droppedFrames =
        ring.droppedFrames ∧
      (SampleRing.writeLoop now samples totalFrames fuel ring frameIndex).2.Exhausted
        (totalFrames - (frameIndex + accepted)) := by
  induction fuel generalizing ring frameIndex with
  | zero => cases h
  | succ fuel ih =>
      by_cases hlt : frameIndex < totalFrames
      · simp only [SampleRing.writeLoop, if_pos hlt] at h ⊢
        rcases ring.writeIteration_cases now samples totalFrames frameIndex with
          ⟨e', hstop, hfull⟩ | ⟨-, hstop⟩ | ⟨frames, -, -, -, hmore⟩
        · rw [hstop]
          exact ⟨0, rfl, rfl, hfull.imp_right .inl⟩
        · rw [hstop] at h ⊢
          obtain ⟨hring, hfull⟩ := SampleRing.recordOverrun_error h
          dsimp only
          rw [hring]
          exact ⟨0, rfl, rfl, .inr (.inr hfull)⟩
        · rw [hmore] at h ⊢
          obtain ⟨accepted, hhead, hdropped, hfull⟩ := ih (frameIndex + frames) h
          refine ⟨frames + accepted, ?_, hdropped, ?_⟩
          · rw [hhead]
            simp only [SampleRing.appended]
            omega
          · rw [Nat.add_assoc] at hfull
            exact hfull
      · simp only [SampleRing.writeLoop, if_neg hlt] at h
        cases h

end Loop

/-! ### Single frames -/

/-- The sample of a channel where the ring keeps a frame. -/
def SampleRing.sampleAt (ring : SampleRing α) (frame channel : ℕ) : Option α :=
  (ring.chunks (ring.slotOf frame)).data[
    frame % ring.cfg.chunkFrames * ring.cfg.channels + channel]?

/-- The chunk of a frame has not been recycled. -/
def SampleRing.Retains (ring : SampleRing α) (frame : ℕ) : Prop :=
  frame < ring.globalWriteFrame ∧
    ring.startedChunks ≤ frame / ring.cfg.chunkFrames + ring.cfg.chunkCount

theorem SampleRing.Represents.sampleAt_eq {ring : SampleRing α} {history : List α}
    (h : ring.Represents history) {frame channel : ℕ} (hframe : ring.Retains frame)
    (hchannel : channel < ring.cfg.channels) :
    ring.sampleAt frame channel = history[frame * ring.cfg.channels + channel]? := by
  have hchunk := h.chunkFrames_pos
  have hstarted : frame / ring.cfg.chunkFrames < ring.startedChunks := by
    rw [h.lt_started_iff]
    exact lt_of_le_of_lt (Nat.div_mul_le_self _ _) hframe.1
  have hholds := h.live _ hstarted hframe.2
  have hsplit := Nat.div_add_mod frame ring.cfg.chunkFrames
  have hmod := Nat.mod_lt frame hchunk
  rw [Nat.mul_comm] at hsplit
  have hinside : frame % ring.cfg.chunkFrames * ring.cfg.channels + channel <
      (ring.chunks (ring.slotOf frame)).validFrameCount * ring.cfg.channels := by
    have hcount := hholds.count
    have hhead := hframe.1
    calc frame % ring.cfg.chunkFrames * ring.cfg.channels + channel
        < (frame % ring.cfg.chunkFrames + 1) * ring.cfg.channels := by
          rw [Nat.add_mul, Nat.one_mul]
          omega
      _ ≤ (ring.chunks (ring.slotOf frame)).validFrameCount * ring.cfg.channels := by
          refine Nat.mul_le_mul_right _ ?_
          rw [SampleRing.slotOf, hcount]
          omega
  rw [SampleRing.sampleAt, SampleRing.slotOf, hholds.data _ hinside, ← Nat.add_assoc,
    ← Nat.add_mul, hsplit]

/-! ### The account of a write -/

/-- For whatever snapshots are live: a write of whole frames ends; it appends the
frames in front, one behind the other from the head on, and leaves the retained
frames below; it counts the frames behind as dropped, or it fails with a counter
that is exhausted and counts none; pinned chunks stay as they are; no chunk is
left in the state of being written, and the write chunk is the head's. -/
theorem write_accounts {cfg : RingConfig} {zero : α} {ring₀ : SampleRing α}
    (hnew : SampleRing.new cfg zero = .ok ring₀) (ops : List (RingOp α)) (now : ℕ)
    (samples : List α) (frames : ℕ) (hsamples : samples.length = frames * cfg.channels) :
    let ring := ((RingRun.start ring₀).steps ops).ring
    let written := ring.writeInterleaved now samples cfg.channels
    SampleRing.WriteRuns now samples frames ring 0 written.1 written.2 ∧
    ∃ accepted ≤ frames,
      written.2.globalWriteFrame = ring.globalWriteFrame + accepted ∧
      (∀ i < accepted, ∀ channel < cfg.channels,
        written.2.Retains (ring.globalWriteFrame + i) →
        written.2.sampleAt (ring.globalWriteFrame + i) channel =
          samples[i * cfg.channels + channel]?) ∧
      (∀ frame < ring.globalWriteFrame, ∀ channel < cfg.channels, written.2.Retains frame →
        written.2.sampleAt frame channel = ring.sampleAt frame channel) ∧
      (written.1 = .ok () →
        written.2.droppedFrames = ring.droppedFrames + (frames - accepted)) ∧
      (∀ e, written.1 = .error e → written.2.droppedFrames = ring.droppedFrames ∧
        written.2.Exhausted (frames - accepted)) ∧
      (∀ slot, 0 < (ring.chunks slot).pinCount → written.2.chunks slot = ring.chunks slot) ∧
      (∀ slot < cfg.chunkCount, (written.2.chunks slot).state ≠ .writing) ∧
      written.2.writeChunk =
        written.2.globalWriteFrame / cfg.chunkFrames % cfg.chunkCount := by
  intro ring written
  have hstart := RingRun.start_inv hnew
  have hinv := hstart.steps ops
  have hcfg : ring.cfg = cfg := by
    rw [RingRun.cfg_steps hstart]
    obtain ⟨rfl, -⟩ := SampleRing.new_cfg hnew
    rfl
  have hrep : ring.Represents ((RingRun.start ring₀).steps ops).accepted := hinv.represents
  have hchannels := hrep.channels_pos
  rw [← hcfg] at hsamples
  have hframes : samples.length / ring.cfg.channels = frames := by
    rw [hsamples, Nat.mul_div_cancel _ hchannels]
  have hwritten : written = SampleRing.writeLoop now samples frames frames ring 0 := by
    have hwhole : samples.length % ring.cfg.channels = 0 := by
      rw [hsamples, Nat.mul_mod_left]
    change ring.writeInterleaved now samples cfg.channels = _
    rw [← hcfg, SampleRing.writeInterleaved, if_neg (by simp), if_neg (by omega), hframes]
  refine ⟨?_, ?_⟩
  · rw [hwritten]
    exact SampleRing.writeLoop_runs now frames 0 hrep.chunkFrames_pos (by omega)
  obtain ⟨accepted, haccepted, hrep', hwrote, hdropped⟩ :=
    hrep.writeInterleaved now samples cfg.channels
  change written.2.Represents _ at hrep'
  have hhead : written.2.globalWriteFrame = ring.globalWriteFrame + accepted := hwrote.head
  have hcfg' : written.2.cfg = cfg := hwrote.cfg.trans hcfg
  have hle : accepted ≤ frames := by
    rw [← hframes]
    exact (Nat.le_div_iff_mul_le hchannels).mpr haccepted
  have hlength := hrep.history_length
  refine ⟨accepted, hle, hhead, ?_, ?_, ?_, ?_, hwrote.pinned, ?_, ?_⟩
  · intro i hi channel hchannel hretains
    rw [hrep'.sampleAt_eq hretains (by rw [hcfg']; exact hchannel), hcfg', ← hcfg, Nat.add_mul,
      Nat.add_assoc, List.getElem?_append_right (by omega), hlength, Nat.add_sub_cancel_left]
    refine List.getElem?_take_of_lt ?_
    have hnext := Nat.mul_le_mul_right ring.cfg.channels (Nat.succ_le_of_lt hi)
    rw [Nat.succ_mul] at hnext
    rw [← hcfg] at hchannel
    omega
  · intro frame hframe channel hchannel hretains
    have hbefore : ring.Retains frame := by
      refine ⟨hframe, ?_⟩
      have hstarted := hretains.2
      rw [hcfg', SampleRing.startedChunks, hhead, hcfg'] at hstarted
      rw [SampleRing.startedChunks, hcfg]
      have hmono : ring.globalWriteFrame ⌈/⌉ cfg.chunkFrames ≤
          (ring.globalWriteFrame + accepted) ⌈/⌉ cfg.chunkFrames :=
        (gc_mul_ceilDiv (by rw [← hcfg]; exact hrep.chunkFrames_pos)).monotone_l
          (Nat.le_add_right _ _)
      omega
    rw [hrep'.sampleAt_eq hretains (by rw [hcfg']; exact hchannel),
      hrep.sampleAt_eq hbefore (by rw [hcfg]; exact hchannel), hcfg', hcfg]
    refine List.getElem?_append_left ?_
    have hnext := Nat.mul_le_mul_right cfg.channels (Nat.succ_le_of_lt hframe)
    rw [Nat.succ_mul] at hnext
    rw [hcfg] at hlength
    omega
  · intro hok
    rw [hdropped hok, hframes]
  · intro e he
    rw [hwritten] at he
    obtain ⟨accepted', hreached, hsame, hfull⟩ := SampleRing.writeLoop_error now frames 0 he
    rw [← hwritten] at hreached hsame hfull
    obtain rfl : accepted' = accepted := by omega
    rw [Nat.zero_add] at hfull
    exact ⟨hsame, hfull⟩
  · intro slot hslot
    exact hrep'.not_writing (by rw [hcfg']; exact hslot)
  · rw [hrep'.writeChunk_eq, SampleRing.slotOf, hcfg']

/-- The second chunk is pinned in its middle: the write of six more frames stops
at once, and all six are dropped. -/
theorem write_accounts_pinned :
    ∃ ring₀, SampleRing.new smallConfig (0 : ℕ) = .ok ring₀ ∧
      let ring := ((RingRun.start ring₀).steps
        [.write 0 [1, 2, 3] 1, .snapshotRange ⟨2, 3⟩]).ring
      (ring.writeInterleaved 1 [4, 5, 6, 7, 8, 9] 1).2.droppedFrames =
        ring.droppedFrames + 6 := by
  refine ⟨_, rfl, ?_⟩
  obtain ⟨-, accepted, -, hhead, -, -, hdropped, -⟩ :=
    @write_accounts ℕ smallConfig 0 _ rfl [.write 0 [1, 2, 3] 1, .snapshotRange ⟨2, 3⟩] 1
      [4, 5, 6, 7, 8, 9] 6 rfl
  obtain rfl : accepted = 0 := Nat.add_left_cancel (n := 3) hhead.symm
  exact hdropped rfl

/-- With the counter of dropped frames used up, a dropped frame is not counted. -/
theorem write_drop_not_counted :
    ¬∀ (cfg : RingConfig) (ring₀ : SampleRing ℕ) (ops : List (RingOp ℕ)) (now frames : ℕ)
      (samples : List ℕ), SampleRing.new cfg 0 = .ok ring₀ →
      samples.length = frames * cfg.channels →
      let ring := ((RingRun.start ring₀).steps ops).ring
      let ring' := (ring.writeInterleaved now samples cfg.channels).2
      ring'.droppedFrames =
        ring.droppedFrames + (frames - (ring'.globalWriteFrame - ring.globalWriteFrame)) := by
  intro h
  have hcounted := h smallConfig _ [.write 0 [1] 1, .snapshotRange ⟨0, 1⟩,
    .recordDroppedFrames u64Max] 1 1 [2] rfl rfl
  exact absurd hcounted (by decide +kernel)

end Lamb.Ring
