import Lamb.Ring.Snapshot
import Mathlib.Algebra.Order.BigOperators.Group.List

/-!
Whole runs of a ring: writes, clears, resets and snapshots taken and dropped
in any order. A run remembers the live snapshots and, for the specification
only, the interleaved samples accepted since the last reset.
-/

namespace Lamb.Ring

open Lamb.Lib

variable {α : Type}

structure RingRun (α : Type) where
  ring : SampleRing α
  live : List (ℕ × Snapshot)
  nextId : ℕ
  accepted : List α

inductive RingOp (α : Type)
  | write (now : ℕ) (samples : List α) (channels : ℕ)
  | recordDroppedFrames (frames : ℕ)
  | clear
  | reset
  | snapshotRange (range : Range)
  | snapshotLastFrames (requestedFrames : ℕ)
  | selectSnapshot (committedStart : Option ℕ)
  | dropSnapshot (index : ℕ)

def RingRun.start (ring : SampleRing α) : RingRun α :=
  { ring, live := [], nextId := 0, accepted := [] }

/-- A granted snapshot is live from now on, under a fresh identity. -/
def RingRun.keep (run : RingRun α) : Result Snapshot × SampleRing α → RingRun α
  | (.error _, ring) => { run with ring }
  | (.ok snapshot, ring) =>
      { run with ring, live := (run.nextId, snapshot) :: run.live, nextId := run.nextId + 1 }

def RingRun.step (run : RingRun α) : RingOp α → RingRun α
  | .write now samples channels =>
      let ring := (run.ring.writeInterleaved now samples channels).2
      let frames := ring.globalWriteFrame - run.ring.globalWriteFrame
      { run with ring, accepted := run.accepted ++ samples.take (frames * ring.cfg.channels) }
  | .recordDroppedFrames frames =>
      { run with ring := (run.ring.recordDroppedFrames frames).2 }
  | .clear => { run with ring := run.ring.clear }
  | .reset =>
      match run.ring.reset with
      | (.error _, ring) => { run with ring }
      | (.ok (), ring) => { run with ring, accepted := [] }
  | .snapshotRange range => run.keep (run.ring.snapshotRange range)
  | .snapshotLastFrames requestedFrames =>
      run.keep (run.ring.snapshotLastFrames requestedFrames)
  | .selectSnapshot committedStart =>
      match run.ring.selectSnapshot committedStart with
      | (.error e, ring) => run.keep (.error e, ring)
      | (.ok (_, _, snapshot), ring) => run.keep (.ok snapshot, ring)
  | .dropSnapshot index =>
      match run.live[index]? with
      | none => run
      | some entry =>
          { run with ring := run.ring.dropSnapshot entry.2, live := run.live.eraseIdx index }

def RingRun.steps (run : RingRun α) (ops : List (RingOp α)) : RingRun α :=
  ops.foldl RingRun.step run

/-- The live snapshots that have a segment on the chunk in `slot`. -/
def RingRun.covering (run : RingRun α) (slot : ℕ) : List (ℕ × Snapshot) :=
  run.live.filter fun entry => slot ∈ entry.2.segments.map SnapshotSegment.slot

def RingRun.pins (run : RingRun α) (slot : ℕ) : ℕ :=
  (run.live.map fun entry => segmentPins entry.2.segments slot).sum

structure RingRun.Inv (run : RingRun α) : Prop where
  represents : run.ring.Represents run.accepted
  pins : ∀ i, (run.ring.chunks i).pinCount = run.pins i
  active : run.ring.activeSnapshots = run.live.countP fun entry => entry.2.holdsSlot
  limit : run.ring.activeSnapshots ≤ run.ring.cfg.maxActiveSnapshots
  empty : ∀ entry ∈ run.live, entry.2.holdsSlot = false → entry.2.segments = []
  nodup : ∀ entry ∈ run.live, (entry.2.segments.map SnapshotSegment.slot).Nodup
  ids : ∀ entry ∈ run.live, entry.1 < run.nextId

theorem RingRun.start_inv {cfg : RingConfig} {zero : α} {ring : SampleRing α}
    (hnew : SampleRing.new cfg zero = .ok ring) : (RingRun.start ring).Inv := by
  obtain ⟨rfl, -⟩ := SampleRing.new_cfg hnew
  exact
    { represents := SampleRing.new_represents hnew
      pins := fun i => by simp [RingRun.pins, RingRun.start, emptyChunk]
      active := by simp [RingRun.start]
      limit := by simp [RingRun.start]
      empty := by simp [RingRun.start]
      nodup := by simp [RingRun.start]
      ids := by simp [RingRun.start] }

/-! ### One step -/

section Step

variable {run : RingRun α}

/-- A step that leaves the live snapshots, the pins and the snapshot counter
alone keeps the invariant as soon as the window is right. -/
theorem RingRun.Inv.of_same_pins (h : run.Inv) {ring : SampleRing α} {accepted : List α}
    (hrep : ring.Represents accepted) (hcfg : ring.cfg = run.ring.cfg)
    (hpins : ∀ i, (ring.chunks i).pinCount = (run.ring.chunks i).pinCount)
    (hactive : ring.activeSnapshots = run.ring.activeSnapshots) :
    RingRun.Inv { run with ring, accepted } where
  represents := hrep
  pins i := (hpins i).trans (h.pins i)
  active := hactive.trans h.active
  limit := by
    simp only [hactive, hcfg]
    exact h.limit
  empty := h.empty
  nodup := h.nodup
  ids := h.ids

theorem RingRun.Inv.keep (h : run.Inv) {range : Range} {ring : SampleRing α}
    {snapshot : Snapshot}
    (hgranted : run.ring.Granted run.accepted range ring snapshot) :
    (run.keep (.ok snapshot, ring)).Inv where
  represents := hgranted.window.represents h.represents
  pins i := by
    simp only [RingRun.keep, RingRun.pins, List.map_cons, List.sum_cons, hgranted.chunks i,
      h.pins i]
    omega
  active := by
    simp only [RingRun.keep, List.countP_cons, hgranted.active, h.active]
  limit := by
    simp only [RingRun.keep, hgranted.active, hgranted.window.cfg]
    have := h.limit
    split
    · exact hgranted.limit ‹_›
    · omega
  empty entry hentry := by
    rcases List.mem_cons.mp hentry with rfl | hold
    · exact hgranted.empty
    · exact h.empty entry hold
  nodup entry hentry := by
    rcases List.mem_cons.mp hentry with rfl | hold
    · exact hgranted.nodup
    · exact h.nodup entry hold
  ids entry hentry := by
    rcases List.mem_cons.mp hentry with rfl | hold
    · exact Nat.lt_succ_self _
    · exact Nat.lt_succ_of_lt (h.ids entry hold)

theorem RingRun.Inv.keep_takeSnapshot (h : run.Inv) (range : Range) :
    (run.keep (run.ring.takeSnapshot range run.ring.globalWriteFrame
      (run.ring.oldestFrameAt run.ring.globalWriteFrame))).Inv := by
  rcases h.represents.takeSnapshot range with ⟨-, e, heq⟩ | ⟨-, snapshot, ring', heq, hgranted⟩
  · rw [heq]
    exact h
  · rw [heq]
    exact h.keep hgranted

theorem RingRun.keep_selectSnapshot (committedStart : Option ℕ) :
    run.step (.selectSnapshot committedStart) =
      run.keep (run.ring.takeSnapshot
        ⟨max (committedStart.getD (run.ring.oldestFrameAt run.ring.globalWriteFrame))
          (run.ring.oldestFrameAt run.ring.globalWriteFrame), run.ring.globalWriteFrame⟩
        run.ring.globalWriteFrame (run.ring.oldestFrameAt run.ring.globalWriteFrame)) := by
  simp only [RingRun.step, SampleRing.selectSnapshot, SampleRing.writeHeadFrame]
  generalize run.ring.takeSnapshot _ _ _ = taken
  obtain ⟨result, ring⟩ := taken
  cases result <;> rfl

theorem SampleRing.sameWindow_dropSnapshot (ring : SampleRing α) (snapshot : Snapshot) :
    ring.SameWindow (ring.dropSnapshot snapshot) :=
  ⟨rfl, rfl, rfl, rfl, rfl, fun i => ⟨_, dropSnapshot_chunks _ _ i⟩⟩

theorem RingRun.Inv.drop (h : run.Inv) {index : ℕ} {entry : ℕ × Snapshot}
    (hentry : run.live[index]? = some entry) :
    RingRun.Inv
      { run with ring := run.ring.dropSnapshot entry.2, live := run.live.eraseIdx index } := by
  obtain ⟨hlt, hget⟩ := List.getElem?_eq_some_iff.mp hentry
  have hperm : (entry :: run.live.eraseIdx index).Perm run.live := by
    rw [← hget]
    exact List.getElem_cons_eraseIdx_perm hlt
  have hmem : ∀ other ∈ run.live.eraseIdx index, other ∈ run.live := fun other =>
    List.mem_of_mem_eraseIdx
  have hcount := hperm.countP_eq fun entry => entry.2.holdsSlot
  rw [List.countP_cons] at hcount
  have hactive := h.active
  have hlimit := h.limit
  exact
    { represents := (run.ring.sameWindow_dropSnapshot _).represents h.represents
      pins := fun i => by
        have hsum := (hperm.map fun entry => segmentPins entry.2.segments i).sum_eq
        rw [List.map_cons, List.sum_cons] at hsum
        have hpins := h.pins i
        simp only [SampleRing.dropSnapshot, dropSnapshot_chunks, RingRun.pins] at hpins ⊢
        omega
      active := by
        simp only [SampleRing.dropSnapshot]
        split_ifs at hcount ⊢ <;> omega
      limit := by
        simp only [SampleRing.dropSnapshot]
        split <;> omega
      empty := fun other hother => h.empty other (hmem other hother)
      nodup := fun other hother => h.nodup other (hmem other hother)
      ids := fun other hother => h.ids other (hmem other hother) }

theorem RingRun.Inv.step (h : run.Inv) (op : RingOp α) : (run.step op).Inv := by
  cases op with
  | write now samples channels =>
      obtain ⟨accepted, -, hrep, hwrote, -⟩ :=
        h.represents.writeInterleaved now samples channels
      have hframes : (run.ring.writeInterleaved now samples channels).2.globalWriteFrame -
          run.ring.globalWriteFrame = accepted := by
        rw [hwrote.head]
        omega
      refine h.of_same_pins ?_ hwrote.cfg hwrote.pins hwrote.active
      simp only [hframes, hwrote.cfg]
      exact hrep
  | recordDroppedFrames frames =>
      simp only [RingRun.step, SampleRing.recordDroppedFrames, SampleRing.addDroppedFrames]
      cases checkedAdd run.ring.droppedFrames frames with
      | none => exact h
      | some total =>
          refine h.of_same_pins ?_ rfl (fun _ => rfl) rfl
          have hsame : run.ring.SameWindow { run.ring with droppedFrames := total } :=
            ⟨rfl, rfl, rfl, rfl, rfl, fun _ => ⟨_, rfl⟩⟩
          exact hsame.represents h.represents
  | clear => exact h.of_same_pins h.represents.clear rfl (fun _ => rfl) rfl
  | reset =>
      simp only [RingRun.step]
      rcases h.represents.reset with ⟨e, heq⟩ | ⟨hok, hrep, hcfg, hzero, hzero', hpins, -⟩
      · rw [heq]
        exact h
      · generalize run.ring.reset = result at *
        obtain ⟨result, ring⟩ := result
        simp only at hok hrep hcfg hzero' hpins
        rw [hok]
        exact h.of_same_pins hrep hcfg hpins (by rw [hzero, hzero'])
  | snapshotRange range => exact h.keep_takeSnapshot range
  | snapshotLastFrames requestedFrames => exact h.keep_takeSnapshot _
  | selectSnapshot committedStart =>
      rw [RingRun.keep_selectSnapshot]
      exact h.keep_takeSnapshot _
  | dropSnapshot index =>
      simp only [RingRun.step]
      cases hentry : run.live[index]? with
      | none => exact h
      | some entry => exact h.drop hentry

theorem RingRun.Inv.steps (h : run.Inv) (ops : List (RingOp α)) : (run.steps ops).Inv :=
  List.foldlRecOn ops RingRun.step h fun _ h op _ => h.step op

end Step

theorem RingRun.cfg_step {run : RingRun α} (h : run.Inv) (op : RingOp α) :
    (run.step op).ring.cfg = run.ring.cfg := by
  have htake : ∀ range, (run.keep (run.ring.takeSnapshot range run.ring.globalWriteFrame
      (run.ring.oldestFrameAt run.ring.globalWriteFrame))).ring.cfg = run.ring.cfg := by
    intro range
    rcases h.represents.takeSnapshot range with ⟨-, e, heq⟩ | ⟨-, snapshot, ring', heq, hgranted⟩
    · rw [heq]
      rfl
    · rw [heq]
      exact hgranted.window.cfg
  cases op with
  | write now samples channels =>
      obtain ⟨_, -, -, hwrote, -⟩ := h.represents.writeInterleaved now samples channels
      exact hwrote.cfg
  | recordDroppedFrames frames =>
      simp only [RingRun.step, SampleRing.recordDroppedFrames, SampleRing.addDroppedFrames]
      cases checkedAdd run.ring.droppedFrames frames <;> rfl
  | clear => rfl
  | reset =>
      simp only [RingRun.step]
      rcases h.represents.reset with ⟨e, heq⟩ | ⟨hok, -, hcfg, -⟩
      · rw [heq]
      · generalize run.ring.reset = result at *
        obtain ⟨result, ring⟩ := result
        simp only at hok hcfg
        rw [hok]
        exact hcfg
  | snapshotRange range => exact htake range
  | snapshotLastFrames requestedFrames => exact htake _
  | selectSnapshot committedStart =>
      rw [RingRun.keep_selectSnapshot]
      exact htake _
  | dropSnapshot index =>
      simp only [RingRun.step]
      cases run.live[index]? <;> rfl

theorem RingRun.cfg_steps {run : RingRun α} (h : run.Inv) (ops : List (RingOp α)) :
    (run.steps ops).ring.cfg = run.ring.cfg := by
  induction ops generalizing run with
  | nil => rfl
  | cons op ops ih => exact (ih (h.step op)).trans (RingRun.cfg_step h op)

/-! ### The retained window over whole runs -/

/-- A frame that was readable and is not any more was cleared, reset away, or
stood in a slot that a newer chunk has taken over. -/
theorem RingRun.Inv.leaves_window {run : RingRun α} (h : run.Inv) (op : RingOp α) {frame : ℕ}
    (hlow : run.ring.oldestFrame ≤ frame) (hhigh : frame < run.ring.writeHeadFrame)
    (hgone : ¬((run.step op).ring.oldestFrame ≤ frame ∧
      frame < (run.step op).ring.writeHeadFrame)) :
    op = .clear ∨ op = .reset ∨
      frame / run.ring.cfg.chunkFrames + run.ring.cfg.chunkCount <
        (run.step op).ring.startedChunks := by
  have hsame : (run.step op).ring.globalWriteFrame = run.ring.globalWriteFrame →
      (run.step op).ring.clearAfterFrame = run.ring.clearAfterFrame → False := by
    intro hhead hclear
    have holdest : (run.step op).ring.oldestFrame = run.ring.oldestFrame := by
      have hcfg := RingRun.cfg_step h op
      simp only [SampleRing.oldestFrame, SampleRing.writeHeadFrame]
      rw [(h.step op).represents.oldestFrame_eq, h.represents.oldestFrame_eq,
        SampleRing.startedChunks, SampleRing.startedChunks, hhead, hclear, hcfg]
    refine hgone ⟨holdest ▸ hlow, ?_⟩
    rw [SampleRing.writeHeadFrame, hhead]
    exact hhigh
  have htake : ∀ range, run.step op = run.keep (run.ring.takeSnapshot range
      run.ring.globalWriteFrame (run.ring.oldestFrameAt run.ring.globalWriteFrame)) → False := by
    intro range hop
    rcases h.represents.takeSnapshot range with ⟨-, e, heq⟩ | ⟨-, snapshot, ring', heq, hgranted⟩
    · refine hsame ?_ ?_ <;> rw [hop, heq] <;> rfl
    · refine hsame ?_ ?_ <;> rw [hop, heq]
      · exact hgranted.window.globalWriteFrame
      · exact hgranted.window.clearAfterFrame
  cases op with
  | write now samples channels =>
      refine .inr (.inr ?_)
      obtain ⟨accepted, -, -, hwrote, -⟩ := h.represents.writeInterleaved now samples channels
      have hrep := (h.step (.write now samples channels)).represents
      have hstep : (run.step (.write now samples channels)).ring =
          (run.ring.writeInterleaved now samples channels).2 := rfl
      have hcf := h.represents.chunkFrames_pos
      simp only [SampleRing.oldestFrame, SampleRing.writeHeadFrame] at hlow hhigh hgone
      rw [hrep.oldestFrame_eq, hstep, hwrote.clear, hwrote.head, hwrote.cfg] at hgone
      rw [h.represents.oldestFrame_eq] at hlow
      have hfar : frame < ((run.step (.write now samples channels)).ring.startedChunks -
          run.ring.cfg.chunkCount) * run.ring.cfg.chunkFrames := by
        rw [hstep]
        omega
      exact Nat.add_lt_of_lt_sub ((Nat.div_lt_iff_lt_mul hcf).mpr hfar)
  | recordDroppedFrames frames =>
      refine (hsame ?_ ?_).elim <;>
      · simp only [RingRun.step, SampleRing.recordDroppedFrames, SampleRing.addDroppedFrames]
        cases checkedAdd run.ring.droppedFrames frames <;> rfl
  | clear => exact .inl rfl
  | reset => exact .inr (.inl rfl)
  | snapshotRange range => exact (htake range rfl).elim
  | snapshotLastFrames requestedFrames => exact (htake _ rfl).elim
  | selectSnapshot committedStart =>
      exact (htake _ (RingRun.keep_selectSnapshot committedStart)).elim
  | dropSnapshot index =>
      refine (hsame ?_ ?_).elim <;>
      · simp only [RingRun.step]
        cases run.live[index]? <;> rfl

/-- Every run of a ring shows exactly the most recent accepted frames. -/
theorem ring_refines_window {cfg : RingConfig} {zero : α} {ring₀ : SampleRing α}
    (hnew : SampleRing.new cfg zero = .ok ring₀) (ops : List (RingOp α)) :
    let run := (RingRun.start ring₀).steps ops
    let head := run.ring.writeHeadFrame
    let oldest := run.ring.oldestFrame
    run.accepted.length = head * cfg.channels ∧
    oldest = max run.ring.clearAfterFrame
      ((head ⌈/⌉ cfg.chunkFrames - cfg.chunkCount) * cfg.chunkFrames) ∧
    (∀ (range : Range) (destination : List α) (frames : ℕ),
      destination.length = frames * cfg.channels → range.start + frames ≤ u64Max →
      range.start ≤ range.stop → oldest ≤ range.start → range.stop ≤ head →
      run.ring.copyInterleavedRangeInto range destination =
        .ok (min (range.stop - range.start) frames,
          copyFromSlice destination 0 (slice run.accepted (range.start * cfg.channels)
            (min (range.stop - range.start) frames * cfg.channels)))) ∧
    (∀ (range : Range) (destination : List α),
      range.start + destination.length / cfg.channels ≤ u64Max →
      ((∃ e, run.ring.copyInterleavedRangeInto range destination = .error e) ↔
        ¬(range.start ≤ range.stop ∧ oldest ≤ range.start ∧ range.stop ≤ head) ∨
          destination.length % cfg.channels ≠ 0)) ∧
    (∀ (op : RingOp α) (frame : ℕ), oldest ≤ frame → frame < head →
      ¬((run.step op).ring.oldestFrame ≤ frame ∧ frame < (run.step op).ring.writeHeadFrame) →
      op = .clear ∨ op = .reset ∨
        frame / cfg.chunkFrames + cfg.chunkCount <
          (run.step op).ring.writeHeadFrame ⌈/⌉ cfg.chunkFrames) := by
  intro run head oldest
  have hstart := RingRun.start_inv hnew
  have hinv : run.Inv := hstart.steps ops
  have hcfg : run.ring.cfg = cfg := by
    rw [RingRun.cfg_steps hstart]
    obtain ⟨rfl, -⟩ := SampleRing.new_cfg hnew
    rfl
  have hrep := hinv.represents
  have hinside : ∀ (range : Range) (destination : List α) (frames : ℕ),
      destination.length = frames * cfg.channels → range.start + frames ≤ u64Max →
      range.start ≤ range.stop → oldest ≤ range.start → range.stop ≤ head →
      run.ring.copyInterleavedRangeInto range destination =
        .ok (min (range.stop - range.start) frames,
          copyFromSlice destination 0 (slice run.accepted (range.start * cfg.channels)
            (min (range.stop - range.start) frames * cfg.channels))) := by
    intro range destination frames hlen hlimit horder hlow hhigh
    rw [← hcfg] at hlen ⊢
    exact hrep.copy_inside range destination frames horder hlow hhigh hlen hlimit
  refine ⟨hcfg ▸ hrep.history_length, ?_, hinside, ?_, ?_⟩
  · have holdest := hrep.oldestFrame_eq
    rw [SampleRing.startedChunks, hcfg] at holdest
    exact holdest
  · intro range destination hlimit
    constructor
    · rintro ⟨e, he⟩
      by_contra hcontra
      push Not at hcontra
      obtain ⟨⟨horder, hlow, hhigh⟩, hwhole⟩ := hcontra
      have hlen := (Nat.div_mul_cancel (Nat.dvd_of_mod_eq_zero hwhole)).symm
      rw [hinside range destination _ hlen hlimit horder hlow hhigh] at he
      exact absurd he (by simp)
    · intro hout
      refine SampleRing.copy_outside ?_
      rw [hcfg]
      rcases hout with hwindow | hwhole
      · have : oldest = run.ring.oldestFrameAt run.ring.globalWriteFrame := rfl
        have : head = run.ring.globalWriteFrame := rfl
        omega
      · exact .inr (.inl hwhole)
  · intro op frame hlow hhigh hgone
    have hleaves := hinv.leaves_window op hlow hhigh hgone
    rw [SampleRing.startedChunks, RingRun.cfg_step hinv, hcfg] at hleaves
    exact hleaves

/-- Two slots of two frames: after five frames the first chunk is recycled. -/
def smallConfig : RingConfig where
  channels := 1
  sampleRate := 1
  format := .f32Le
  chunkFrames := 2
  chunkCount := 2
  maxActiveSnapshots := 1

theorem ring_refines_window_small :
    ∃ ring₀, SampleRing.new smallConfig (0 : ℕ) = .ok ring₀ ∧
      ((RingRun.start ring₀).steps [.write 0 [1, 2, 3, 4, 5] 1]).ring.copyInterleavedRangeInto
        ⟨2, 5⟩ [0, 0, 0, 0] = .ok (3, [3, 4, 5, 0]) := by
  refine ⟨_, rfl, ?_⟩
  have hcopy := (@ring_refines_window ℕ smallConfig 0 _ rfl
    [.write 0 [1, 2, 3, 4, 5] 1]).2.2.1 ⟨2, 5⟩ [0, 0, 0, 0] 4 rfl (by decide) (by decide)
    (by decide) (by decide)
  rw [hcopy]
  rfl

/-! ### Snapshot isolation -/

/-- Whatever happens next, a chunk that a live snapshot has pinned stays as it is. -/
theorem RingRun.Inv.pinned_step {run : RingRun α} (h : run.Inv) (op : RingOp α) {slot : ℕ}
    (hpinned : 0 < (run.ring.chunks slot).pinCount) (hactive : run.ring.activeSnapshots ≠ 0) :
    ∃ pins, (run.step op).ring.chunks slot = { run.ring.chunks slot with pinCount := pins } := by
  have htake : ∀ range, ∃ pins, (run.keep (run.ring.takeSnapshot range
      run.ring.globalWriteFrame
      (run.ring.oldestFrameAt run.ring.globalWriteFrame))).ring.chunks slot =
      { run.ring.chunks slot with pinCount := pins } := by
    intro range
    rcases h.represents.takeSnapshot range with ⟨-, e, heq⟩ | ⟨-, snapshot, ring', heq, hgranted⟩
    · rw [heq]
      exact ⟨_, rfl⟩
    · rw [heq]
      exact hgranted.window.chunks slot
  cases op with
  | write now samples channels =>
      obtain ⟨_, -, -, hwrote, -⟩ := h.represents.writeInterleaved now samples channels
      exact ⟨_, hwrote.pinned slot hpinned⟩
  | recordDroppedFrames frames =>
      simp only [RingRun.step, SampleRing.recordDroppedFrames, SampleRing.addDroppedFrames]
      cases checkedAdd run.ring.droppedFrames frames <;> exact ⟨_, rfl⟩
  | clear => exact ⟨_, rfl⟩
  | reset =>
      simp only [RingRun.step]
      rcases h.represents.reset with ⟨e, heq⟩ | ⟨-, -, -, hzero, -⟩
      · rw [heq]
        exact ⟨_, rfl⟩
      · exact absurd hzero hactive
  | snapshotRange range => exact htake range
  | snapshotLastFrames requestedFrames => exact htake _
  | selectSnapshot committedStart =>
      rw [RingRun.keep_selectSnapshot]
      exact htake _
  | dropSnapshot index =>
      simp only [RingRun.step]
      cases run.live[index]? with
      | none => exact ⟨_, rfl⟩
      | some entry => exact (run.ring.sameWindow_dropSnapshot entry.2).chunks slot

theorem RingRun.Inv.pinned_of_segment {run : RingRun α} (h : run.Inv) {entry : ℕ × Snapshot}
    (hentry : entry ∈ run.live) {segment : SnapshotSegment}
    (hsegment : segment ∈ entry.2.segments) :
    0 < (run.ring.chunks segment.slot).pinCount ∧ run.ring.activeSnapshots ≠ 0 := by
  constructor
  · have hpos : 0 < segmentPins entry.2.segments segment.slot :=
      List.countP_pos_iff.mpr ⟨segment, hsegment, by simp⟩
    have hle := List.le_sum_of_mem (List.mem_map_of_mem (l := run.live)
      (f := fun entry => segmentPins entry.2.segments segment.slot) hentry)
    rw [h.pins]
    exact hpos.trans_le hle
  · rw [h.active]
    refine (List.countP_pos_iff.mpr ⟨entry, hentry, ?_⟩).ne'
    by_contra hslot
    simp [h.empty entry hentry (by simpa using hslot)] at hsegment

/-- One step of isolation: a snapshot that is live before the step reads the
same samples after it. -/
theorem RingRun.Inv.reads_step {run : RingRun α} (h : run.Inv) (op : RingOp α)
    {entry : ℕ × Snapshot} (hentry : entry ∈ run.live) {frames : ℕ} {expected : List α}
    (hreads : run.ring.Reads entry.2.segments frames expected) :
    (run.step op).ring.Reads entry.2.segments frames expected :=
  hreads.congr (RingRun.cfg_step h op) fun _ hsegment =>
    have hpinned := h.pinned_of_segment hentry hsegment
    h.pinned_step op hpinned.1 hpinned.2

theorem RingRun.nextId_le_keep (run : RingRun α) (taken : Result Snapshot × SampleRing α) :
    run.nextId ≤ (run.keep taken).nextId := by
  obtain ⟨_ | _, _⟩ := taken
  · exact le_rfl
  · exact Nat.le_succ _

theorem RingRun.live_keep {run : RingRun α} {taken : Result Snapshot × SampleRing α}
    {entry : ℕ × Snapshot} (hold : entry.1 < run.nextId)
    (hentry : entry ∈ (run.keep taken).live) : entry ∈ run.live := by
  obtain ⟨_ | snapshot, ring⟩ := taken
  · exact hentry
  · rcases List.mem_cons.mp hentry with rfl | hmem
    · exact absurd hold (lt_irrefl _)
    · exact hmem

/-- An identity is given out once: what is live after a step under an old
identity was live before it. -/
theorem RingRun.live_step {run : RingRun α} (op : RingOp α) {entry : ℕ × Snapshot}
    (hold : entry.1 < run.nextId) (hentry : entry ∈ (run.step op).live) :
    entry ∈ run.live := by
  cases op with
  | write now samples channels => exact hentry
  | recordDroppedFrames frames => exact hentry
  | clear => exact hentry
  | reset =>
      simp only [RingRun.step] at hentry
      split at hentry <;> exact hentry
  | snapshotRange range => exact RingRun.live_keep hold hentry
  | snapshotLastFrames requestedFrames => exact RingRun.live_keep hold hentry
  | selectSnapshot committedStart =>
      rw [RingRun.keep_selectSnapshot] at hentry
      exact RingRun.live_keep hold hentry
  | dropSnapshot index =>
      simp only [RingRun.step] at hentry
      split at hentry
      · exact hentry
      · exact List.mem_of_mem_eraseIdx hentry

theorem RingRun.nextId_le_step (run : RingRun α) (op : RingOp α) :
    run.nextId ≤ (run.step op).nextId := by
  cases op with
  | write now samples channels => exact le_rfl
  | recordDroppedFrames frames => exact le_rfl
  | clear => exact le_rfl
  | reset =>
      simp only [RingRun.step]
      split <;> exact le_rfl
  | snapshotRange range => exact run.nextId_le_keep _
  | snapshotLastFrames requestedFrames => exact run.nextId_le_keep _
  | selectSnapshot committedStart =>
      rw [RingRun.keep_selectSnapshot]
      exact run.nextId_le_keep _
  | dropSnapshot index =>
      simp only [RingRun.step]
      split <;> exact le_rfl

/-- Isolation over a whole run: a snapshot that is still live reads what it
read when it was taken. -/
theorem RingRun.Inv.reads_steps {run : RingRun α} (h : run.Inv) (ops : List (RingOp α))
    {entry : ℕ × Snapshot} (hold : entry.1 < run.nextId)
    (hlive : entry ∈ (run.steps ops).live) {frames : ℕ} {expected : List α}
    (hreads : entry ∈ run.live → run.ring.Reads entry.2.segments frames expected) :
    (run.steps ops).ring.Reads entry.2.segments frames expected := by
  induction ops generalizing run with
  | nil => exact hreads hlive
  | cons op ops ih =>
      refine ih (h.step op) (hold.trans_le (run.nextId_le_step op)) hlive fun hstep => ?_
      have hbefore := RingRun.live_step op hold hstep
      exact h.reads_step op hbefore (hreads hbefore)

theorem segmentPins_of_nodup {segments : List SnapshotSegment}
    (hnodup : (segments.map SnapshotSegment.slot).Nodup) (slot : ℕ) :
    segmentPins segments slot = if slot ∈ segments.map SnapshotSegment.slot then 1 else 0 := by
  have hcount : segmentPins segments slot = (segments.map SnapshotSegment.slot).count slot := by
    rw [segmentPins, List.count, List.countP_map]
    rfl
  rw [hcount]
  split
  · exact List.count_eq_one_of_mem hnodup ‹_›
  · exact List.count_eq_zero_of_not_mem ‹_›

theorem RingRun.Inv.pins_eq_covering {run : RingRun α} (h : run.Inv) (slot : ℕ) :
    (run.ring.chunks slot).pinCount = (run.covering slot).length := by
  rw [h.pins, RingRun.pins, RingRun.covering, ← List.countP_eq_length_filter]
  have hnodup := h.nodup
  generalize run.live = live at hnodup ⊢
  induction live with
  | nil => rfl
  | cons entry live ih =>
      rw [List.map_cons, List.sum_cons, List.countP_cons,
        ih fun other hother => hnodup other (List.mem_cons_of_mem _ hother),
        segmentPins_of_nodup (hnodup entry List.mem_cons_self)]
      simp only [decide_eq_true_eq]
      omega

/-- No pin count and no snapshot counter ever exceeds the configured number
of snapshots, so neither can wrap. -/
theorem RingRun.Inv.pinCount_le {run : RingRun α} (h : run.Inv) (slot : ℕ) :
    (run.ring.chunks slot).pinCount ≤ run.ring.cfg.maxActiveSnapshots := by
  refine le_trans ?_ h.limit
  rw [h.pins_eq_covering, h.active, RingRun.covering, ← List.countP_eq_length_filter]
  refine List.countP_mono_left fun entry hentry hcovers => ?_
  by_contra hslot
  simp [h.empty entry hentry (by simpa using hslot)] at hcovers

/-- Snapshot isolation over every run. -/
theorem snapshot_isolation {cfg : RingConfig} {zero : α} {ring₀ : SampleRing α}
    (hnew : SampleRing.new cfg zero = .ok ring₀) (ops : List (RingOp α)) :
    let run := (RingRun.start ring₀).steps ops
    (∀ range : Range, range.start ≤ range.stop → run.ring.oldestFrame ≤ range.start →
      range.stop ≤ run.ring.writeHeadFrame →
      run.ring.activeSnapshots < cfg.maxActiveSnapshots →
      ∃ snapshot ring samples,
        run.ring.snapshotRange range = (.ok snapshot, ring) ∧
        run.ring.copyInterleavedRangeInto range
            (List.replicate ((range.stop - range.start) * cfg.channels) zero) =
          .ok (range.stop - range.start, samples) ∧
        ∀ (later : List (RingOp α)) (channel : ℕ), channel < cfg.channels →
          (run.nextId, snapshot) ∈ ((run.step (.snapshotRange range)).steps later).live →
          ((run.step (.snapshotRange range)).steps later).ring.readChannelSamples snapshot
              channel =
            .ok (deinterleave cfg.channels channel (range.stop - range.start) samples)) ∧
    (∀ slot, (run.ring.chunks slot).pinCount = (run.covering slot).length) ∧
    (run.live = [] →
      (∀ slot, (run.ring.chunks slot).pinCount = 0) ∧ run.ring.activeSnapshots = 0) := by
  intro run
  have hstart := RingRun.start_inv hnew
  have hinv : run.Inv := hstart.steps ops
  have hcfg : run.ring.cfg = cfg := by
    rw [RingRun.cfg_steps hstart]
    obtain ⟨rfl, -⟩ := SampleRing.new_cfg hnew
    rfl
  refine ⟨fun range horder hlow hhigh hfree => ?_, hinv.pins_eq_covering, fun hnone => ?_⟩
  · have hgrants : run.ring.Grants range := ⟨horder, hlow, hhigh, .inr (by rw [hcfg]; exact hfree)⟩
    rcases hinv.represents.takeSnapshot range with
      ⟨hrefused, -⟩ | ⟨-, snapshot, ring, heq, hgranted⟩
    · exact absurd hgrants hrefused
    have hstep : run.step (.snapshotRange range) = run.keep (.ok snapshot, ring) := by
      rw [← heq]
      rfl
    -- the whole range fits the destination, so the copy is the accepted samples
    have hcopy := hinv.represents.copy_inside range
      (List.replicate ((range.stop - range.start) * cfg.channels) zero)
      (range.stop - range.start) horder hlow hhigh (by simp [hcfg]) (by
        have := hinv.represents.head_le
        have : range.stop ≤ run.ring.globalWriteFrame := hhigh
        omega)
    have hlen : (slice run.accepted (range.start * cfg.channels)
        ((range.stop - range.start) * cfg.channels)).length =
        (range.stop - range.start) * cfg.channels := by
      refine length_slice_of_le ?_
      rw [hinv.represents.history_length, hcfg, ← Nat.add_mul]
      refine Nat.mul_le_mul_right _ ?_
      have : range.stop ≤ run.ring.globalWriteFrame := hhigh
      omega
    refine ⟨snapshot, ring, slice run.accepted (range.start * cfg.channels)
      ((range.stop - range.start) * cfg.channels), heq, ?_, fun later channel hchannel hlive => ?_⟩
    · rw [hcopy, hcfg, min_self]
      simp [copyFromSlice, hlen]
    · rw [hstep] at hlive ⊢
      have hinv' := hinv.keep hgranted
      have hold : (run.nextId, snapshot).1 < (run.keep (.ok snapshot, ring)).nextId :=
        Nat.lt_succ_self _
      have hreads := hinv'.reads_steps later hold hlive fun _ => hgranted.reads
      have hcfg' : ((run.keep (.ok snapshot, ring)).steps later).ring.cfg = cfg := by
        rw [RingRun.cfg_steps hinv']
        exact hgranted.window.cfg.trans hcfg
      have hbound : channel < ((run.keep (.ok snapshot, ring)).steps later).ring.cfg.channels :=
        hcfg'.symm ▸ hchannel
      have hread := hreads.readSegments hbound
      rw [hcfg', hcfg] at hread
      rw [SampleRing.readChannelSamples, hgranted.channels, hcfg, if_neg (by omega)]
      exact hread
  · refine ⟨fun slot => ?_, ?_⟩
    · rw [hinv.pins, RingRun.pins, hnone]
      rfl
    · rw [hinv.active, hnone]
      rfl

/-- The later write runs into the pinned chunk and the clear moves the window
past the snapshot; the snapshot still reads the frames it was taken over. -/
theorem snapshot_isolation_small :
    ∃ ring₀ snapshot, SampleRing.new smallConfig (0 : ℕ) = .ok ring₀ ∧
      ((RingRun.start ring₀).steps [.write 0 [1, 2, 3, 4] 1, .snapshotRange ⟨1, 3⟩,
        .write 1 [5, 6, 7] 1, .clear]).ring.readChannelSamples snapshot 0 = .ok [2, 3] := by
  obtain ⟨snapshot, ring, samples, htaken, hcopy, hreads⟩ :=
    (@snapshot_isolation ℕ smallConfig 0 _ rfl [.write 0 [1, 2, 3, 4] 1]).1 ⟨1, 3⟩
      (by decide) (by decide) (by decide) (by decide)
  obtain ⟨rfl, rfl⟩ : snapshot = _ ∧ ring = _ :=
    ⟨(Except.ok.inj (congrArg Prod.fst htaken)).symm, (congrArg Prod.snd htaken).symm⟩
  obtain rfl : samples = [2, 3] := (congrArg Prod.snd (Except.ok.inj hcopy)).symm
  refine ⟨_, _, rfl, hreads [.write 1 [5, 6, 7] 1, .clear] 0 (by decide) ?_⟩
  exact List.mem_cons_self

end Lamb.Ring
