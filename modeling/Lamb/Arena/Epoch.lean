import Lamb.Arena.Worker

/-!
What every worker step keeps. The active epoch always ends at the absolute
head, the frozen epoch is never the active one, and no ring of the arena is
ever pinned, so a block is written whole or not at all. On these rest the two
replies a coordinator counts with: a freeze and a clear.
-/

namespace Lamb.Arena

open Lamb.Ring

variable {α : Type}

/-- A ring of the arena: nobody takes snapshots of it. -/
structure EpochInv (cfg : ArenaConfig) (ring : SampleRing α) : Prop where
  cfg_eq : ring.cfg = cfg.ring
  represents : ∃ history, ring.Represents history
  pins : ∀ i, (ring.chunks i).pinCount = 0
  snapshots : ring.activeSnapshots = 0

structure WorkerState.Inv (worker : WorkerState α) : Prop where
  epochs : ∀ i, EpochInv worker.cfg (worker.epochs i)
  head : worker.bases worker.active + (worker.epochs worker.active).globalWriteFrame =
    worker.absoluteHead
  head_le : worker.absoluteHead ≤ u64Max
  frozen : ∀ record, worker.frozen = some record → record.index ≠ worker.active

theorem EpochInv.oldest_le_head {cfg : ArenaConfig} {ring : SampleRing α}
    (h : EpochInv cfg ring) : ring.oldestFrame ≤ ring.writeHeadFrame := by
  obtain ⟨history, hrep⟩ := h.represents
  exact hrep.oldest_le_head

theorem EpochInv.reset {cfg : ArenaConfig} {ring : SampleRing α} (h : EpochInv cfg ring) :
    ring.reset.1 = .ok () ∧ EpochInv cfg ring.reset.2 ∧ ring.reset.2.Represents [] := by
  obtain ⟨history, hrep⟩ := h.represents
  have hok := hrep.reset_unpinned h.pins h.snapshots
  rcases hrep.reset with ⟨e, herror⟩ | ⟨-, hrep', hcfg, -, hactive, hpins, -⟩
  · rw [herror] at hok
    cases hok
  · exact ⟨hok, ⟨hcfg.trans h.cfg_eq, ⟨[], hrep'⟩, fun i => (hpins i).trans (h.pins i), hactive⟩,
      hrep'⟩

theorem head_of_represents_nil {ring : SampleRing α} (h : ring.Represents []) :
    ring.globalWriteFrame = 0 := by
  have hlength := h.history_length
  simp only [List.length_nil] at hlength
  exact (Nat.mul_eq_zero.mp hlength.symm).resolve_right h.channels_pos.ne'

theorem EpochInv.clear {cfg : ArenaConfig} {ring : SampleRing α} (h : EpochInv cfg ring) :
    EpochInv cfg ring.clear := by
  obtain ⟨history, hrep⟩ := h.represents
  exact ⟨h.cfg_eq, ⟨history, hrep.clear⟩, h.pins, h.snapshots⟩

theorem WorkerState.Inv.new {cfg : ArenaConfig} {zero : α} {worker : WorkerState α}
    (hnew : WorkerState.new cfg zero = .ok worker) : worker.Inv := by
  unfold WorkerState.new at hnew
  cases hring : SampleRing.new cfg.ring zero with
  | error e =>
      rw [hring] at hnew
      cases hnew
  | ok ring =>
      rw [hring] at hnew
      obtain rfl := Except.ok.inj hnew
      have hrep := SampleRing.new_represents hring
      obtain ⟨rfl, -⟩ := SampleRing.new_cfg hring
      refine ⟨fun _ => ⟨rfl, ⟨[], hrep⟩, fun _ => rfl, rfl⟩, rfl, Nat.zero_le _, ?_⟩
      rintro _ ⟨⟩

/-- A block of whole frames no longer than a chunk is written whole or not at
all. -/
theorem EpochInv.write {cfg : ArenaConfig} {ring : SampleRing α} (h : EpochInv cfg ring)
    (now : ℕ) {samples : List α}
    (hblock : samples.length / cfg.ring.channels ≤ cfg.slotFrames)
    (hlimit : ring.globalWriteFrame + samples.length / cfg.ring.channels ≤ u64Max) :
    (∃ e, ring.writeInterleaved now samples cfg.ring.channels = (.error e, ring)) ∨
    (∃ ring', ring.writeInterleaved now samples cfg.ring.channels = (.ok (), ring') ∧
      EpochInv cfg ring' ∧
      ring'.globalWriteFrame =
        ring.globalWriteFrame + samples.length / cfg.ring.channels ∧
      (samples.length % cfg.ring.channels = 0 →
        ∀ history, ring.Represents history → ring'.Represents (history ++ samples))) := by
  obtain ⟨history, hrep⟩ := h.represents
  have hchunk := hblock.trans cfg.slotFrames_le
  rw [← h.cfg_eq] at hchunk hlimit ⊢
  rcases hrep.writeInterleaved_unpinned h.pins now hchunk hlimit with herror | ⟨hok, hhead⟩
  · exact .inl herror
  · obtain ⟨accepted, -, hrep', hwrote, -⟩ := hrep.writeInterleaved now samples ring.cfg.channels
    refine .inr ⟨_, Prod.ext hok rfl, ⟨?_, ⟨_, hrep'⟩, fun i => ?_, ?_⟩, hhead, ?_⟩
    · exact hwrote.cfg.trans h.cfg_eq
    · exact (hwrote.pins i).trans (h.pins i)
    · exact hwrote.active.trans h.snapshots
    · intro hwhole history hhistory
      obtain ⟨accepted, -, hrep', hwrote, -⟩ :=
        hhistory.writeInterleaved now samples ring.cfg.channels
      have hall : accepted = samples.length / ring.cfg.channels := by
        have := hwrote.head
        omega
      rw [hall, Nat.div_mul_cancel (Nat.dvd_of_mod_eq_zero hwhole), List.take_length] at hrep'
      exact hrep'

/-! ### Monotone counters -/

/-- The counters the coordinator compares only grow. -/
def DropCounters.Le (queue queue' : DropCounters) : Prop :=
  queue.cumulativeDroppedFrames ≤ queue'.cumulativeDroppedFrames

theorem DropCounters.le_addCumulativeDroppedFrames (queue : DropCounters) (frames : ℕ) :
    queue.Le (queue.addCumulativeDroppedFrames frames).2 := by
  unfold DropCounters.addCumulativeDroppedFrames DropCounters.Le
  split
  · exact le_rfl
  · cases hadd : checkedAdd queue.cumulativeDroppedFrames frames with
    | none => exact le_rfl
    | some total =>
        obtain ⟨rfl, -⟩ := checkedAdd_eq_some.mp hadd
        exact Nat.le_add_right _ _

theorem DropCounters.le_addIngressDroppedFrames (queue : DropCounters) (frames : ℕ) :
    queue.Le (queue.addIngressDroppedFrames frames).2 := by
  unfold DropCounters.addIngressDroppedFrames
  split <;> exact Nat.le_refl _

theorem DropCounters.le_addDroppedFrames (queue : DropCounters) (frames : ℕ) :
    queue.Le (queue.addDroppedFrames frames).2 := by
  have hle := queue.le_addCumulativeDroppedFrames frames
  unfold DropCounters.addDroppedFrames
  generalize queue.addCumulativeDroppedFrames frames = added at hle
  obtain ⟨_ | _, queue'⟩ := added
  · exact hle
  · exact Nat.le_trans hle (queue'.le_addIngressDroppedFrames frames)

/-! ### Consuming -/

section Consume

variable {worker : WorkerState α}

/-- What no worker step changes or lowers. -/
structure WorkerState.Advanced (worker worker' : WorkerState α) : Prop where
  cfg : worker'.cfg = worker.cfg
  head : worker.absoluteHead ≤ worker'.absoluteHead

theorem WorkerState.Advanced.refl (worker : WorkerState α) : worker.Advanced worker :=
  ⟨rfl, le_rfl⟩

theorem WorkerState.Advanced.trans {worker worker' worker'' : WorkerState α}
    (h : worker.Advanced worker') (h' : worker'.Advanced worker'') : worker.Advanced worker'' :=
  ⟨h'.cfg.trans h.cfg, h.head.trans h'.head⟩

theorem WorkerState.dropWorkerFrames_eq (worker : WorkerState α) (queue : DropCounters)
    (frames : ℕ) :
    ∃ dropped fault, (worker.dropWorkerFrames queue frames).1 =
      { worker with workerDroppedFrames := dropped, workerFault := fault } := by
  unfold WorkerState.dropWorkerFrames
  split
  · exact ⟨_, _, rfl⟩
  · split <;> exact ⟨_, _, rfl⟩

theorem WorkerState.le_dropWorkerFrames (worker : WorkerState α) (queue : DropCounters)
    (frames : ℕ) : queue.Le (worker.dropWorkerFrames queue frames).2 := by
  have hle := queue.le_addCumulativeDroppedFrames frames
  unfold WorkerState.dropWorkerFrames
  generalize queue.addCumulativeDroppedFrames frames = added at hle
  obtain ⟨_ | _, queue'⟩ := added
  · exact hle
  · simp only
    split <;> exact hle

theorem WorkerState.le_consumeSamples (worker : WorkerState α) (queue : DropCounters) (now : ℕ)
    (samples : List α) : queue.Le (worker.consumeSamples queue now samples).2 := by
  simp only [WorkerState.consumeSamples]
  split
  · exact queue.le_addDroppedFrames _
  split
  · split
    · exact WorkerState.le_dropWorkerFrames _ _ _
    · exact Nat.le_refl _
  · exact worker.le_dropWorkerFrames _ _

/-- Everything a consumed block can do: it is dropped and counted, or written
whole to the active epoch. -/
theorem WorkerState.Inv.consumeSamples_cases (h : worker.Inv) (queue : DropCounters) (now : ℕ)
    {samples : List α}
    (hblock : samples.length / worker.cfg.ring.channels ≤ worker.cfg.slotFrames) :
    (∃ dropped fault, (worker.consumeSamples queue now samples).1 =
      { worker with workerDroppedFrames := dropped, workerFault := fault }) ∨
    (∃ ring, EpochInv worker.cfg ring ∧
      ring.globalWriteFrame = (worker.epochs worker.active).globalWriteFrame +
        samples.length / worker.cfg.ring.channels ∧
      worker.absoluteHead + samples.length / worker.cfg.ring.channels ≤ u64Max ∧
      (samples.length % worker.cfg.ring.channels = 0 → ∀ history,
        (worker.epochs worker.active).Represents history → ring.Represents (history ++ samples)) ∧
      worker.consumeSamples queue now samples =
        ({ worker with
            epochs := Function.update worker.epochs worker.active ring
            absoluteHead := worker.absoluteHead + samples.length / worker.cfg.ring.channels
            workerWrittenFrames :=
              worker.workerWrittenFrames + samples.length / worker.cfg.ring.channels },
          queue)) := by
  simp only [WorkerState.consumeSamples]
  split
  · exact .inl ⟨_, _, rfl⟩
  split
  · rename_i nextAbsolute nextWritten habsolute hwritten
    obtain ⟨rfl, hlimit⟩ := checkedAdd_eq_some.mp habsolute
    obtain ⟨rfl, -⟩ := checkedAdd_eq_some.mp hwritten
    have hhead := h.head
    rcases (h.epochs worker.active).write now hblock (by omega) with
      ⟨e, herror⟩ | ⟨ring, hok, hring, hwrote, hhistory⟩
    · rw [herror]
      simp only [Function.update_eq_self]
      exact .inl (worker.dropWorkerFrames_eq queue _)
    · rw [hok]
      exact .inr ⟨ring, hring, hwrote, hlimit, hhistory, rfl⟩
  · exact .inl (worker.dropWorkerFrames_eq queue _)

theorem WorkerState.Inv.consumeSamples (h : worker.Inv) (queue : DropCounters) (now : ℕ)
    {samples : List α}
    (hblock : samples.length / worker.cfg.ring.channels ≤ worker.cfg.slotFrames) :
    (worker.consumeSamples queue now samples).1.Inv ∧
      worker.Advanced (worker.consumeSamples queue now samples).1 := by
  rcases h.consumeSamples_cases queue now hblock with
    ⟨dropped, fault, heq⟩ | ⟨ring, hring, hwrote, hlimit, -, heq⟩
  · rw [heq]
    exact ⟨⟨h.epochs, h.head, h.head_le, h.frozen⟩, rfl, le_rfl⟩
  · rw [heq]
    refine ⟨⟨fun i => ?_, ?_, hlimit, h.frozen⟩, rfl, Nat.le_add_right _ _⟩
    · rcases eq_or_ne i worker.active with rfl | hother
      · simp only [Function.update_self]
        exact hring
      · simp only [Function.update_of_ne hother]
        exact h.epochs i
    · have hhead := h.head
      simp only [Function.update_self, hwrote]
      omega

end Consume

/-! ### Commands -/

section Commands

variable {worker : WorkerState α}

/-- Both ends of the active range are below the absolute head, so neither
addition can overflow. -/
theorem WorkerState.Inv.activeAbsoluteRange (h : worker.Inv) :
    worker.activeAbsoluteRange = .ok
      ⟨worker.bases worker.active + (worker.epochs worker.active).oldestFrame,
        worker.absoluteHead⟩ := by
  have holdest := (h.epochs worker.active).oldest_le_head
  have hhead := h.head
  have hle := h.head_le
  have hwrite : (worker.epochs worker.active).writeHeadFrame =
      (worker.epochs worker.active).globalWriteFrame := rfl
  simp only [WorkerState.activeAbsoluteRange]
  rw [checkedAdd_of_le (by omega), checkedAdd_of_le (by omega)]
  simp only [hwrite, hhead]

/-- The worker after `index` was retired: its ring is empty, and what it had
counted stands in the retired counters. -/
def WorkerState.retired (worker : WorkerState α) (index : Fin 2) (ring : SampleRing α)
    (droppedFrames : ℕ) (lastOverrun : Option ℕ) : WorkerState α :=
  { worker with
    epochs := Function.update worker.epochs index ring
    retiredDroppedFrames := droppedFrames
    retiredLastOverrun := lastOverrun }

/-- The worker after it went on to the emptied ring `index`. -/
def WorkerState.switched (worker : WorkerState α) (index : Fin 2) : WorkerState α :=
  { worker with
    bases := Function.update worker.bases index worker.absoluteHead
    active := index }

theorem WorkerState.Inv.retireAndReset (h : worker.Inv) (index : Fin 2) :
    (∃ e, worker.retireAndReset index = (.error e, worker)) ∨
    (∃ ring droppedFrames lastOverrun, EpochInv worker.cfg ring ∧ ring.Represents [] ∧
      worker.retireAndReset index =
        (.ok (), worker.retired index ring droppedFrames lastOverrun)) := by
  simp only [WorkerState.retireAndReset]
  cases checkedAdd worker.retiredDroppedFrames (worker.epochs index).status.droppedFrames with
  | none => exact .inl ⟨_, rfl⟩
  | some retired =>
      obtain ⟨hok, hring, hempty⟩ := (h.epochs index).reset
      generalize (worker.epochs index).reset = result at hok hring hempty
      obtain ⟨result, ring⟩ := result
      simp only at hok hring hempty
      subst hok
      exact .inr ⟨ring, _, _, hring, hempty, rfl⟩

theorem WorkerState.Inv.retired (h : worker.Inv) {index : Fin 2} (hindex : index ≠ worker.active)
    {ring : SampleRing α} (hring : EpochInv worker.cfg ring) (droppedFrames : ℕ)
    (lastOverrun : Option ℕ) : (worker.retired index ring droppedFrames lastOverrun).Inv := by
  refine ⟨fun i => ?_, ?_, h.head_le, h.frozen⟩
  · rcases eq_or_ne i index with rfl | hother
    · simp only [WorkerState.retired, Function.update_self]
      exact hring
    · simp only [WorkerState.retired, Function.update_of_ne hother]
      exact h.epochs i
  · simp only [WorkerState.retired, Function.update_of_ne hindex.symm]
    exact h.head

theorem one_sub_ne (i : Fin 2) : 1 - i ≠ i := by
  revert i
  decide

/-- What a freeze of the active epoch from `start` grants. -/
def WorkerState.descriptor (worker : WorkerState α) (start : ℕ) : FrozenDescriptor where
  index := worker.active
  generation := worker.nextGeneration + 1
  base := worker.bases worker.active
  absoluteRange := ⟨start, worker.absoluteHead⟩
  localRange := ⟨start - worker.bases worker.active,
    (worker.epochs worker.active).writeHeadFrame⟩
  channels := worker.cfg.ring.channels
  sampleRate := worker.cfg.ring.sampleRate
  format := worker.cfg.ring.format

/-- Everything a freeze can do: fail and change nothing; switch to the other
epoch and grant nothing, because the active one holds nothing from the
requested start on; or switch and grant everything from there. -/
theorem WorkerState.Inv.freeze_cases (h : worker.Inv) (committedStart : Option ℕ) :
    (∃ e, worker.freeze committedStart = (.error e, worker)) ∨
    (∃ ring droppedFrames lastOverrun, worker.frozen = none ∧ EpochInv worker.cfg ring ∧
      ring.Represents [] ∧
      let oldest := worker.bases worker.active + (worker.epochs worker.active).oldestFrame
      let start := max (committedStart.getD oldest) oldest
      let next := (worker.retired (1 - worker.active) ring droppedFrames lastOverrun).switched
        (1 - worker.active)
      (worker.absoluteHead ≤ start ∧ worker.freeze committedStart = (.ok none, next)) ∨
      (start < worker.absoluteHead ∧ worker.freeze committedStart =
        (.ok (some (worker.descriptor start)),
          { next with
            nextGeneration := worker.nextGeneration + 1
            frozen := some ⟨worker.active, worker.nextGeneration + 1⟩ }))) := by
  have holdest := (h.epochs worker.active).oldest_le_head
  have hhead := h.head
  have hle := h.head_le
  have hwrite : (worker.epochs worker.active).writeHeadFrame =
      (worker.epochs worker.active).globalWriteFrame := rfl
  unfold WorkerState.freeze
  split
  · exact .inl ⟨_, rfl⟩
  rename_i hnone
  simp only
  rw [checkedAdd_of_le (by omega), checkedAdd_of_le (by omega)]
  simp only [hwrite, hhead]
  set oldest := worker.bases worker.active + (worker.epochs worker.active).oldestFrame
  rcases h.retireAndReset (1 - worker.active) with
    ⟨e, herror⟩ | ⟨ring, droppedFrames, lastOverrun, hring, hempty, hok⟩
  · left
    split
    · exact ⟨_, rfl⟩
    · rw [herror]
      exact ⟨e, rfl⟩
  simp only [WorkerState.freezeGeneration]
  split_ifs with hrange
  · cases hgeneration : checkedAdd worker.nextGeneration 1 with
    | none => exact .inl ⟨_, rfl⟩
    | some generation =>
        obtain ⟨rfl, -⟩ := checkedAdd_eq_some.mp hgeneration
        rw [hok]
        exact .inr ⟨ring, droppedFrames, lastOverrun, Option.not_isSome_iff_eq_none.mp hnone,
          hring, hempty, .inr ⟨hrange, rfl⟩⟩
  · rw [hok]
    exact .inr ⟨ring, droppedFrames, lastOverrun, Option.not_isSome_iff_eq_none.mp hnone,
      hring, hempty, .inl ⟨not_lt.mp hrange, rfl⟩⟩

/-- Switching to an empty epoch keeps the invariant. -/
theorem WorkerState.Inv.switched (h : worker.Inv) (hnone : worker.frozen = none)
    {ring : SampleRing α} (hring : EpochInv worker.cfg ring) (hempty : ring.Represents [])
    (droppedFrames : ℕ) (lastOverrun : Option ℕ) :
    ((worker.retired (1 - worker.active) ring droppedFrames lastOverrun).switched
      (1 - worker.active)).Inv := by
  have hretired := h.retired (one_sub_ne worker.active) hring droppedFrames lastOverrun
  refine ⟨hretired.epochs, ?_, h.head_le, fun record hrecord => ?_⟩
  · simp only [WorkerState.switched, WorkerState.retired, Function.update_self,
      head_of_represents_nil hempty, Nat.add_zero]
  · exact absurd (hnone.symm.trans hrecord) (by simp)

/-- A freeze fails and changes nothing, or switches the epochs: it grants
nothing, or everything from the requested start (or the oldest frame) to the
absolute head. -/
theorem WorkerState.Inv.freeze (h : worker.Inv) (committedStart : Option ℕ) :
    (∃ e, worker.freeze committedStart = (.error e, worker)) ∨
    (∃ descriptor worker', worker.freeze committedStart = (.ok descriptor, worker') ∧
      worker'.Inv ∧ worker'.cfg = worker.cfg ∧ worker'.absoluteHead = worker.absoluteHead ∧
      ∀ frozen, descriptor = some frozen →
        committedStart.getD 0 ≤ frozen.absoluteRange.start ∧
        frozen.absoluteRange.start < frozen.absoluteRange.stop ∧
        frozen.absoluteRange.stop = worker.absoluteHead) := by
  refine (h.freeze_cases committedStart).imp_right ?_
  rintro ⟨ring, droppedFrames, lastOverrun, hnone, hring, hempty, hcases⟩
  have hswitched := h.switched hnone hring hempty droppedFrames lastOverrun
  rcases hcases with ⟨-, heq⟩ | ⟨hrange, heq⟩
  · refine ⟨none, _, heq, hswitched, rfl, rfl, ?_⟩
    rintro frozen ⟨⟩
  · refine ⟨some _, _, heq, ?_, rfl, rfl, fun frozen hfrozen => ?_⟩
    · refine ⟨hswitched.epochs, hswitched.head, hswitched.head_le, ?_⟩
      intro record hrecord
      obtain rfl := Option.some.inj hrecord
      exact (one_sub_ne worker.active).symm
    · obtain rfl := Option.some.inj hfrozen
      refine ⟨?_, hrange, rfl⟩
      cases committedStart with
      | none => exact Nat.zero_le _
      | some start => exact le_max_left _ _

/-- Everything a release can do. -/
theorem WorkerState.Inv.release_cases (h : worker.Inv) (index : Fin 2) (generation : ℕ) :
    (∃ e, worker.release index generation = (.error e, worker)) ∨
    (∃ ring droppedFrames lastOverrun, worker.frozen = some ⟨index, generation⟩ ∧
      EpochInv worker.cfg ring ∧ worker.release index generation =
        (.ok (), { worker.retired index ring droppedFrames lastOverrun with frozen := none })) := by
  unfold WorkerState.release
  cases hfrozen : worker.frozen with
  | none => exact .inl ⟨_, rfl⟩
  | some frozen =>
      simp only
      split_ifs with hmatch
      · exact .inl ⟨_, rfl⟩
      · push Not at hmatch
        obtain ⟨rfl, rfl⟩ := hmatch
        rcases h.retireAndReset frozen.index with
          ⟨e, herror⟩ | ⟨ring, droppedFrames, lastOverrun, hring, -, hok⟩
        · rw [herror]
          exact .inl ⟨e, rfl⟩
        · rw [hok]
          exact .inr ⟨ring, droppedFrames, lastOverrun, rfl, hring, rfl⟩

theorem WorkerState.Inv.release (h : worker.Inv) (index : Fin 2) (generation : ℕ) :
    ∃ result worker', worker.release index generation = (result, worker') ∧ worker'.Inv ∧
      worker'.cfg = worker.cfg ∧ worker'.absoluteHead = worker.absoluteHead := by
  rcases h.release_cases index generation with
    ⟨e, herror⟩ | ⟨ring, droppedFrames, lastOverrun, hfrozen, hring, hok⟩
  · exact ⟨_, _, herror, h, rfl, rfl⟩
  · have hinv := h.retired (h.frozen _ hfrozen) hring droppedFrames lastOverrun
    refine ⟨_, _, hok, ⟨hinv.epochs, hinv.head, hinv.head_le, ?_⟩, rfl, rfl⟩
    rintro record ⟨⟩

/-- What the report of a clear says about the accounting it was asked with. -/
structure CaptureClearReport.Reports (report : CaptureClearReport)
    (accounting : CaptureClearAccounting) : Prop where
  arenaRuntimeId : report.arenaRuntimeId = accounting.arenaRuntimeId
  coordinatorId : report.coordinatorId = accounting.coordinatorId
  clearId : report.clearId = accounting.clearId
  expected : report.expectedActiveStart = accounting.expectedActiveStart
  order : report.activeAbsoluteRange.start ≤ report.activeAbsoluteRange.stop
  retention : report.pendingRetentionLostFrames =
    accounting.pendingRetentionLostFrames +
      (report.activeAbsoluteRange.start - accounting.expectedActiveStart)
  cleared : report.pendingClearedFrames =
    accounting.pendingClearedFrames + (report.activeAbsoluteRange.stop -
      max accounting.expectedActiveStart report.activeAbsoluteRange.start)

/-- Everything a clear can do: fail and change nothing, or report and move the
clear mark of the active ring. -/
theorem WorkerState.Inv.clear_cases (h : worker.Inv) (ingressDroppedFrames : ℕ)
    (accounting : CaptureClearAccounting) :
    (∃ e, worker.clear ingressDroppedFrames accounting = (.error e, worker)) ∨
    (∃ report, report.Reports accounting ∧
      report.activeAbsoluteRange = ⟨worker.bases worker.active +
        (worker.epochs worker.active).oldestFrame, worker.absoluteHead⟩ ∧
      report.cumulativeDroppedFrames = ingressDroppedFrames + worker.workerDroppedFrames ∧
      worker.clear ingressDroppedFrames accounting =
        (.ok report, { worker with
          epochs := Function.update worker.epochs worker.active
            (worker.epochs worker.active).clear })) := by
  have holdest := (h.epochs worker.active).oldest_le_head
  have hwrite : (worker.epochs worker.active).writeHeadFrame =
      (worker.epochs worker.active).globalWriteFrame := rfl
  have hhead := h.head
  simp only [WorkerState.clear, WorkerState.clearReport, h.activeAbsoluteRange]
  split
  · exact .inl ⟨_, rfl⟩
  · rename_i report hreport
    right
    split at hreport
    · cases hreport
    rename_i retention hretention
    split at hreport
    · cases hreport
    rename_i cleared hcleared
    split at hreport
    · cases hreport
    rename_i cumulative hcumulative
    obtain rfl := Except.ok.inj hreport
    obtain ⟨rfl, -⟩ := checkedAdd_eq_some.mp hretention
    obtain ⟨rfl, -⟩ := checkedAdd_eq_some.mp hcleared
    obtain ⟨rfl, -⟩ := checkedAdd_eq_some.mp hcumulative
    exact ⟨_, ⟨rfl, rfl, rfl, rfl, by simp only; omega, rfl, rfl⟩, rfl, rfl, rfl⟩

theorem WorkerState.Inv.cleared (h : worker.Inv) :
    WorkerState.Inv { worker with
      epochs := Function.update worker.epochs worker.active
        (worker.epochs worker.active).clear } := by
  refine ⟨fun i => ?_, ?_, h.head_le, h.frozen⟩
  · rcases eq_or_ne i worker.active with rfl | hother
    · simp only [Function.update_self]
      exact (h.epochs _).clear
    · simp only [Function.update_of_ne hother]
      exact h.epochs i
  · simp only [Function.update_self]
    exact h.head

theorem WorkerState.Inv.clear (h : worker.Inv) (ingressDroppedFrames : ℕ)
    (accounting : CaptureClearAccounting) :
    (∃ e, worker.clear ingressDroppedFrames accounting = (.error e, worker)) ∨
    (∃ report worker', worker.clear ingressDroppedFrames accounting = (.ok report, worker') ∧
      worker'.Inv ∧ worker'.cfg = worker.cfg ∧ worker'.absoluteHead = worker.absoluteHead ∧
      report.Reports accounting ∧ report.activeAbsoluteRange.stop = worker.absoluteHead) := by
  refine (h.clear_cases ingressDroppedFrames accounting).imp_right ?_
  rintro ⟨report, hreports, hrange, -, heq⟩
  exact ⟨report, _, heq, h.cleared, rfl, rfl, hreports, by rw [hrange]⟩

/-- What a reply promises about the command it answers, when the active epoch
ends at `head`. -/
def WorkerReply.Answers (reply : WorkerReply) (command : WorkerCommand) (head : ℕ) : Prop :=
  match command, reply with
  | .freeze committedStart, .frozen descriptor => ∀ frozen, descriptor = some frozen →
      committedStart.getD 0 ≤ frozen.absoluteRange.start ∧
      frozen.absoluteRange.start < frozen.absoluteRange.stop ∧
      frozen.absoluteRange.stop ≤ head
  | .release _ _, .released => True
  | .clear _ accounting, .cleared report =>
      report.Reports accounting ∧ report.activeAbsoluteRange.stop ≤ head ∧
        accounting.expectedActiveStart ≤ report.activeAbsoluteRange.stop
  | .status, .status _ => True
  | .shutdown, .shutdown => True
  | _, _ => False

/-- What a command relies on: a clear never expects frames beyond the head. -/
def WorkerCommand.Sane (command : WorkerCommand) (head : ℕ) : Prop :=
  match command with
  | .clear _ accounting => accounting.expectedActiveStart ≤ head
  | _ => True

/-- One spec for every command: the invariant stays, the absolute head stays,
and a reply answers its command. -/
theorem WorkerState.Inv.processCommand (h : worker.Inv) (queue : DropCounters)
    {command : WorkerCommand} (hsane : command.Sane worker.absoluteHead) :
    (worker.processCommand queue command).2.Inv ∧
      (worker.processCommand queue command).2.cfg = worker.cfg ∧
      (worker.processCommand queue command).2.absoluteHead = worker.absoluteHead ∧
      ∀ reply, (worker.processCommand queue command).1 = .ok reply →
        reply.Answers command worker.absoluteHead := by
  unfold WorkerState.processCommand
  split
  · refine ⟨h, rfl, rfl, ?_⟩
    intro reply hreply
    cases hreply
  cases command with
  | freeze committedStart =>
      rcases h.freeze committedStart with
        ⟨e, herror⟩ | ⟨descriptor, worker', hok, hinv, hcfg, hhead, hfrozen⟩
      · simp only [herror]
        refine ⟨h, trivial, trivial, ?_⟩
        intro reply hreply
        cases hreply
      · simp only [hok]
        refine ⟨hinv, hcfg, hhead, ?_⟩
        intro reply hreply
        obtain rfl := Except.ok.inj hreply
        intro frozen hsome
        obtain ⟨hlow, hlt, hstop⟩ := hfrozen frozen hsome
        exact ⟨hlow, hlt, hstop.le⟩
  | release index generation =>
      obtain ⟨result, worker', heq, hinv, hcfg, hhead⟩ := h.release index generation
      simp only [heq]
      refine ⟨hinv, hcfg, hhead, ?_⟩
      intro reply hreply
      cases result with
      | error e => cases hreply
      | ok _ =>
          obtain rfl := Except.ok.inj hreply
          trivial
  | clear ingressDroppedFrames accounting =>
      rcases h.clear ingressDroppedFrames accounting with
        ⟨e, herror⟩ | ⟨report, worker', hok, hinv, hcfg, hhead, hreports, hstop⟩
      · simp only [herror]
        refine ⟨h, trivial, trivial, ?_⟩
        intro reply hreply
        cases hreply
      · simp only [hok]
        refine ⟨hinv, hcfg, hhead, ?_⟩
        intro reply hreply
        obtain rfl := Except.ok.inj hreply
        exact ⟨hreports, hstop.le, hstop ▸ hsane⟩
  | status =>
      refine ⟨h, rfl, rfl, ?_⟩
      intro reply hreply
      simp only at hreply
      cases hstatus : worker.status queue with
      | error e =>
          rw [hstatus] at hreply
          cases hreply
      | ok status =>
          rw [hstatus] at hreply
          obtain rfl := Except.ok.inj hreply
          trivial
  | shutdown =>
      refine ⟨h, rfl, rfl, ?_⟩
      intro reply hreply
      obtain rfl := Except.ok.inj hreply
      trivial

end Commands

end Lamb.Arena
