import Lamb.Ring.Write
import Mathlib.Data.Fin.Basic

/-!
The capture worker: two rings, one active and one that may be frozen, and the
commands that freeze, release, clear and report them. A frame's absolute
position is the base of its ring plus its position in the ring.
-/

namespace Lamb.Arena

open Lamb.Ring

variable {α : Type}

/-- A slot of the ingress queue is as long as a chunk of the rings. -/
structure ArenaConfig where
  ring : RingConfig
  slotFrames : ℕ
  slotFrames_le : slotFrames ≤ ring.chunkFrames

/-- The counters of the ingress queue that the worker and its clients read.
`pendingDrop` is the drop whose frames the cumulative counter already has and
the ingress counter has not. -/
structure DropCounters where
  enqueuedFrames : ℕ
  droppedFrames : ℕ
  cumulativeDroppedFrames : ℕ
  dropCounterExhausted : Bool
  pendingDrop : Option ℕ
  deriving DecidableEq, Repr

structure FrozenRecord where
  index : Fin 2
  generation : ℕ
  deriving DecidableEq, Repr

/-- The frozen ring is named by its index. -/
structure FrozenDescriptor where
  index : Fin 2
  generation : ℕ
  base : ℕ
  absoluteRange : Range
  localRange : Range
  channels : ℕ
  sampleRate : ℕ
  format : SampleFormat
  deriving DecidableEq, Repr

structure CaptureClearAccounting where
  arenaRuntimeId : ℕ
  coordinatorId : ℕ
  clearId : ℕ
  expectedActiveStart : ℕ
  pendingRetentionLostFrames : ℕ
  pendingClearedFrames : ℕ
  deriving DecidableEq, Repr

structure CaptureClearReport where
  arenaRuntimeId : ℕ
  coordinatorId : ℕ
  clearId : ℕ
  expectedActiveStart : ℕ
  activeAbsoluteRange : Range
  pendingRetentionLostFrames : ℕ
  pendingClearedFrames : ℕ
  cumulativeDroppedFrames : ℕ
  deriving DecidableEq, Repr

structure CaptureArenaStatus where
  droppedFrames : ℕ
  retainedFrames : ℕ
  capacityFrames : ℕ
  lastOverrun : Option ℕ
  activeAbsoluteRange : Range
  ingressEnqueuedFrames : ℕ
  captureDroppedFrames : ℕ
  workerWrittenFrames : ℕ
  workerDroppedFrames : ℕ
  frozenPending : Bool
  deriving DecidableEq, Repr

/-- The calibration capture is no part of this state. -/
structure WorkerState (α : Type) where
  cfg : ArenaConfig
  epochs : Fin 2 → SampleRing α
  active : Fin 2
  bases : Fin 2 → ℕ
  absoluteHead : ℕ
  nextGeneration : ℕ
  frozen : Option FrozenRecord
  retiredDroppedFrames : ℕ
  retiredLastOverrun : Option ℕ
  workerWrittenFrames : ℕ
  workerDroppedFrames : ℕ
  workerFault : Option String

/-- A command without its target sequence: the worker has consumed up to it
when it takes the command. -/
inductive WorkerCommand
  | freeze (committedStart : Option ℕ)
  | release (index : Fin 2) (generation : ℕ)
  | clear (ingressDroppedFrames : ℕ) (accounting : CaptureClearAccounting)
  | status
  | shutdown
  deriving DecidableEq, Repr

inductive WorkerReply
  | frozen (descriptor : Option FrozenDescriptor)
  | released
  | cleared (report : CaptureClearReport)
  | status (status : CaptureArenaStatus)
  | shutdown
  deriving DecidableEq, Repr

def WorkerState.new (cfg : ArenaConfig) (zero : α) : Result (WorkerState α) :=
  match SampleRing.new cfg.ring zero with
  | .error e => .error e
  | .ok ring => .ok
      { cfg
        epochs := fun _ => ring
        active := 0
        bases := fun _ => 0
        absoluteHead := 0
        nextGeneration := 1
        frozen := none
        retiredDroppedFrames := 0
        retiredLastOverrun := none
        workerWrittenFrames := 0
        workerDroppedFrames := 0
        workerFault := none }

/-! ### Drop counters -/

def DropCounters.addCumulativeDroppedFrames (queue : DropCounters) (frames : ℕ) :
    Result Unit × DropCounters :=
  if queue.dropCounterExhausted then
    (.error (.captureInvariant "cumulative capture dropped frame counter exhausted"), queue)
  else match checkedAdd queue.cumulativeDroppedFrames frames with
    | none =>
        (.error (.captureInvariant "cumulative capture dropped frame counter exhausted"),
          { queue with dropCounterExhausted := true })
    | some total => (.ok (), { queue with cumulativeDroppedFrames := total })

def DropCounters.addIngressDroppedFrames (queue : DropCounters) (frames : ℕ) :
    Result Unit × DropCounters :=
  match checkedAdd queue.droppedFrames frames with
  | none =>
      (.error (.captureInvariant "capture ingress dropped frame counter exhausted"),
        { queue with dropCounterExhausted := true })
  | some total => (.ok (), { queue with droppedFrames := total })

def DropCounters.addDroppedFrames (queue : DropCounters) (frames : ℕ) :
    Result Unit × DropCounters :=
  match queue.addCumulativeDroppedFrames frames with
  | (.error e, queue) => (.error e, queue)
  | (.ok (), queue) => queue.addIngressDroppedFrames frames

/-! ### Consuming samples -/

def WorkerState.setWorkerFault (worker : WorkerState α) (fault : String) : WorkerState α :=
  { worker with workerFault := some fault }

def WorkerState.dropWorkerFrames (worker : WorkerState α) (queue : DropCounters) (frames : ℕ) :
    WorkerState α × DropCounters :=
  match queue.addCumulativeDroppedFrames frames with
  | (.error _, queue) =>
      (worker.setWorkerFault "capture worker drop counter exhausted", queue)
  | (.ok (), queue) =>
      match checkedAdd worker.workerDroppedFrames frames with
      | none => (worker.setWorkerFault "capture worker drop counter exhausted", queue)
      | some total => ({ worker with workerDroppedFrames := total }, queue)

/-- `consume_samples`, for a block of whole frames out of one slot of the queue. -/
def WorkerState.consumeSamples (worker : WorkerState α) (queue : DropCounters) (now : ℕ)
    (samples : List α) : WorkerState α × DropCounters :=
  let frames := samples.length / worker.cfg.ring.channels
  if worker.workerFault.isSome then
    (worker, (queue.addDroppedFrames frames).2)
  else match checkedAdd worker.absoluteHead frames,
      checkedAdd worker.workerWrittenFrames frames with
    | some nextAbsolute, some nextWritten =>
        match (worker.epochs worker.active).writeInterleaved now samples
            worker.cfg.ring.channels with
        | (.error _, ring) =>
            { worker with epochs := Function.update worker.epochs worker.active ring }
              |>.dropWorkerFrames queue frames
        | (.ok (), ring) =>
            ({ worker with
                epochs := Function.update worker.epochs worker.active ring
                absoluteHead := nextAbsolute
                workerWrittenFrames := nextWritten }, queue)
    | _, _ => worker.dropWorkerFrames queue frames

/-! ### Commands -/

def latestOverrun : Option ℕ → Option ℕ → Option ℕ
  | none, second => second
  | first, none => first
  | some first, some second => some (max first second)

def absoluteExhausted : LambError :=
  .controlInvariant "absolute capture frame counter exhausted"

def WorkerState.activeAbsoluteRange (worker : WorkerState α) : Result Range :=
  let ring := worker.epochs worker.active
  match checkedAdd (worker.bases worker.active) ring.oldestFrame,
      checkedAdd (worker.bases worker.active) ring.writeHeadFrame with
  | some start, some stop => .ok ⟨start, stop⟩
  | _, _ => .error absoluteExhausted

/-- `retire_and_reset`, and the part of `release` that does the same. -/
def WorkerState.retireAndReset (worker : WorkerState α) (index : Fin 2) :
    Result Unit × WorkerState α :=
  let status := (worker.epochs index).status
  match checkedAdd worker.retiredDroppedFrames status.droppedFrames with
  | none =>
      (.error (.controlInvariant "cumulative dropped frame counter exhausted"), worker)
  | some retired =>
      match (worker.epochs index).reset with
      | (.error e, _) => (.error e, worker)
      | (.ok (), ring) =>
          (.ok (), { worker with
            epochs := Function.update worker.epochs index ring
            retiredDroppedFrames := retired
            retiredLastOverrun := latestOverrun worker.retiredLastOverrun status.lastOverrun })

/-- The generation a freeze of `range` would get; an empty range needs none. -/
def WorkerState.freezeGeneration (worker : WorkerState α) (range : Range) :
    Result (Option ℕ) :=
  if range.start < range.stop then
    match checkedAdd worker.nextGeneration 1 with
    | none => .error (.controlInvariant "frozen epoch generation exhausted")
    | some generation => .ok (some generation)
  else .ok none

def WorkerState.freeze (worker : WorkerState α) (committedStart : Option ℕ) :
    Result (Option FrozenDescriptor) × WorkerState α :=
  if worker.frozen.isSome then
    (.error (.controlInvariant "a frozen capture epoch is already pending"), worker)
  else
    let old := worker.active
    let standby := 1 - old
    let oldBase := worker.bases old
    let localEnd := (worker.epochs old).writeHeadFrame
    match checkedAdd oldBase localEnd, checkedAdd oldBase (worker.epochs old).oldestFrame with
    | some absoluteEnd, some absoluteOldest =>
        let absoluteStart := max (committedStart.getD absoluteOldest) absoluteOldest
        match worker.freezeGeneration ⟨absoluteStart, absoluteEnd⟩ with
        | .error e => (.error e, worker)
        | .ok generation =>
            match worker.retireAndReset standby with
            | (.error e, worker) => (.error e, worker)
            | (.ok (), worker) =>
                let worker := { worker with
                  bases := Function.update worker.bases standby worker.absoluteHead
                  active := standby }
                match generation with
                | none => (.ok none, worker)
                | some generation =>
                    (.ok (some
                      { index := old
                        generation
                        base := oldBase
                        absoluteRange := ⟨absoluteStart, absoluteEnd⟩
                        localRange := ⟨absoluteStart - oldBase, localEnd⟩
                        channels := worker.cfg.ring.channels
                        sampleRate := worker.cfg.ring.sampleRate
                        format := worker.cfg.ring.format }),
                      { worker with
                        nextGeneration := generation
                        frozen := some ⟨old, generation⟩ })
    | _, _ => (.error absoluteExhausted, worker)

def WorkerState.release (worker : WorkerState α) (index : Fin 2) (generation : ℕ) :
    Result Unit × WorkerState α :=
  match worker.frozen with
  | none => (.error (.controlInvariant "no frozen capture epoch pending"), worker)
  | some frozen =>
      if frozen.index ≠ index ∨ frozen.generation ≠ generation then
        (.error (.controlInvariant "frozen capture capability does not match worker state"),
          worker)
      else match worker.retireAndReset index with
        | (.error e, worker) => (.error e, worker)
        | (.ok (), worker) => (.ok (), { worker with frozen := none })

/-- The report of a clear of the active ring, before the ring is cleared. -/
def WorkerState.clearReport (worker : WorkerState α) (ingressDroppedFrames : ℕ)
    (accounting : CaptureClearAccounting) : Result CaptureClearReport :=
  match worker.activeAbsoluteRange with
  | .error e => .error e
  | .ok range =>
      let retentionLostFrames := range.start - accounting.expectedActiveStart
      let recoverableStart := max accounting.expectedActiveStart range.start
      let clearedFrames := range.stop - recoverableStart
      match checkedAdd accounting.pendingRetentionLostFrames retentionLostFrames with
      | none => .error (.controlInvariant "pending retention loss counter exhausted")
      | some pendingRetentionLostFrames =>
          match checkedAdd accounting.pendingClearedFrames clearedFrames with
          | none => .error (.controlInvariant "pending cleared frame counter exhausted")
          | some pendingClearedFrames =>
              match checkedAdd ingressDroppedFrames worker.workerDroppedFrames with
              | none =>
                  .error (.controlInvariant "cumulative capture dropped frame counter exhausted")
              | some cumulativeDroppedFrames => .ok
                  { arenaRuntimeId := accounting.arenaRuntimeId
                    coordinatorId := accounting.coordinatorId
                    clearId := accounting.clearId
                    expectedActiveStart := accounting.expectedActiveStart
                    activeAbsoluteRange := range
                    pendingRetentionLostFrames
                    pendingClearedFrames
                    cumulativeDroppedFrames }

def WorkerState.clear (worker : WorkerState α) (ingressDroppedFrames : ℕ)
    (accounting : CaptureClearAccounting) : Result CaptureClearReport × WorkerState α :=
  match worker.clearReport ingressDroppedFrames accounting with
  | .error e => (.error e, worker)
  | .ok report =>
      (.ok report, { worker with
        epochs := Function.update worker.epochs worker.active
          (worker.epochs worker.active).clear })

def WorkerState.status (worker : WorkerState α) (queue : DropCounters) :
    Result CaptureArenaStatus :=
  match worker.workerFault with
  | some fault => .error (.captureInvariant fault)
  | none =>
      let activeStatus := (worker.epochs worker.active).status
      let dropped := do
        let total ← checkedAdd worker.retiredDroppedFrames activeStatus.droppedFrames
        let total ← checkedAdd total queue.droppedFrames
        checkedAdd total worker.workerDroppedFrames
      match dropped with
      | none => .error (.controlInvariant "cumulative dropped frame counter exhausted")
      | some droppedFrames =>
          match worker.activeAbsoluteRange with
          | .error e => .error e
          | .ok activeAbsoluteRange => .ok
              { droppedFrames
                retainedFrames := activeStatus.retainedFrames
                capacityFrames := activeStatus.capacityFrames
                lastOverrun :=
                  latestOverrun worker.retiredLastOverrun activeStatus.lastOverrun
                activeAbsoluteRange
                ingressEnqueuedFrames := queue.enqueuedFrames
                captureDroppedFrames := queue.droppedFrames
                workerWrittenFrames := worker.workerWrittenFrames
                workerDroppedFrames := worker.workerDroppedFrames
                frozenPending := worker.frozen.isSome }

def WorkerCommand.worksExhausted : WorkerCommand → Bool
  | .release _ _ => true
  | .shutdown => true
  | _ => false

def WorkerState.processCommand (worker : WorkerState α) (queue : DropCounters)
    (command : WorkerCommand) : Result WorkerReply × WorkerState α :=
  if queue.dropCounterExhausted ∧ ¬command.worksExhausted then
    (.error (.captureInvariant "cumulative capture dropped frame counter exhausted"), worker)
  else match command with
    | .freeze committedStart =>
        let (result, worker) := worker.freeze committedStart
        (result.map .frozen, worker)
    | .release index generation =>
        let (result, worker) := worker.release index generation
        (result.map fun _ => .released, worker)
    | .clear ingressDroppedFrames accounting =>
        let (result, worker) := worker.clear ingressDroppedFrames accounting
        (result.map .cleared, worker)
    | .status => ((worker.status queue).map .status, worker)
    | .shutdown => (.ok .shutdown, worker)

end Lamb.Arena
