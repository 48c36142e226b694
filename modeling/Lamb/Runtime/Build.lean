import Lamb.Arena.Session
import Lamb.Runtime.MemoryPlan

/-!
The capture runtime of a session, built from one memory plan: the arena whose
rings hold whole chunks, and the persistence workspace whose slots are counted
from the retention that was asked for.
-/

namespace Lamb.Runtime

open Lamb.Ring Lamb.Arena

variable {α : Type}

structure CaptureRuntimeParams where
  seconds : ℕ
  chunkFramesOverride : Option ℕ
  memoryMax : Option ℕ
  headroom : ℕ
  splitWhenOverBytes : ℕ
  ioBufferBytesPerChannel : ℕ
  maximumPathBytes : ℕ
  maximumCalibrationSeconds : ℕ
  captureQueueSlots : ℕ
  captureWorkerStackBytes : ℕ
  controlQueueCapacity : ℕ
  workerStackBytes : ℕ

structure PlannedCaptureRuntime where
  plan : SessionMemoryPlan
  retentionFrames : ℕ
  chunkFrames : ℕ
  chunkCount : ℕ

def memoryInputs (params : CaptureRuntimeParams) (sampleRate channels retentionFrames
    chunkFrames : ℕ) : SessionMemoryInputs where
  retentionFrames := retentionFrames
  channels := channels
  sampleRate := sampleRate
  sampleFormat := .f32Le
  chunkFrames := chunkFrames
  maxActiveSnapshots := 1
  sampleBytes := 4
  splitWhenOverBytes := params.splitWhenOverBytes
  controlQueueCapacity := params.controlQueueCapacity
  workerStackBytes := params.workerStackBytes
  captureQueueSlots := params.captureQueueSlots
  captureSlotFrames := chunkFrames
  captureWorkerStackBytes := params.captureWorkerStackBytes
  ioBufferBytesPerChannel := params.ioBufferBytesPerChannel
  maximumPathBytes := params.maximumPathBytes
  maximumCalibrationSeconds := params.maximumCalibrationSeconds
  headroom := params.headroom

def planRuntime (machine : Machine) (params : CaptureRuntimeParams) (sampleRate channels : ℕ) :
    Result PlannedCaptureRuntime := do
  let retentionFrames ← checkedMulOr "retention frame count overflow" params.seconds sampleRate
  let chunkFrames ← deriveChunkFrames sampleRate params.chunkFramesOverride
  let chunkCount := max (divCeil retentionFrames chunkFrames) 1
  ensure (chunkCount ≤ u32Max) (.validation "chunk count exceeds u32")
  let plan ← SessionMemoryPlan.calculate machine
    (memoryInputs params sampleRate channels retentionFrames chunkFrames)
  plan.validateMax params.memoryMax
  pure { plan, retentionFrames, chunkFrames, chunkCount }

/-! ### The arena -/

structure CaptureRuntimeConfig where
  ring : RingConfig
  queueSlots : ℕ
  slotFrames : ℕ
  sampleBytes : ℕ
  workerStackBytes : ℕ

/-- The pairs `validate_runtime_plan` compares, in its order. -/
def CaptureRuntimeConfig.checks (plan : SessionMemoryPlan) (runtime : CaptureRuntimeConfig) :
    List (String × ℕ × ℕ) :=
  [("channels", plan.channels, runtime.ring.channels),
    ("sample_rate", plan.sampleRate, runtime.ring.sampleRate),
    ("chunk_frames", plan.chunkFrames, runtime.ring.chunkFrames),
    ("chunk_count", plan.chunkCount, runtime.ring.chunkCount),
    ("max_active_snapshots", plan.maxActiveSnapshots, runtime.ring.maxActiveSnapshots),
    ("sample_bytes", plan.sampleBytes, runtime.sampleBytes),
    ("capture_queue_slots", plan.captureQueueSlots, runtime.queueSlots),
    ("capture_slot_frames", plan.captureSlotFrames, runtime.slotFrames),
    ("capture_worker_stack_bytes", plan.captureWorkerStackBytes, runtime.workerStackBytes)]

def requireEqual : List (String × ℕ × ℕ) → Result Unit
  | [] => .ok ()
  | (name, planned, actual) :: rest =>
      if planned ≠ actual then
        .error (.validation ("capture runtime " ++ name ++ " does not match memory plan"))
      else requireEqual rest

def validateRuntimePlan (plan : SessionMemoryPlan) (runtime : CaptureRuntimeConfig) :
    Result Unit := do
  requireEqual (CaptureRuntimeConfig.checks plan runtime)
  ensure (runtime.ring.format = plan.sampleFormat)
    (.validation "capture runtime sample_format does not match memory plan")
  let allocatedFrames ← checkedMulOr "capture runtime allocated frame count overflow"
    runtime.ring.chunkFrames runtime.ring.chunkCount
  ensure (allocatedFrames = plan.allocatedRetentionFrames)
    (.validation "capture runtime retention allocation does not match memory plan")

/-- `CaptureArena::new`, for a queue whose slots fit a chunk: the session the
arena starts with. The plan has refused a slot of no frames before. -/
def newArena (plan : SessionMemoryPlan) (runtime : CaptureRuntimeConfig)
    (hslot : runtime.slotFrames ≤ runtime.ring.chunkFrames) (zero : α) :
    Result (ArenaRun α) := do
  validateRuntimePlan plan runtime
  let worker ← WorkerState.new ⟨runtime.ring, runtime.slotFrames, hslot⟩ zero
  if hpos : 0 < worker.cfg.slotFrames then
    pure (ArenaRun.start worker runtime.queueSlots hpos zero)
  else .error (.validation "capture_slot_frames must be > 0")

/-! ### The workspace -/

structure PersistenceWorkspaceConfig where
  retentionFrames : ℕ
  channels : ℕ
  sampleRate : ℕ
  sampleFormat : SampleFormat
  chunkFrames : ℕ
  sampleBytes : ℕ
  splitWhenOverBytes : ℕ
  ioBufferBytesPerChannel : ℕ
  maximumPathBytes : ℕ

/-- The workspace by its configuration and the number of its output slots. -/
structure PersistenceWorkspace where
  config : PersistenceWorkspaceConfig
  outputs : ℕ

def PersistenceWorkspaceConfig.Matches (config : PersistenceWorkspaceConfig)
    (plan : SessionMemoryPlan) : Prop :=
  plan.retentionFrames = config.retentionFrames ∧ plan.channels = config.channels ∧
    plan.sampleRate = config.sampleRate ∧ plan.sampleFormat = config.sampleFormat ∧
    plan.chunkFrames = config.chunkFrames ∧ plan.sampleBytes = config.sampleBytes ∧
    plan.splitWhenOverBytes = config.splitWhenOverBytes ∧
    plan.ioBufferBytesPerChannel = config.ioBufferBytesPerChannel ∧
    plan.maximumPathBytes = config.maximumPathBytes

instance (config : PersistenceWorkspaceConfig) (plan : SessionMemoryPlan) :
    Decidable (config.Matches plan) :=
  inferInstanceAs (Decidable (_ ∧ _))

def validateWorkspacePlan (machine : Machine) (plan : SessionMemoryPlan)
    (config : PersistenceWorkspaceConfig) : Result Unit := do
  ensure (config.Matches plan)
    (.validation "persistence workspace geometry does not match session memory plan")
  let componentBytes ← checkedAddOr "publication component buffer overflow"
    config.maximumPathBytes 1
  let syncPayload ← checkedMulOr "publication sync slot storage overflow"
    plan.manifestDirectorySlots 16
  let component ← allocationBudgetBytes machine componentBytes
  let componentStorage ← checkedMulOr "publication component buffer storage overflow" component 2
  let artifactStorage ← allocationBudgetBytes machine machine.currentArtifactSlotBytes
  let syncStorage ← allocationBudgetBytes machine syncPayload
  let buffers ← checkedAddOr "publication scratch overflow" syncStorage componentStorage
  let expected ← checkedAddOr "publication scratch overflow" buffers artifactStorage
  ensure (plan.publicationScratch = expected) (.validation
    "persistence workspace publication scratch does not match session memory plan")
  ensure (wavSampleBytes ≤ config.ioBufferBytesPerChannel)
    (.validation "persistence PCM buffer must hold at least one 24-bit sample")
  ensure (plan.maximumWavPartsPerChannel ≤ u32Max ∧ plan.pathSlots ≤ u32Max)
    (.validation "persistence workspace slot indexes exceed supported maximum")

def PersistenceWorkspace.new (machine : Machine) (plan : SessionMemoryPlan)
    (config : PersistenceWorkspaceConfig) : Result PersistenceWorkspace := do
  validateWorkspacePlan machine plan config
  pure { config, outputs := plan.outputFileSlots }

def PlannedCaptureRuntime.runtimeConfig (planned : PlannedCaptureRuntime)
    (params : CaptureRuntimeParams) (sampleRate channels : ℕ) : CaptureRuntimeConfig where
  ring :=
    { channels
      sampleRate
      format := .f32Le
      chunkFrames := planned.chunkFrames
      chunkCount := planned.chunkCount
      maxActiveSnapshots := 1 }
  queueSlots := params.captureQueueSlots
  slotFrames := planned.chunkFrames
  sampleBytes := 4
  workerStackBytes := params.captureWorkerStackBytes

def PlannedCaptureRuntime.workspaceConfig (planned : PlannedCaptureRuntime)
    (params : CaptureRuntimeParams) (sampleRate channels : ℕ) :
    PersistenceWorkspaceConfig where
  retentionFrames := planned.retentionFrames
  channels := channels
  sampleRate := sampleRate
  sampleFormat := .f32Le
  chunkFrames := planned.chunkFrames
  sampleBytes := 4
  splitWhenOverBytes := params.splitWhenOverBytes
  ioBufferBytesPerChannel := params.ioBufferBytesPerChannel
  maximumPathBytes := params.maximumPathBytes

/-- `CaptureRuntime::build`; memory is never short. -/
def CaptureRuntime.build (machine : Machine) (params : CaptureRuntimeParams)
    (sampleRate channels : ℕ) (zero : α) : Result (ArenaRun α × PersistenceWorkspace) := do
  let planned ← planRuntime machine params sampleRate channels
  let arena ← newArena planned.plan (planned.runtimeConfig params sampleRate channels) le_rfl
    zero
  let workspace ← PersistenceWorkspace.new machine planned.plan
    (planned.workspaceConfig params sampleRate channels)
  pure (arena, workspace)

/-! ### The checks a frozen epoch meets -/

def validateFrozen (config : PersistenceWorkspaceConfig) (frozen : FrozenCaptureEpoch) :
    Result Unit :=
  ensure (frozen.descriptor.channels = config.channels ∧
      frozen.descriptor.sampleRate = config.sampleRate ∧
      frozen.descriptor.format = config.sampleFormat ∧
      frozen.totalFrames ≠ 0 ∧ frozen.totalFrames ≤ config.retentionFrames)
    (.exportInvariant "frozen capture geometry does not match persistence workspace")

/-- The slot check of `plan_policy_paths`, for `retained` channels. -/
def PersistenceWorkspace.selectedOutputCount (workspace : PersistenceWorkspace)
    (exportRange : Range) (retained : ℕ) : Result ℕ := do
  let partCount ← wavPartCount (exportRange.stop - exportRange.start) wavSampleBytes
    workspace.config.splitWhenOverBytes
  ensure (retained * partCount ≤ u64Max)
    (.exportInvariant "selected range output count overflow")
  ensure (retained * partCount ≤ workspace.outputs)
    (.exportInvariant "selected range exceeds workspace output slots")
  pure (retained * partCount)

/-- The slot check of `plan_paths`, for all channels. -/
def PersistenceWorkspace.plannedOutputCount (workspace : PersistenceWorkspace)
    (totalFrames : ℕ) : Result ℕ := do
  let partsPerChannel ← wavPartCount totalFrames wavSampleBytes
    workspace.config.splitWhenOverBytes
  ensure (partsPerChannel * workspace.config.channels ≤ u64Max)
    (.exportInvariant "workspace output count overflow")
  ensure (partsPerChannel * workspace.config.channels ≤ workspace.outputs)
    (.exportInvariant "selected range exceeds workspace output slots")
  pure (partsPerChannel * workspace.config.channels)

end Lamb.Runtime
