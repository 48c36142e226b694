import Lamb.Ring.Basic

/-!
The memory plan of a session: how many frames, slots and bytes the capture
rings, the ingress queue and the persistence workspace will hold. Every
product and sum is checked against `u64`; the first one that overflows names
itself in the error.
-/

namespace Lamb.Runtime

open Lamb.Ring

/-- What the plan reads off the machine it was compiled for and runs on. -/
structure Machine where
  pageSize : ℕ
  currentArtifactSlotBytes : ℕ

/-- The largest value of a `u32`. -/
def u32Max : ℕ := 2 ^ 32 - 1

def checkedAddOr (context : String) (left right : ℕ) : Result ℕ :=
  if left + right ≤ u64Max then .ok (left + right) else .error (.validation context)

def checkedMulOr (context : String) (left right : ℕ) : Result ℕ :=
  if left * right ≤ u64Max then .ok (left * right) else .error (.validation context)

/-- `u64::div_ceil`. -/
def divCeil (n d : ℕ) : ℕ := (n + d - 1) / d

/-! ### Parts of a WAV export -/

def wavHeaderBytes : ℕ := 44

def wavSampleBytes : ℕ := 3

def wavFramesPerPart (bytesPerFrame splitWhenOverBytes : ℕ) : Result ℕ :=
  if bytesPerFrame = 0 then .error (.validation "bytes_per_frame must be > 0")
  else if splitWhenOverBytes ≤ wavHeaderBytes then
    .error (.validation "splitWhenOverBytes must leave room for WAV data")
  else
    let framesPerPart := (splitWhenOverBytes - wavHeaderBytes) / bytesPerFrame
    if framesPerPart = 0 then
      .error (.validation "splitWhenOverBytes is too small for one frame")
    else .ok framesPerPart

def wavPartCount (totalFrames bytesPerFrame splitWhenOverBytes : ℕ) : Result ℕ := do
  let framesPerPart ← wavFramesPerPart bytesPerFrame splitWhenOverBytes
  pure (divCeil totalFrames framesPerPart)

def deriveChunkFrames (sampleRate : ℕ) (requested : Option ℕ) : Result ℕ :=
  if sampleRate = 0 then .error (.validation "sampleRate must be > 0")
  else match requested with
    | some frames =>
        if frames = 0 then .error (.validation "chunkFrames must be > 0") else .ok frames
    | none => .ok (max (sampleRate * 250 / 1000) 1)

/-! ### Inputs -/

/-- `headroom` is the `f64` by its bits. -/
structure SessionMemoryInputs where
  retentionFrames : ℕ
  channels : ℕ
  sampleRate : ℕ
  sampleFormat : SampleFormat
  chunkFrames : ℕ
  maxActiveSnapshots : ℕ
  sampleBytes : ℕ
  splitWhenOverBytes : ℕ
  controlQueueCapacity : ℕ
  workerStackBytes : ℕ
  captureQueueSlots : ℕ
  captureSlotFrames : ℕ
  captureWorkerStackBytes : ℕ
  ioBufferBytesPerChannel : ℕ
  maximumPathBytes : ℕ
  maximumCalibrationSeconds : ℕ
  headroom : ℕ

/-- The `f64` with these bits is finite and at least `1.0`: its sign is clear
and its exponent field is neither below that of `1.0` nor all ones. -/
def headroomAccepted (bits : ℕ) : Prop :=
  1023 ≤ bits / 2 ^ 52 ∧ bits / 2 ^ 52 < 2047

instance (bits : ℕ) : Decidable (headroomAccepted bits) :=
  inferInstanceAs (Decidable (_ ∧ _))

def headroomRejected : LambError := .validation "headroom must be finite and >= 1.0"

def requirePositive : List (String × ℕ) → Result Unit
  | [] => .ok ()
  | (name, value) :: rest =>
      if value = 0 then .error (.validation (name ++ " must be > 0")) else requirePositive rest

def SessionMemoryInputs.positives (inputs : SessionMemoryInputs) : List (String × ℕ) :=
  [("retention_frames", inputs.retentionFrames),
    ("channels", inputs.channels),
    ("sample_rate", inputs.sampleRate),
    ("chunk_frames", inputs.chunkFrames),
    ("max_active_snapshots", inputs.maxActiveSnapshots),
    ("sample_bytes", inputs.sampleBytes),
    ("control_queue_capacity", inputs.controlQueueCapacity),
    ("worker_stack_bytes", inputs.workerStackBytes),
    ("capture_queue_slots", inputs.captureQueueSlots),
    ("capture_slot_frames", inputs.captureSlotFrames),
    ("capture_worker_stack_bytes", inputs.captureWorkerStackBytes),
    ("io_buffer_bytes_per_channel", inputs.ioBufferBytesPerChannel),
    ("maximum_path_bytes", inputs.maximumPathBytes)]

def validateInputs (inputs : SessionMemoryInputs) : Result Unit := do
  ensure (inputs.maximumCalibrationSeconds ≤ 30)
    (.validation "maximum_calibration_seconds must be <= 30")
  requirePositive inputs.positives
  ensure (inputs.sampleBytes = 4)
    (.validation "sample_bytes must be 4 for the supported f32 ring layout")
  ensure (inputs.sampleFormat = .f32Le)
    (.validation "sample_format must be F32Le for the supported ring layout")
  ensure (headroomAccepted inputs.headroom) headroomRejected

/-! ### Budgets -/

def allocationBudgetBytes (machine : Machine) (payloadBytes : ℕ) : Result ℕ := do
  let reserved ← checkedAddOr "allocation reserve overflow" payloadBytes 64
  checkedMulOr "page-rounded allocation budget overflow" (divCeil reserved machine.pageSize)
    machine.pageSize

/-- The padding an allocation of `payloadBytes` adds. -/
def allocatorPadding (machine : Machine) (context : String) (payloadBytes : ℕ) : Result ℕ := do
  let budget ← allocationBudgetBytes machine payloadBytes
  if payloadBytes ≤ budget then .ok (budget - payloadBytes) else .error (.validation context)

structure RingBudget where
  chunkCount : ℕ
  allocatedFrames : ℕ
  samples : ℕ
  sampleAllocatorPadding : ℕ
  chunkObjects : ℕ
  chunkIndex : ℕ
  fixed : ℕ

structure RingMetadataBudget where
  sampleAllocatorPadding : ℕ
  chunkObjects : ℕ
  chunkIndex : ℕ
  fixed : ℕ

def ringMetadataBudget (machine : Machine) (chunkObjectCount chunkSampleBytes : ℕ) :
    Result RingMetadataBudget := do
  let chunkObjectAllocation ← allocationBudgetBytes machine 512
  let chunkObjects ← checkedMulOr "ring chunk object budget overflow" chunkObjectCount
    chunkObjectAllocation
  let chunkIndexPayload ← checkedMulOr "ring chunk index payload overflow" chunkObjectCount 8
  let padding ← allocatorPadding machine "ring sample allocator padding underflow"
    chunkSampleBytes
  let sampleAllocatorPadding ← checkedMulOr "ring sample allocator padding overflow"
    chunkObjectCount padding
  let chunkIndex ← allocationBudgetBytes machine chunkIndexPayload
  let fixed ← allocationBudgetBytes machine 512
  pure { sampleAllocatorPadding, chunkObjects, chunkIndex, fixed }

def ringBudget (machine : Machine) (inputs : SessionMemoryInputs) : Result RingBudget := do
  let chunkCount := divCeil inputs.retentionFrames inputs.chunkFrames
  ensure (chunkCount ≤ u32Max) (.validation "ring chunk count exceeds supported maximum")
  let allocatedFrames ← checkedMulOr "ring frame allocation overflow" chunkCount
    inputs.chunkFrames
  let samplesPerRing ← checkedMulOr "ring sample count overflow" allocatedFrames inputs.channels
  let sampleBytesPerRing ← checkedMulOr "ring sample byte count overflow" samplesPerRing
    inputs.sampleBytes
  let samples ← checkedMulOr "dual-ring sample byte count overflow" sampleBytesPerRing 2
  let chunkSamples ← checkedMulOr "chunk sample count overflow" inputs.chunkFrames
    inputs.channels
  let chunkSampleBytes ← checkedMulOr "chunk sample byte count overflow" chunkSamples
    inputs.sampleBytes
  let metadata ← ringMetadataBudget machine chunkCount chunkSampleBytes
  let sampleAllocatorPadding ← checkedMulOr "dual-ring sample allocator padding overflow"
    metadata.sampleAllocatorPadding 2
  let chunkObjects ← checkedMulOr "dual-ring chunk object budget overflow"
    metadata.chunkObjects 2
  let chunkIndex ← checkedMulOr "dual-ring chunk index budget overflow" metadata.chunkIndex 2
  let fixed ← checkedMulOr "dual-ring fixed metadata budget overflow" metadata.fixed 2
  pure
    { chunkCount
      allocatedFrames
      samples
      sampleAllocatorPadding
      chunkObjects
      chunkIndex
      fixed }

structure CaptureBudget where
  queueSamples : ℕ
  queueSlotMetadata : ℕ
  commandResultSlot : ℕ
  workerStack : ℕ

def captureBudget (machine : Machine) (inputs : SessionMemoryInputs) : Result CaptureBudget := do
  let slotSamples ← checkedMulOr "capture slot sample count overflow" inputs.captureSlotFrames
    inputs.channels
  let slotSampleBytes ← checkedMulOr "capture slot sample byte count overflow" slotSamples
    inputs.sampleBytes
  let slotAllocation ← allocationBudgetBytes machine slotSampleBytes
  let queueSamples ← checkedMulOr "capture queue sample storage overflow"
    inputs.captureQueueSlots slotAllocation
  let slotMetadata ← checkedMulOr "capture queue slot metadata overflow"
    inputs.captureQueueSlots 64
  let queueSlotMetadata ← allocationBudgetBytes machine slotMetadata
  let commandResultSlot ← allocationBudgetBytes machine 512
  let workerStack ← allocationBudgetBytes machine inputs.captureWorkerStackBytes
  pure { queueSamples, queueSlotMetadata, commandResultSlot, workerStack }

structure CalibrationBudget where
  sampleFrames : ℕ
  completeWindows : ℕ
  windowFrames : ℕ
  hopFrames : ℕ
  samples : ℕ
  rms : ℕ
  peak : ℕ
  slotMetadata : ℕ

def calibrationAllocation (machine : Machine) (payload : ℕ) : Result ℕ :=
  if payload = 0 then .ok 0 else allocationBudgetBytes machine payload

def calibrationWindows (sampleFrames windowFrames hopFrames : ℕ) : Result ℕ :=
  if sampleFrames = 0 ∨ sampleFrames < windowFrames then .ok 0
  else checkedAddOr "calibration window count overflow"
    ((sampleFrames - windowFrames) / hopFrames) 1

def calibrationBudget (machine : Machine) (inputs : SessionMemoryInputs) :
    Result CalibrationBudget := do
  let sampleFrames ← checkedMulOr "calibration sample frame count overflow"
    inputs.maximumCalibrationSeconds inputs.sampleRate
  let window ← checkedMulOr "calibration window geometry overflow" inputs.sampleRate 20
  let windowFrames := max (divCeil window 1000) 1
  let hop ← checkedMulOr "calibration hop geometry overflow" inputs.sampleRate 10
  let hopFrames := max (divCeil hop 1000) 1
  let completeWindows ← calibrationWindows sampleFrames windowFrames hopFrames
  let samplesPayload ← checkedMulOr "calibration sample storage overflow" sampleFrames 4
  let rmsPayload ← checkedMulOr "calibration RMS storage overflow" completeWindows 4
  let samples ← calibrationAllocation machine samplesPayload
  let rms ← calibrationAllocation machine rmsPayload
  let peak ← calibrationAllocation machine rmsPayload
  let slotMetadata ← allocationBudgetBytes machine 256
  pure
    { sampleFrames
      completeWindows
      windowFrames
      hopFrames
      samples
      rms
      peak
      slotMetadata }

structure WorkspaceBudget where
  interleavedScratch : ℕ
  workspace : ℕ
  allocatorPadding : ℕ

def workspaceBudget (machine : Machine) (inputs : SessionMemoryInputs) :
    Result WorkspaceBudget := do
  let scratchSamples ← checkedMulOr "interleaved scratch sample count overflow"
    inputs.chunkFrames inputs.channels
  let interleavedScratch ← checkedMulOr "interleaved scratch byte count overflow" scratchSamples
    inputs.sampleBytes
  let channelIo ← checkedMulOr "channel I/O workspace overflow" inputs.channels
    inputs.ioBufferBytesPerChannel
  let workspace ← checkedAddOr "persistence workspace overflow" interleavedScratch channelIo
  let scratchPadding ← allocatorPadding machine "scratch allocator padding underflow"
    interleavedScratch
  let channelPadding ← allocatorPadding machine "channel allocator padding underflow"
    inputs.ioBufferBytesPerChannel
  let allChannelPadding ← checkedMulOr "channel allocator padding overflow" inputs.channels
    channelPadding
  let padding ← checkedAddOr "workspace allocator padding overflow" scratchPadding
    allChannelPadding
  pure { interleavedScratch, workspace, allocatorPadding := padding }

structure OutputSlots where
  partsPerChannel : ℕ
  partSlots : ℕ

def outputSlots (inputs : SessionMemoryInputs) : Result OutputSlots := do
  let partsPerChannel ← wavPartCount inputs.retentionFrames wavSampleBytes
    inputs.splitWhenOverBytes
  let partSlots ← checkedMulOr "WAV part slot count overflow" partsPerChannel inputs.channels
  pure { partsPerChannel, partSlots }

structure PathBudget where
  splitPartSlots : ℕ
  fileWriterSlots : ℕ
  pathSlotCount : ℕ
  pathBytes : ℕ
  pathAllocatorPadding : ℕ
  pathSlotMetadata : ℕ

def pathBudget (machine : Machine) (inputs : SessionMemoryInputs) (partSlots : ℕ) :
    Result PathBudget := do
  let splitPayload ← checkedMulOr "split-part slot byte count overflow" partSlots 32
  let splitPartSlots ← allocationBudgetBytes machine splitPayload
  let writerPayload ← checkedMulOr "file/writer slot byte count overflow" inputs.channels 256
  let fileWriterSlots ← allocationBudgetBytes machine writerPayload
  let outputPathSlots ← checkedMulOr "output path slot count overflow" partSlots 2
  let pathSlotCount ← checkedAddOr "path slot count overflow" outputPathSlots 5
  let pathBytes ← checkedMulOr "path byte count overflow" pathSlotCount inputs.maximumPathBytes
  let paddingPerSlot ← allocatorPadding machine "path allocator padding underflow"
    inputs.maximumPathBytes
  let pathAllocatorPadding ← checkedMulOr "path allocator padding overflow" pathSlotCount
    paddingPerSlot
  let metadataPayload ← checkedMulOr "path slot metadata byte count overflow" pathSlotCount 32
  let pathSlotMetadata ← allocationBudgetBytes machine metadataPayload
  pure
    { splitPartSlots
      fileWriterSlots
      pathSlotCount
      pathBytes
      pathAllocatorPadding
      pathSlotMetadata }

structure ManifestBudget where
  entries : ℕ
  directorySlots : ℕ
  directories : ℕ
  publicationScratch : ℕ
  serialization : ℕ
  paths : ℕ

def publicationScratch (machine : Machine) (inputs : SessionMemoryInputs)
    (directorySlots : ℕ) : Result ℕ := do
  let componentBytes ← checkedAddOr "publication component buffer overflow"
    inputs.maximumPathBytes 1
  let syncPayload ← checkedMulOr "publication sync slot storage overflow" directorySlots 16
  let syncSlots ← allocationBudgetBytes machine syncPayload
  let component ← allocationBudgetBytes machine componentBytes
  let components ← checkedMulOr "publication component buffer storage overflow" 2 component
  let buffers ← checkedAddOr "publication scratch overflow" syncSlots components
  let artifact ← allocationBudgetBytes machine machine.currentArtifactSlotBytes
  checkedAddOr "publication scratch overflow" buffers artifact

def manifestBudget (machine : Machine) (inputs : SessionMemoryInputs) (partSlots : ℕ) :
    Result ManifestBudget := do
  let entryPayload ← checkedMulOr "manifest entry byte count overflow" partSlots 128
  let entries ← allocationBudgetBytes machine entryPayload
  let directorySlots ← checkedMulOr "manifest directory slot count overflow" partSlots
    (divCeil inputs.maximumPathBytes 2)
  let directoryPayload ← checkedMulOr "manifest directory metadata overflow" directorySlots 64
  let directories ← allocationBudgetBytes machine directoryPayload
  let scratch ← publicationScratch machine inputs directorySlots
  let entryPaths ← checkedMulOr "manifest entry path count overflow" partSlots 3
  let pathEntries ← checkedAddOr "manifest entry path slot count overflow" entryPaths 5
  let escapedPathBytes ← checkedMulOr "escaped manifest path byte count overflow"
    inputs.maximumPathBytes 6
  let pathEntryBytes ← checkedAddOr "manifest path entry byte count overflow"
    escapedPathBytes 256
  let allPathEntries ← checkedMulOr "manifest path entries byte count overflow" pathEntries
    pathEntryBytes
  let directoryBytes ← checkedMulOr "manifest directory serialization overflow"
    directorySlots 192
  let entryBytes ← checkedAddOr "manifest serialization total overflow" 1024 allPathEntries
  let serializationPayload ← checkedAddOr "manifest serialization payload overflow" entryBytes
    directoryBytes
  let serialization ← allocationBudgetBytes machine serializationPayload
  let pathsPayload ← checkedMulOr "manifest path arena byte count overflow" pathEntries
    inputs.maximumPathBytes
  let paths ← allocationBudgetBytes machine pathsPayload
  pure
    { entries
      directorySlots
      directories
      publicationScratch := scratch
      serialization
      paths }

structure OperationBudget where
  queue : ℕ
  workerStack : ℕ
  fixedMetadata : ℕ
  exportDecisions : ℕ
  detectorWorkspace : ℕ

def operationBudget (machine : Machine) (inputs : SessionMemoryInputs)
    (interleavedScratch : ℕ) : Result OperationBudget := do
  let queuePayload ← checkedMulOr "operation queue byte count overflow"
    inputs.controlQueueCapacity 256
  let queue ← allocationBudgetBytes machine queuePayload
  let workerStack ← allocationBudgetBytes machine inputs.workerStackBytes
  let fixedMetadata ← allocationBudgetBytes machine 512
  let decisionPayload ← checkedMulOr "frozen export decision storage overflow"
    inputs.channels 24
  let exportDecisions ← allocationBudgetBytes machine decisionPayload
  let statePayload ← checkedMulOr "activity detector state storage overflow"
    inputs.channels 104
  let states ← allocationBudgetBytes machine statePayload
  let detectorPayload ← checkedMulOr "activity detector decision storage overflow"
    inputs.channels 24
  let decisions ← allocationBudgetBytes machine detectorPayload
  let scratch ← allocationBudgetBytes machine interleavedScratch
  let tables ← checkedAddOr "activity detector state and decision workspace overflow" states
    decisions
  let detectorWorkspace ← checkedAddOr "activity detector workspace overflow" tables scratch
  pure { queue, workerStack, fixedMetadata, exportDecisions, detectorWorkspace }

/-! ### Headroom -/

/-- The largest power of two, up to `2 ^ limit`, that divides `n`, by its
exponent: `n.trailing_zeros().min(limit)`. -/
def commonPower : ℕ → ℕ → ℕ
  | _, 0 => 0
  | n, limit + 1 => if n % 2 = 0 then commonPower (n / 2) limit + 1 else 0

/-- The exact ratio of the headroom: numerator and denominator, as `u128`. -/
def headroomRatio (bits : ℕ) : Result (ℕ × ℕ) :=
  let field := bits / 2 ^ 52 % 2 ^ 11
  let mantissa := bits % 2 ^ 52 + 2 ^ 52
  if field < 1023 + 52 then
    let denominatorExponent := 1023 + 52 - field
    let power := commonPower mantissa denominatorExponent
    if denominatorExponent - power < 128 then
      .ok (mantissa / 2 ^ power, 2 ^ (denominatorExponent - power))
    else .error (.validation "headroom ratio exponent overflow")
  else
    let exponent := field - (1023 + 52)
    if exponent < 128 then .ok (mantissa * 2 ^ exponent % 2 ^ 128, 1)
    else .error (.validation "headroom ratio overflow")

def requiredBytesWithHeadroom (committedBytes headroom : ℕ) : Result ℕ := do
  ensure (headroomAccepted headroom) headroomRejected
  let (numerator, denominator) ← headroomRatio headroom
  ensure (committedBytes * numerator < 2 ^ 128) (.validation "memory requirement overflow")
  let product := committedBytes * numerator
  let required := product / denominator + (if product % denominator ≠ 0 then 1 else 0)
  ensure (required < 2 ^ 128) (.validation "memory requirement overflow")
  ensure (required ≤ u64Max) (.validation "memory requirement with headroom overflow")
  pure required

/-! ### The plan -/

structure MemoryComponent where
  name : String
  bytes : ℕ

structure SessionMemoryPlan where
  components : List MemoryComponent
  committedBytes : ℕ
  requiredWithHeadroom : ℕ
  retentionFrames : ℕ
  allocatedRetentionFrames : ℕ
  channels : ℕ
  sampleRate : ℕ
  sampleFormat : SampleFormat
  chunkFrames : ℕ
  chunkCount : ℕ
  maxActiveSnapshots : ℕ
  sampleBytes : ℕ
  captureQueueSlots : ℕ
  captureSlotFrames : ℕ
  captureWorkerStackBytes : ℕ
  splitWhenOverBytes : ℕ
  ioBufferBytesPerChannel : ℕ
  maximumPathBytes : ℕ
  maximumWavPartsPerChannel : ℕ
  outputFileSlots : ℕ
  pathSlots : ℕ
  manifestPathsBytes : ℕ
  manifestDirectorySlots : ℕ
  publicationScratch : ℕ
  calibrationSampleFrames : ℕ
  calibrationCompleteWindows : ℕ
  calibrationWindowFrames : ℕ
  calibrationHopFrames : ℕ

def sumComponents (components : List MemoryComponent) : Result ℕ :=
  components.foldlM
    (fun total component => checkedAddOr "committed memory byte count overflow" total
      component.bytes) 0

def memoryComponents (ring : RingBudget) (capture : CaptureBudget)
    (calibration : CalibrationBudget) (workspace : WorkspaceBudget) (path : PathBudget)
    (manifest : ManifestBudget) (operation : OperationBudget) : List MemoryComponent :=
  [⟨"ring_samples", ring.samples⟩,
    ⟨"ring_sample_allocator_padding", ring.sampleAllocatorPadding⟩,
    ⟨"ring_chunk_objects", ring.chunkObjects⟩,
    ⟨"ring_chunk_index", ring.chunkIndex⟩,
    ⟨"ring_fixed_metadata", ring.fixed⟩,
    ⟨"capture_queue_samples", capture.queueSamples⟩,
    ⟨"capture_queue_slot_metadata", capture.queueSlotMetadata⟩,
    ⟨"capture_command_result_slot", capture.commandResultSlot⟩,
    ⟨"capture_worker_stack", capture.workerStack⟩,
    ⟨"calibration_samples", calibration.samples⟩,
    ⟨"calibration_rms", calibration.rms⟩,
    ⟨"calibration_peak", calibration.peak⟩,
    ⟨"calibration_slot_metadata", calibration.slotMetadata⟩,
    ⟨"persistence_workspace", workspace.workspace⟩,
    ⟨"workspace_allocator_padding", workspace.allocatorPadding⟩,
    ⟨"split_part_slots", path.splitPartSlots⟩,
    ⟨"file_writer_slots", path.fileWriterSlots⟩,
    ⟨"path_bytes", path.pathBytes⟩,
    ⟨"path_allocator_padding", path.pathAllocatorPadding⟩,
    ⟨"path_slot_metadata", path.pathSlotMetadata⟩,
    ⟨"manifest_entries", manifest.entries⟩,
    ⟨"manifest_directories", manifest.directories⟩,
    ⟨"publication_scratch", manifest.publicationScratch⟩,
    ⟨"manifest_serialization", manifest.serialization⟩,
    ⟨"manifest_paths", manifest.paths⟩,
    ⟨"operation_worker_stack", operation.workerStack⟩,
    ⟨"operation_queue", operation.queue⟩,
    ⟨"runtime_fixed_metadata", operation.fixedMetadata⟩,
    ⟨"frozen_export_decisions", operation.exportDecisions⟩,
    ⟨"activity_detector_workspace", operation.detectorWorkspace⟩]

def SessionMemoryPlan.calculate (machine : Machine) (inputs : SessionMemoryInputs) :
    Result SessionMemoryPlan := do
  validateInputs inputs
  let ring ← ringBudget machine inputs
  let capture ← captureBudget machine inputs
  let calibration ← calibrationBudget machine inputs
  let workspace ← workspaceBudget machine inputs
  let outputs ← outputSlots inputs
  let path ← pathBudget machine inputs outputs.partSlots
  let manifest ← manifestBudget machine inputs outputs.partSlots
  let operation ← operationBudget machine inputs workspace.interleavedScratch
  let components := memoryComponents ring capture calibration workspace path manifest operation
  let committedBytes ← sumComponents components
  let requiredWithHeadroom ← requiredBytesWithHeadroom committedBytes inputs.headroom
  pure
    { components
      committedBytes
      requiredWithHeadroom
      retentionFrames := inputs.retentionFrames
      allocatedRetentionFrames := ring.allocatedFrames
      channels := inputs.channels
      sampleRate := inputs.sampleRate
      sampleFormat := inputs.sampleFormat
      chunkFrames := inputs.chunkFrames
      chunkCount := ring.chunkCount
      maxActiveSnapshots := inputs.maxActiveSnapshots
      sampleBytes := inputs.sampleBytes
      captureQueueSlots := inputs.captureQueueSlots
      captureSlotFrames := inputs.captureSlotFrames
      captureWorkerStackBytes := inputs.captureWorkerStackBytes
      splitWhenOverBytes := inputs.splitWhenOverBytes
      ioBufferBytesPerChannel := inputs.ioBufferBytesPerChannel
      maximumPathBytes := inputs.maximumPathBytes
      maximumWavPartsPerChannel := outputs.partsPerChannel
      outputFileSlots := outputs.partSlots
      pathSlots := path.pathSlotCount
      manifestPathsBytes := manifest.paths
      manifestDirectorySlots := manifest.directorySlots
      publicationScratch := manifest.publicationScratch
      calibrationSampleFrames := calibration.sampleFrames
      calibrationCompleteWindows := calibration.completeWindows
      calibrationWindowFrames := calibration.windowFrames
      calibrationHopFrames := calibration.hopFrames }

def SessionMemoryPlan.describeLimitFailure (plan : SessionMemoryPlan) (limit : ℕ) : String :=
  let components := ", ".intercalate (plan.components.map fun component =>
    component.name ++ "=" ++ toString component.bytes ++ " bytes")
  "session memory requirement " ++ toString plan.requiredWithHeadroom ++
    " bytes exceeds configured maximum " ++ toString limit ++ " bytes (committed=" ++
    toString plan.committedBytes ++ " bytes; " ++ components ++ ")"

def SessionMemoryPlan.validateMax (plan : SessionMemoryPlan) : Option ℕ → Result Unit
  | none => .ok ()
  | some limit =>
      if limit < plan.requiredWithHeadroom then
        .error (.validation (plan.describeLimitFailure limit))
      else .ok ()

end Lamb.Runtime
