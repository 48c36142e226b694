import Lamb.Dump.Decision
import Lamb.Export.Preview
import Lamb.Runtime.Build

/-!
The planner of the persistence workspace. It splits, numbers and renders the
outputs of an export like the preview does, but into slots that were allocated
when the session started: a text that does not fit its slot is an error.
-/

namespace Lamb.Export

open Lamb.Lib Lamb.Arena Lamb.Ring Lamb.Runtime Lamb.Dump

/-! ### Path slots -/

/-- `ReusablePath::push_bytes` on a slot that holds `slot`. -/
def pushBytes (capacity : ℕ) (slot value : String) : Result String :=
  if nul ∈ value.toList then .error (.export "path contains an embedded NUL byte")
  else match checkedAdd slot.utf8ByteSize value.utf8ByteSize with
    | none => .error (.exportInvariant "workspace path length overflow")
    | some stop =>
        if capacity < stop then
          .error (.export ("path requires " ++ toString stop ++
            " bytes but workspace capacity is " ++ toString capacity))
        else .ok (slot ++ value)

def setPath (capacity : ℕ) (path : String) : Result String :=
  pushBytes capacity "" path

def pushSeparator (capacity : ℕ) (slot : String) : Result String :=
  if slot ≠ "" ∧ ¬endsWithSeparator slot then pushBytes capacity slot "/" else .ok slot

/-- A slot as something a pattern is rendered into. -/
def writeSlot (capacity : ℕ) (slot text : String) : Option String :=
  (pushBytes capacity slot text).toOption

/-! ### The workspace -/

inductive PersistenceKind
  | recall
  | dump
  deriving DecidableEq, Repr

structure RequestDetails where
  kind : PersistenceKind
  stagingParent : String
  stagingPrefix : String
  deriving DecidableEq, Repr

structure OutputFileSlot where
  startFrame : ℕ
  frameCount : ℕ
  channel : ℕ
  part : ℕ
  stagedPath : ℕ
  finalPath : ℕ
  deriving DecidableEq, Repr

def transactionRootPath : ℕ := 0

def stagingParentPath : ℕ := 1

def finalRootPath : ℕ := 2

def outputPathStart : ℕ := 5

def outputPathSlotsPerPart : ℕ := 2

def stagedPathOffset : ℕ := 0

def finalPathOffset : ℕ := 1

/-- The slots of a persistence workspace that a plan fills. Every path slot is
`maximumPathBytes` long; a channel and a slot are named by a `u32`. -/
structure PlanSlots where
  config : PersistenceWorkspaceConfig
  outputs : List OutputFileSlot
  outputCount : ℕ
  paths : ℕ → String
  channels_le : config.channels ≤ u32Max
  maximumPathBytes_le : config.maximumPathBytes ≤ u64Max
  pathSlots_le : outputPathStart + outputs.length * outputPathSlotsPerPart ≤ u32Max

def PlanSlots.capacity (slots : PlanSlots) : ℕ := slots.config.maximumPathBytes

theorem PlanSlots.capacity_le (slots : PlanSlots) : slots.capacity ≤ u64Max :=
  slots.maximumPathBytes_le

def PlanSlots.setSlot (slots : PlanSlots) (index : ℕ) (text : String) : PlanSlots :=
  { slots with paths := Function.update slots.paths index text }

theorem PlanSlots.setSlot_self (slots : PlanSlots) (index : ℕ) (text : String) :
    (slots.setSlot index text).paths index = text :=
  Function.update_self _ _ _

theorem PlanSlots.setSlot_of_ne (slots : PlanSlots) {index other : ℕ} (h : other ≠ index)
    (text : String) : (slots.setSlot index text).paths other = slots.paths other :=
  Function.update_of_ne h _ _

def PlanSlots.setOutput (slots : PlanSlots) (index : ℕ) (output : OutputFileSlot) : PlanSlots :=
  { slots with
    outputs := slots.outputs.set index output
    pathSlots_le := by
      rw [List.length_set]
      exact slots.pathSlots_le }

/-! ### Splitting and numbering -/

def absoluteSplitRange (exportRange : Range) (zeroPart framesPerPart : ℕ) : Result Range :=
  if exportRange.stop < exportRange.start then
    .error (.exportInvariant "workspace export range is reversed")
  else if u64Max < zeroPart * framesPerPart then
    .error (.exportInvariant "workspace part start overflow")
  else if framesPerPart = 0 ∨ exportRange.stop - exportRange.start ≤ zeroPart * framesPerPart then
    .error (.exportInvariant "workspace part is outside export range")
  else
    let frameCount :=
      min (exportRange.stop - exportRange.start - zeroPart * framesPerPart) framesPerPart
    match checkedAdd exportRange.start (zeroPart * framesPerPart) with
    | none => .error (.exportInvariant "workspace part start overflow")
    | some start =>
        match checkedAdd start frameCount with
        | none => .error (.exportInvariant "workspace part end overflow")
        | some stop => .ok ⟨start, stop⟩

/-- The loop that counts the digits of a part number. -/
def countDigits (value : ℕ) : ℕ :=
  if value < 10 then 1 else countDigits (value / 10) + 1

/-- The loop that fills in the digits of a part number from the right. -/
def fillDigits : ℕ → ℕ → List Char
  | 0, _ => []
  | width + 1, value => fillDigits width (value / 10) ++ [Nat.digitChar (value % 10)]

/-- The part suffix, written into a buffer of 24 bytes. -/
def planPartSuffix (partCount part : ℕ) : Result String :=
  if partCount = 1 then .ok ""
  else
    let width := max (countDigits part) 3
    if 24 < 5 + width then .error .panicked
    else .ok (String.ofList ("-part".toList ++ fillDigits width part))

/-! ### Rendering into the slots -/

def hex (n : ℕ) : String := String.ofList (Nat.toDigits 16 n)

/-- What makes the name of a transaction unique. -/
structure TransactionStamp where
  processId : ℕ
  nanos : ℕ
  sequence : ℕ

def TransactionStamp.name (stamp : TransactionStamp) (stagingPrefix : String) : String :=
  stagingPrefix ++ hex stamp.processId ++ "-" ++ hex stamp.nanos ++ "-" ++ hex stamp.sequence

def setTransactionPath (capacity : ℕ) (parent stagingPrefix : String)
    (stamp : TransactionStamp) : Result String := do
  let slot ← setPath capacity parent
  let slot ← pushSeparator capacity slot
  match writeSlot capacity slot (stamp.name stagingPrefix) with
  | some slot => .ok slot
  | none => .error (.export "transaction path exceeds workspace capacity")

/-- The directory and the file name, each rendered into a cleared slot. -/
def renderPolicyOutputInto (capacity : ℕ) (policy : ResolvedExportPolicy)
    (context : RenderContext) (out : OutputPart) : Result (String × String) := do
  let (directoryPattern, filenamePattern) := policy.patterns context.command
  validateContextValues directoryPattern filenamePattern context
  validateComponentValue out.channel "channel"
  validatePatternCapacity directoryPattern filenamePattern policy.outputDir context out.channel
  let directory ← renderOutputTo (writeSlot capacity) directoryPattern context out ""
  let filename ← renderOutputTo (writeSlot capacity) filenamePattern context out ""
  pure (directory, filename)

def appendDirectory (capacity : ℕ) (slot directory : String) : Result String :=
  if directory = "" then .ok slot
  else do
    let slot ← pushSeparator capacity slot
    pushBytes capacity slot directory

def planFinalPath (capacity : ℕ) (outputDir directory filename : String) : Result String := do
  let slot ← setPath capacity outputDir
  let slot ← appendDirectory capacity slot directory
  let slot ← pushSeparator capacity slot
  pushBytes capacity slot filename

/-- A staged file of a recall is named by its number. -/
def planStagedPath (capacity : ℕ) (transactionRoot : String) (index : ℕ) : Result String := do
  let directory ← setPath capacity transactionRoot
  let slot ← setPath capacity directory
  let slot ← pushSeparator capacity slot
  match writeSlot capacity slot ("output-" ++ zeroPadded 8 index) with
  | some slot => .ok slot
  | none => .error (.exportInvariant "staged name exceeds workspace capacity")

/-- One path lies below the other, by their bytes. -/
def bytesBelow (path base : String) : Prop :=
  base.toList <+: path.toList ∧ path.toList[base.toList.length]? = some '/'

instance (path base : String) : Decidable (bytesBelow path base) :=
  inferInstanceAs (Decidable (_ ∧ _))

def checkPrior (current : String) : List String → Result Unit
  | [] => .ok ()
  | previous :: rest =>
      if previous = current then .error (.validation "duplicate rendered export path")
      else if bytesBelow current previous ∨ bytesBelow previous current then
        .error (.validation "rendered export file/parent path conflict")
      else checkPrior current rest

/-! ### The plan -/

/-- The final paths of the first `count` outputs. -/
def PlanSlots.finalPaths (slots : PlanSlots) (count : ℕ) : List String :=
  (slots.outputs.take count).map fun output => slots.paths output.finalPath

def PlanSlots.storeStaged (slots : PlanSlots) (kind : PersistenceKind) (index : ℕ) :
    Result PlanSlots :=
  match kind with
  | .dump => .ok slots
  | .recall => do
      let staged ← planStagedPath slots.capacity (slots.paths transactionRootPath) index
      pure (slots.setSlot
        (outputPathStart + index * outputPathSlotsPerPart + stagedPathOffset) staged)

def planPart (details : RequestDetails) (policy : ResolvedExportPolicy) (context : RenderContext)
    (channelIndex : ℕ) (name : String) (partCount : ℕ) (state : PlanSlots × ℕ) (zeroPart : ℕ) :
    Result (PlanSlots × ℕ) := do
  let (slots, index) := state
  let framesPerPart := (slots.config.splitWhenOverBytes - wavHeaderBytes) / wavSampleBytes
  let range ← absoluteSplitRange ⟨context.exportStartFrame, context.exportEndFrame⟩ zeroPart
    framesPerPart
  let partSuffix ← planPartSuffix partCount (zeroPart + 1)
  let (directory, filename) ← renderPolicyOutputInto slots.capacity policy context
    ⟨name, zeroPart + 1, partSuffix, range.start, range.stop⟩
  let finalPath ← planFinalPath slots.capacity policy.outputDir directory filename
  validateRenderedOutputPath policy.outputDir directory filename finalPath
    context.maximumPathBytes
  let stagedIndex := index * outputPathSlotsPerPart
  let finalIndex := outputPathStart + stagedIndex + finalPathOffset
  let slots ← (slots.setSlot finalIndex finalPath).storeStaged details.kind index
  let slots := slots.setOutput index
    { startFrame := range.start
      frameCount := range.stop - range.start
      channel := channelIndex % 2 ^ 32
      part := zeroPart % 2 ^ 32
      stagedPath := (outputPathStart + stagedIndex + stagedPathOffset) % 2 ^ 32
      finalPath := finalIndex % 2 ^ 32 }
  checkPrior finalPath (slots.finalPaths index)
  pure (slots, index + 1)

def planChannel (details : RequestDetails) (policy : ResolvedExportPolicy)
    (context : RenderContext) (partCount : ℕ) (state : PlanSlots × ℕ)
    (channel : FrozenChannelDecision × ℕ) : Result (PlanSlots × ℕ) :=
  if channel.1.disposition = .retain then
    match policy.channelNames[channel.2]? with
    | none => .error (.exportInvariant "decision channel is absent from policy")
    | some name =>
        (List.range partCount).foldlM
          (planPart details policy context channel.2 name partCount) state
  else .ok state

/-- The text of `Path::parent`; the planner asks for it on canonical texts. -/
def parentText (text : String) : Option String :=
  (Path.ofText text).parent.map Path.display

def planAtomicStagedPath (slots : PlanSlots) (index : ℕ) : Result PlanSlots :=
  match slots.outputs[index]? with
  | none => .error .panicked
  | some output =>
      let finalFile := Path.ofText (slots.paths output.finalPath)
      if finalFile.parent ≠ some (Path.ofText (slots.paths finalRootPath)) then
        .error (.exportInvariant "atomic final files must share one direct parent")
      else match finalFile.fileName with
        | none => .error (.exportInvariant "atomic final path must name a direct-child file")
        | some basename => do
            let filename ← pushBytes slots.capacity "" basename
            let slot ← setPath slots.capacity (slots.paths transactionRootPath)
            let slot ← pushSeparator slots.capacity slot
            let staged ← pushBytes slots.capacity slot filename
            pure (slots.setSlot output.stagedPath staged)

def planAtomicStagedPaths (slots : PlanSlots) : Result PlanSlots :=
  match slots.outputs.head? with
  | none => .error (.exportInvariant "atomic directory has no planned outputs")
  | some first =>
      if slots.outputCount = 0 then
        .error (.exportInvariant "atomic directory has no planned outputs")
      else match parentText (slots.paths first.finalPath) with
        | none => .error (.exportInvariant "atomic final path has no parent")
        | some parent => do
            let root ← setPath slots.capacity parent
            let root ← setPath slots.capacity root
            let _ ← setPath slots.capacity (slots.paths transactionRootPath)
            (List.range slots.outputCount).foldlM planAtomicStagedPath
              (slots.setSlot finalRootPath root)

def PlanSlots.finishStaged (slots : PlanSlots) : PersistenceKind → Result PlanSlots
  | .recall => .ok slots
  | .dump => planAtomicStagedPaths slots

/-- The fixed path slots of a plan with `outputCount` outputs. -/
def PlanSlots.begin (slots : PlanSlots) (details : RequestDetails) (policy : ResolvedExportPolicy)
    (stamp : TransactionStamp) (outputCount : ℕ) : Result PlanSlots := do
  let stagingParent ← setPath slots.capacity details.stagingParent
  let finalRoot ← setPath slots.capacity policy.outputDir
  let transactionRoot ← setTransactionPath slots.capacity details.stagingParent
    details.stagingPrefix stamp
  pure ((({ slots with outputCount }.setSlot stagingParentPath stagingParent).setSlot
    finalRootPath finalRoot).setSlot transactionRootPath transactionRoot)

def retainedChannels (decision : FrozenExportDecision) : List ℕ :=
  (decision.channels.zipIdx.filter fun channel => channel.1.disposition = .retain).map Prod.snd

def planPolicyPaths (slots : PlanSlots) (details : RequestDetails) (policy : ResolvedExportPolicy)
    (context : RenderContext) (decision : FrozenExportDecision) (stamp : TransactionStamp) :
    Result PlanSlots := do
  let partCount ← wavPartCount (context.exportEndFrame - context.exportStartFrame) wavSampleBytes
    slots.config.splitWhenOverBytes
  let retained := decision.channels.countP fun channel => channel.disposition = .retain
  ensure (retained * partCount ≤ u64Max)
    (.exportInvariant "selected range output count overflow")
  ensure (retained * partCount ≤ slots.outputs.length)
    (.exportInvariant "selected range exceeds workspace output slots")
  let slots ← slots.begin details policy stamp (retained * partCount)
  let (slots, _) ← decision.channels.zipIdx.foldlM
    (planChannel details policy context partCount) (slots, 0)
  slots.finishStaged details.kind

/-! ### What a prepared export plans -/

def validatePolicyGeometry (config : PersistenceWorkspaceConfig) (frozen : FrozenCaptureEpoch)
    (policy : ResolvedExportPolicy) (decision : FrozenExportDecision) : Result Unit :=
  ensure (policy.channelNames.length = config.channels ∧
      decision.channels.length = config.channels ∧
      frozen.descriptor.channels = config.channels ∧
      frozen.descriptor.sampleRate = config.sampleRate)
    (.exportInvariant "export policy does not match frozen geometry")

/-- What `prepare_with_io` knows when it plans an export: the epoch fits the
workspace, the decision was made for it and retains a channel. -/
structure PreparesExport (config : PersistenceWorkspaceConfig) (policy : ResolvedExportPolicy)
    (frozen : FrozenCaptureEpoch) (decision : FrozenExportDecision) : Prop where
  frozen_valid : validateFrozen config frozen = .ok ()
  geometry : validatePolicyGeometry config frozen policy decision = .ok ()
  decided : ∃ activity detector draft,
    classifyFrozenEpoch frozen activity detector draft = .ok decision
  retains : ∃ channel ∈ decision.channels, channel.disposition = .retain

/-- The details `prepare_with_io` derives from a policy. -/
def policyDetails (policy : ResolvedExportPolicy) (command : ExportCommand)
    (stagingRoot : String) : RequestDetails :=
  match policy.layout.publicationStrategy command with
  | .fileSet => { kind := .recall, stagingParent := stagingRoot, stagingPrefix := "" }
  | .atomicDirectory =>
      { kind := .dump, stagingParent := policy.outputDir, stagingPrefix := ".tmp-lamb-" }

/-- The context `prepare_with_io` renders with. -/
def policyContext (config : PersistenceWorkspaceConfig) (command : ExportCommand)
    (profile timestamp : String) (decision : FrozenExportDecision) : RenderContext where
  command := command
  profile := profile
  timestamp := timestamp
  sampleRate := config.sampleRate
  exportStartFrame := decision.exportRange.start
  exportEndFrame := decision.exportRange.stop
  splitWhenOverBytes := config.splitWhenOverBytes
  maximumPathBytes := config.maximumPathBytes

/-- An output as a finished export reports it. -/
structure PlannedOutput where
  channel : ℕ
  part : ℕ
  startFrame : ℕ
  endFrame : ℕ
  finalPath : String
  deriving DecidableEq, Repr

def PlanSlots.planned (slots : PlanSlots) : List PlannedOutput :=
  (slots.outputs.take slots.outputCount).map fun output =>
    { channel := output.channel
      part := output.part + 1
      startFrame := output.startFrame
      endFrame := output.startFrame + output.frameCount
      finalPath := slots.paths output.finalPath }

def RenderedOutput.planned (output : RenderedOutput) : PlannedOutput where
  channel := output.channelIndex
  part := output.part
  startFrame := output.startFrame
  endFrame := output.endFrame
  finalPath := output.finalPath

end Lamb.Export
