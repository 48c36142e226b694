import Lamb.Error
import Lamb.Lib.Document

/-!
The response to a persistence request. The daemon writes it from the outcome it has
committed, without copying the plan of the output files; `ControlResponse` is what a
client reads from it. A path is its bytes. The line is a document, so the text of JSON
and the end of the line are left to the JSON library, as are a record written as an array
and a writer that fails.
-/

namespace Lamb.Control

open Lamb.Lib (Document)

variable {F : Type}

/-- What the source uses of `f64`. -/
structure Doubles (F : Type) where
  isFinite : F → Bool
  ofNat : ℕ → F
  /-- `frames as f64 / f64::from(sample_rate)`. -/
  seconds : UInt64 → UInt32 → F
  /-- `{:.3}`. -/
  fixed : F → String
  seconds_finite : ∀ frames rate, rate ≠ 0 → isFinite (seconds frames rate) = true

/-- JSON has no number that is not finite: `null` stands in its place. -/
def Doubles.write (doubles : Doubles F) (value : F) : Document F :=
  if doubles.isFinite value then .float value else .null

/-! ### Enumerations -/

inductive DaemonState
  | ready
  | degraded
  | stopping
  deriving DecidableEq, Repr

inductive CaptureState
  | stopped
  | starting
  | running
  | waitingForDevice
  | faulted
  deriving DecidableEq, Repr

inductive ErrorClass
  | permanent
  | transient
  | fatal
  deriving DecidableEq, Repr

inductive RetryPolicy
  | none
  | manual
  | boundedBackoff
  deriving DecidableEq, Repr

def DaemonState.name : DaemonState → String
  | .ready => "ready"
  | .degraded => "degraded"
  | .stopping => "stopping"

def CaptureState.name : CaptureState → String
  | .stopped => "stopped"
  | .starting => "starting"
  | .running => "running"
  | .waitingForDevice => "waiting-for-device"
  | .faulted => "faulted"

def ErrorClass.name : ErrorClass → String
  | .permanent => "permanent"
  | .transient => "transient"
  | .fatal => "fatal"

def RetryPolicy.name : RetryPolicy → String
  | .none => "none"
  | .manual => "manual"
  | .boundedBackoff => "bounded-backoff"

/-- A variant without fields is its name, or a record of the name alone. -/
def readVariant {α : Type} (name : α → String) (variants : List α) :
    Document F → Option α
  | .str text => variants.find? fun variant => name variant = text
  | .obj [(text, .null)] => variants.find? fun variant => name variant = text
  | _ => Option.none

def writeVariant {α : Type} (name : α → String) (variant : α) : Document F :=
  .str (name variant)

def DaemonState.read : Document F → Option DaemonState :=
  readVariant DaemonState.name [.ready, .degraded, .stopping]

def CaptureState.read : Document F → Option CaptureState :=
  readVariant CaptureState.name [.stopped, .starting, .running, .waitingForDevice, .faulted]

def ErrorClass.read : Document F → Option ErrorClass :=
  readVariant ErrorClass.name [.permanent, .transient, .fatal]

def RetryPolicy.read : Document F → Option RetryPolicy :=
  readVariant RetryPolicy.name [.none, .manual, .boundedBackoff]

/-! ### The status -/

structure DaemonLifecycleStatus where
  daemonState : DaemonState
  captureState : CaptureState
  errorClass : Option ErrorClass
  lastError : Option String
  retryPolicy : RetryPolicy
  retryAttempt : UInt32
  nextRetryAt : Option UInt64
  activeProfile : Option String
  resolvedTarget : Option String
  deriving DecidableEq, Repr

def DaemonLifecycleStatus.default : DaemonLifecycleStatus :=
  ⟨.ready, .stopped, none, none, .none, 0, none, none, none⟩

structure DaemonStatus (F : Type) where
  state : String
  activeExportCount : UInt32
  pendingRecallCount : UInt32
  bufferCapacitySeconds : F
  retainedSeconds : F
  droppedFrames : UInt64
  target : Option String
  resolvedTarget : Option String
  sampleRate : UInt32
  channelCount : UInt32
  format : String
  lastError : Option String
  lifecycle : DaemonLifecycleStatus

structure ControlErrorContext where
  errorClass : Option ErrorClass
  daemonState : Option DaemonState
  captureState : Option CaptureState
  deriving DecidableEq, Repr

def ControlErrorContext.default : ControlErrorContext :=
  ⟨none, none, none⟩

def DaemonLifecycleStatus.fields (lifecycle : DaemonLifecycleStatus) :
    List (String × Document F) :=
  [("daemonState", writeVariant DaemonState.name lifecycle.daemonState),
    ("captureState", writeVariant CaptureState.name lifecycle.captureState),
    ("errorClass", .ofOption (writeVariant ErrorClass.name) lifecycle.errorClass),
    ("lastError", .ofOption .str lifecycle.lastError),
    ("retryPolicy", writeVariant RetryPolicy.name lifecycle.retryPolicy),
    ("retryAttempt", .ofU32 lifecycle.retryAttempt),
    ("nextRetryAt", .ofOption .ofU64 lifecycle.nextRetryAt),
    ("activeProfile", .ofOption .str lifecycle.activeProfile),
    ("resolvedTarget", .ofOption .str lifecycle.resolvedTarget)]

def DaemonStatus.fields (doubles : Doubles F) (status : DaemonStatus F) :
    List (String × Document F) :=
  [("state", .str status.state),
    ("active_export_count", .ofU32 status.activeExportCount),
    ("pending_recall_count", .ofU32 status.pendingRecallCount),
    ("buffer_capacity_seconds", doubles.write status.bufferCapacitySeconds),
    ("retained_seconds", doubles.write status.retainedSeconds),
    ("dropped_frames", .ofU64 status.droppedFrames),
    ("target", .ofOption .str status.target),
    ("resolved_target", .ofOption .str status.resolvedTarget),
    ("sample_rate", .ofU32 status.sampleRate),
    ("channel_count", .ofU32 status.channelCount),
    ("format", .str status.format),
    ("last_error", .ofOption .str status.lastError)] ++ status.lifecycle.fields

def DaemonStatus.write (doubles : Doubles F) (status : DaemonStatus F) : Document F :=
  .obj (status.fields doubles)

/-! ### The committed outcome -/

structure FrameRange where
  start : UInt64
  stop : UInt64
  deriving DecidableEq, Repr

def saturatingAdd (a b : UInt64) : UInt64 :=
  if a.toNat + b.toNat < 2 ^ 64 then a + b else UInt64.ofNat (2 ^ 64 - 1)

structure LossBreakdown where
  retentionLostFrames : UInt64
  clearedFrames : UInt64
  captureDroppedFrames : UInt64
  deriving DecidableEq, Repr

def LossBreakdown.lostFrames (losses : LossBreakdown) : UInt64 :=
  saturatingAdd (saturatingAdd losses.retentionLostFrames losses.clearedFrames)
    losses.captureDroppedFrames

/-- The output directory, and the final paths of the plan in its order. -/
structure CompletedOutput where
  outputDirectory : ByteArray
  files : List ByteArray

/-- `CommittedPersistenceRef`. -/
inductive CommittedPersistence
  | written (range exportRange : FrameRange) (frames : UInt64) (losses : LossBreakdown)
      (output : CompletedOutput)
  | skippedSilent (range : FrameRange) (frames : UInt64) (losses : LossBreakdown)
  | skippedByPolicy (range : FrameRange) (frames : UInt64) (losses : LossBreakdown)
  | noNewAudio (losses : LossBreakdown)

structure LossFields where
  lostFrames : UInt64
  retentionLostFrames : UInt64
  clearedFrames : UInt64
  captureDroppedFrames : UInt64
  deriving DecidableEq, Repr

def lossFields (losses : LossBreakdown) : LossFields :=
  ⟨losses.lostFrames, losses.retentionLostFrames, losses.clearedFrames,
    losses.captureDroppedFrames⟩

/-- The fields of an outcome that consumed frames. -/
structure ConsumedFields (F : Type) where
  startFrame : UInt64
  endFrame : UInt64
  frames : UInt64
  durationSeconds : F

def consumedFields (doubles : Doubles F) (sampleRate : UInt32) (range : FrameRange)
    (frames : UInt64) : ConsumedFields F :=
  ⟨range.start, range.stop, frames, doubles.seconds frames sampleRate⟩

/-! ### The writer -/

inductive BorrowedPersistenceOutcome (F : Type)
  | written (consumed : ConsumedFields F) (exportStartFrame exportFrames : UInt64)
      (losses : LossFields) (outputDirectory : String) (files : List ByteArray)
  | skippedSilent (consumed : ConsumedFields F) (losses : LossFields)
  | skippedByPolicy (consumed : ConsumedFields F) (losses : LossFields)
  | noNewAudio (losses : LossFields)

/-- `Path::to_str`. -/
def toStr (path : ByteArray) : Option String :=
  String.fromUTF8? path

def validateConsumedGeometry (range : FrameRange) (frames : UInt64) : Result Unit :=
  if range.stop < range.start ∨ range.stop - range.start ≠ frames then
    .error (.control "persistence response consumed range is inconsistent")
  else .ok ()

def validateGeometry (range exportRange : FrameRange) (frames : UInt64) : Result Unit := do
  validateConsumedGeometry range frames
  if exportRange.start < range.start ∨ exportRange.stop ≠ range.stop ∨
      exportRange.stop < exportRange.start then
    .error (.control "persistence response export range is inconsistent")
  else .ok ()

def pathText (message : String) (path : ByteArray) : Result String :=
  match toStr path with
  | some text => .ok text
  | none => .error (.control message)

/-- `BorrowedFiles::validate`. -/
def validateFiles (files : List ByteArray) : Result Unit :=
  files.forM fun path => do
    let _ ← pathText "persistence response file path is not UTF-8" path

def BorrowedPersistenceOutcome.new (doubles : Doubles F) (sampleRate : UInt32) :
    CommittedPersistence → Result (BorrowedPersistenceOutcome F)
  | .written range exportRange frames losses output => do
      validateGeometry range exportRange frames
      let outputDirectory ← pathText "persistence response output directory is not UTF-8"
        output.outputDirectory
      validateFiles output.files
      pure (.written (consumedFields doubles sampleRate range frames) exportRange.start
        (exportRange.stop - exportRange.start) (lossFields losses) outputDirectory output.files)
  | .skippedSilent range frames losses => do
      validateConsumedGeometry range frames
      pure (.skippedSilent (consumedFields doubles sampleRate range frames) (lossFields losses))
  | .skippedByPolicy range frames losses => do
      validateConsumedGeometry range frames
      pure (.skippedByPolicy (consumedFields doubles sampleRate range frames) (lossFields losses))
  | .noNewAudio losses => pure (.noNewAudio (lossFields losses))

def ConsumedFields.frameFields (consumed : ConsumedFields F) : List (String × Document F) :=
  [("start_frame", .ofU64 consumed.startFrame),
    ("end_frame", .ofU64 consumed.endFrame),
    ("frames", .ofU64 consumed.frames)]

def ConsumedFields.durationField (doubles : Doubles F) (consumed : ConsumedFields F) :
    List (String × Document F) :=
  [("duration_seconds", doubles.write consumed.durationSeconds)]

def LossFields.fields (losses : LossFields) : List (String × Document F) :=
  [("lost_frames", .ofU64 losses.lostFrames),
    ("retention_lost_frames", .ofU64 losses.retentionLostFrames),
    ("cleared_frames", .ofU64 losses.clearedFrames),
    ("capture_dropped_frames", .ofU64 losses.captureDroppedFrames)]

/-- The sequence of the files is written path by path. -/
def serializeFiles (files : List ByteArray) : Result (Document F) := do
  let items ← files.mapM fun path => do
    let text ← pathText "persistence response file path is not UTF-8" path
    pure (.str text)
  pure (.arr items)

def writtenFields (doubles : Doubles F) (consumed : ConsumedFields F)
    (exportStartFrame exportFrames : UInt64) (losses : LossFields) (outputDirectory : String)
    (files : Document F) : List (String × Document F) :=
  [("kind", .str "written")] ++ consumed.frameFields ++
    [("export_start_frame", .ofU64 exportStartFrame), ("export_frames", .ofU64 exportFrames)] ++
    consumed.durationField doubles ++ losses.fields ++
    [("output_directory", .str outputDirectory), ("files", files)]

def skippedFields (doubles : Doubles F) (kind : String) (consumed : ConsumedFields F)
    (losses : LossFields) : List (String × Document F) :=
  [("kind", .str kind)] ++ consumed.frameFields ++ consumed.durationField doubles ++
    losses.fields

def noNewAudioFields (losses : LossFields) : List (String × Document F) :=
  [("kind", .str "no_new_audio")] ++ losses.fields

def BorrowedPersistenceOutcome.serialize (doubles : Doubles F) :
    BorrowedPersistenceOutcome F → Result (Document F)
  | .written consumed exportStartFrame exportFrames losses outputDirectory files => do
      let files ← serializeFiles files
      pure (.obj (writtenFields doubles consumed exportStartFrame exportFrames losses
        outputDirectory files))
  | .skippedSilent consumed losses =>
      pure (.obj (skippedFields doubles "skipped_silent" consumed losses))
  | .skippedByPolicy consumed losses =>
      pure (.obj (skippedFields doubles "skipped_by_policy" consumed losses))
  | .noNewAudio losses => pure (.obj (noNewAudioFields losses))

/-- The document of the line that is written. -/
def writePersistenceResponse (doubles : Doubles F) (ok : Bool) (message : String)
    (status : DaemonStatus F) (sampleRate : UInt32) (outcome : CommittedPersistence) :
    Result (Document F) := do
  if sampleRate = 0 then
    .error (.control "persistence response sample rate is zero")
  else do
    let persistenceOutcome ← BorrowedPersistenceOutcome.new doubles sampleRate outcome
    let document ← persistenceOutcome.serialize doubles
    pure (.obj [("ok", .bool ok), ("message", .str message), ("status", status.write doubles),
      ("persistence_outcome", document)])

/-! ### The reader of the whole response -/

open Lamb.Lib.Document (asBool asU32 asU64 asF64 asString asOption asArray required defaulted)

inductive PersistenceOutcomeResponse (F : Type)
  | written (consumed : ConsumedFields F) (exportStartFrame exportFrames : UInt64)
      (losses : LossFields) (outputDirectory : ByteArray) (files : List ByteArray)
  | skippedSilent (consumed : ConsumedFields F) (losses : LossFields)
  | skippedByPolicy (consumed : ConsumedFields F) (losses : LossFields)
  | noNewAudio (losses : LossFields)

/-- The report of thresholds belongs to other requests. -/
structure ControlResponse (F Report : Type) where
  ok : Bool
  message : String
  status : Option (DaemonStatus F)
  errorContext : ControlErrorContext
  persistenceOutcome : Option (PersistenceOutcomeResponse F)
  thresholdReport : Option Report

def DaemonLifecycleStatus.read (fields : List (String × Document F)) :
    Option DaemonLifecycleStatus := do
  let absent := DaemonLifecycleStatus.default
  pure
    { daemonState := ← defaulted fields "daemonState" DaemonState.read absent.daemonState
      captureState := ← defaulted fields "captureState" CaptureState.read absent.captureState
      errorClass := ← defaulted fields "errorClass" (asOption ErrorClass.read) absent.errorClass
      lastError := ← defaulted fields "lastError" (asOption asString) absent.lastError
      retryPolicy := ← defaulted fields "retryPolicy" RetryPolicy.read absent.retryPolicy
      retryAttempt := ← defaulted fields "retryAttempt" asU32 absent.retryAttempt
      nextRetryAt := ← defaulted fields "nextRetryAt" (asOption asU64) absent.nextRetryAt
      activeProfile := ← defaulted fields "activeProfile" (asOption asString) absent.activeProfile
      resolvedTarget :=
        ← defaulted fields "resolvedTarget" (asOption asString) absent.resolvedTarget }

def DaemonStatus.read (doubles : Doubles F) : Document F → Option (DaemonStatus F)
  | .obj fields => do
      pure
        { state := ← required fields "state" asString
          activeExportCount := ← required fields "active_export_count" asU32
          pendingRecallCount := ← required fields "pending_recall_count" asU32
          bufferCapacitySeconds :=
            ← required fields "buffer_capacity_seconds" (asF64 doubles.ofNat)
          retainedSeconds := ← required fields "retained_seconds" (asF64 doubles.ofNat)
          droppedFrames := ← required fields "dropped_frames" asU64
          target := ← defaulted fields "target" (asOption asString) none
          resolvedTarget := ← defaulted fields "resolved_target" (asOption asString) none
          sampleRate := ← required fields "sample_rate" asU32
          channelCount := ← required fields "channel_count" asU32
          format := ← required fields "format" asString
          lastError := ← defaulted fields "last_error" (asOption asString) none
          lifecycle := ← DaemonLifecycleStatus.read fields }
  | _ => none

def ControlErrorContext.read (fields : List (String × Document F)) :
    Option ControlErrorContext := do
  pure
    { errorClass := ← defaulted fields "errorClass" (asOption ErrorClass.read) none
      daemonState := ← defaulted fields "daemonState" (asOption DaemonState.read) none
      captureState := ← defaulted fields "captureState" (asOption CaptureState.read) none }

def writtenExportRange (startFrame endFrame : UInt64)
    (exportStartFrame exportFrames : Option UInt64) : Except String (UInt64 × UInt64) :=
  if endFrame < startFrame then .error "written consumed range end precedes start"
  else
    match exportStartFrame, exportFrames with
    | none, none => .ok (startFrame, endFrame - startFrame)
    | some exportStartFrame, some exportFrames =>
        if exportStartFrame < startFrame then
          .error "written export range starts before consumed range"
        else if 2 ^ 64 ≤ exportStartFrame.toNat + exportFrames.toNat then
          .error "written export range end overflow"
        else if exportStartFrame + exportFrames ≠ endFrame then
          .error "written export range does not end at consumed range end"
        else .ok (exportStartFrame, exportFrames)
    | _, _ =>
        .error "written export range requires both export_start_frame and export_frames"

def ConsumedFields.read (doubles : Doubles F) (fields : List (String × Document F)) :
    Option (ConsumedFields F) := do
  pure
    { startFrame := ← required fields "start_frame" asU64
      endFrame := ← required fields "end_frame" asU64
      frames := ← required fields "frames" asU64
      durationSeconds := ← required fields "duration_seconds" (asF64 doubles.ofNat) }

/-- The count of all lost frames may be missing only where nothing was consumed. -/
def LossFields.read (lostFrames : Option UInt64) (fields : List (String × Document F)) :
    Option LossFields := do
  let lost ←
    match lostFrames with
    | some absent => defaulted fields "lost_frames" asU64 absent
    | none => required fields "lost_frames" asU64
  pure
    { lostFrames := lost
      retentionLostFrames := ← defaulted fields "retention_lost_frames" asU64 0
      clearedFrames := ← defaulted fields "cleared_frames" asU64 0
      captureDroppedFrames := ← defaulted fields "capture_dropped_frames" asU64 0 }

/-- A `PathBuf`. -/
def readPath (document : Document F) : Option ByteArray :=
  document.asString.map String.toUTF8

def PersistenceOutcomeResponse.read (doubles : Doubles F) :
    Document F → Option (PersistenceOutcomeResponse F)
  | .obj fields => do
      match ← required fields "kind" asString with
      | "written" => do
          let consumed ← ConsumedFields.read doubles fields
          let exportStartFrame ← defaulted fields "export_start_frame" (asOption asU64) none
          let exportFrames ← defaulted fields "export_frames" (asOption asU64) none
          let losses ← LossFields.read none fields
          let outputDirectory ← required fields "output_directory" readPath
          let files ← required fields "files" (asArray readPath)
          let range ← (writtenExportRange consumed.startFrame consumed.endFrame exportStartFrame
            exportFrames).toOption
          pure (.written consumed range.1 range.2 losses outputDirectory files)
      | "skipped_silent" => do
          pure (.skippedSilent (← ConsumedFields.read doubles fields)
            (← LossFields.read none fields))
      | "skipped_by_policy" => do
          pure (.skippedByPolicy (← ConsumedFields.read doubles fields)
            (← LossFields.read none fields))
      | "no_new_audio" => do
          pure (.noNewAudio (← LossFields.read (some 0) fields))
      | _ => none
  | _ => none

def ControlResponse.read {Report : Type} (doubles : Doubles F)
    (readReport : Document F → Option Report) : Document F → Option (ControlResponse F Report)
  | .obj fields => do
      pure
        { ok := ← required fields "ok" asBool
          message := ← required fields "message" asString
          status := ← defaulted fields "status" (asOption (DaemonStatus.read doubles)) none
          errorContext := ← ControlErrorContext.read fields
          persistenceOutcome := ← defaulted fields "persistence_outcome"
            (asOption (PersistenceOutcomeResponse.read doubles)) none
          thresholdReport := ← defaulted fields "threshold_report" (asOption readReport) none }
  | _ => none

end Lamb.Control
