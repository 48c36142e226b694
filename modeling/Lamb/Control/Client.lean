import Lamb.Control.Response
import Lamb.Lib.Attempt

/-!
The client that renders a persistence response while it reads it. It keeps the scalars of
the outcome and one path at a time in a buffer, and writes each file path as soon as it
has read it, so it depends on the order of the fields: the outcome comes after `ok` and
`message`, and the files come last.
-/

namespace Lamb.Control

open Lamb.Lib (Document Attempt)
open Lamb.Lib.Document (asBool asU64 asF64 asString)

variable {F : Type}

inductive DecodeError
  | duplicateField (field : String)
  | missingField (field : String)
  | custom (message : String)
  | invalidType (expected : String)
  deriving DecidableEq, Repr

/-- What has been written, and the bounded buffer. -/
structure ClientState where
  output : ByteArray
  buffer : ByteArray

abbrev Client (β : Type) := Attempt ClientState DecodeError β

def writeAll (bytes : ByteArray) : Client Unit :=
  Attempt.modify fun state => { state with output := state.output ++ bytes }

def write (text : String) : Client Unit :=
  writeAll text.toUTF8

def nextValue {α : Type} (read : Document F → Option α) (expected : String)
    (document : Document F) : Except DecodeError α :=
  match read document with
  | some value => .ok value
  | none => .error (.invalidType expected)

def setOnce {α : Type} (destination : Option α) (value : α) (field : String) :
    Except DecodeError (Option α) :=
  if destination.isSome then .error (.duplicateField field) else .ok (some value)

def requiredValue {α : Type} (value : Option α) (field : String) : Except DecodeError α :=
  match value with
  | some value => .ok value
  | none => .error (.missingField field)

def defaultMaximumPathBytes : ℕ := 4096

/-- `BoundedStringSeed`. -/
def readBounded (label : String) (document : Document F) : Client Unit := do
  match document with
  | .str text =>
      if defaultMaximumPathBytes < text.utf8ByteSize then
        Attempt.fail (.custom (label ++ " exceeds maximum path bytes (" ++
          toString defaultMaximumPathBytes ++ ")"))
      else Attempt.modify fun state => { state with buffer := text.toUTF8 }
  | _ => Attempt.fail (.invalidType (label ++ " no longer than " ++
      toString defaultMaximumPathBytes ++ " bytes"))

/-! ### The outcome -/

inductive PersistenceClientOutcomeKind
  | written
  | skippedSilent
  | skippedByPolicy
  | noNewAudio
  deriving DecidableEq, Repr

def PersistenceClientOutcomeKind.name : PersistenceClientOutcomeKind → String
  | .written => "written"
  | .skippedSilent => "skipped_silent"
  | .skippedByPolicy => "skipped_by_policy"
  | .noNewAudio => "no_new_audio"

def PersistenceClientOutcomeKind.read : Document F → Option PersistenceClientOutcomeKind :=
  readVariant PersistenceClientOutcomeKind.name
    [.written, .skippedSilent, .skippedByPolicy, .noNewAudio]

inductive PersistenceOutcomeField
  | kind
  | startFrame
  | endFrame
  | frames
  | exportStartFrame
  | exportFrames
  | durationSeconds
  | lostFrames
  | retentionLostFrames
  | clearedFrames
  | captureDroppedFrames
  | outputDirectory
  | files
  | other
  deriving DecidableEq, Repr

def PersistenceOutcomeField.ofKey (key : String) : PersistenceOutcomeField :=
  if key = "kind" then .kind
  else if key = "start_frame" then .startFrame
  else if key = "end_frame" then .endFrame
  else if key = "frames" then .frames
  else if key = "export_start_frame" then .exportStartFrame
  else if key = "export_frames" then .exportFrames
  else if key = "duration_seconds" then .durationSeconds
  else if key = "lost_frames" then .lostFrames
  else if key = "retention_lost_frames" then .retentionLostFrames
  else if key = "cleared_frames" then .clearedFrames
  else if key = "capture_dropped_frames" then .captureDroppedFrames
  else if key = "output_directory" then .outputDirectory
  else if key = "files" then .files
  else .other

structure PersistenceOutcomeScalars (F : Type) where
  kind : Option PersistenceClientOutcomeKind
  startFrame : Option UInt64
  endFrame : Option UInt64
  frames : Option UInt64
  exportStartFrame : Option UInt64
  exportFrames : Option UInt64
  durationSeconds : Option F
  lostFrames : Option UInt64
  retentionLostFrames : Option UInt64
  clearedFrames : Option UInt64
  captureDroppedFrames : Option UInt64
  outputDirectory : Bool

def PersistenceOutcomeScalars.default : PersistenceOutcomeScalars F :=
  ⟨none, none, none, none, none, none, none, none, none, none, none, false⟩

/-- The causes of the losses that are there, one after the other. -/
def renderLossCauses : String → List (String × UInt64) → Client Unit
  | _, [] => pure ()
  | separator, (label, count) :: causes =>
      if 0 < count then do
        write (separator ++ label ++ " " ++ toString count.toNat)
        renderLossCauses ", " causes
      else renderLossCauses separator causes

def renderLossWarning (lost retention cleared dropped : UInt64) : Client Unit :=
  if lost = 0 then pure ()
  else do
    write ("\nwarning: " ++ toString lost.toNat ++ " frames were lost before persistence (")
    renderLossCauses ""
      [("retention", retention), ("cleared", cleared), ("capture-dropped", dropped)]
    write ")"

/-- The frames of an outcome, as both headers give them. -/
def framesText (doubles : Doubles F) (frames : UInt64) (durationSeconds : F)
    (startFrame endFrame : UInt64) : String :=
  toString frames.toNat ++ " frames (" ++ doubles.fixed durationSeconds ++
    " seconds), source frames " ++ toString startFrame.toNat ++ ".." ++ toString endFrame.toNat

def renderWrittenHeader (doubles : Doubles F) (values : PersistenceOutcomeScalars F) :
    Client Unit := do
  Attempt.require (values.kind = some .written)
    (.custom "files require a written persistence outcome")
  Attempt.require (values.outputDirectory = true)
    (.custom "output_directory must precede files")
  let startFrame ← Attempt.ofExcept (requiredValue values.startFrame "start_frame")
  let endFrame ← Attempt.ofExcept (requiredValue values.endFrame "end_frame")
  let frames ← Attempt.ofExcept (requiredValue values.frames "frames")
  let exportStartFrame ←
    Attempt.ofExcept (requiredValue values.exportStartFrame "export_start_frame")
  let exportFrames ← Attempt.ofExcept (requiredValue values.exportFrames "export_frames")
  let _ ← Attempt.ofExcept ((writtenExportRange startFrame endFrame (some exportStartFrame)
    (some exportFrames)).mapError DecodeError.custom)
  let durationSeconds ← Attempt.ofExcept (requiredValue values.durationSeconds "duration_seconds")
  let lostFrames ← Attempt.ofExcept (requiredValue values.lostFrames "lost_frames")
  let retention ←
    Attempt.ofExcept (requiredValue values.retentionLostFrames "retention_lost_frames")
  let cleared ← Attempt.ofExcept (requiredValue values.clearedFrames "cleared_frames")
  let dropped ←
    Attempt.ofExcept (requiredValue values.captureDroppedFrames "capture_dropped_frames")
  let state ← Attempt.get
  match toStr state.buffer with
  | none => Attempt.fail (.custom "invalid utf-8")
  | some outputDirectory => do
      write ("written " ++ framesText doubles frames durationSeconds startFrame endFrame)
      renderLossWarning lostFrames retention cleared dropped
      write ("\noutput directory: " ++ outputDirectory)

def renderSkipped (doubles : Doubles F) (label : String)
    (values : PersistenceOutcomeScalars F) : Client Unit := do
  let startFrame ← Attempt.ofExcept (requiredValue values.startFrame "start_frame")
  let endFrame ← Attempt.ofExcept (requiredValue values.endFrame "end_frame")
  let frames ← Attempt.ofExcept (requiredValue values.frames "frames")
  let durationSeconds ← Attempt.ofExcept (requiredValue values.durationSeconds "duration_seconds")
  write (label ++ ": " ++ framesText doubles frames durationSeconds startFrame endFrame)

/-- The kind `written` does not come here. -/
def renderNonWritten (doubles : Doubles F) (kind : PersistenceClientOutcomeKind)
    (values : PersistenceOutcomeScalars F) : Client Unit := do
  let lostFrames ← Attempt.ofExcept (requiredValue values.lostFrames "lost_frames")
  let retention ←
    Attempt.ofExcept (requiredValue values.retentionLostFrames "retention_lost_frames")
  let cleared ← Attempt.ofExcept (requiredValue values.clearedFrames "cleared_frames")
  let dropped ←
    Attempt.ofExcept (requiredValue values.captureDroppedFrames "capture_dropped_frames")
  match kind with
  | .skippedSilent => renderSkipped doubles "skipped exact-zero audio" values
  | .skippedByPolicy => renderSkipped doubles "skipped by policy" values
  | .noNewAudio => write "no new audio"
  | .written => pure ()
  renderLossWarning lostFrames retention cleared dropped

/-- `PersistenceFilesVisitor`. -/
def visitFiles : List (Document F) → Client Unit
  | [] => pure ()
  | item :: items => do
      readBounded "persistence file path" item
      write "\n"
      let state ← Attempt.get
      writeAll state.buffer
      visitFiles items

def readFiles (document : Document F) : Client Unit :=
  match document with
  | .arr items => visitFiles items
  | _ => Attempt.fail (.invalidType "a sequence of bounded persistence paths")

/-- A field that holds a number of frames. -/
def numberField (get : PersistenceOutcomeScalars F → Option UInt64)
    (set : PersistenceOutcomeScalars F → Option UInt64 → PersistenceOutcomeScalars F)
    (field : String) (values : PersistenceOutcomeScalars F) (document : Document F) :
    Client (PersistenceOutcomeScalars F × Bool) := do
  let value ← Attempt.ofExcept (nextValue asU64 "u64" document)
  let value ← Attempt.ofExcept (setOnce (get values) value field)
  pure (set values value, false)

/-- One field of the outcome, and whether it was the files. -/
def visitOutcomeField (doubles : Doubles F) (values : PersistenceOutcomeScalars F)
    (field : PersistenceOutcomeField) (document : Document F) :
    Client (PersistenceOutcomeScalars F × Bool) :=
  match field with
  | .kind => do
      let kind ← Attempt.ofExcept (nextValue PersistenceClientOutcomeKind.read
        "enum PersistenceClientOutcomeKind" document)
      let kind ← Attempt.ofExcept (setOnce values.kind kind "kind")
      pure ({ values with kind := kind }, false)
  | .startFrame => numberField (·.startFrame) (fun values value =>
      { values with startFrame := value }) "start_frame" values document
  | .endFrame => numberField (·.endFrame) (fun values value =>
      { values with endFrame := value }) "end_frame" values document
  | .frames => numberField (·.frames) (fun values value =>
      { values with frames := value }) "frames" values document
  | .exportStartFrame => numberField (·.exportStartFrame) (fun values value =>
      { values with exportStartFrame := value }) "export_start_frame" values document
  | .exportFrames => numberField (·.exportFrames) (fun values value =>
      { values with exportFrames := value }) "export_frames" values document
  | .durationSeconds => do
      let value ← Attempt.ofExcept (nextValue (asF64 doubles.ofNat) "f64" document)
      let value ← Attempt.ofExcept (setOnce values.durationSeconds value "duration_seconds")
      pure ({ values with durationSeconds := value }, false)
  | .lostFrames => numberField (·.lostFrames) (fun values value =>
      { values with lostFrames := value }) "lost_frames" values document
  | .retentionLostFrames => numberField (·.retentionLostFrames) (fun values value =>
      { values with retentionLostFrames := value }) "retention_lost_frames" values document
  | .clearedFrames => numberField (·.clearedFrames) (fun values value =>
      { values with clearedFrames := value }) "cleared_frames" values document
  | .captureDroppedFrames => numberField (·.captureDroppedFrames) (fun values value =>
      { values with captureDroppedFrames := value }) "capture_dropped_frames" values document
  | .outputDirectory => do
      Attempt.require (values.outputDirectory = false) (.duplicateField "output_directory")
      readBounded "output directory" document
      pure ({ values with outputDirectory := true }, false)
  | .files => do
      renderWrittenHeader doubles values
      Attempt.modify fun state => { state with buffer := ByteArray.empty }
      readFiles document
      pure (values, true)
  | .other => pure (values, false)

/-- The fields of the outcome in their order; nothing may come after the files. -/
def visitOutcomeFields (doubles : Doubles F) :
    List (String × Document F) → PersistenceOutcomeScalars F → Bool →
      Client (PersistenceOutcomeScalars F × Bool)
  | [], values, renderedFiles => pure (values, renderedFiles)
  | (key, document) :: fields, values, renderedFiles => do
      Attempt.require (renderedFiles = false)
        (.custom "files must be the final persistence field")
      let next ← visitOutcomeField doubles values (.ofKey key) document
      visitOutcomeFields doubles fields next.1 next.2

/-- `PersistenceOutcomeVisitor`. -/
def visitOutcome (doubles : Doubles F) (fields : List (String × Document F)) :
    Client Unit := do
  let last ← visitOutcomeFields doubles fields .default false
  let kind ← Attempt.ofExcept (requiredValue last.1.kind "kind")
  if kind = .written then
    if last.2 then pure () else Attempt.fail (.missingField "files")
  else if last.2 then Attempt.fail (.custom ("files are invalid for " ++ kind.name))
  else renderNonWritten doubles kind last.1

/-- `PersistenceOutcomeOptionSeed`: whether an outcome was rendered. -/
def readOutcome (doubles : Doubles F) (document : Document F) : Client Bool :=
  match document with
  | .null => pure false
  | .obj fields => do
      visitOutcome doubles fields
      pure true
  | _ => Attempt.fail (.invalidType "a persistence outcome")

/-! ### The response -/

inductive PersistenceResponseField
  | ok
  | message
  | status
  | persistenceOutcome
  | thresholdReport
  | other
  deriving DecidableEq, Repr

def PersistenceResponseField.ofKey (key : String) : PersistenceResponseField :=
  if key = "ok" then .ok
  else if key = "message" then .message
  else if key = "status" then .status
  else if key = "persistence_outcome" then .persistenceOutcome
  else if key = "threshold_report" then .thresholdReport
  else .other

structure ResponseProgress where
  ok : Option Bool
  message : Option String
  persistenceOutcome : Bool
  renderedOutcome : Bool

def visitResponseField (doubles : Doubles F) (progress : ResponseProgress)
    (field : PersistenceResponseField) (document : Document F) : Client ResponseProgress :=
  match field with
  | .ok => do
      let value ← Attempt.ofExcept (nextValue asBool "a boolean" document)
      let value ← Attempt.ofExcept (setOnce progress.ok value "ok")
      pure { progress with ok := value }
  | .message => do
      let value ← Attempt.ofExcept (nextValue asString "a string" document)
      let value ← Attempt.ofExcept (setOnce progress.message value "message")
      pure { progress with message := value }
  | .persistenceOutcome => do
      Attempt.require (progress.persistenceOutcome = false)
        (.duplicateField "persistence_outcome")
      let responseOk ← Attempt.ofExcept (requiredValue progress.ok "ok")
      let _ ← Attempt.ofExcept (requiredValue progress.message "message")
      if responseOk then do
        let rendered ← readOutcome doubles document
        pure { progress with persistenceOutcome := true, renderedOutcome := rendered }
      else pure { progress with persistenceOutcome := true }
  | .status => pure progress
  | .thresholdReport => pure progress
  | .other => pure progress

def visitResponseFields (doubles : Doubles F) :
    List (String × Document F) → ResponseProgress → Client ResponseProgress
  | [], progress => pure progress
  | (key, document) :: fields, progress => do
      let progress ← visitResponseField doubles progress (.ofKey key) document
      visitResponseFields doubles fields progress

/-- `PersistenceResponseVisitor`. A response that is not ok is its message. -/
def visitResponse (doubles : Doubles F) (fields : List (String × Document F)) :
    Client (Except String Unit) := do
  let progress ← visitResponseFields doubles fields ⟨none, none, false, false⟩
  let responseOk ← Attempt.ofExcept (requiredValue progress.ok "ok")
  let message ← Attempt.ofExcept (requiredValue progress.message "message")
  if responseOk = false then pure (.error message)
  else do
    if progress.renderedOutcome = false then do
      write message
      write "\n"
    else write "\n"
    pure (.ok ())

/-- `PersistenceClientResponseSeed`. -/
def readPersistenceResponse (doubles : Doubles F) (document : Document F) :
    Client (Except String Unit) :=
  match document with
  | .obj fields => visitResponse doubles fields
  | _ => Attempt.fail (.invalidType "a persistence control response")

end Lamb.Control
