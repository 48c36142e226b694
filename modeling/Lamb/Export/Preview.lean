import Mathlib.Data.List.Infix
import Lamb.Export.Pattern
import Lamb.Runtime.MemoryPlan

/-!
The export policy and its preview: every output of an export, split into parts
and rendered to its final path, in the order it will be written. A path is
kept as its text; two paths are compared by their components.
-/

namespace Lamb.Export

open Lamb.Lib Lamb.Runtime

/-! ### Checks on the texts -/

def nul : Char := '\x00'

def validateComponentValue (value label : String) : Result Unit :=
  ensure (¬(value = "" ∨ value = "." ∨ value = ".." ∨ '/' ∈ value.toList ∨
      '\\' ∈ value.toList ∨ nul ∈ value.toList))
    (.validation ("unsafe export " ++ label ++ " value"))

def validateContextValues (directoryPattern filenamePattern : ValidatedPattern)
    (context : RenderContext) : Result Unit := do
  if directoryPattern.contains .timestamp ∨ filenamePattern.contains .timestamp then
    validateComponentValue context.timestamp "timestamp"
  if directoryPattern.contains .profile ∨ filenamePattern.contains .profile then
    validateComponentValue context.profile "profile"

def validateOutputDir (text : String) : Result Unit := do
  ensure (text.toList.head? = some '/') (.validation "export outputDir must be absolute")
  ensure (¬(nul ∈ text.toList ∨ ['/', '/'] <:+: text.toList ∨
      (1 < text.utf8ByteSize ∧ text.toList.getLast? = some '/') ∨
      ∃ component ∈ text.toList.splitOn '/', component = ['.'] ∨ component = ['.', '.']))
    (.validation "export outputDir must be lexically canonical")
  ensure (∀ component ∈ (Path.ofText text).parts,
      component ≠ .curDir ∧ component ≠ .parentDir)
    (.validation "export outputDir must be lexically canonical")

def validateRenderedDirectory (directory : String) : Result Unit :=
  if directory = "" then .ok ()
  else do
    ensure (¬(nul ∈ directory.toList ∨ '\\' ∈ directory.toList ∨
        directory.toList.head? = some '/' ∨ directory.toList.getLast? = some '/' ∨
        ['/', '/'] <:+: directory.toList))
      (.validation "rendered export directory is not a safe relative path")
    ensure (∀ component ∈ directory.toList.splitOn '/',
        component ≠ [] ∧ component ≠ ['.'] ∧ component ≠ ['.', '.'])
      (.validation "rendered export directory contains an unsafe component")

def validateFilename (filename : String) : Result Unit :=
  ensure (¬(filename = "" ∨ filename = "." ∨ filename = ".." ∨ '/' ∈ filename.toList ∨
      '\\' ∈ filename.toList ∨ nul ∈ filename.toList))
    (.validation "rendered export filename must be one nonempty normal component")

/-- `Path::starts_with` on two texts. -/
def pathStartsWith (path base : String) : Bool :=
  (Path.ofText path).startsWith (Path.ofText base)

def validateFinalPath (outputDir finalPath : String) (maximumBytes : ℕ) : Result Unit := do
  ensure (pathStartsWith finalPath outputDir) (.validation "rendered export path escapes outputDir")
  ensure (finalPath.utf8ByteSize ≤ maximumBytes)
    (.validation ("rendered export path requires " ++ toString finalPath.utf8ByteSize ++
      " bytes, exceeding maximumPathBytes " ++ toString maximumBytes))

def validateRenderedOutputPath (outputDir directory filename finalPath : String)
    (maximumBytes : ℕ) : Result Unit := do
  validateRenderedDirectory directory
  validateFilename filename
  validateFinalPath outputDir finalPath maximumBytes

/-- The sum of the lengths, checked at every addition. -/
def checkedSum (message : String) (lengths : List ℕ) : Result ℕ :=
  lengths.foldlM (fun total length =>
    match checkedAdd total length with
    | some total => .ok total
    | none => .error (.validation message)) 0

def validatePatternCapacity (directoryPattern filenamePattern : ValidatedPattern)
    (outputDir : String) (context : RenderContext) (channel : String) : Result Unit := do
  let directoryBytes ← directoryPattern.maximumRenderedBytes context channel
  let filenameBytes ← filenamePattern.maximumRenderedBytes context channel
  let rootSeparator := if Path.ofText outputDir = Path.ofText "/" then 0 else 1
  let directorySeparator := if directoryBytes = 0 then 0 else 1
  let maximumBytes ← checkedSum "maximum rendered path capacity overflow"
    [outputDir.utf8ByteSize, rootSeparator, directoryBytes, directorySeparator, filenameBytes]
  ensure (maximumBytes ≤ context.maximumPathBytes)
    (.validation ("worst-case rendered relative path requires " ++ toString maximumBytes ++
      " bytes, exceeding maximumPathBytes " ++ toString context.maximumPathBytes))

/-! ### The policy -/

/-- A policy is only made for a canonical output directory and with the
patterns of its layout. -/
structure ResolvedExportPolicy where
  outputDir : String
  layout : ResolvedLayout
  channelNames : List String
  recallPatterns : ValidatedPattern × ValidatedPattern
  dumpPatterns : ValidatedPattern × ValidatedPattern
  outputDir_valid : validateOutputDir outputDir = .ok ()
  recallPatterns_eq : patternsForLayout layout .recall = .ok recallPatterns
  dumpPatterns_eq : patternsForLayout layout .dump = .ok dumpPatterns

def ResolvedExportPolicy.new (outputDir : String) (layout : ResolvedLayout)
    (channelNames : List String) : Result ResolvedExportPolicy :=
  match hdir : validateOutputDir outputDir with
  | .error e => .error e
  | .ok () =>
      match hrecall : patternsForLayout layout .recall, hdump : patternsForLayout layout .dump with
      | .error e, _ => .error e
      | .ok _, .error e => .error e
      | .ok recallPatterns, .ok dumpPatterns =>
          .ok ⟨outputDir, layout, channelNames, recallPatterns, dumpPatterns, hdir, hrecall, hdump⟩

/-- The directory pattern and the file name pattern. -/
def ResolvedExportPolicy.patterns (policy : ResolvedExportPolicy) :
    ExportCommand → ValidatedPattern × ValidatedPattern
  | .recall => policy.recallPatterns
  | .dump => policy.dumpPatterns

/-! ### Parts -/

structure WavPart where
  startFrame : ℕ
  frameCount : ℕ
  deriving DecidableEq, Repr

/-- The loop of `wav_parts_for_channel`, which never runs with empty parts. -/
def wavPartsFrom (totalFrames framesPerPart start : ℕ) : List WavPart :=
  if start < totalFrames ∧ 0 < framesPerPart then
    let count := min (totalFrames - start) framesPerPart
    ⟨start, count⟩ :: wavPartsFrom totalFrames framesPerPart (start + count)
  else []
termination_by totalFrames - start

def wavPartsForChannel (totalFrames bytesPerFrame splitWhenOverBytes : ℕ) :
    Result (List WavPart) := do
  let framesPerPart ← wavFramesPerPart bytesPerFrame splitWhenOverBytes
  pure (wavPartsFrom totalFrames framesPerPart 0)

/-! ### The preview -/

structure RenderedOutput where
  channelIndex : ℕ
  channel : String
  part : ℕ
  partCount : ℕ
  partSuffix : String
  startFrame : ℕ
  endFrame : ℕ
  relativeDirectory : String
  filename : String
  finalPath : String
  deriving DecidableEq, Repr

def endsWithSeparator (text : String) : Prop := text.toList.getLast? = some '/'

instance (text : String) : Decidable (endsWithSeparator text) :=
  inferInstanceAs (Decidable (_ = _))

/-- `Path::join` on texts. -/
def joinPath (base path : String) : String :=
  if path.toList.head? = some '/' then path
  else if base = "" ∨ endsWithSeparator base then base ++ path
  else base ++ "/" ++ path

def addOr (message : String) (left right : ℕ) : Result ℕ :=
  match checkedAdd left right with
  | some sum => .ok sum
  | none => .error (.validation message)

def partSuffixText (partCount part : ℕ) : String :=
  if partCount = 1 then "" else "-part" ++ zeroPadded 3 part

def previewPart (policy : ResolvedExportPolicy) (context : RenderContext)
    (channelIndex : ℕ) (channel : String) (partCount : ℕ) (outputs : List RenderedOutput)
    (wavPart : WavPart × ℕ) : Result (List RenderedOutput) := do
  let (directoryPattern, filenamePattern) := policy.patterns context.command
  let part ← addOr "one-based split part overflow" wavPart.2 1
  let startFrame ← addOr "absolute part start frame overflow" context.exportStartFrame
    wavPart.1.startFrame
  let endFrame ← addOr "absolute part end frame overflow" startFrame wavPart.1.frameCount
  let partSuffix := partSuffixText partCount part
  let out : OutputPart := { channel, part, partSuffix, startFrame, endFrame }
  let directory ← renderOutputInto directoryPattern context out
  let filename ← renderOutputInto filenamePattern context out
  validateRenderedDirectory directory
  validateFilename filename
  let finalPath := joinPath (joinPath policy.outputDir directory) filename
  validateFinalPath policy.outputDir finalPath context.maximumPathBytes
  ensure (∀ output ∈ outputs, Path.ofText output.finalPath ≠ Path.ofText finalPath)
    (.validation ("duplicate rendered export path: " ++ finalPath))
  pure (outputs ++ [⟨channelIndex, channel, part, partCount, partSuffix, startFrame, endFrame,
    directory, filename, finalPath⟩])

def channelName (policy : ResolvedExportPolicy) (channelIndex : ℕ) : Result String :=
  match policy.channelNames[channelIndex]? with
  | some name => .ok name
  | none => .error (.validation
      ("retained channel index " ++ toString channelIndex ++ " is invalid"))

def previewChannel (policy : ResolvedExportPolicy) (context : RenderContext)
    (parts : List WavPart) (outputs : List RenderedOutput) (channelIndex : ℕ) :
    Result (List RenderedOutput) := do
  let (directoryPattern, filenamePattern) := policy.patterns context.command
  let channel ← channelName policy channelIndex
  validateComponentValue channel "channel"
  validatePatternCapacity directoryPattern filenamePattern policy.outputDir context channel
  parts.zipIdx.foldlM (previewPart policy context channelIndex channel parts.length) outputs

def pathConflict (left right : String) : Bool :=
  pathStartsWith left right || pathStartsWith right left

def validateNoFileParentConflicts : List RenderedOutput → Result Unit
  | [] => .ok ()
  | output :: rest =>
      match rest.find? fun other => pathConflict output.finalPath other.finalPath with
      | some other => .error (.validation ("rendered export file/parent path conflict between " ++
          output.finalPath ++ " and " ++ other.finalPath))
      | none => validateNoFileParentConflicts rest

def previewExportPaths (policy : ResolvedExportPolicy) (context : RenderContext)
    (retainedChannels : List ℕ) : Result (List RenderedOutput) := do
  validateOutputDir policy.outputDir
  ensure (context.exportStartFrame ≤ context.exportEndFrame)
    (.validation "export end frame precedes export start frame")
  ensure (context.maximumPathBytes ≠ 0) (.validation "maximum path bytes must be nonzero")
  let (directoryPattern, filenamePattern) := policy.patterns context.command
  validateContextValues directoryPattern filenamePattern context
  let parts ← wavPartsForChannel (context.exportEndFrame - context.exportStartFrame) 3
    context.splitWhenOverBytes
  ensure (retainedChannels.length * parts.length ≤ u64Max)
    (.validation "rendered output count overflow")
  let outputs ← retainedChannels.foldlM (previewChannel policy context parts) []
  validateNoFileParentConflicts outputs
  pure outputs

end Lamb.Export
