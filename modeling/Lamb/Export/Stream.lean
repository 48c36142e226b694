import Lamb.Arena.Session
import Lamb.Export.Planner
import Lamb.Lib.Attempt

/-!
Streaming an export: the frozen epoch is read block by block into a scratch
buffer, and each retained channel of a block goes through a PCM buffer into the
open file of its writer, which moves on to the next part when a part is full.
The encoder of one sample is a parameter. A call to the file system may be
refused; `write_mono_wav` is the reference the streamed bytes are compared to.
-/

namespace Lamb.Export

open Lamb.Lib Lamb.Arena Lamb.Ring Lamb.Runtime

variable {α : Type}

abbrev Bytes := List UInt8

/-- `to_le_bytes` of a value of `count` bytes. -/
def leBytes (count value : ℕ) : Bytes :=
  (List.range count).map fun i => UInt8.ofNat (value / 256 ^ i % 256)

def ascii (text : String) : Bytes := text.toList.map fun c => UInt8.ofNat c.toNat

def wavHeader (frames sampleRate : ℕ) : Result Bytes :=
  if u64Max < frames * wavSampleBytes then
    .error (.exportInvariant "WAV data byte count overflow")
  else if u32Max - 36 < frames * wavSampleBytes then
    .error (.export "classic WAV data exceeds RIFF size limit")
  else if u32Max < sampleRate * 3 then
    .error (.export "WAV sample-rate byte count overflow")
  else .ok (ascii "RIFF" ++ leBytes 4 (36 + frames * wavSampleBytes) ++ ascii "WAVE" ++
    ascii "fmt " ++ leBytes 4 16 ++ leBytes 2 1 ++ leBytes 2 1 ++ leBytes 4 sampleRate ++
    leBytes 4 (sampleRate * 3) ++ leBytes 2 3 ++ leBytes 2 24 ++ ascii "data" ++
    leBytes 4 (frames * wavSampleBytes))

/-- The three bytes of one sample. -/
structure S24 where
  low : UInt8
  middle : UInt8
  high : UInt8

def S24.bytes (sample : S24) : Bytes := [sample.low, sample.middle, sample.high]

/-- The bytes `write_mono_wav` writes, one sample after the other. -/
def writeMonoWav (f32ToS24Bytes : α → S24) (samples : List α) (sampleRate : ℕ) : Result Bytes :=
  if u64Max < samples.length * 3 then .error (.export "WAV data size overflow")
  else if u32Max - 36 < samples.length * 3 then
    .error (.export "classic WAV data exceeds RIFF size limit")
  else .ok (samples.foldl (fun bytes sample => bytes ++ (f32ToS24Bytes sample).bytes)
    (ascii "RIFF" ++ leBytes 4 (36 + samples.length * 3) ++ ascii "WAVE" ++ ascii "fmt " ++
      leBytes 4 16 ++ leBytes 2 1 ++ leBytes 2 1 ++ leBytes 4 sampleRate ++
      leBytes 4 (sampleRate * 3 % 2 ^ 32) ++ leBytes 2 3 ++ leBytes 2 24 ++ ascii "data" ++
      leBytes 4 (samples.length * 3)))

/-! ### Files -/

/-- The files by their paths. The call number `n` is refused when `fault n` is
an error. -/
structure WavIo where
  files : String → Option Bytes
  fault : ℕ → Option IoErrorKind
  calls : ℕ

/-- One call, with its effect on the files. -/
def WavIo.call (effect : (String → Option Bytes) → Except IoErrorKind (String → Option Bytes)) :
    Attempt WavIo LambError Unit := fun io =>
  match io.fault io.calls with
  | some kind => (.error (.io kind), { io with calls := io.calls + 1 })
  | none =>
      match effect io.files with
      | .error kind => (.error (.io kind), { io with calls := io.calls + 1 })
      | .ok files => (.ok (), { io with files, calls := io.calls + 1 })

/-- `create_new`. -/
def WavIo.open (path : String) : Attempt WavIo LambError Unit :=
  WavIo.call fun files =>
    if (files path).isSome then .error .alreadyExists
    else .ok (Function.update files path (some []))

/-- The file of a writer is named by the path it was opened at. -/
def WavIo.writeAll (path : String) (bytes : Bytes) : Attempt WavIo LambError Unit :=
  WavIo.call fun files => .ok (Function.update files path ((files path).map (· ++ bytes)))

def WavIo.flush : Attempt WavIo LambError Unit := WavIo.call .ok

def WavIo.syncAll : Attempt WavIo LambError Unit := WavIo.call .ok

def WavIo.removeFile (io : WavIo) (path : String) : WavIo :=
  { io with files := Function.update io.files path none }

/-! ### Writers -/

structure WriterSlot where
  file : Option String
  outputIndex : ℕ
  framesWritten : ℕ
  outputEnd : ℕ

/-- The buffers and writers of the workspace, one PCM buffer and one writer
for each channel. -/
structure StreamState (α : Type) where
  io : WavIo
  writers : List WriterSlot
  pcm : List Bytes
  scratch : List α

def StreamState.onIo (f : Attempt WavIo LambError Unit) :
    Attempt (StreamState α) LambError Unit :=
  Attempt.zoom StreamState.io (fun io state => { state with io }) f

def StreamState.setWriter (state : StreamState α) (channel : ℕ) (writer : WriterSlot) :
    StreamState α :=
  { state with writers := state.writers.set channel writer }

/-- The header of a new file; a file it cannot be written to is removed. -/
def writeHeader (path : String) (header : Bytes) : Attempt (StreamState α) LambError Unit := do
  match ← (StreamState.onIo (WavIo.writeAll path header)).capture with
  | .ok () => pure ()
  | .error e => do
      Attempt.modify fun state => { state with io := state.io.removeFile path }
      Attempt.fail e

def openWriter (slots : PlanSlots) (channel outputIndex outputEnd : ℕ) :
    Attempt (StreamState α) LambError Unit :=
  match slots.outputs[outputIndex]? with
  | none => Attempt.fail (.exportInvariant "WAV output slot is missing")
  | some output => do
      StreamState.onIo (WavIo.open (slots.paths output.stagedPath))
      let header ← Attempt.ofExcept (wavHeader output.frameCount slots.config.sampleRate)
      writeHeader (slots.paths output.stagedPath) header
      Attempt.modify fun state => state.setWriter channel
        { file := some (slots.paths output.stagedPath)
          outputIndex
          framesWritten := 0
          outputEnd }

def finalizeWriter (channel : ℕ) : Attempt (StreamState α) LambError Unit := do
  let state ← Attempt.get
  match state.writers[channel]? with
  | none => Attempt.fail .panicked
  | some writer =>
      if writer.file.isNone then pure ()
      else do
        Attempt.modify fun state => state.setWriter channel { writer with file := none }
        StreamState.onIo WavIo.flush
        StreamState.onIo WavIo.syncAll

/-! ### One channel of one block -/

/-- Encodes `batch` samples of a channel into the front of a PCM buffer. -/
def fillPcm (f32ToS24Bytes : α → S24) (samples : List α) (frameOffset channels channel : ℕ)
    (pcm : Bytes) (batch : ℕ) : Result Bytes :=
  (List.range batch).foldlM (fun pcm index =>
    match samples[(frameOffset + index) * channels + channel]? with
    | none => .error .panicked
    | some sample => .ok (copyFromSlice pcm (index * 3) (f32ToS24Bytes sample).bytes)) pcm

/-- The end of a part: the file is closed and the next part of the channel, if
there is one, opened. -/
def nextPart (slots : PlanSlots) (channel : ℕ) (writer : WriterSlot) :
    Attempt (StreamState α) LambError Unit := do
  finalizeWriter channel
  if writer.outputIndex + 1 < writer.outputEnd then
    openWriter slots channel (writer.outputIndex + 1) writer.outputEnd
  else pure ()

/-- One pass of the loop of `write_channel_block`: the number of frames it has
written. -/
def writeBatch (f32ToS24Bytes : α → S24) (slots : PlanSlots) (samples : List α)
    (frames channels channel frameOffset : ℕ) : Attempt (StreamState α) LambError ℕ := do
  let state ← Attempt.get
  match state.writers[channel]?, state.pcm[channel]? with
  | some writer, some pcm =>
      match slots.outputs[writer.outputIndex]?, writer.file with
      | some output, some file => do
          let remaining := output.frameCount - writer.framesWritten
          let batch := min (min (frames - frameOffset) remaining) (pcm.length / 3)
          let pcm ← Attempt.ofExcept
            (fillPcm f32ToS24Bytes samples frameOffset channels channel pcm batch)
          Attempt.modify fun state => { state with pcm := state.pcm.set channel pcm }
          StreamState.onIo (WavIo.writeAll file (pcm.take (batch * 3)))
          let written := writer.framesWritten + batch
          Attempt.modify fun state =>
            state.setWriter channel { writer with framesWritten := written }
          if written = output.frameCount then do
            nextPart slots channel writer
            pure batch
          else pure batch
      | some _, none => Attempt.fail (.exportInvariant "WAV writer has no open file")
      | none, _ => Attempt.fail .panicked
  | _, _ => Attempt.fail .panicked

/-- The loop of `write_channel_block`. It has one unit of fuel for each frame;
a pass that writes no frame would be repeated for ever. -/
def writeChannelBlock (f32ToS24Bytes : α → S24) (slots : PlanSlots) (samples : List α)
    (frames channels channel : ℕ) : ℕ → ℕ → Attempt (StreamState α) LambError Unit
  | fuel, frameOffset =>
      if frameOffset < frames then
        match fuel with
        | 0 => Attempt.fail .panicked
        | fuel + 1 => do
            let batch ← writeBatch f32ToS24Bytes slots samples frames channels channel frameOffset
            writeChannelBlock f32ToS24Bytes slots samples frames channels channel fuel
              (frameOffset + batch)
      else pure ()

/-! ### The whole stream -/

/-- Opens the first part of every channel that has outputs; `next` is the next
output. -/
def openWriters (slots : PlanSlots) : List ℕ → ℕ → Attempt (StreamState α) LambError Unit
  | [], _ => pure ()
  | channel :: rest, next =>
      let outputs := (slots.outputs.take slots.outputCount).drop next
      if (outputs.head?.map OutputFileSlot.channel) ≠ some channel then openWriters slots rest next
      else do
        let stop := next + (outputs.takeWhile fun output => output.channel == channel).length
        openWriter slots channel next stop
        openWriters slots rest stop

/-- The channels of one block, one after the other. -/
def writeBlock (f32ToS24Bytes : α → S24) (slots : PlanSlots) (samples : List α) (copied : ℕ) :
    List ℕ → Attempt (StreamState α) LambError Unit
  | [] => pure ()
  | channel :: rest => do
      let state ← Attempt.get
      match state.writers[channel]? with
      | none => Attempt.fail .panicked
      | some writer =>
          if writer.file.isNone then writeBlock f32ToS24Bytes slots samples copied rest
          else do
            writeChannelBlock f32ToS24Bytes slots samples copied slots.config.channels channel
              copied 0
            writeBlock f32ToS24Bytes slots samples copied rest

/-- The loop over the export range, with one unit of fuel for each frame. -/
def streamBlocks (f32ToS24Bytes : α → S24) (slots : PlanSlots) (frozen : FrozenCaptureEpoch)
    (ring : SampleRing α) (stop : ℕ) : ℕ → ℕ → Attempt (StreamState α) LambError Unit
  | fuel, cursor =>
      if cursor < stop then
        match fuel with
        | 0 => Attempt.fail .panicked
        | fuel + 1 => do
            let state ← Attempt.get
            let (copied, scratch) ← Attempt.ofExcept
              (frozen.copyInterleavedRangeInto ring ⟨cursor, stop⟩ state.scratch)
            Attempt.modify fun state => { state with scratch }
            Attempt.require (copied ≠ 0) (.exportInvariant "frozen read made no progress")
            writeBlock f32ToS24Bytes slots (scratch.take (copied * slots.config.channels)) copied
              (List.range state.writers.length)
            streamBlocks f32ToS24Bytes slots frozen ring stop fuel (cursor + copied)
      else pure ()

def finalizeWriters : List ℕ → Attempt (StreamState α) LambError Unit
  | [] => pure ()
  | channel :: rest => do
      finalizeWriter channel
      finalizeWriters rest

def streamSelectedWavs (f32ToS24Bytes : α → S24) (slots : PlanSlots)
    (frozen : FrozenCaptureEpoch) (ring : SampleRing α) (exportRange : Range) :
    Attempt (StreamState α) LambError Unit := do
  let state ← Attempt.get
  openWriters slots (List.range state.writers.length) 0
  streamBlocks f32ToS24Bytes slots frozen ring exportRange.stop
    (exportRange.stop - exportRange.start) exportRange.start
  finalizeWriters (List.range state.writers.length)

end Lamb.Export
