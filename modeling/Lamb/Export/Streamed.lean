import Lamb.Arena.History
import Lamb.Export.Agree
import Lamb.Export.Stream

/-!
What a stream has written after a number of frames of each channel. A part is
open from its first frame on and holds its header and the encoded samples that
came so far, whatever the sizes of the scratch buffer, the PCM buffers and the
parts.
-/

namespace Lamb.Export

open Lamb.Lib Lamb.Arena Lamb.Ring Lamb.Runtime

variable {α : Type}

/-- The samples of one channel in `count` frames of an interleaved history. -/
def channelSamples (history : List α) (channels channel start count : ℕ) : List α :=
  (List.range count).filterMap fun frame => history[(start + frame) * channels + channel]?

def encodeSamples (f32ToS24Bytes : α → S24) (samples : List α) : Bytes :=
  samples.flatMap fun sample => (f32ToS24Bytes sample).bytes

theorem channelSamples_add (history : List α) (channels channel start m n : ℕ) :
    channelSamples history channels channel start (m + n) =
      channelSamples history channels channel start m ++
        channelSamples history channels channel (start + m) n := by
  simp only [channelSamples, List.range_add, List.filterMap_append, List.filterMap_map]
  congr 1
  refine List.filterMap_congr fun frame _ => ?_
  simp only [Function.comp_apply, Nat.add_assoc]

theorem encodeSamples_append (f32ToS24Bytes : α → S24) (left right : List α) :
    encodeSamples f32ToS24Bytes (left ++ right) =
      encodeSamples f32ToS24Bytes left ++ encodeSamples f32ToS24Bytes right := by
  simp [encodeSamples]

theorem encodeSamples_cons (f32ToS24Bytes : α → S24) (sample : α) (samples : List α) :
    encodeSamples f32ToS24Bytes (sample :: samples) =
      (f32ToS24Bytes sample).bytes ++ encodeSamples f32ToS24Bytes samples := by
  simp [encodeSamples]

theorem length_encodeSamples (f32ToS24Bytes : α → S24) (samples : List α) :
    (encodeSamples f32ToS24Bytes samples).length = samples.length * 3 := by
  induction samples with
  | nil => rfl
  | cons sample samples ih =>
      rw [encodeSamples_cons, List.length_append, ih, List.length_cons]
      simp only [S24.bytes, List.length_cons, List.length_nil]
      omega

theorem foldl_encode (f32ToS24Bytes : α → S24) (samples : List α) (bytes : Bytes) :
    samples.foldl (fun bytes sample => bytes ++ (f32ToS24Bytes sample).bytes) bytes =
      bytes ++ encodeSamples f32ToS24Bytes samples := by
  induction samples generalizing bytes with
  | nil => simp [encodeSamples]
  | cons sample samples ih => rw [List.foldl_cons, ih, encodeSamples_cons, List.append_assoc]

theorem length_channelSamples {history : List α} {channels channel start count : ℕ}
    (hchannel : channel < channels) (hlength : (start + count) * channels ≤ history.length) :
    (channelSamples history channels channel start count).length = count := by
  induction count with
  | zero => rfl
  | succ count ih =>
      have hle : (start + count + 1) * channels ≤ history.length := hlength
      rw [Nat.succ_mul] at hle
      have hget : ∃ sample, history[(start + count) * channels + channel]? = some sample :=
        ⟨_, List.getElem?_eq_getElem (by omega)⟩
      obtain ⟨sample, hsample⟩ := hget
      rw [channelSamples_add, List.length_append, ih (by omega)]
      simp [channelSamples, hsample]

/-! ### The reference encoder -/

/-- The header and the encoded samples are what `write_mono_wav` writes. -/
theorem writeMonoWav_eq {f32ToS24Bytes : α → S24} {samples : List α} {sampleRate : ℕ}
    {header : Bytes} (h : wavHeader samples.length sampleRate = .ok header) :
    writeMonoWav f32ToS24Bytes samples sampleRate =
      .ok (header ++ encodeSamples f32ToS24Bytes samples) := by
  unfold wavHeader at h
  split_ifs at h with hlong hlarge hrate
  obtain rfl := Except.ok.inj h
  simp only [wavSampleBytes] at hlong hlarge
  have hu32 : u32Max = 2 ^ 32 - 1 := rfl
  rw [writeMonoWav, if_neg hlong, if_neg hlarge, foldl_encode, Nat.mod_eq_of_lt (by omega)]
  rfl

theorem wavHeader_ok_iff {frames sampleRate : ℕ} :
    (∃ header, wavHeader frames sampleRate = .ok header) ↔
      frames * 3 ≤ u32Max - 36 ∧ sampleRate * 3 ≤ u32Max := by
  have hu64 : u64Max = 2 ^ 64 - 1 := rfl
  have hu32 : u32Max = 2 ^ 32 - 1 := rfl
  simp only [wavHeader, wavSampleBytes]
  by_cases hlarge : u32Max - 36 < frames * 3
  · have hno : ¬frames * 3 ≤ u32Max - 36 := by omega
    by_cases hlong : u64Max < frames * 3
    · simp [hlong, hno]
    · simp [hlong, hlarge, hno]
  · have hyes : frames * 3 ≤ u32Max - 36 := by omega
    have hshort : ¬u64Max < frames * 3 := by omega
    by_cases hrate : u32Max < sampleRate * 3
    · simp [hshort, hlarge, hrate]
    · simp [hshort, hlarge, hrate, hyes, Nat.le_of_not_lt hrate]

theorem wavHeader_mono {frames frames' sampleRate : ℕ} (hle : frames' ≤ frames)
    (h : ∃ header, wavHeader frames sampleRate = .ok header) :
    ∃ header, wavHeader frames' sampleRate = .ok header := by
  rw [wavHeader_ok_iff] at h ⊢
  omega

/-! ### The PCM buffer -/

theorem fillPcm_eq {f32ToS24Bytes : α → S24} {samples : List α} {channels channel frameOffset : ℕ}
    {pcm : Bytes} {batch : ℕ} (hchannel : channel < channels)
    (hsamples : (frameOffset + batch) * channels ≤ samples.length) (hpcm : batch * 3 ≤ pcm.length) :
    fillPcm f32ToS24Bytes samples frameOffset channels channel pcm batch =
      .ok (copyFromSlice pcm 0 (encodeSamples f32ToS24Bytes
        (channelSamples samples channels channel frameOffset batch))) := by
  induction batch with
  | zero => simp [fillPcm, copyFromSlice, channelSamples, encodeSamples, pure, Except.pure]
  | succ batch ih =>
      have hle : (frameOffset + batch + 1) * channels ≤ samples.length := hsamples
      rw [Nat.succ_mul] at hle
      have hfront := ih (by omega) (by omega)
      unfold fillPcm at hfront ⊢
      obtain ⟨sample, hsample⟩ :
          ∃ sample, samples[(frameOffset + batch) * channels + channel]? = some sample :=
        ⟨_, List.getElem?_eq_getElem (by omega)⟩
      have hcount : (channelSamples samples channels channel frameOffset batch).length = batch :=
        length_channelSamples hchannel (by omega)
      rw [List.range_succ, List.foldlM_append, hfront]
      simp only [List.foldlM_cons, List.foldlM_nil, hsample, bind, Except.bind, pure, Except.pure]
      have hwrites := copyFromSlice_copyFromSlice pcm
        (encodeSamples f32ToS24Bytes (channelSamples samples channels channel frameOffset batch))
        (f32ToS24Bytes sample).bytes 0 (by
          rw [length_encodeSamples, hcount]
          simp only [S24.bytes, List.length_cons, List.length_nil]
          omega)
      rw [length_encodeSamples, hcount, Nat.zero_add] at hwrites
      rw [hwrites, channelSamples_add, encodeSamples_append]
      simp [channelSamples, hsample, encodeSamples]

/-! ### Calls -/

/-- One of the calls made so far was refused. -/
def Refused (fault : ℕ → Option IoErrorKind) (state : StreamState α) : Prop :=
  ∃ call < state.io.calls, (fault call).isSome

/-- The state with other files, after some more calls. -/
def StreamState.withFiles (state : StreamState α) (files : String → Option Bytes) (calls : ℕ) :
    StreamState α :=
  { state with io := { state.io with files, calls } }

theorem onIo_call {effect : (String → Option Bytes) → Except IoErrorKind (String → Option Bytes)}
    {files : String → Option Bytes} {state : StreamState α}
    (heffect : effect state.io.files = .ok files) :
    Attempt.Ends (StreamState.onIo (WavIo.call effect)) state
      (fun _ state' => ∃ calls, state' = state.withFiles files calls)
      (fun _ state' => Refused state.io.fault state') := by
  refine .zoom ?_
  unfold Attempt.Ends WavIo.call
  cases hfault : state.io.fault state.io.calls with
  | some kind => exact ⟨state.io.calls, Nat.lt_succ_self _, by simp [hfault]⟩
  | none =>
      simp only [heffect]
      exact ⟨state.io.calls + 1, rfl⟩

theorem writeHeader_ends {path : String} {header : Bytes} {state : StreamState α} :
    Attempt.Ends (writeHeader path header) state
      (fun _ state' => ∃ calls, state' = state.withFiles
        (Function.update state.io.files path ((state.io.files path).map (· ++ header))) calls)
      (fun _ state' => Refused state.io.fault state') := by
  have hwrite : Attempt.Ends (StreamState.onIo (WavIo.writeAll path header)) state
      (fun _ state' => ∃ calls, state' = state.withFiles
        (Function.update state.io.files path ((state.io.files path).map (· ++ header))) calls)
      (fun _ state' => Refused state.io.fault state') := onIo_call rfl
  refine .bind (Q := fun result state' => (result = .ok () ∧ ∃ calls, state' = state.withFiles
      (Function.update state.io.files path ((state.io.files path).map (· ++ header))) calls) ∨
      (∃ e, result = .error e) ∧ Refused state.io.fault state')
    (.capture (hwrite.mono (fun _ _ hstate => .inl ⟨rfl, hstate⟩)
      fun e _ hstate => .inr ⟨⟨e, rfl⟩, hstate⟩)) ?_
  rintro result state' (⟨rfl, hstate⟩ | ⟨⟨e, rfl⟩, hstate⟩)
  · exact .pure hstate
  · exact .bindModify (.fail hstate)

/-- A writer moves to an output whose file is not there yet. -/
theorem openWriter_ends {slots : PlanSlots} {channel index stop : ℕ} {output : OutputFileSlot}
    {header : Bytes} {state : StreamState α} (houtput : slots.outputs[index]? = some output)
    (hheader : wavHeader output.frameCount slots.config.sampleRate = .ok header)
    (habsent : state.io.files (slots.paths output.stagedPath) = none) :
    Attempt.Ends (openWriter slots channel index stop) state
      (fun _ state' => ∃ calls, state' = (state.withFiles
        (Function.update state.io.files (slots.paths output.stagedPath) (some header))
          calls).setWriter channel ⟨some (slots.paths output.stagedPath), index, 0, stop⟩)
      (fun _ state' => Refused state.io.fault state') := by
  simp only [openWriter, houtput]
  have hopen : Attempt.Ends (StreamState.onIo (WavIo.open (slots.paths output.stagedPath))) state
      (fun _ state' => ∃ calls, state' = state.withFiles
        (Function.update state.io.files (slots.paths output.stagedPath) (some [])) calls)
      (fun _ state' => Refused state.io.fault state') := onIo_call (by simp [habsent])
  refine .bind hopen ?_
  rintro - _ ⟨calls, rfl⟩
  refine .bindOfExcept (fun e he => ?_) fun header' heq => ?_
  · rw [hheader] at he
    cases he
  · obtain rfl := Except.ok.inj (hheader.symm.trans heq)
    refine .bind writeHeader_ends ?_
    rintro - _ ⟨calls', rfl⟩
    refine .modify ⟨calls', ?_⟩
    simp [StreamState.withFiles]

theorem finalizeWriter_ends {channel : ℕ} {writer : WriterSlot} {state : StreamState α}
    (hwriter : state.writers[channel]? = some writer) (hopen : writer.file.isSome) :
    Attempt.Ends (finalizeWriter channel) state
      (fun _ state' => ∃ calls, state' = (state.withFiles state.io.files calls).setWriter channel
        { writer with file := none })
      (fun _ state' => Refused state.io.fault state') := by
  unfold finalizeWriter
  refine .bindGet ?_
  simp only [hwriter]
  rw [if_neg (by simpa using Option.isSome_iff_ne_none.mp hopen)]
  refine .bindModify (.bind (onIo_call rfl) ?_)
  rintro - _ ⟨calls, rfl⟩
  refine (onIo_call rfl).mono ?_ fun _ _ h => h
  rintro - _ ⟨calls', rfl⟩
  exact ⟨calls', rfl⟩

theorem finalizeWriter_idle {channel : ℕ} {writer : WriterSlot} {state : StreamState α}
    (hwriter : state.writers[channel]? = some writer) (hclosed : writer.file = none) :
    finalizeWriter channel state = (.ok (), state) := by
  unfold finalizeWriter
  simp [Attempt.get, bind, hwriter, hclosed, pure]

/-! ### The table of parts -/

/-- What is streamed and where to: the retained channels of a range of the
history, in parts of `framesPerPart` frames. The files were `before`. -/
structure StreamPlan (α : Type) where
  f32ToS24Bytes : α → S24
  slots : PlanSlots
  retained : List ℕ
  exportRange : Range
  framesPerPart : ℕ
  history : List α
  header : ℕ → Bytes
  before : String → Option Bytes

namespace StreamPlan

variable (plan : StreamPlan α)

def channels : ℕ := plan.slots.config.channels

def total : ℕ := plan.exportRange.stop - plan.exportRange.start

def parts : ℕ := divCeil plan.total plan.framesPerPart

def size (part : ℕ) : ℕ := (partAt plan.total plan.framesPerPart part).frameCount

/-- The path of a part of the retained channel number `number`. -/
def staged (number part : ℕ) : String :=
  match plan.slots.outputs[number * plan.parts + part]? with
  | some output => plan.slots.paths output.stagedPath
  | none => ""

/-- The outputs are the parts of the retained channels in order, each staged
under a path of its own. -/
structure Table : Prop where
  framesPerPart_pos : 0 < plan.framesPerPart
  sorted : plan.retained.Pairwise (· < ·)
  channel_lt : ∀ channel ∈ plan.retained, channel < plan.channels
  outputCount : plan.slots.outputCount = plan.retained.length * plan.parts
  output : ∀ number channel part, plan.retained[number]? = some channel → part < plan.parts →
    ∃ output, plan.slots.outputs[number * plan.parts + part]? = some output ∧
      output.channel = channel ∧ output.frameCount = plan.size part
  staged_inj : ∀ number number' part part', number < plan.retained.length →
    number' < plan.retained.length → part < plan.parts → part' < plan.parts →
    plan.staged number part = plan.staged number' part' → number = number' ∧ part = part'
  history : plan.exportRange.stop * plan.channels ≤ plan.history.length
  order : plan.exportRange.start ≤ plan.exportRange.stop

/-- A table whose parts are short enough for a header. -/
structure Valid : Prop extends Table plan where
  header : plan.retained ≠ [] → ∀ part < plan.parts,
    wavHeader (plan.size part) plan.slots.config.sampleRate = .ok (plan.header part)

/-- The frames of a channel from its frame number `frame` of the export on. -/
def samples (channel frame count : ℕ) : List α :=
  channelSamples plan.history plan.channels channel (plan.exportRange.start + frame) count

/-- The file of a part once `progress` frames of its channel are written. -/
def partBytes (channel part progress : ℕ) : Option Bytes :=
  if part * plan.framesPerPart ≤ progress then
    some (plan.header part ++ encodeSamples plan.f32ToS24Bytes
      (plan.samples channel (part * plan.framesPerPart)
        (min progress ((part + 1) * plan.framesPerPart) - part * plan.framesPerPart)))
  else none

structure WriterAt (number progress : ℕ) (writer : WriterSlot) : Prop where
  running : progress < plan.total → writer =
    { file := some (plan.staged number (progress / plan.framesPerPart))
      outputIndex := number * plan.parts + progress / plan.framesPerPart
      framesWritten := progress % plan.framesPerPart
      outputEnd := (number + 1) * plan.parts }
  finished : plan.total ≤ progress → writer.file = none

/-- A path that no part is staged at. -/
def Foreign (path : String) : Prop :=
  ∀ number part, number < plan.retained.length → part < plan.parts → path ≠ plan.staged number part

/-- Of the retained channel number `number`, `progress number` frames are
written. -/
structure Streamed (fault : ℕ → Option IoErrorKind) (scratchFrames : ℕ) (progress : ℕ → ℕ)
    (state : StreamState α) : Prop where
  fault : state.io.fault = fault
  writers_length : state.writers.length = plan.channels
  pcm_length : state.pcm.length = plan.channels
  pcm : ∀ buffer ∈ state.pcm, 3 ≤ buffer.length
  scratch : state.scratch.length = scratchFrames * plan.channels
  progress_le : ∀ number, progress number ≤ plan.total
  writer : ∀ number channel, plan.retained[number]? = some channel →
    ∃ writer, state.writers[channel]? = some writer ∧
      plan.WriterAt number (progress number) writer
  idle : ∀ channel writer, channel ∉ plan.retained → state.writers[channel]? = some writer →
    writer.file = none
  files : ∀ number channel part, plan.retained[number]? = some channel → part < plan.parts →
    state.io.files (plan.staged number part) = plan.partBytes channel part (progress number)
  others : ∀ path, plan.Foreign path → state.io.files path = plan.before path

variable {plan}

theorem lt_parts_iff (hvalid : plan.Valid) {part : ℕ} :
    part < plan.parts ↔ part * plan.framesPerPart < plan.total :=
  lt_divCeil_iff hvalid.framesPerPart_pos

theorem retained_ne_nil {number channel : ℕ} (hnumber : plan.retained[number]? = some channel) :
    plan.retained ≠ [] :=
  List.ne_nil_of_mem (List.mem_of_getElem? hnumber)

theorem Valid.staged_eq (hvalid : plan.Valid) {number channel part : ℕ}
    (hnumber : plan.retained[number]? = some channel) (hpart : part < plan.parts) :
    ∃ output, plan.slots.outputs[number * plan.parts + part]? = some output ∧
      output.channel = channel ∧ output.frameCount = plan.size part ∧
      plan.slots.paths output.stagedPath = plan.staged number part := by
  obtain ⟨output, houtput, hchannel, hcount⟩ := hvalid.output number channel part hnumber hpart
  exact ⟨output, houtput, hchannel, hcount, by simp [staged, houtput]⟩

theorem Valid.number_eq (hvalid : plan.Valid) {number number' channel : ℕ}
    (h : plan.retained[number]? = some channel) (h' : plan.retained[number']? = some channel) :
    number = number' := by
  have hnodup : plan.retained.Nodup := hvalid.sorted.imp Nat.ne_of_lt
  obtain ⟨hlt, hget⟩ := List.getElem?_eq_some_iff.mp h
  obtain ⟨hlt', hget'⟩ := List.getElem?_eq_some_iff.mp h'
  exact (List.Nodup.getElem_inj_iff hnodup).mp (hget.trans hget'.symm)

/-- One channel moves on: its writer and its files change, the others stay. -/
theorem Streamed.advance {fault : ℕ → Option IoErrorKind} {scratchFrames : ℕ}
    {progress : ℕ → ℕ} {state state' : StreamState α} (hvalid : plan.Valid)
    (h : plan.Streamed fault scratchFrames progress state) {number channel reached : ℕ}
    {writer : WriterSlot} (hnumber : plan.retained[number]? = some channel)
    (hreached : reached ≤ plan.total) (hwriter : plan.WriterAt number reached writer)
    (hfault : state'.io.fault = fault)
    (hwriters : state'.writers = state.writers.set channel writer)
    (hpcmLength : state'.pcm.length = plan.channels)
    (hpcm : ∀ buffer ∈ state'.pcm, 3 ≤ buffer.length)
    (hscratch : state'.scratch = state.scratch)
    (hfiles : ∀ part < plan.parts, state'.io.files (plan.staged number part) =
      plan.partBytes channel part reached)
    (hothers : ∀ path, (∀ part < plan.parts, path ≠ plan.staged number part) →
      state'.io.files path = state.io.files path) :
    plan.Streamed fault scratchFrames (Function.update progress number reached) state' := by
  have hchannel : channel < state.writers.length := by
    rw [h.writers_length]
    exact hvalid.channel_lt channel (List.mem_of_getElem? hnumber)
  refine ⟨hfault, ?_, hpcmLength, hpcm, ?_, ?_, ?_, ?_, ?_, ?_⟩
  · rw [hwriters, List.length_set, h.writers_length]
  · rw [hscratch, h.scratch]
  · intro number'
    by_cases heq : number' = number
    · rw [heq, Function.update_self]
      exact hreached
    · rw [Function.update_of_ne heq]
      exact h.progress_le number'
  · intro number' channel' hnumber'
    by_cases heq : number' = number
    · subst heq
      obtain rfl : channel' = channel := by
        rw [hnumber] at hnumber'
        exact (Option.some.inj hnumber').symm
      rw [Function.update_self, hwriters]
      exact ⟨writer, by simp [hchannel], hwriter⟩
    · have hne : channel ≠ channel' := by
        rintro rfl
        exact heq (hvalid.number_eq hnumber' hnumber)
      rw [Function.update_of_ne heq, hwriters]
      obtain ⟨writer', hget, hat⟩ := h.writer number' channel' hnumber'
      exact ⟨writer', by rw [List.getElem?_set_ne hne]; exact hget, hat⟩
  · intro channel' writer' hout hget
    have hne : channel ≠ channel' := by
      rintro rfl
      exact hout (List.mem_of_getElem? hnumber)
    rw [hwriters, List.getElem?_set_ne hne] at hget
    exact h.idle channel' writer' hout hget
  · intro number' channel' part hnumber' hpart
    by_cases heq : number' = number
    · subst heq
      obtain rfl : channel' = channel := by
        rw [hnumber] at hnumber'
        exact (Option.some.inj hnumber').symm
      rw [Function.update_self]
      exact hfiles part hpart
    · rw [Function.update_of_ne heq, hothers, h.files number' channel' part hnumber' hpart]
      intro part' hpart' hsame
      have hlt := (List.getElem?_eq_some_iff.mp hnumber).1
      have hlt' := (List.getElem?_eq_some_iff.mp hnumber').1
      exact heq (hvalid.staged_inj _ _ _ _ hlt' hlt hpart hpart' hsame).1
  · intro path hforeign
    have hlt := (List.getElem?_eq_some_iff.mp hnumber).1
    rw [hothers path fun part hpart => hforeign number part hlt hpart]
    exact h.others path hforeign

/-! ### One batch -/

theorem channelSamples_slice {history : List α} {channels channel start length frameOffset count : ℕ}
    (hchannel : channel < channels) (hcount : frameOffset + count ≤ length) :
    channelSamples (slice history (start * channels) (length * channels)) channels channel
      frameOffset count = channelSamples history channels channel (start + frameOffset) count := by
  refine List.filterMap_congr fun frame hframe => ?_
  have hlt : frameOffset + frame + 1 ≤ length := by
    have := List.mem_range.mp hframe
    omega
  have hmul := Nat.mul_le_mul_right channels hlt
  rw [Nat.succ_mul] at hmul
  rw [getElem?_slice, if_pos (by omega)]
  congr 1
  rw [Nat.add_assoc start, Nat.add_mul start]
  omega

/-- A channel in the middle of a part. -/
theorem Valid.part_of_lt (hvalid : plan.Valid) {frame : ℕ} (hframe : frame < plan.total) :
    frame / plan.framesPerPart < plan.parts ∧
      frame / plan.framesPerPart * plan.framesPerPart + frame % plan.framesPerPart = frame ∧
      frame % plan.framesPerPart < plan.framesPerPart := by
  have hmod := Nat.mod_lt frame hvalid.framesPerPart_pos
  have hdiv := Nat.div_add_mod' frame plan.framesPerPart
  refine ⟨(lt_parts_iff hvalid).mpr ?_, hdiv, hmod⟩
  omega

theorem encode_samples_add (channel frame m n : ℕ) :
    encodeSamples plan.f32ToS24Bytes (plan.samples channel frame m) ++
        encodeSamples plan.f32ToS24Bytes (plan.samples channel (frame + m) n) =
      encodeSamples plan.f32ToS24Bytes (plan.samples channel frame (m + n)) := by
  simp only [samples, channelSamples_add, encodeSamples_append, Nat.add_assoc]

/-- Writing up to the end of part `part` changes this part, begins the next
one when the end is reached, and leaves the others. -/
theorem partBytes_step (channel : ℕ) {part offset reached other : ℕ}
    (hoffset : offset < plan.framesPerPart) (hlow : part * plan.framesPerPart + offset ≤ reached)
    (hhigh : reached ≤ (part + 1) * plan.framesPerPart) :
    plan.partBytes channel other reached =
      if other = part then some (plan.header part ++ encodeSamples plan.f32ToS24Bytes
        (plan.samples channel (part * plan.framesPerPart) (reached - part * plan.framesPerPart)))
      else if other = part + 1 ∧ reached = (part + 1) * plan.framesPerPart then
        some (plan.header (part + 1))
      else plan.partBytes channel other (part * plan.framesPerPart + offset) := by
  have hsucc : (part + 1) * plan.framesPerPart =
      part * plan.framesPerPart + plan.framesPerPart := Nat.succ_mul _ _
  rcases Nat.lt_trichotomy other part with hlt | rfl | hgt
  · have hmul := Nat.mul_le_mul_right plan.framesPerPart (Nat.succ_le_of_lt hlt)
    have hother : (other + 1) * plan.framesPerPart =
        other * plan.framesPerPart + plan.framesPerPart := Nat.succ_mul _ _
    rw [if_neg (by omega), if_neg (by omega)]
    rw [Nat.succ_eq_add_one] at hmul
    unfold partBytes
    rw [if_pos (by omega), if_pos (by omega), Nat.min_eq_right (by omega),
      Nat.min_eq_right (by omega)]
  · rw [if_pos rfl]
    unfold partBytes
    rw [if_pos (by omega), Nat.min_eq_left (by omega)]
  · rw [if_neg (by omega)]
    have hmul := Nat.mul_le_mul_right plan.framesPerPart (Nat.succ_le_of_lt hgt)
    rw [Nat.succ_eq_add_one] at hmul
    by_cases hnext : other = part + 1 ∧ reached = (part + 1) * plan.framesPerPart
    · obtain ⟨rfl, rfl⟩ := hnext
      have hlast : (part + 1 + 1) * plan.framesPerPart =
          (part + 1) * plan.framesPerPart + plan.framesPerPart := Nat.succ_mul _ _
      rw [if_pos ⟨rfl, rfl⟩]
      unfold partBytes
      rw [if_pos (Nat.le_refl _), Nat.min_eq_left (by omega), Nat.sub_self]
      simp [samples, channelSamples, encodeSamples]
    · rw [if_neg hnext]
      have hbelow : reached < other * plan.framesPerPart := by
        by_contra hnot
        have hreached : reached = (part + 1) * plan.framesPerPart := by omega
        have hother : part + 1 < other := by omega
        have hmore := Nat.mul_le_mul_right plan.framesPerPart (Nat.succ_le_of_lt hother)
        rw [Nat.succ_eq_add_one, Nat.succ_mul (part + 1)] at hmore
        omega
      unfold partBytes
      rw [if_neg (by omega), if_neg (by omega)]

theorem index_lt_iff {number part : ℕ} :
    number * plan.parts + part + 1 < (number + 1) * plan.parts ↔ part + 1 < plan.parts := by
  rw [Nat.succ_mul]
  omega

theorem setWriter_getElem? {state : StreamState α} {channel : ℕ}
    (hchannel : channel < state.writers.length) (writer : WriterSlot) :
    (state.setWriter channel writer).writers[channel]? = some writer := by
  simp [StreamState.setWriter, hchannel]

theorem setWriter_setWriter (state : StreamState α) (channel : ℕ) (writer writer' : WriterSlot)
    (files : String → Option Bytes) (calls : ℕ) :
    ((state.setWriter channel writer).withFiles files calls).setWriter channel writer' =
      (state.withFiles files calls).setWriter channel writer' := by
  simp [StreamState.setWriter, StreamState.withFiles]

/-- At the end of a part its file is closed, and the next part of the channel,
if there is one, begun. -/
theorem nextPart_ends (hvalid : plan.Valid) {number channel part : ℕ} {state : StreamState α}
    {writer current : WriterSlot} (hnumber : plan.retained[number]? = some channel)
    (hpart : part < plan.parts) (hget : state.writers[channel]? = some current)
    (hopen : current.file.isSome) (hindex : writer.outputIndex = number * plan.parts + part)
    (hend : writer.outputEnd = (number + 1) * plan.parts)
    (habsent : part + 1 < plan.parts → state.io.files (plan.staged number (part + 1)) = none) :
    Attempt.Ends (nextPart plan.slots channel writer) state
      (fun _ state' => ∃ writer' calls,
        plan.WriterAt number (part * plan.framesPerPart + plan.size part) writer' ∧
        state' = (state.withFiles (if part + 1 < plan.parts then
          Function.update state.io.files (plan.staged number (part + 1))
            (some (plan.header (part + 1))) else state.io.files) calls).setWriter channel writer')
      (fun _ state' => Refused state.io.fault state') := by
  have hsize : plan.size part =
      min (plan.total - part * plan.framesPerPart) plan.framesPerPart := rfl
  have hinside := (lt_parts_iff hvalid).mp hpart
  have hsucc : (part + 1) * plan.framesPerPart =
      part * plan.framesPerPart + plan.framesPerPart := Nat.succ_mul _ _
  unfold nextPart
  refine .bind (finalizeWriter_ends hget hopen) ?_
  rintro - _ ⟨calls, rfl⟩
  by_cases hnext : part + 1 < plan.parts
  · have hbelow := (lt_parts_iff hvalid).mp hnext
    have hreached : part * plan.framesPerPart + plan.size part =
        (part + 1) * plan.framesPerPart := by omega
    obtain ⟨output, houtput, -, hcount, hstaged⟩ := hvalid.staged_eq hnumber hnext
    have hheader := hvalid.header (retained_ne_nil hnumber) (part + 1) hnext
    rw [hindex, hend, if_pos (index_lt_iff.mpr hnext)]
    simp only [if_pos hnext]
    rw [← hcount] at hheader
    refine (openWriter_ends houtput hheader ?_).mono ?_ fun _ _ h => h
    · rw [hstaged]
      exact habsent hnext
    · rintro - _ ⟨calls', rfl⟩
      refine ⟨⟨some (plan.slots.paths output.stagedPath), number * plan.parts + (part + 1), 0,
        (number + 1) * plan.parts⟩, calls', ⟨fun _ => ?_, fun hfull => ?_⟩, ?_⟩
      · rw [hreached, Nat.mul_div_cancel _ hvalid.framesPerPart_pos, Nat.mul_mod_left, hstaged]
      · omega
      · rw [hstaged]
        exact setWriter_setWriter _ _ _ _ _ _
  · have hlast : plan.total ≤ (part + 1) * plan.framesPerPart := by
      by_contra hnot
      exact hnext ((lt_parts_iff hvalid).mpr (by omega))
    rw [hindex, hend, if_neg (mt index_lt_iff.mp hnext)]
    simp only [if_neg hnext]
    refine .pure ⟨{ current with file := none }, calls, ⟨fun hlt => ?_, fun _ => rfl⟩, rfl⟩
    omega

/-- The block `samples` are `frames` frames of the history from frame `cursor`
of the export on. -/
structure IsBlock (plan : StreamPlan α) (samples : List α) (cursor frames : ℕ) : Prop where
  samples : samples = slice plan.history ((plan.exportRange.start + cursor) * plan.channels)
    (frames * plan.channels)
  inside : cursor + frames ≤ plan.total

theorem IsBlock.length {samples : List α} {cursor frames : ℕ} (hvalid : plan.Valid)
    (h : plan.IsBlock samples cursor frames) : samples.length = frames * plan.channels := by
  have hinside : plan.exportRange.start + cursor + frames ≤ plan.exportRange.stop := by
    have hin := h.inside
    have htotal : plan.total = plan.exportRange.stop - plan.exportRange.start := rfl
    have horder := hvalid.order
    omega
  rw [h.samples, length_slice_of_le]
  rw [← Nat.add_mul]
  exact (Nat.mul_le_mul_right _ hinside).trans hvalid.history

/-- The PCM buffer is filled with the next `batch` samples of the channel. -/
theorem IsBlock.fillPcm {samples : List α} {cursor frames frameOffset batch channel : ℕ}
    (hvalid : plan.Valid) (h : plan.IsBlock samples cursor frames)
    (hchannel : channel < plan.channels) (hbatch : frameOffset + batch ≤ frames) {pcm : Bytes}
    (hfits : batch * 3 ≤ pcm.length) :
    ∃ pcm', Export.fillPcm plan.f32ToS24Bytes samples frameOffset plan.channels channel pcm batch =
        .ok pcm' ∧ pcm'.length = pcm.length ∧ pcm'.take (batch * 3) =
      encodeSamples plan.f32ToS24Bytes (plan.samples channel (cursor + frameOffset) batch) := by
  have henough : (frameOffset + batch) * plan.channels ≤ samples.length := by
    rw [h.length hvalid]
    exact Nat.mul_le_mul_right _ hbatch
  have hlength := length_encodeSamples plan.f32ToS24Bytes
    (channelSamples samples plan.channels channel frameOffset batch)
  rw [length_channelSamples hchannel henough] at hlength
  refine ⟨_, fillPcm_eq hchannel henough hfits, length_copyFromSlice (by omega), ?_⟩
  have hsamples : plan.samples channel (cursor + frameOffset) batch =
      channelSamples samples plan.channels channel frameOffset batch := by
    rw [h.samples, channelSamples_slice hchannel hbatch, StreamPlan.samples, Nat.add_assoc]
  rw [hsamples, copyFromSlice, List.take_zero, List.nil_append, ← hlength, List.take_left']
  rfl

/-- The files after a batch that reached frame `reached` of its part. -/
theorem Streamed.files_reached {fault : ℕ → Option IoErrorKind} {scratchFrames : ℕ}
    {progress : ℕ → ℕ} {state : StreamState α} (hvalid : plan.Valid)
    (h : plan.Streamed fault scratchFrames progress state) {number channel part offset reached : ℕ}
    (hnumber : plan.retained[number]? = some channel) (hpart : part < plan.parts)
    (hprogress : part * plan.framesPerPart + offset = progress number)
    (hoffset : offset < plan.framesPerPart) (hlow : progress number ≤ reached)
    (hhigh : reached ≤ (part + 1) * plan.framesPerPart) {files : String → Option Bytes}
    (hfiles : files = Function.update state.io.files (plan.staged number part)
      (some (plan.header part ++ encodeSamples plan.f32ToS24Bytes
        (plan.samples channel (part * plan.framesPerPart) (reached - part * plan.framesPerPart)))))
    (begun : Prop) [Decidable begun]
    (hbegun : begun ↔ reached = (part + 1) * plan.framesPerPart ∧ part + 1 < plan.parts) :
    ∀ other < plan.parts, (if begun then Function.update files (plan.staged number (part + 1))
      (some (plan.header (part + 1))) else files) (plan.staged number other) =
        plan.partBytes channel other reached := by
  intro other hother
  have hlt := (List.getElem?_eq_some_iff.mp hnumber).1
  have hold := h.files number channel other hnumber hother
  have hinj : ∀ {part' : ℕ}, part' < plan.parts → other ≠ part' →
      plan.staged number other ≠ plan.staged number part' := fun hpart' hne hsame =>
    hne (hvalid.staged_inj _ _ _ _ hlt hlt hother hpart' hsame).2
  rw [partBytes_step channel hoffset (by omega) hhigh, hprogress, ← hold, hfiles]
  by_cases hsame : other = part
  · subst hsame
    rw [if_pos rfl]
    by_cases hnext : begun
    · rw [if_pos hnext, Function.update_of_ne (hinj (hbegun.mp hnext).2 (by omega)),
        Function.update_self]
    · rw [if_neg hnext, Function.update_self]
  · rw [if_neg hsame]
    by_cases hnext : begun
    · obtain ⟨hreached, hmore⟩ := hbegun.mp hnext
      rw [if_pos hnext]
      by_cases hsucc : other = part + 1
      · subst hsucc
        rw [if_pos ⟨rfl, hreached⟩, Function.update_self]
      · rw [if_neg fun hboth => hsucc hboth.1, Function.update_of_ne (hinj hmore hsucc),
          Function.update_of_ne (hinj hpart hsame)]
    · rw [if_neg hnext, if_neg, Function.update_of_ne (hinj hpart hsame)]
      rintro ⟨rfl, hreached⟩
      exact hnext (hbegun.mpr ⟨hreached, hother⟩)

theorem writeAll_ends {path : String} {contents bytes : Bytes} {state : StreamState α}
    (hfile : state.io.files path = some contents) :
    Attempt.Ends (StreamState.onIo (WavIo.writeAll path bytes)) state
      (fun _ state' => ∃ calls, state' = state.withFiles
        (Function.update state.io.files path (some (contents ++ bytes))) calls)
      (fun _ state' => Refused state.io.fault state') :=
  onIo_call (by rw [hfile]; rfl)

/-- One pass of the loop writes at least one frame, and the frames it writes
are the next ones of the channel. -/
theorem Streamed.writeBatch {fault : ℕ → Option IoErrorKind} {scratchFrames : ℕ}
    {progress : ℕ → ℕ} {state : StreamState α} (hvalid : plan.Valid)
    (h : plan.Streamed fault scratchFrames progress state) {number channel : ℕ}
    (hnumber : plan.retained[number]? = some channel) {samples : List α}
    {cursor frames frameOffset : ℕ} (hblock : plan.IsBlock samples cursor frames)
    (hoffset : frameOffset < frames) (hprogress : progress number = cursor + frameOffset) :
    Attempt.Ends (writeBatch plan.f32ToS24Bytes plan.slots samples frames plan.channels channel
        frameOffset) state
      (fun batch state' => 0 < batch ∧ frameOffset + batch ≤ frames ∧
        plan.Streamed fault scratchFrames
          (Function.update progress number (progress number + batch)) state')
      (fun _ state' => Refused fault state') := by
  obtain rfl := h.fault
  have hinside := hblock.inside
  have hrunning : progress number < plan.total := by omega
  obtain ⟨hpart, hdiv, hmod⟩ := hvalid.part_of_lt hrunning
  obtain ⟨writer, hwriter, hat⟩ := h.writer number channel hnumber
  obtain rfl := hat.running hrunning
  obtain ⟨output, houtput, -, hcount, hstaged⟩ := hvalid.staged_eq hnumber hpart
  generalize hp : progress number / plan.framesPerPart = part at *
  generalize hr : progress number % plan.framesPerPart = offset at *
  have hchannel := hvalid.channel_lt channel (List.mem_of_getElem? hnumber)
  obtain ⟨pcm, hpcm⟩ : ∃ pcm, state.pcm[channel]? = some pcm :=
    ⟨_, List.getElem?_eq_getElem (by rw [h.pcm_length]; exact hchannel)⟩
  have hroom := h.pcm pcm (List.mem_of_getElem? hpcm)
  have hsize : plan.size part =
      min (plan.total - part * plan.framesPerPart) plan.framesPerPart := rfl
  have hsucc : (part + 1) * plan.framesPerPart =
      part * plan.framesPerPart + plan.framesPerPart := Nat.succ_mul _ _
  unfold Export.writeBatch
  refine .bindGet ?_
  simp only [hwriter, hpcm, houtput, hcount]
  generalize hb : min (min (frames - frameOffset) (plan.size part - offset)) (pcm.length / 3) =
    batch
  have hpos : 0 < batch := by omega
  have hfits : batch * 3 ≤ pcm.length := by omega
  obtain ⟨pcm', hfill, hlength, hencoded⟩ :=
    hblock.fillPcm hvalid hchannel (show frameOffset + batch ≤ frames by omega) hfits
  rw [hfill]
  refine .bindOk rfl (.bindModify ?_)
  rw [hencoded, ← hprogress]
  have hcontents : state.io.files (plan.staged number part) = some (plan.header part ++
      encodeSamples plan.f32ToS24Bytes
        (plan.samples channel (part * plan.framesPerPart) offset)) := by
    rw [h.files number channel part hnumber hpart, ← hdiv,
      partBytes_step channel hmod (Nat.le_refl _) (by omega), if_pos rfl, Nat.add_sub_cancel_left]
  have hjoined : plan.header part ++ encodeSamples plan.f32ToS24Bytes
        (plan.samples channel (part * plan.framesPerPart) offset) ++
      encodeSamples plan.f32ToS24Bytes (plan.samples channel (progress number) batch) =
      plan.header part ++ encodeSamples plan.f32ToS24Bytes
        (plan.samples channel (part * plan.framesPerPart)
          (progress number + batch - part * plan.framesPerPart)) := by
    have hreached : progress number + batch - part * plan.framesPerPart = offset + batch := by
      omega
    rw [hreached, List.append_assoc, ← encode_samples_add, hdiv]
  have hpcms : (state.pcm.set channel pcm').length = plan.channels ∧
      ∀ buffer ∈ state.pcm.set channel pcm', 3 ≤ buffer.length := by
    refine ⟨by rw [List.length_set, h.pcm_length], fun buffer hmem => ?_⟩
    obtain hold | rfl := List.mem_or_eq_of_mem_set hmem
    · exact h.pcm buffer hold
    · omega
  have hwrite := @writeAll_ends _ _ _
    (encodeSamples plan.f32ToS24Bytes (plan.samples channel (progress number) batch))
    { state with pcm := state.pcm.set channel pcm' } hcontents
  rw [hjoined] at hwrite
  refine .bind hwrite ?_
  rintro - _ ⟨calls, rfl⟩
  refine .bindModify ?_
  have hfiles := fun begun [Decidable begun] => h.files_reached hvalid hnumber hpart hdiv hmod
    (Nat.le_add_right _ batch) (by omega) rfl begun
  by_cases hfull : offset + batch = plan.size part
  · rw [if_pos hfull]
    have hlast : part + 1 < plan.parts ↔
        progress number + batch = (part + 1) * plan.framesPerPart ∧ part + 1 < plan.parts := by
      rw [lt_parts_iff hvalid]
      omega
    have hopened : channel < state.writers.length := by
      rw [h.writers_length]
      exact hchannel
    refine .bind (nextPart_ends hvalid hnumber hpart (setWriter_getElem? hopened _) rfl rfl rfl
      fun hnext => ?_) ?_
    · have hlt := (List.getElem?_eq_some_iff.mp hnumber).1
      have hne : plan.staged number (part + 1) ≠ plan.staged number part := fun hsame => by
        have := (hvalid.staged_inj _ _ _ _ hlt hlt hnext hpart hsame).2
        omega
      refine (Function.update_of_ne hne _ _).trans ?_
      rw [h.files number channel (part + 1) hnumber hnext]
      exact if_neg (by omega)
    · rintro - _ ⟨writer', calls', hat', rfl⟩
      rw [← hfull, ← Nat.add_assoc, hdiv] at hat'
      refine .pure ⟨hpos, by omega, h.advance hvalid hnumber (by omega) hat' rfl ?_ hpcms.1
        hpcms.2 rfl (hfiles _ hlast) fun path hpath => ?_⟩
      · simp [StreamState.setWriter, StreamState.withFiles]
      · have hother : Function.update state.io.files (plan.staged number part) (some (plan.header part ++
            encodeSamples plan.f32ToS24Bytes (plan.samples channel (part * plan.framesPerPart)
              (progress number + batch - part * plan.framesPerPart)))) path = state.io.files path :=
          Function.update_of_ne (hpath part hpart) _ _
        simp only [StreamState.setWriter, StreamState.withFiles]
        by_cases hnext : part + 1 < plan.parts
        · rw [if_pos hnext, Function.update_of_ne (hpath (part + 1) hnext), hother]
        · rw [if_neg hnext, hother]
  · rw [if_neg hfull]
    have hsame : (progress number + batch) / plan.framesPerPart = part ∧
        (progress number + batch) % plan.framesPerPart = offset + batch := by
      rw [← hdiv, Nat.add_assoc, Nat.mul_comm]
      exact ⟨by rw [Nat.mul_add_div hvalid.framesPerPart_pos, Nat.div_eq_of_lt (by omega), Nat.add_zero],
        by rw [Nat.mul_add_mod, Nat.mod_eq_of_lt (by omega)]⟩
    refine .pure ⟨hpos, by omega, h.advance hvalid hnumber (by omega) ⟨fun _ => ?_, fun hend => ?_⟩
      rfl rfl hpcms.1 hpcms.2 rfl ?_ fun path hpath => ?_⟩
    · rw [hsame.1, hsame.2]
    · omega
    · exact hfiles False ⟨False.elim, fun hend => by omega⟩
    · exact Function.update_of_ne (hpath part hpart) _ _

/-! ### One block -/

theorem Streamed.congr {fault : ℕ → Option IoErrorKind} {scratchFrames : ℕ}
    {progress progress' : ℕ → ℕ} {state : StreamState α}
    (h : plan.Streamed fault scratchFrames progress state)
    (heq : ∀ number < plan.retained.length, progress number = progress' number)
    (hle : ∀ number, progress' number ≤ plan.total) :
    plan.Streamed fault scratchFrames progress' state := by
  refine ⟨h.fault, h.writers_length, h.pcm_length, h.pcm, h.scratch, hle, ?_, h.idle, ?_,
    h.others⟩
  · intro number channel hnumber
    rw [← heq number (List.getElem?_eq_some_iff.mp hnumber).1]
    exact h.writer number channel hnumber
  · intro number channel part hnumber hpart
    rw [← heq number (List.getElem?_eq_some_iff.mp hnumber).1]
    exact h.files number channel part hnumber hpart

/-- A channel moves to the end of the block. -/
theorem Streamed.writeChannelBlock {fault : ℕ → Option IoErrorKind} {scratchFrames : ℕ}
    {progress : ℕ → ℕ} {state : StreamState α} (hvalid : plan.Valid)
    (h : plan.Streamed fault scratchFrames progress state) {number channel : ℕ}
    (hnumber : plan.retained[number]? = some channel) {samples : List α}
    {cursor frames frameOffset fuel : ℕ} (hblock : plan.IsBlock samples cursor frames)
    (hoffset : frameOffset ≤ frames) (hfuel : frames ≤ frameOffset + fuel)
    (hprogress : progress number = cursor + frameOffset) :
    Attempt.Ends (writeChannelBlock plan.f32ToS24Bytes plan.slots samples frames plan.channels
        channel fuel frameOffset) state
      (fun _ state' => plan.Streamed fault scratchFrames
        (Function.update progress number (cursor + frames)) state')
      (fun _ state' => Refused fault state') := by
  induction fuel generalizing progress state frameOffset with
  | zero =>
      unfold Export.writeChannelBlock
      rw [if_neg (by omega)]
      refine .pure ?_
      have hdone : cursor + frames = progress number := by omega
      rw [hdone, Function.update_eq_self]
      exact h
  | succ fuel ih =>
      unfold Export.writeChannelBlock
      by_cases hmore : frameOffset < frames
      · rw [if_pos hmore]
        refine .bind (h.writeBatch hvalid hnumber hblock hmore hprogress) ?_
        rintro batch state' ⟨hpos, hle, hnext⟩
        refine (ih hnext hle (by omega) ?_).mono (fun _ state'' hdone => ?_) fun _ _ he => he
        · rw [Function.update_self, hprogress, Nat.add_assoc]
        · rw [Function.update_idem] at hdone
          exact hdone
      · rw [if_neg hmore]
        refine .pure ?_
        have hdone : cursor + frames = progress number := by omega
        rw [hdone, Function.update_eq_self]
        exact h

/-- The channels of `rest` are still at the start of the block, the others at
its end. -/
theorem Streamed.writeBlock {fault : ℕ → Option IoErrorKind} {scratchFrames : ℕ}
    {progress : ℕ → ℕ} {state : StreamState α} (hvalid : plan.Valid)
    (h : plan.Streamed fault scratchFrames progress state) {samples : List α}
    {cursor copied : ℕ} (hblock : plan.IsBlock samples cursor copied) (hpos : 0 < copied)
    {rest : List ℕ} (hnodup : rest.Nodup) (hrest : ∀ channel ∈ rest, channel < plan.channels)
    (hprogress : ∀ number channel, plan.retained[number]? = some channel →
      progress number = if channel ∈ rest then cursor else cursor + copied) :
    Attempt.Ends (writeBlock plan.f32ToS24Bytes plan.slots samples copied rest) state
      (fun _ state' => plan.Streamed fault scratchFrames (fun _ => cursor + copied) state')
      (fun _ state' => Refused fault state') := by
  have hinside := hblock.inside
  induction rest generalizing progress state with
  | nil =>
      unfold Export.writeBlock
      refine .pure (h.congr (fun number hlt => ?_) fun _ => hinside)
      rw [hprogress number _ (List.getElem?_eq_getElem hlt), if_neg List.not_mem_nil]
  | cons channel rest ih =>
      obtain ⟨hnotin, hnodup⟩ := List.nodup_cons.mp hnodup
      have hchannel := hrest channel List.mem_cons_self
      have hrest' : ∀ other ∈ rest, other < plan.channels := fun other hother =>
        hrest other (List.mem_cons_of_mem _ hother)
      obtain ⟨writer, hwriter⟩ : ∃ writer, state.writers[channel]? = some writer :=
        ⟨_, List.getElem?_eq_getElem (by rw [h.writers_length]; exact hchannel)⟩
      unfold Export.writeBlock
      refine .bindGet ?_
      simp only [hwriter]
      by_cases hretained : channel ∈ plan.retained
      · obtain ⟨number, hnumber⟩ := List.mem_iff_getElem?.mp hretained
        have hstart : progress number = cursor := by
          rw [hprogress number channel hnumber, if_pos List.mem_cons_self]
        obtain ⟨writer', hwriter', hat⟩ := h.writer number channel hnumber
        obtain rfl := Option.some.inj (hwriter.symm.trans hwriter')
        have hopen := hat.running (by omega)
        rw [if_neg (by rw [hopen]; simp)]
        refine .bind (h.writeChannelBlock hvalid hnumber hblock (Nat.zero_le _) (by omega) hstart) ?_
        intro _ state' hnext
        refine ih hnext hnodup hrest' ?_
        intro number' channel' hnumber'
        by_cases hsame : number' = number
        · subst hsame
          obtain rfl := Option.some.inj (hnumber.symm.trans hnumber')
          rw [Function.update_self, if_neg hnotin]
        · have hother : channel' ≠ channel := by
            rintro rfl
            exact hsame (hvalid.number_eq hnumber' hnumber)
          rw [Function.update_of_ne hsame, hprogress number' channel' hnumber']
          simp [hother]
      · rw [if_pos (by rw [h.idle channel writer hretained hwriter]; rfl)]
        refine ih h hnodup hrest' ?_
        intro number' channel' hnumber'
        have hother : channel' ≠ channel := by
          rintro rfl
          exact hretained (List.mem_of_getElem? hnumber')
        rw [hprogress number' channel' hnumber']
        simp [hother]

end StreamPlan

end Lamb.Export
