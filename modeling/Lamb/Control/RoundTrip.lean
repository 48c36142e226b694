import Lamb.Control.Rendered
import Lamb.Lib.Loop

/-!
The line of a persistence response is read back by both clients: the one that renders it
prints the lines of the outcome, and the general one builds a response equal to what was
written in every field.
-/

namespace Lamb.Control

open Lamb.Lib (Document Attempt)
open Lamb.Lib.Document (asBool asU32 asU64 asF64 asString asOption asArray required defaulted
  asU32_ofU32 asU64_ofU64 asF64_float asOption_ofOption asArray_map)

variable {F : Type} {doubles : Doubles F}

/-! ### Enumerations -/

theorem DaemonState.read_write (state : DaemonState) :
    DaemonState.read (writeVariant DaemonState.name state : Document F) = some state := by
  cases state with
  | ready => rfl
  | degraded => rfl
  | stopping => rfl

theorem CaptureState.read_write (state : CaptureState) :
    CaptureState.read (writeVariant CaptureState.name state : Document F) = some state := by
  cases state with
  | stopped => rfl
  | starting => rfl
  | running => rfl
  | waitingForDevice => rfl
  | faulted => rfl

theorem ErrorClass.read_write (class' : ErrorClass) :
    ErrorClass.read (writeVariant ErrorClass.name class' : Document F) = some class' := by
  cases class' with
  | permanent => rfl
  | transient => rfl
  | fatal => rfl

theorem RetryPolicy.read_write (policy : RetryPolicy) :
    RetryPolicy.read (writeVariant RetryPolicy.name policy : Document F) = some policy := by
  cases policy with
  | none => rfl
  | manual => rfl
  | boundedBackoff => rfl

/-! ### The status -/

/-- The numbers of the status are finite, so JSON has them. -/
def DaemonStatus.Finite (doubles : Doubles F) (status : DaemonStatus F) : Prop :=
  doubles.isFinite status.bufferCapacitySeconds = true ∧
    doubles.isFinite status.retainedSeconds = true

theorem asString_optional (text : Option String) :
    asOption asString (.ofOption .str text : Document F) = some text := by
  have hread : ∀ text, asString (.str text : Document F) = some text := fun _ => rfl
  exact asOption_ofOption hread (fun _ h => nomatch h) text

theorem asF64_write {value : F} (h : doubles.isFinite value = true) :
    asF64 doubles.ofNat (doubles.write value) = some value := by
  unfold Doubles.write
  rw [if_pos h]
  rfl

/-- The fields of the lifecycle are found among all fields of the status. -/
theorem DaemonLifecycleStatus.read_fields (status : DaemonStatus F) :
    DaemonLifecycleStatus.read (status.fields doubles) = some status.lifecycle := by
  have hdaemon : defaulted (status.fields doubles) "daemonState" DaemonState.read .ready =
      some status.lifecycle.daemonState := DaemonState.read_write _
  have hcapture : defaulted (status.fields doubles) "captureState" CaptureState.read .stopped =
      some status.lifecycle.captureState := CaptureState.read_write _
  have hclass : defaulted (status.fields doubles) "errorClass" (asOption ErrorClass.read) none =
      some status.lifecycle.errorClass :=
    asOption_ofOption ErrorClass.read_write (fun _ h => nomatch h) _
  have herror : defaulted (status.fields doubles) "lastError" (asOption asString) none =
      some status.lifecycle.lastError := asString_optional (F := F) _
  have hpolicy : defaulted (status.fields doubles) "retryPolicy" RetryPolicy.read .none =
      some status.lifecycle.retryPolicy := RetryPolicy.read_write _
  have hattempt : defaulted (status.fields doubles) "retryAttempt" asU32 0 =
      some status.lifecycle.retryAttempt := asU32_ofU32 (F := F) _
  have hnext : defaulted (status.fields doubles) "nextRetryAt" (asOption asU64) none =
      some status.lifecycle.nextRetryAt := asOption_ofOption asU64_ofU64 (fun _ h => nomatch h) _
  have hprofile : defaulted (status.fields doubles) "activeProfile" (asOption asString) none =
      some status.lifecycle.activeProfile := asString_optional (F := F) _
  have htarget : defaulted (status.fields doubles) "resolvedTarget" (asOption asString) none =
      some status.lifecycle.resolvedTarget := asString_optional (F := F) _
  simp only [DaemonLifecycleStatus.read, DaemonLifecycleStatus.default, hdaemon, hcapture,
    hclass, herror, hpolicy, hattempt, hnext, hprofile, htarget]
  rfl

theorem DaemonStatus.read_write (status : DaemonStatus F) (hfinite : status.Finite doubles) :
    DaemonStatus.read doubles (status.write doubles) = some status := by
  have hstate : required (status.fields doubles) "state" asString = some status.state := rfl
  have hactive : required (status.fields doubles) "active_export_count" asU32 =
      some status.activeExportCount := asU32_ofU32 (F := F) _
  have hpending : required (status.fields doubles) "pending_recall_count" asU32 =
      some status.pendingRecallCount := asU32_ofU32 (F := F) _
  have hcapacity : required (status.fields doubles) "buffer_capacity_seconds"
      (asF64 doubles.ofNat) = some status.bufferCapacitySeconds := asF64_write hfinite.1
  have hretained : required (status.fields doubles) "retained_seconds" (asF64 doubles.ofNat) =
      some status.retainedSeconds := asF64_write hfinite.2
  have hdropped : required (status.fields doubles) "dropped_frames" asU64 =
      some status.droppedFrames := asU64_ofU64 (F := F) _
  have htarget : defaulted (status.fields doubles) "target" (asOption asString) none =
      some status.target := asString_optional (F := F) _
  have hresolved : defaulted (status.fields doubles) "resolved_target" (asOption asString) none =
      some status.resolvedTarget := asString_optional (F := F) _
  have hrate : required (status.fields doubles) "sample_rate" asU32 =
      some status.sampleRate := asU32_ofU32 (F := F) _
  have hchannels : required (status.fields doubles) "channel_count" asU32 =
      some status.channelCount := asU32_ofU32 (F := F) _
  have hformat : required (status.fields doubles) "format" asString = some status.format := rfl
  have herror : defaulted (status.fields doubles) "last_error" (asOption asString) none =
      some status.lastError := asString_optional (F := F) _
  simp only [DaemonStatus.write, DaemonStatus.read, hstate, hactive, hpending, hcapacity,
    hretained, hdropped, htarget, hresolved, hrate, hchannels, hformat, herror,
    DaemonLifecycleStatus.read_fields]
  rfl

/-! ### The outcome -/

/-- The ranges of a committed outcome agree with its count of frames. -/
def CommittedPersistence.Consistent : CommittedPersistence → Prop
  | .written range exportRange frames _ _ =>
      (range.start ≤ range.stop ∧ range.stop - range.start = frames) ∧
        range.start ≤ exportRange.start ∧ exportRange.stop = range.stop ∧
        exportRange.start ≤ exportRange.stop
  | .skippedSilent range frames _ => range.start ≤ range.stop ∧ range.stop - range.start = frames
  | .skippedByPolicy range frames _ =>
      range.start ≤ range.stop ∧ range.stop - range.start = frames
  | .noNewAudio _ => True

/-- A path that is text and fits the buffer of the client. -/
def PathFits (path : ByteArray) : Prop :=
  path.IsValidUTF8 ∧ path.size ≤ defaultMaximumPathBytes

def CommittedPersistence.PathsFit : CommittedPersistence → Prop
  | .written _ _ _ _ output =>
      PathFits output.outputDirectory ∧ ∀ path ∈ output.files, PathFits path
  | _ => True

/-- The outcome in the form a client reads. -/
def CommittedPersistence.response (doubles : Doubles F) (sampleRate : UInt32) :
    CommittedPersistence → PersistenceOutcomeResponse F
  | .written range exportRange frames losses output =>
      .written (consumedFields doubles sampleRate range frames) exportRange.start
        (exportRange.stop - exportRange.start) (lossFields losses) output.outputDirectory
        output.files
  | .skippedSilent range frames losses =>
      .skippedSilent (consumedFields doubles sampleRate range frames) (lossFields losses)
  | .skippedByPolicy range frames losses =>
      .skippedByPolicy (consumedFields doubles sampleRate range frames) (lossFields losses)
  | .noNewAudio losses => .noNewAudio (lossFields losses)

theorem PathFits.exists_text {path : ByteArray} (h : PathFits path) :
    ∃ text : String, text.toUTF8 = path ∧ text.utf8ByteSize ≤ defaultMaximumPathBytes :=
  ⟨String.fromUTF8 path h.1, rfl, h.2⟩

theorem exists_texts {paths : List ByteArray} (h : ∀ path ∈ paths, PathFits path) :
    ∃ texts : List String, texts.map String.toUTF8 = paths ∧
      ∀ text ∈ texts, text.utf8ByteSize ≤ defaultMaximumPathBytes := by
  induction paths with
  | nil => exact ⟨[], rfl, nofun⟩
  | cons path paths ih =>
      obtain ⟨text, htext, hsize⟩ := (h path List.mem_cons_self).exists_text
      obtain ⟨texts, htexts, hsizes⟩ := ih fun path hmem => h path (List.mem_cons_of_mem _ hmem)
      refine ⟨text :: texts, by rw [List.map_cons, htext, htexts], ?_⟩
      exact List.forall_mem_cons.mpr ⟨hsize, hsizes⟩

theorem pathText_toUTF8 (message text : String) : pathText message text.toUTF8 = .ok text := by
  unfold pathText
  rw [toStr_toUTF8]

theorem validateFiles_texts (texts : List String) :
    validateFiles (texts.map String.toUTF8) = .ok () := by
  refine Lamb.Lib.forM_eq_ok.mpr fun path hpath => ?_
  obtain ⟨text, -, rfl⟩ := List.mem_map.mp hpath
  rw [pathText_toUTF8]
  rfl

theorem serializeFiles_texts (texts : List String) :
    serializeFiles (F := F) (texts.map String.toUTF8) = .ok (.arr (texts.map .str)) := by
  have hitems : ((texts.map String.toUTF8).mapM fun path => do
      let text ← pathText "persistence response file path is not UTF-8" path
      pure (.str text : Document F)) = (.ok (texts.map .str) : Result (List (Document F))) := by
    induction texts with
    | nil => rfl
    | cons text texts ih =>
        rw [List.map_cons, List.mapM_cons, ih, pathText_toUTF8]
        rfl
  unfold serializeFiles
  rw [hitems]
  rfl

theorem validateConsumedGeometry_ok {range : FrameRange} {frames : UInt64}
    (h : range.start ≤ range.stop ∧ range.stop - range.start = frames) :
    validateConsumedGeometry range frames = .ok () := by
  refine if_neg ?_
  rintro (hlt | hne)
  · exact absurd hlt (UInt64.not_lt.mpr h.1)
  · exact hne h.2

theorem validateGeometry_ok {range exportRange : FrameRange} {frames : UInt64}
    (h : range.start ≤ range.stop ∧ range.stop - range.start = frames)
    (hstart : range.start ≤ exportRange.start) (hstop : exportRange.stop = range.stop)
    (horder : exportRange.start ≤ exportRange.stop) :
    validateGeometry range exportRange frames = .ok () := by
  unfold validateGeometry
  rw [validateConsumedGeometry_ok h]
  refine if_neg ?_
  rintro (hlt | hne | hlt)
  · exact absurd hlt (UInt64.not_lt.mpr hstart)
  · exact hne hstop
  · exact absurd hlt (UInt64.not_lt.mpr horder)

theorem writtenExportRange_ok {start stop exportStart : UInt64} (hrange : start ≤ stop)
    (hstart : start ≤ exportStart) (hstop : exportStart ≤ stop) :
    writtenExportRange start stop (some exportStart) (some (stop - exportStart)) =
      .ok (exportStart, stop - exportStart) := by
  have hsub : exportStart.toNat + (stop - exportStart).toNat = stop.toNat := by
    rw [UInt64.toNat_sub_of_le _ _ hstop]
    have := UInt64.le_iff_toNat_le.mp hstop
    omega
  have hsum : exportStart + (stop - exportStart) = stop := by
    refine UInt64.toNat_inj.mp ?_
    rw [UInt64.toNat_add, hsub]
    exact Nat.mod_eq_of_lt stop.toNat_lt
  unfold writtenExportRange
  rw [if_neg (UInt64.not_lt.mpr hrange)]
  simp only [if_neg (UInt64.not_lt.mpr hstart), hsub, if_neg (Nat.not_le.mpr stop.toNat_lt),
    hsum, ne_eq, not_true_eq_false, if_false]

/-! ### Reading the outcome -/

theorem readPath_str (text : String) : readPath (.str text : Document F) = some text.toUTF8 :=
  rfl

section Single

open Lamb.Lib.Document (single required_eq defaulted_eq)

variable {fields : List (String × Document F)}

theorem ConsumedFields.read_eq (consumed : ConsumedFields F)
    (hfinite : doubles.isFinite consumed.durationSeconds = true)
    (hstart : single fields "start_frame" = some (some (.ofU64 consumed.startFrame)))
    (hend : single fields "end_frame" = some (some (.ofU64 consumed.endFrame)))
    (hframes : single fields "frames" = some (some (.ofU64 consumed.frames)))
    (hduration : single fields "duration_seconds" =
      some (some (doubles.write consumed.durationSeconds))) :
    ConsumedFields.read doubles fields = some consumed := by
  simp only [ConsumedFields.read, required_eq hstart, required_eq hend, required_eq hframes,
    required_eq hduration, asU64_ofU64, asF64_write hfinite]
  rfl

theorem LossFields.read_eq (losses : LossFields) (absent : Option UInt64)
    (hlost : single fields "lost_frames" = some (some (.ofU64 losses.lostFrames)))
    (hretention : single fields "retention_lost_frames" =
      some (some (.ofU64 losses.retentionLostFrames)))
    (hcleared : single fields "cleared_frames" = some (some (.ofU64 losses.clearedFrames)))
    (hdropped : single fields "capture_dropped_frames" =
      some (some (.ofU64 losses.captureDroppedFrames))) :
    LossFields.read absent fields = some losses := by
  cases absent with
  | none =>
      simp only [LossFields.read, required_eq hlost, defaulted_eq hretention,
        defaulted_eq hcleared, defaulted_eq hdropped, asU64_ofU64]
      rfl
  | some absent =>
      simp only [LossFields.read, defaulted_eq hlost, defaulted_eq hretention,
        defaulted_eq hcleared, defaulted_eq hdropped, asU64_ofU64]
      rfl

end Single

theorem read_written (consumed : ConsumedFields F) {exportStartFrame exportFrames : UInt64}
    (losses : LossFields) (directory : String) (texts : List String)
    (hfinite : doubles.isFinite consumed.durationSeconds = true)
    (hrange : writtenExportRange consumed.startFrame consumed.endFrame (some exportStartFrame)
      (some exportFrames) = .ok (exportStartFrame, exportFrames)) :
    PersistenceOutcomeResponse.read doubles (.obj (writtenFields doubles consumed
        exportStartFrame exportFrames losses directory (.arr (texts.map .str)))) =
      some (.written consumed exportStartFrame exportFrames losses directory.toUTF8
        (texts.map String.toUTF8)) := by
  have hexport : ∀ value : UInt64,
      asOption asU64 (Document.ofU64 value : Document F) = some (some value) := fun value =>
    asOption_ofOption asU64_ofU64 (fun _ h => nomatch h) (some value)
  have hfiles : asArray readPath (.arr (texts.map .str) : Document F) =
      some (texts.map String.toUTF8) := asArray_map texts fun _ _ => rfl
  change (do
    let consumed ← ConsumedFields.read doubles _
    let exportStartFrame ← asOption asU64 (Document.ofU64 exportStartFrame : Document F)
    let exportFrames ← asOption asU64 (Document.ofU64 exportFrames : Document F)
    let losses ← LossFields.read none _
    let outputDirectory ← readPath (.str directory : Document F)
    let files ← asArray readPath (.arr (texts.map .str) : Document F)
    let range ← (writtenExportRange consumed.startFrame consumed.endFrame exportStartFrame
      exportFrames).toOption
    pure (PersistenceOutcomeResponse.written consumed range.1 range.2 losses outputDirectory
      files)) = _
  rw [ConsumedFields.read_eq consumed hfinite rfl rfl rfl rfl, hexport, hexport,
    LossFields.read_eq losses none rfl rfl rfl rfl, hfiles]
  change (do
    let range ← (writtenExportRange consumed.startFrame consumed.endFrame (some exportStartFrame)
      (some exportFrames)).toOption
    pure (PersistenceOutcomeResponse.written consumed range.1 range.2 losses directory.toUTF8
      (texts.map String.toUTF8))) = _
  rw [hrange]
  rfl

theorem read_skippedSilent (consumed : ConsumedFields F) (losses : LossFields)
    (hfinite : doubles.isFinite consumed.durationSeconds = true) :
    PersistenceOutcomeResponse.read doubles
        (.obj (skippedFields doubles "skipped_silent" consumed losses)) =
      some (.skippedSilent consumed losses) := by
  change (do
    pure (PersistenceOutcomeResponse.skippedSilent (← ConsumedFields.read doubles _)
      (← LossFields.read none _))) = _
  rw [ConsumedFields.read_eq consumed hfinite rfl rfl rfl rfl,
    LossFields.read_eq losses none rfl rfl rfl rfl]
  rfl

theorem read_skippedByPolicy (consumed : ConsumedFields F) (losses : LossFields)
    (hfinite : doubles.isFinite consumed.durationSeconds = true) :
    PersistenceOutcomeResponse.read doubles
        (.obj (skippedFields doubles "skipped_by_policy" consumed losses)) =
      some (.skippedByPolicy consumed losses) := by
  change (do
    pure (PersistenceOutcomeResponse.skippedByPolicy (← ConsumedFields.read doubles _)
      (← LossFields.read none _))) = _
  rw [ConsumedFields.read_eq consumed hfinite rfl rfl rfl rfl,
    LossFields.read_eq losses none rfl rfl rfl rfl]
  rfl

theorem read_noNewAudio (losses : LossFields) :
    PersistenceOutcomeResponse.read doubles (.obj (noNewAudioFields losses)) =
      some (.noNewAudio losses) := by
  change (do
    pure (PersistenceOutcomeResponse.noNewAudio (← LossFields.read (some 0) _))) = _
  rw [LossFields.read_eq losses (some 0) rfl rfl rfl rfl]
  rfl

/-! ### The response -/

/-- The document stands for the outcome with both readers. -/
structure Carries (doubles : Doubles F) (document : Document F)
    (response : PersistenceOutcomeResponse F) : Prop where
  read : asOption (PersistenceOutcomeResponse.read doubles) document = some (some response)
  rendered : ∀ state : ClientState, ∃ first rest buffer,
    response.lines doubles = first :: rest ∧ readOutcome doubles document state =
      (.ok true, ⟨state.output ++ (first ++ following rest), buffer⟩)

theorem asOption_obj {fields : List (String × Document F)}
    {response : PersistenceOutcomeResponse F}
    (h : PersistenceOutcomeResponse.read doubles (.obj fields) = some response) :
    asOption (PersistenceOutcomeResponse.read doubles) (.obj fields) = some (some response) := by
  change (PersistenceOutcomeResponse.read doubles (.obj fields)).map some = _
  rw [h]
  rfl

theorem consumedFields_finite (doubles : Doubles F) (range : FrameRange) (frames : UInt64) {sampleRate : UInt32}
    (hrate : sampleRate ≠ 0) :
    doubles.isFinite (consumedFields doubles sampleRate range frames).durationSeconds = true :=
  doubles.seconds_finite frames sampleRate hrate

/-- A consistent outcome is written, as a document that stands for it. -/
theorem exists_carries (doubles : Doubles F) (outcome : CommittedPersistence) {sampleRate : UInt32}
    (hrate : sampleRate ≠ 0) (hconsistent : outcome.Consistent) (hpaths : outcome.PathsFit) :
    ∃ borrowed document,
      BorrowedPersistenceOutcome.new doubles sampleRate outcome = .ok borrowed ∧
      borrowed.serialize doubles = .ok document ∧
      Carries doubles document (outcome.response doubles sampleRate) := by
  cases outcome with
  | written range exportRange frames losses output =>
      obtain ⟨hrange, hstart, hstop, horder⟩ := hconsistent
      obtain ⟨directory, hdirectory, hsize⟩ := hpaths.1.exists_text
      obtain ⟨texts, htexts, hsizes⟩ := exists_texts hpaths.2
      have hfinite := consumedFields_finite doubles range frames hrate
      have hexport : writtenExportRange range.start range.stop (some exportRange.start)
          (some (exportRange.stop - exportRange.start)) =
          .ok (exportRange.start, exportRange.stop - exportRange.start) := by
        rw [hstop] at horder ⊢
        exact writtenExportRange_ok hrange.1 hstart horder
      refine ⟨.written (consumedFields doubles sampleRate range frames) exportRange.start
        (exportRange.stop - exportRange.start) (lossFields losses) directory output.files,
        .obj (writtenFields doubles (consumedFields doubles sampleRate range frames)
          exportRange.start (exportRange.stop - exportRange.start) (lossFields losses) directory
          (.arr (texts.map .str))), ?_, ?_, ?_, ?_⟩
      · rw [BorrowedPersistenceOutcome.new, validateGeometry_ok hrange hstart hstop horder,
          ← hdirectory, pathText_toUTF8, ← htexts, validateFiles_texts]
        rfl
      · rw [BorrowedPersistenceOutcome.serialize, ← htexts, serializeFiles_texts]
        rfl
      · refine asOption_obj ((read_written _ _ _ _ hfinite hexport).trans ?_)
        rw [hdirectory, htexts]
        rfl
      · intro state
        obtain ⟨buffer, hrendered⟩ := readOutcome_written
          (consumedFields doubles sampleRate range frames) (lossFields losses) texts hfinite
          hexport hsize hsizes state
        refine ⟨_, _, buffer, ?_, hrendered⟩
        rw [hdirectory, htexts]
        rfl
  | skippedSilent range frames losses =>
      have hfinite := consumedFields_finite doubles range frames hrate
      refine ⟨.skippedSilent (consumedFields doubles sampleRate range frames)
        (lossFields losses), _, ?_, rfl, asOption_obj (read_skippedSilent _ _ hfinite), ?_⟩
      · rw [BorrowedPersistenceOutcome.new, validateConsumedGeometry_ok hconsistent]
        rfl
      · intro state
        exact ⟨_, _, state.buffer, rfl,
          readOutcome_skipped _ _ rfl (.inl ⟨rfl, rfl⟩) hfinite state⟩
  | skippedByPolicy range frames losses =>
      have hfinite := consumedFields_finite doubles range frames hrate
      refine ⟨.skippedByPolicy (consumedFields doubles sampleRate range frames)
        (lossFields losses), _, ?_, rfl, asOption_obj (read_skippedByPolicy _ _ hfinite), ?_⟩
      · rw [BorrowedPersistenceOutcome.new, validateConsumedGeometry_ok hconsistent]
        rfl
      · intro state
        exact ⟨_, _, state.buffer, rfl,
          readOutcome_skipped _ _ rfl (.inr ⟨rfl, rfl⟩) hfinite state⟩
  | noNewAudio losses =>
      refine ⟨.noNewAudio (lossFields losses), _, rfl, rfl,
        asOption_obj (read_noNewAudio _), fun state => ?_⟩
      exact ⟨_, _, state.buffer, rfl, readOutcome_noNewAudio _ state⟩

/-- The fields of the response in the order they are written in. -/
def responseFields (doubles : Doubles F) (ok : Bool) (message : String)
    (status : DaemonStatus F) (document : Document F) : List (String × Document F) :=
  [("ok", .bool ok), ("message", .str message), ("status", status.write doubles),
    ("persistence_outcome", document)]

theorem readPersistenceResponse_ok (message : String) (status : DaemonStatus F)
    {document : Document F} {response : PersistenceOutcomeResponse F}
    (carries : Carries doubles document response) (state : ClientState) :
    ∃ buffer, readPersistenceResponse doubles
        (.obj (responseFields doubles true message status document)) state =
      (.ok (.ok ()), ⟨state.output ++ unlines (response.lines doubles), buffer⟩) := by
  obtain ⟨first, rest, buffer, hlines, hrendered⟩ := carries.rendered state
  refine ⟨buffer, ?_⟩
  have hfields : visitResponseFields doubles
        (responseFields doubles true message status document) ⟨none, none, false, false⟩ state =
      (.ok ⟨some true, some message, true, true⟩,
        ⟨state.output ++ (first ++ following rest), buffer⟩) := by
    have houtcome : visitResponseField doubles ⟨some true, some message, false, false⟩
          .persistenceOutcome document state =
        (.ok ⟨some true, some message, true, true⟩,
          ⟨state.output ++ (first ++ following rest), buffer⟩) := by
      unfold visitResponseField
      exact (Attempt.bind_of_ok hrendered).trans rfl
    exact (Attempt.bind_of_ok houtcome).trans rfl
  have houtput : state.output ++ unlines (response.lines doubles) =
      state.output ++ (first ++ following rest) ++ "\n".toUTF8 := by
    rw [hlines, unlines_cons]
    simp only [ByteArray.append_assoc]
  rw [houtput]
  exact (Attempt.bind_of_ok hfields).trans rfl

theorem readPersistenceResponse_not_ok (message : String) (status : DaemonStatus F)
    (document : Document F) (state : ClientState) :
    readPersistenceResponse doubles
        (.obj (responseFields doubles false message status document)) state =
      (.ok (.error message), state) :=
  rfl

theorem read_response {Report : Type} (readReport : Document F → Option Report) (ok : Bool)
    (message : String) (status : DaemonStatus F) (hfinite : status.Finite doubles)
    {document : Document F} {response : PersistenceOutcomeResponse F}
    (carries : Carries doubles document response) :
    ControlResponse.read doubles readReport
        (.obj (responseFields doubles ok message status document)) =
      some
        { ok := ok
          message := message
          status := some status
          errorContext := .default
          persistenceOutcome := some response
          thresholdReport := none } := by
  have hstatus : defaulted (responseFields doubles ok message status document) "status"
      (asOption (DaemonStatus.read doubles)) none = some (some status) := by
    change (DaemonStatus.read doubles (status.write doubles)).map some = _
    rw [DaemonStatus.read_write status hfinite]
    rfl
  have houtcome : defaulted (responseFields doubles ok message status document)
      "persistence_outcome" (asOption (PersistenceOutcomeResponse.read doubles)) none =
        some (some response) := carries.read
  have hok : required (responseFields doubles ok message status document) "ok" asBool =
      some ok := rfl
  have hmessage : required (responseFields doubles ok message status document) "message"
      asString = some message := rfl
  have hcontext : ControlErrorContext.read (responseFields doubles ok message status document) =
      some .default := rfl
  have hreport : defaulted (responseFields doubles ok message status document)
      "threshold_report" (asOption readReport) none = some none := rfl
  simp only [ControlResponse.read, hok, hmessage, hstatus, hcontext, houtcome, hreport]
  rfl

/-- What is written for a committed outcome is read back by both clients. The one that
renders prints the lines of the outcome after whatever its writer holds, each file path
once and in the order of the plan, if the response is ok, and hands back the message if it
is not; the other one finds every field as it was. -/
theorem persistence_response_round_trip {Report : Type} (doubles : Doubles F)
    (readReport : Document F → Option Report) (ok : Bool) (message : String)
    (status : DaemonStatus F) (hfinite : status.Finite doubles) (sampleRate : UInt32)
    (hrate : sampleRate ≠ 0) (outcome : CommittedPersistence)
    (hconsistent : outcome.Consistent) (hpaths : outcome.PathsFit) :
    ∃ line, writePersistenceResponse doubles ok message status sampleRate outcome = .ok line ∧
      (∀ state : ClientState, ok = true →
        ∃ buffer, readPersistenceResponse doubles line state =
          (.ok (.ok ()), ⟨state.output ++
            unlines ((outcome.response doubles sampleRate).lines doubles), buffer⟩)) ∧
      (∀ state : ClientState, ok = false →
        readPersistenceResponse doubles line state = (.ok (.error message), state)) ∧
      ControlResponse.read doubles readReport line = some
        { ok := ok
          message := message
          status := some status
          errorContext := .default
          persistenceOutcome := some (outcome.response doubles sampleRate)
          thresholdReport := none } := by
  obtain ⟨borrowed, document, hnew, hserialize, carries⟩ :=
    exists_carries doubles outcome hrate hconsistent hpaths
  refine ⟨.obj (responseFields doubles ok message status document), ?_, ?_, ?_,
    read_response readReport ok message status hfinite carries⟩
  · unfold writePersistenceResponse
    rw [if_neg hrate, hnew]
    change (borrowed.serialize doubles >>= _) = _
    rw [hserialize]
    rfl
  · rintro state rfl
    exact readPersistenceResponse_ok message status carries state
  · rintro state rfl
    exact readPersistenceResponse_not_ok message status document state

/-- Numbers of thousandths; `none` is not finite. -/
def thousandths : Doubles (Option ℕ) where
  isFinite := Option.isSome
  ofNat := fun value => some (1000 * value)
  seconds := fun frames rate => some (1000 * frames.toNat / rate.toNat)
  fixed := fun value =>
    match value with
    | some value => toString (value / 1000) ++ "." ++ toString (value / 100 % 10) ++
        toString (value / 10 % 10) ++ toString (value % 10)
    | none => "NaN"
  seconds_finite := fun _ _ _ => rfl

def capturingStatus (retainedSeconds : Option ℕ) : DaemonStatus (Option ℕ) where
  state := "capturing"
  activeExportCount := 0
  pendingRecallCount := 0
  bufferCapacitySeconds := some 1000
  retainedSeconds := retainedSeconds
  droppedFrames := 0
  target := none
  resolvedTarget := none
  sampleRate := 100
  channelCount := 1
  format := "F32LE"
  lastError := none
  lifecycle := .default

/-- Four frames in two files, two frames lost before them. -/
def twoFiles : CommittedPersistence :=
  .written ⟨2, 6⟩ ⟨2, 6⟩ 4 ⟨2, 0, 0⟩
    ⟨"/out/a".toUTF8, ["/out/a/mic.wav".toUTF8, "/out/a/gtr.wav".toUTF8]⟩

theorem persistence_response_round_trip_of_two_files :
    ∃ line, writePersistenceResponse thousandths true "persisted" (capturingStatus (some 500))
        100 twoFiles = .ok line ∧
      ControlResponse.read thousandths (fun _ => (none : Option Unit)) line = some
        { ok := true
          message := "persisted"
          status := some (capturingStatus (some 500))
          errorContext := .default
          persistenceOutcome := some (twoFiles.response thousandths 100)
          thresholdReport := none } := by
  have hpath : ∀ text : String, text.utf8ByteSize ≤ defaultMaximumPathBytes →
      PathFits text.toUTF8 := fun text hsize => ⟨text.isValidUTF8, hsize⟩
  obtain ⟨line, hline, -, -, hread⟩ := persistence_response_round_trip thousandths
    (fun _ => (none : Option Unit)) true "persisted" (capturingStatus (some 500)) ⟨rfl, rfl⟩ 100
    (by decide) twoFiles ⟨⟨by decide, by decide⟩, by decide, rfl, by decide⟩
    ⟨hpath "/out/a" (by decide), fun path hmem => by
      rcases List.mem_cons.mp hmem with rfl | hmem
      · exact hpath "/out/a/mic.wav" (by decide)
      · rw [List.mem_singleton.mp hmem]
        exact hpath "/out/a/gtr.wav" (by decide)⟩
  exact ⟨line, hline, hread⟩

/-- A status with a number that is not finite is written, but not read back. -/
theorem persistence_response_of_infinite_status :
    ∃ line, writePersistenceResponse thousandths true "persisted" (capturingStatus none) 100
        (.noNewAudio ⟨0, 0, 0⟩) = .ok line ∧
      ControlResponse.read thousandths (fun _ => (none : Option Unit)) line = none :=
  ⟨_, rfl, rfl⟩

end Lamb.Control
