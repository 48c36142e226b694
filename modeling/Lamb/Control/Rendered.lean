import Lamb.Control.Client

/-!
What the rendering client makes of the line the daemon writes: for each kind of outcome
the lines it is to print, and that reading the fields in the order of the writer prints
them.
-/

namespace Lamb.Control

open Lamb.Lib (Document Attempt)
open Lamb.Lib.Document (asBool asU64 asF64 asString)

variable {F : Type}

/-! ### What is to be printed -/

/-- The causes of a loss that count any frames. -/
def lossCauses (causes : List (String × UInt64)) : List String :=
  causes.filterMap fun cause =>
    if 0 < cause.2 then some (cause.1 ++ " " ++ toString cause.2.toNat) else none

def LossFields.causes (losses : LossFields) : String :=
  ", ".intercalate (lossCauses [("retention", losses.retentionLostFrames),
    ("cleared", losses.clearedFrames), ("capture-dropped", losses.captureDroppedFrames)])

def LossFields.warning (losses : LossFields) : Option String :=
  if losses.lostFrames = 0 then none
  else some ("warning: " ++ toString losses.lostFrames.toNat ++
    " frames were lost before persistence (" ++ losses.causes ++ ")")

def ConsumedFields.text (doubles : Doubles F) (consumed : ConsumedFields F) : String :=
  framesText doubles consumed.frames consumed.durationSeconds consumed.startFrame
    consumed.endFrame

/-- The lines of an outcome; the paths of the files are the last ones. -/
def PersistenceOutcomeResponse.lines (doubles : Doubles F) :
    PersistenceOutcomeResponse F → List ByteArray
  | .written consumed _ _ losses outputDirectory files =>
      ("written " ++ consumed.text doubles).toUTF8 :: losses.warning.toList.map String.toUTF8 ++
        ("output directory: ".toUTF8 ++ outputDirectory) :: files
  | .skippedSilent consumed losses =>
      ("skipped exact-zero audio: " ++ consumed.text doubles).toUTF8 ::
        losses.warning.toList.map String.toUTF8
  | .skippedByPolicy consumed losses =>
      ("skipped by policy: " ++ consumed.text doubles).toUTF8 ::
        losses.warning.toList.map String.toUTF8
  | .noNewAudio losses => "no new audio".toUTF8 :: losses.warning.toList.map String.toUTF8

/-- Every line with its end. -/
def unlines : List ByteArray → ByteArray
  | [] => ByteArray.empty
  | line :: lines => line ++ ("\n".toUTF8 ++ unlines lines)

/-- Every line with the end of the one before it. -/
def following : List ByteArray → ByteArray
  | [] => ByteArray.empty
  | line :: lines => "\n".toUTF8 ++ (line ++ following lines)

theorem following_append (front back : List ByteArray) :
    following (front ++ back) = following front ++ following back := by
  induction front with
  | nil => exact ByteArray.empty_append.symm
  | cons line front ih =>
      rw [List.cons_append, following, following, ih]
      simp only [ByteArray.append_assoc]

theorem unlines_cons (line : ByteArray) (lines : List ByteArray) :
    unlines (line :: lines) = line ++ (following lines ++ "\n".toUTF8) := by
  induction lines generalizing line with
  | nil => rw [unlines, unlines, following, ByteArray.empty_append, ByteArray.append_empty]
  | cons next lines ih =>
      rw [unlines, ih, following]
      simp only [ByteArray.append_assoc]

/-! ### Writing -/

/-- The computation writes these bytes and does nothing else. -/
def Writes (f : Client Unit) (bytes : ByteArray) : Prop :=
  ∀ state, f state = (.ok (), { state with output := state.output ++ bytes })

theorem writes_pure : Writes (pure ()) ByteArray.empty := by
  intro state
  change (Except.ok (), state) = _
  rw [ByteArray.append_empty]

theorem writes_write (text : String) : Writes (write text) text.toUTF8 :=
  fun _ => rfl

theorem Writes.bind {f g : Client Unit} {front back : ByteArray} (hf : Writes f front)
    (hg : Writes g back) : Writes (f >>= fun _ => g) (front ++ back) := by
  intro state
  have hbind : (f >>= fun _ => g) state =
      g { state with output := state.output ++ front } := by
    simp only [Bind.bind, hf state]
  rw [hbind, hg]
  simp only [ByteArray.append_assoc]

theorem Writes.of_eq {f : Client Unit} {bytes bytes' : ByteArray} (hf : Writes f bytes)
    (h : bytes = bytes') : Writes f bytes' :=
  h ▸ hf

theorem toUTF8_append (s t : String) : (s ++ t).toUTF8 = s.toUTF8 ++ t.toUTF8 :=
  String.toByteArray_append

theorem renderLossCauses_writes (separator : String) (causes : List (String × UInt64)) :
    Writes (renderLossCauses separator causes) (if lossCauses causes = [] then ByteArray.empty
      else (separator ++ ", ".intercalate (lossCauses causes)).toUTF8) := by
  induction causes generalizing separator with
  | nil => exact writes_pure
  | cons cause causes ih =>
      obtain ⟨label, count⟩ := cause
      by_cases hcount : 0 < count
      · have hcons : lossCauses ((label, count) :: causes) =
            (label ++ " " ++ toString count.toNat) :: lossCauses causes := by
          simp only [lossCauses, List.filterMap_cons, hcount, if_true]
        have hrender : renderLossCauses separator ((label, count) :: causes) = (do
            write (separator ++ label ++ " " ++ toString count.toNat)
            renderLossCauses ", " causes) := by
          rw [renderLossCauses, if_pos hcount]
        rw [hrender, hcons, if_neg (List.cons_ne_nil _ _)]
        have hwrites := (writes_write (separator ++ label ++ " " ++ toString count.toNat)).bind
          (ih ", ")
        cases hrest : lossCauses causes with
        | nil =>
            rw [hrest, if_pos rfl, ByteArray.append_empty] at hwrites
            rw [String.intercalate_singleton]
            simpa only [String.append_assoc] using hwrites
        | cons next rest =>
            rw [hrest, if_neg (List.cons_ne_nil _ _), ← toUTF8_append] at hwrites
            rw [String.intercalate_cons_cons]
            simpa only [String.append_assoc] using hwrites
      · have hcons : lossCauses ((label, count) :: causes) = lossCauses causes := by
          simp only [lossCauses, List.filterMap_cons, hcount, if_false]
        have hrender : renderLossCauses separator ((label, count) :: causes) =
            renderLossCauses separator causes := by
          rw [renderLossCauses, if_neg hcount]
        rw [hrender, hcons]
        exact ih separator

theorem renderLossWarning_writes (losses : LossFields) :
    Writes (renderLossWarning losses.lostFrames losses.retentionLostFrames losses.clearedFrames
      losses.captureDroppedFrames) (following (losses.warning.toList.map String.toUTF8)) := by
  unfold renderLossWarning LossFields.warning
  by_cases hlost : losses.lostFrames = 0
  · rw [if_pos hlost, if_pos hlost]
    exact writes_pure
  · rw [if_neg hlost, if_neg hlost]
    have hcauses := renderLossCauses_writes "" [("retention", losses.retentionLostFrames),
      ("cleared", losses.clearedFrames), ("capture-dropped", losses.captureDroppedFrames)]
    have htext : (if lossCauses [("retention", losses.retentionLostFrames),
          ("cleared", losses.clearedFrames),
          ("capture-dropped", losses.captureDroppedFrames)] = [] then ByteArray.empty
        else ("" ++ losses.causes).toUTF8) = losses.causes.toUTF8 := by
      unfold LossFields.causes
      split_ifs with h
      · rw [h, String.intercalate_nil]
        rfl
      · rw [String.empty_append]
    have hwrites := (writes_write ("\nwarning: " ++ toString losses.lostFrames.toNat ++
      " frames were lost before persistence (")).bind
        ((hcauses.of_eq htext).bind (writes_write ")"))
    refine hwrites.of_eq ?_
    rw [← toUTF8_append, ← toUTF8_append, Option.toList_some, List.map_singleton, following,
      following, ByteArray.append_empty, ← toUTF8_append]
    simp only [← String.append_assoc]
    rfl

/-! ### Reading the fields -/

section Fields

variable {doubles : Doubles F} {values : PersistenceOutcomeScalars F} {state state' : ClientState}
  {fields : List (String × Document F)}

theorem visitOutcomeFields_cons {key : String} {document : Document F}
    (field : PersistenceOutcomeField) {next : PersistenceOutcomeScalars F} {rendered : Bool}
    (hkey : PersistenceOutcomeField.ofKey key = field)
    (h : visitOutcomeField doubles values field document state = (.ok (next, rendered), state')) :
    visitOutcomeFields doubles ((key, document) :: fields) values false state =
      visitOutcomeFields doubles fields next rendered state' := by
  subst hkey
  rw [visitOutcomeFields]
  exact (Attempt.bind_of_ok (b := ()) rfl).trans (Attempt.bind_of_ok h)

theorem nextValue_eq {α : Type} {read : Document F → Option α} {document : Document F}
    {value : α} (h : read document = some value) (expected : String) :
    nextValue read expected document = .ok value := by
  unfold nextValue
  rw [h]

/-- A field that holds a number is stored where it belongs. -/
theorem visit_number {get : PersistenceOutcomeScalars F → Option UInt64}
    (set : PersistenceOutcomeScalars F → Option UInt64 → PersistenceOutcomeScalars F)
    (key : String) (field : PersistenceOutcomeField) {value : UInt64}
    (hkey : PersistenceOutcomeField.ofKey key = field)
    (hfield : visitOutcomeField doubles values field (.ofU64 value) =
      numberField get set key values (.ofU64 value)) (h : get values = none) :
    visitOutcomeFields doubles ((key, .ofU64 value) :: fields) values false state =
      visitOutcomeFields doubles fields (set values (some value)) false state := by
  refine visitOutcomeFields_cons field hkey ?_
  rw [hfield]
  unfold numberField
  rw [nextValue_eq (Document.asU64_ofU64 value), h]
  rfl

theorem visit_kind {name : String} {kind : PersistenceClientOutcomeKind}
    (hread : PersistenceClientOutcomeKind.read (.str name : Document F) = some kind)
    (h : values.kind = none) :
    visitOutcomeFields doubles (("kind", .str name) :: fields) values false state =
      visitOutcomeFields doubles fields { values with kind := some kind } false state := by
  refine visitOutcomeFields_cons .kind rfl ?_
  unfold visitOutcomeField
  rw [nextValue_eq hread, h]
  rfl

theorem visit_frameFields (consumed : ConsumedFields F) (hstart : values.startFrame = none)
    (hend : values.endFrame = none) (hframes : values.frames = none) :
    visitOutcomeFields doubles (consumed.frameFields ++ fields) values false state =
      visitOutcomeFields doubles fields
        { values with
          startFrame := some consumed.startFrame
          endFrame := some consumed.endFrame
          frames := some consumed.frames } false state := by
  refine (visit_number (fun values value => { values with startFrame := value })
    "start_frame" .startFrame rfl rfl (by exact hstart)).trans ?_
  refine (visit_number (fun values value => { values with endFrame := value })
    "end_frame" .endFrame rfl rfl (by exact hend)).trans ?_
  exact visit_number (fun values value => { values with frames := value })
    "frames" .frames rfl rfl (by exact hframes)

theorem visit_durationField (consumed : ConsumedFields F)
    (hfinite : doubles.isFinite consumed.durationSeconds = true)
    (hduration : values.durationSeconds = none) :
    visitOutcomeFields doubles (consumed.durationField doubles ++ fields) values false state =
      visitOutcomeFields doubles fields
        { values with durationSeconds := some consumed.durationSeconds } false state := by
  refine visitOutcomeFields_cons .durationSeconds rfl ?_
  unfold visitOutcomeField Doubles.write
  rw [if_pos hfinite, nextValue_eq (Document.asF64_float _ _), hduration]
  rfl

theorem visit_lossFields (losses : LossFields) (hlost : values.lostFrames = none)
    (hretention : values.retentionLostFrames = none) (hcleared : values.clearedFrames = none)
    (hdropped : values.captureDroppedFrames = none) :
    visitOutcomeFields doubles (losses.fields ++ fields) values false state =
      visitOutcomeFields doubles fields
        { values with
          lostFrames := some losses.lostFrames
          retentionLostFrames := some losses.retentionLostFrames
          clearedFrames := some losses.clearedFrames
          captureDroppedFrames := some losses.captureDroppedFrames } false state := by
  refine (visit_number (fun values value => { values with lostFrames := value })
    "lost_frames" .lostFrames rfl rfl (by exact hlost)).trans ?_
  refine (visit_number (fun values value => { values with retentionLostFrames := value })
    "retention_lost_frames" .retentionLostFrames rfl rfl (by exact hretention)).trans ?_
  refine (visit_number (fun values value => { values with clearedFrames := value })
    "cleared_frames" .clearedFrames rfl rfl (by exact hcleared)).trans ?_
  exact visit_number (fun values value => { values with captureDroppedFrames := value })
    "capture_dropped_frames" .captureDroppedFrames rfl rfl (by exact hdropped)

theorem visit_exportFields (exportStartFrame exportFrames : UInt64)
    (hstart : values.exportStartFrame = none) (hframes : values.exportFrames = none) :
    visitOutcomeFields doubles ([("export_start_frame", .ofU64 exportStartFrame),
        ("export_frames", .ofU64 exportFrames)] ++ fields) values false state =
      visitOutcomeFields doubles fields
        { values with
          exportStartFrame := some exportStartFrame
          exportFrames := some exportFrames } false state := by
  refine (visit_number (fun values value => { values with exportStartFrame := value })
    "export_start_frame" .exportStartFrame rfl rfl (by exact hstart)).trans ?_
  exact visit_number (fun values value => { values with exportFrames := value })
    "export_frames" .exportFrames rfl rfl (by exact hframes)

theorem readBounded_str {label text : String} (h : text.utf8ByteSize ≤ defaultMaximumPathBytes) :
    readBounded label (.str text : Document F) state =
      (.ok (), { state with buffer := text.toUTF8 }) := by
  unfold readBounded
  simp only [if_neg (Nat.not_lt.mpr h)]
  rfl

theorem visit_outputDirectory {text : String} (h : text.utf8ByteSize ≤ defaultMaximumPathBytes)
    (hdirectory : values.outputDirectory = false) :
    visitOutcomeFields doubles (("output_directory", .str text) :: fields) values false state =
      visitOutcomeFields doubles fields { values with outputDirectory := true } false
        { state with buffer := text.toUTF8 } := by
  refine visitOutcomeFields_cons .outputDirectory rfl ?_
  unfold visitOutcomeField Attempt.require
  rw [if_pos hdirectory]
  exact (Attempt.bind_of_ok (b := ()) rfl).trans (Attempt.bind_of_ok (readBounded_str h))

/-- Every path of the sequence is written once, in the order of the sequence. -/
theorem visitFiles_writes (texts : List String)
    (h : ∀ text ∈ texts, text.utf8ByteSize ≤ defaultMaximumPathBytes) (state : ClientState) :
    ∃ buffer, visitFiles (texts.map Document.str : List (Document F)) state =
      (.ok (), { output := state.output ++ following (texts.map String.toUTF8)
                 buffer := buffer }) := by
  induction texts generalizing state with
  | nil =>
      refine ⟨state.buffer, ?_⟩
      rw [List.map_nil, List.map_nil, following, ByteArray.append_empty]
      rfl
  | cons text texts ih =>
      obtain ⟨buffer, hrest⟩ := ih (fun text hmem => h text (List.mem_cons_of_mem _ hmem))
        { output := state.output ++ "\n".toUTF8 ++ text.toUTF8, buffer := text.toUTF8 }
      refine ⟨buffer, ?_⟩
      rw [List.map_cons, visitFiles]
      refine (Attempt.bind_of_ok (readBounded_str (h text List.mem_cons_self))).trans ?_
      change visitFiles (texts.map Document.str)
        { output := state.output ++ "\n".toUTF8 ++ text.toUTF8, buffer := text.toUTF8 } = _
      rw [hrest, List.map_cons, following]
      simp only [ByteArray.append_assoc]

/-! ### One outcome -/

theorem toStr_toUTF8 (text : String) : toStr text.toUTF8 = some text := by
  unfold toStr String.fromUTF8?
  exact dif_pos text.isValidUTF8

/-- The scalars of a written outcome, all of them read. -/
def writtenScalars (consumed : ConsumedFields F) (exportStartFrame exportFrames : UInt64)
    (losses : LossFields) : PersistenceOutcomeScalars F where
  kind := some .written
  startFrame := some consumed.startFrame
  endFrame := some consumed.endFrame
  frames := some consumed.frames
  exportStartFrame := some exportStartFrame
  exportFrames := some exportFrames
  durationSeconds := some consumed.durationSeconds
  lostFrames := some losses.lostFrames
  retentionLostFrames := some losses.retentionLostFrames
  clearedFrames := some losses.clearedFrames
  captureDroppedFrames := some losses.captureDroppedFrames
  outputDirectory := true

theorem renderWrittenHeader_run (consumed : ConsumedFields F)
    {exportStartFrame exportFrames : UInt64} (losses : LossFields) {range : UInt64 × UInt64}
    {directory : String}
    (hrange : writtenExportRange consumed.startFrame consumed.endFrame (some exportStartFrame)
      (some exportFrames) = .ok range) (hbuffer : state.buffer = directory.toUTF8) :
    renderWrittenHeader doubles
        (writtenScalars consumed exportStartFrame exportFrames losses) state =
      (.ok (), { state with output := state.output ++
        (("written " ++ consumed.text doubles).toUTF8 ++
          (following (losses.warning.toList.map String.toUTF8) ++
            following ["output directory: ".toUTF8 ++ directory.toUTF8])) }) := by
  have htoStr : toStr state.buffer = some directory := by
    rw [hbuffer]
    exact toStr_toUTF8 directory
  have hchecked : (Attempt.ofExcept ((writtenExportRange consumed.startFrame consumed.endFrame
      (some exportStartFrame) (some exportFrames)).mapError DecodeError.custom) :
        Client (UInt64 × UInt64)) state = (.ok range, state) := by
    rw [hrange]
    rfl
  unfold renderWrittenHeader
  refine (Attempt.bind_of_ok (b := ()) rfl).trans ?_
  refine (Attempt.bind_of_ok (b := ()) rfl).trans ?_
  refine (Attempt.bind_of_ok (b := consumed.startFrame) rfl).trans ?_
  refine (Attempt.bind_of_ok (b := consumed.endFrame) rfl).trans ?_
  refine (Attempt.bind_of_ok (b := consumed.frames) rfl).trans ?_
  refine (Attempt.bind_of_ok (b := exportStartFrame) rfl).trans ?_
  refine (Attempt.bind_of_ok (b := exportFrames) rfl).trans ?_
  refine (Attempt.bind_of_ok hchecked).trans ?_
  refine (Attempt.bind_of_ok (b := consumed.durationSeconds) rfl).trans ?_
  refine (Attempt.bind_of_ok (b := losses.lostFrames) rfl).trans ?_
  refine (Attempt.bind_of_ok (b := losses.retentionLostFrames) rfl).trans ?_
  refine (Attempt.bind_of_ok (b := losses.clearedFrames) rfl).trans ?_
  refine (Attempt.bind_of_ok (b := losses.captureDroppedFrames) rfl).trans ?_
  refine (Attempt.bind_of_ok (f := Attempt.get) (s := state) (b := state) rfl).trans ?_
  simp only [htoStr]
  have hdirectory : ("\noutput directory: " ++ directory).toUTF8 =
      following ["output directory: ".toUTF8 ++ directory.toUTF8] := by
    rw [following, following, ByteArray.append_empty, ← toUTF8_append, ← toUTF8_append,
      ← String.append_assoc]
    rfl
  exact ((writes_write _).bind ((renderLossWarning_writes losses).bind
    ((writes_write _).of_eq hdirectory))) state

theorem readOutcome_written (consumed : ConsumedFields F)
    {exportStartFrame exportFrames : UInt64} (losses : LossFields) {range : UInt64 × UInt64}
    {directory : String} (texts : List String)
    (hfinite : doubles.isFinite consumed.durationSeconds = true)
    (hrange : writtenExportRange consumed.startFrame consumed.endFrame (some exportStartFrame)
      (some exportFrames) = .ok range)
    (hdirectory : directory.utf8ByteSize ≤ defaultMaximumPathBytes)
    (htexts : ∀ text ∈ texts, text.utf8ByteSize ≤ defaultMaximumPathBytes)
    (state : ClientState) :
    ∃ buffer, readOutcome doubles (.obj (writtenFields doubles consumed exportStartFrame
        exportFrames losses directory (.arr (texts.map .str)))) state =
      (.ok true, ⟨state.output ++ (("written " ++ consumed.text doubles).toUTF8 ++
        following (losses.warning.toList.map String.toUTF8 ++
          ("output directory: ".toUTF8 ++ directory.toUTF8) :: texts.map String.toUTF8)),
        buffer⟩) := by
  let state₁ : ClientState := { state with buffer := directory.toUTF8 }
  let header := ("written " ++ consumed.text doubles).toUTF8 ++
    (following (losses.warning.toList.map String.toUTF8) ++
      following ["output directory: ".toUTF8 ++ directory.toUTF8])
  obtain ⟨buffer, hfiles⟩ := visitFiles_writes texts htexts
    { output := state.output ++ header, buffer := ByteArray.empty }
  refine ⟨buffer, ?_⟩
  have hfields : visitOutcomeFields doubles (writtenFields doubles consumed exportStartFrame
        exportFrames losses directory (.arr (texts.map .str))) .default false state =
      (.ok (writtenScalars consumed exportStartFrame exportFrames losses, true),
        ⟨state.output ++ header ++ following (texts.map String.toUTF8), buffer⟩) := by
    simp only [writtenFields, List.append_assoc, List.singleton_append]
    refine (visit_kind rfl rfl).trans ?_
    refine (visit_frameFields consumed rfl rfl rfl).trans ?_
    refine (visit_exportFields exportStartFrame exportFrames rfl rfl).trans ?_
    refine (visit_durationField consumed hfinite rfl).trans ?_
    refine (visit_lossFields losses rfl rfl rfl rfl).trans ?_
    refine (visit_outputDirectory hdirectory rfl).trans ?_
    refine visitOutcomeFields_cons .files rfl ?_
    refine (Attempt.bind_of_ok
      (renderWrittenHeader_run consumed losses hrange rfl)).trans ?_
    refine (Attempt.bind_of_ok (f := Attempt.modify _) (b := ()) rfl).trans ?_
    exact (Attempt.bind_of_ok hfiles).trans rfl
  have houtput : state.output ++ header ++ following (texts.map String.toUTF8) =
      state.output ++ (("written " ++ consumed.text doubles).toUTF8 ++
        following (losses.warning.toList.map String.toUTF8 ++
          ("output directory: ".toUTF8 ++ directory.toUTF8) :: texts.map String.toUTF8)) := by
    rw [following_append, following]
    simp only [header, following, ByteArray.append_assoc, ByteArray.empty_append]
  rw [← houtput]
  refine (Attempt.bind_of_ok (b := ()) ?_).trans rfl
  exact (Attempt.bind_of_ok hfields).trans rfl

/-- The two kinds that consume frames and write no file. -/
theorem readOutcome_skipped (consumed : ConsumedFields F) (losses : LossFields) {name label : String}
    {kind : PersistenceClientOutcomeKind}
    (hread : PersistenceClientOutcomeKind.read (.str name : Document F) = some kind)
    (hkind : kind = .skippedSilent ∧ label = "skipped exact-zero audio" ∨
      kind = .skippedByPolicy ∧ label = "skipped by policy")
    (hfinite : doubles.isFinite consumed.durationSeconds = true) (state : ClientState) :
    readOutcome doubles (.obj (skippedFields doubles name consumed losses)) state =
      (.ok true, { state with output := state.output ++
        ((label ++ ": " ++ consumed.text doubles).toUTF8 ++
          following (losses.warning.toList.map String.toUTF8)) }) := by
  have hfields : visitOutcomeFields doubles (skippedFields doubles name consumed losses)
        .default false state =
      (.ok ({ writtenScalars consumed 0 0 losses with
        kind := some kind
        exportStartFrame := none
        exportFrames := none
        outputDirectory := false }, false), state) := by
    simp only [skippedFields, List.append_assoc, List.singleton_append]
    refine (visit_kind hread rfl).trans ?_
    refine (visit_frameFields consumed rfl rfl rfl).trans ?_
    refine (visit_durationField consumed hfinite rfl).trans ?_
    rw [← List.append_nil losses.fields]
    exact (visit_lossFields losses rfl rfl rfl rfl).trans rfl
  have hwrites := ((writes_write (label ++ ": " ++ consumed.text doubles)).bind
    (renderLossWarning_writes losses)) state
  refine (Attempt.bind_of_ok (b := ()) ?_).trans rfl
  refine (Attempt.bind_of_ok hfields).trans ?_
  rcases hkind with ⟨rfl, rfl⟩ | ⟨rfl, rfl⟩
  · exact hwrites
  · exact hwrites

theorem readOutcome_noNewAudio (losses : LossFields) (state : ClientState) :
    readOutcome doubles (.obj (noNewAudioFields losses)) state =
      (.ok true, { state with output := state.output ++
        ("no new audio".toUTF8 ++ following (losses.warning.toList.map String.toUTF8)) }) := by
  have hfields : visitOutcomeFields doubles (noNewAudioFields losses) .default false state =
      (.ok ({ (.default : PersistenceOutcomeScalars F) with
        kind := some .noNewAudio
        lostFrames := some losses.lostFrames
        retentionLostFrames := some losses.retentionLostFrames
        clearedFrames := some losses.clearedFrames
        captureDroppedFrames := some losses.captureDroppedFrames }, false), state) := by
    rw [noNewAudioFields, List.singleton_append, ← List.append_nil losses.fields]
    refine (visit_kind rfl rfl).trans ?_
    exact (visit_lossFields losses rfl rfl rfl rfl).trans rfl
  have hwrites := ((writes_write "no new audio").bind (renderLossWarning_writes losses)) state
  refine (Attempt.bind_of_ok (b := ()) ?_).trans rfl
  exact (Attempt.bind_of_ok hfields).trans hwrites

end Fields

end Lamb.Control
