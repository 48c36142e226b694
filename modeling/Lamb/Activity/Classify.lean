import Lamb.Activity.Windows
import Lamb.Export.Streamed

/-!
Classifying all channels of an epoch. The frozen epoch is read block by block
through the scratch buffer; whatever the blocks are, the detectors end as if
they had been given all samples at once, and each windowed channel has been
judged by exactly its windows.
-/

namespace Lamb.Activity

open Lamb.Lib Lamb.Arena Lamb.Ring Lamb.Export

variable {S L D : Type}

structure ChannelActivityPolicy (D : Type) where
  mode : Dump.ChannelExportMode
  threshold : Option D

structure ResolvedActivityPolicy (D : Type) where
  detector : ActivityDetectorKind
  channels : List (ChannelActivityPolicy D)
  wholeExportExactZeroGate : Bool
  trimLeadingSilence : Bool

/-- The part of a policy that the export decision reads. -/
def ResolvedActivityPolicy.decided (policy : ResolvedActivityPolicy D) : Dump.ActivityPolicy where
  modes := policy.channels.map ChannelActivityPolicy.mode
  trimLeadingSilence := policy.trimLeadingSilence
  wholeExportExactZeroGate := policy.wholeExportExactZeroGate

/-- A threshold that is not finite counts as none. -/
def ResolvedActivityPolicy.thresholds (meter : Meter S L D) (policy : ResolvedActivityPolicy D) :
    List (Option D) :=
  policy.channels.map fun channel => channel.threshold.filter meter.isFiniteDbfs

/-- The part of a state that the channel decision reads. -/
def DetectorState.found (state : DetectorState L) : Dump.DetectorState where
  result := state.result
  evidence := state.evidence
  nonFinite := state.nonFinite
  exactNonzero := state.exactNonzero

def prepareStates (scan : Scan S L D) (thresholds : List (Option D)) : List (DetectorState L) :=
  thresholds.map fun threshold => prepareState scan threshold (.empty scan)

def feedFrame (scan : Scan S L D) (thresholds : List (Option D)) (values : List S) (frame : ℕ)
    (states : List (DetectorState L)) : Result (List (DetectorState L)) :=
  ((thresholds.zip states).zip values).mapM fun ((threshold, state), value) =>
    feedSample scan threshold value frame state

/-- The frames of an interleaved block, the first of which is `first`. -/
def feedFrames (scan : Scan S L D) (thresholds : List (Option D)) (channels : ℕ)
    (samples : List S) (first : ℕ) (states : List (DetectorState L)) :
    Result (List (DetectorState L)) :=
  (List.range (samples.length / channels)).foldlM
    (fun states frame =>
      feedFrame scan thresholds (slice samples (frame * channels) channels) (first + frame) states)
    states

def finishStates (scan : Scan S L D) (thresholds : List (Option D))
    (states : List (DetectorState L)) : Result (List (DetectorState L)) :=
  (thresholds.zip states).mapM fun (threshold, state) => finishState scan threshold state

/-- What `classify_samples` makes of the samples before it decides. -/
def scanSamples (scan : Scan S L D) (thresholds : List (Option D)) (channels : ℕ)
    (samples : List S) : Result (List (DetectorState L)) := do
  let states ← feedFrames scan thresholds channels samples 0 (prepareStates scan thresholds)
  finishStates scan thresholds states

def classifySamples (meter : Meter S L D) (samples : List S) (channels startFrame sampleRate : ℕ)
    (policy : ResolvedActivityPolicy D) (workspaceChannels : ℕ) :
    Result (List Dump.FrozenChannelDecision) :=
  if channels = 0 ∨ samples.length % channels ≠ 0 ∨ policy.channels.length ≠ channels ∨
      workspaceChannels ≠ channels then
    .error (.validation "invalid activity classification geometry")
  else do
    let geometry ← WindowGeometry.new sampleRate
    let states ← scanSamples ⟨meter, policy.detector, geometry, startFrame⟩
      (policy.thresholds meter) channels samples
    .ok (List.zipWith Dump.channelDecision (policy.channels.map ChannelActivityPolicy.mode)
      (states.map DetectorState.found))

/-- The loop over a frozen epoch, with one unit of fuel for each frame. -/
def feedEpoch (scan : Scan S L D) (thresholds : List (Option D)) (frozen : FrozenCaptureEpoch)
    (ring : SampleRing S) : ℕ → ℕ → List S → List (DetectorState L) →
    Result (List (DetectorState L))
  | fuel, cursor, scratch, states =>
      if cursor < frozen.absoluteRange.stop then
        match fuel with
        | 0 => .error .panicked
        | fuel + 1 => do
            let (copied, scratch) ← frozen.copyInterleavedRangeInto ring
              ⟨cursor, frozen.absoluteRange.stop⟩ scratch
            ensure (copied ≠ 0) (.exportInvariant "frozen epoch copy made no progress")
            let states ← feedFrames scan thresholds frozen.descriptor.channels
              (scratch.take (copied * frozen.descriptor.channels))
              (cursor - frozen.absoluteRange.start) states
            let cursor ← checkedAddOr "frozen cursor overflow" cursor copied
            feedEpoch scan thresholds frozen ring fuel cursor scratch states
      else .ok states

/-- What `classify_frozen_epoch` makes of the samples before it decides. -/
def scanFrozenEpoch (meter : Meter S L D) (policy : ResolvedActivityPolicy D)
    (frozen : FrozenCaptureEpoch) (ring : SampleRing S) (scratch : List S) :
    Result (List (DetectorState L)) := do
  let geometry ← WindowGeometry.new frozen.descriptor.sampleRate
  let scan : Scan S L D := ⟨meter, policy.detector, geometry, frozen.absoluteRange.start⟩
  let states ← feedEpoch scan (policy.thresholds meter) frozen ring
    (frozen.absoluteRange.stop - frozen.absoluteRange.start) frozen.absoluteRange.start scratch
    (prepareStates scan (policy.thresholds meter))
  finishStates scan (policy.thresholds meter) states

/-- `classify_frozen_epoch` with the detectors it runs. -/
def classifyFrozenEpoch (meter : Meter S L D) (policy : ResolvedActivityPolicy D)
    (frozen : FrozenCaptureEpoch) (ring : SampleRing S) (scratch : List S)
    (decision : Dump.FrozenExportDecision) : Result Dump.FrozenExportDecision :=
  Dump.classifyFrozenEpoch frozen policy.decided
    { scratch := scratch.length
      scan := (scanFrozenEpoch meter policy frozen ring scratch).map
        (List.map DetectorState.found) }
    decision

/-! ### Blocks -/

section Blocks

variable {scan : Scan S L D} {thresholds : List (Option D)} {channels : ℕ}

theorem feedFrames_append (hchannels : 0 < channels) {left : List S} {frames : ℕ}
    (hleft : left.length = frames * channels) (right : List S) (first : ℕ)
    (states : List (DetectorState L)) :
    feedFrames scan thresholds channels (left ++ right) first states =
      feedFrames scan thresholds channels left first states >>=
        feedFrames scan thresholds channels right (first + frames) := by
  have hcount : (left ++ right).length / channels = frames + right.length / channels := by
    rw [List.length_append, hleft, Nat.add_comm, Nat.add_mul_div_right _ _ hchannels, Nat.add_comm]
  unfold feedFrames
  rw [hcount, List.range_add, List.foldlM_append, hleft, Nat.mul_div_cancel _ hchannels]
  simp only [List.foldlM_map]
  congr 1
  · refine foldlM_congr (fun frame hframe states => ?_) states
    have hinside : frame * channels + channels ≤ left.length := by
      rw [hleft, ← Nat.succ_mul]
      exact Nat.mul_le_mul_right _ (List.mem_range.mp hframe)
    rw [slice, List.drop_append_of_le_length (by omega), List.take_append_of_le_length]
    · rfl
    · rw [List.length_drop]
      omega
  · refine funext fun states => foldlM_congr (fun frame _ states => ?_) states
    have hdrop : (left ++ right).drop ((frames + frame) * channels) =
        right.drop (frame * channels) := by
      rw [Nat.add_mul, ← hleft, List.drop_append, List.drop_eq_nil_of_le (Nat.le_add_right _ _)]
      simp
    rw [slice, hdrop, Nat.add_assoc]
    rfl

/-- The loop of `classify_frozen_epoch` over any blocks of frames. -/
def feedChunks (scan : Scan S L D) (thresholds : List (Option D)) (channels : ℕ) :
    ℕ → List (List S) → List (DetectorState L) → Result (List (DetectorState L))
  | _, [], states => .ok states
  | first, chunk :: chunks, states => do
      let states ← feedFrames scan thresholds channels chunk first states
      feedChunks scan thresholds channels (first + chunk.length / channels) chunks states

theorem feedChunks_eq (hchannels : 0 < channels) {chunks : List (List S)}
    (hwhole : ∀ chunk ∈ chunks, channels ∣ chunk.length) (first : ℕ)
    (states : List (DetectorState L)) :
    feedChunks scan thresholds channels first chunks states =
      feedFrames scan thresholds channels chunks.flatten first states := by
  induction chunks generalizing first states with
  | nil => simp [feedChunks, feedFrames, pure, Except.pure]
  | cons chunk chunks ih =>
      have hchunk : chunk.length = chunk.length / channels * channels :=
        (Nat.div_mul_cancel (hwhole chunk (by simp))).symm
      rw [feedChunks, List.flatten_cons, feedFrames_append hchannels hchunk]
      exact congrArg _ (funext fun states => ih (fun chunk hmem => hwhole chunk (by simp [hmem])) _
        states)

/-- The rest of a held epoch, read through the scratch buffer. -/
theorem feedEpoch_eq {worker : WorkerState S} {history : List S} {frozen : FrozenCaptureEpoch}
    (hinv : worker.Inv) (hholds : worker.Holds history frozen.descriptor)
    (hreleased : frozen.released = false) (hpending : frozen.releasePending = false)
    (hhistory : frozen.absoluteRange.stop * worker.cfg.ring.channels ≤ history.length)
    {scratchFrames : ℕ} (hscratch : 0 < scratchFrames)
    (hlimit : frozen.absoluteRange.stop + scratchFrames ≤ u64Max) {fuel cursor : ℕ}
    (hlow : frozen.absoluteRange.start ≤ cursor) (hhigh : cursor ≤ frozen.absoluteRange.stop)
    (hfuel : frozen.absoluteRange.stop ≤ cursor + fuel) {scratch : List S}
    (hlength : scratch.length = scratchFrames * worker.cfg.ring.channels)
    (states : List (DetectorState L)) :
    feedEpoch scan thresholds frozen (worker.epochs frozen.descriptor.index) fuel cursor scratch
        states =
      feedFrames scan thresholds frozen.descriptor.channels
        (slice history (cursor * worker.cfg.ring.channels)
          ((frozen.absoluteRange.stop - cursor) * worker.cfg.ring.channels))
        (cursor - frozen.absoluteRange.start) states := by
  have hchannels : frozen.descriptor.channels = worker.cfg.ring.channels := hholds.channels
  have hpos := hinv.channels_pos
  induction fuel generalizing cursor scratch states with
  | zero =>
      unfold feedEpoch
      rw [if_neg (by omega), Nat.sub_eq_zero_of_le (by omega)]
      simp [feedFrames, slice, pure, Except.pure]
  | succ fuel ih =>
      unfold feedEpoch
      by_cases hmore : cursor < frozen.absoluteRange.stop
      · set copied := min (frozen.absoluteRange.stop - cursor) scratchFrames with hcopied
        have hcopy := hholds.copy hinv hreleased hpending
          (show frozen.absoluteRange.start ≤ (Range.mk cursor frozen.absoluteRange.stop).start
            from hlow) hmore.le le_rfl hlength (by simp only; omega)
        have hblock : (slice history (cursor * worker.cfg.ring.channels)
            (copied * worker.cfg.ring.channels)).length = copied * worker.cfg.ring.channels := by
          refine length_slice_of_le ?_
          rw [← Nat.add_mul]
          exact (Nat.mul_le_mul_right _ (by omega)).trans hhistory
        have hfits : copied * worker.cfg.ring.channels ≤
            scratchFrames * worker.cfg.ring.channels := Nat.mul_le_mul_right _ (by omega)
        have htake : (copyFromSlice scratch 0 (slice history (cursor * worker.cfg.ring.channels)
            (copied * worker.cfg.ring.channels))).take (copied * frozen.descriptor.channels) =
            slice history (cursor * worker.cfg.ring.channels)
              (copied * worker.cfg.ring.channels) := by
          rw [copyFromSlice, List.take_zero, List.nil_append, hchannels, List.take_left' hblock]
        have hsplit : slice history (cursor * worker.cfg.ring.channels)
            ((frozen.absoluteRange.stop - cursor) * worker.cfg.ring.channels) =
            slice history (cursor * worker.cfg.ring.channels)
                (copied * worker.cfg.ring.channels) ++
              slice history ((cursor + copied) * worker.cfg.ring.channels)
                ((frozen.absoluteRange.stop - (cursor + copied)) * worker.cfg.ring.channels) := by
          rw [Nat.add_mul cursor, slice_append_slice, ← Nat.add_mul]
          congr 2
          omega
        rw [if_pos hmore, hcopy, hsplit, feedFrames_append (hchannels ▸ hpos) (hblock.trans (congrArg _ hchannels.symm))]
        simp only [bind, Except.bind]
        rw [← hcopied, ensure, if_pos (by omega), htake]
        simp only
        cases feedFrames scan thresholds frozen.descriptor.channels
            (slice history (cursor * worker.cfg.ring.channels)
              (copied * worker.cfg.ring.channels)) (cursor - frozen.absoluteRange.start) states with
        | error e => rfl
        | ok states =>
            simp only
            rw [checkedAddOr_of_le (by omega)]
            simp only
            rw [ih (by omega) (by omega) (by omega)]
            · rw [Nat.sub_add_comm hlow]
            · rw [length_copyFromSlice (by omega), hlength]
      · rw [if_neg hmore, Nat.sub_eq_zero_of_le (by omega)]
        simp [feedFrames, slice, pure, Except.pure]

end Blocks

/-! ### Channels -/

theorem getElem?_channelSamples {history : List S} {channels channel start count i : ℕ}
    (hchannel : channel < channels) (hlength : (start + count) * channels ≤ history.length)
    (hi : i < count) :
    (channelSamples history channels channel start count)[i]? =
      history[(start + i) * channels + channel]? := by
  have hbefore : (start + i) * channels ≤ history.length :=
    (Nat.mul_le_mul_right _ (by omega)).trans hlength
  have hinside : (start + i) * channels + channel < history.length := by
    have hnext := (Nat.mul_le_mul_right channels (show start + i + 1 ≤ start + count by omega)).trans
      hlength
    rw [Nat.succ_mul] at hnext
    omega
  obtain ⟨rest, rfl⟩ : ∃ rest, count = i + (1 + rest) := ⟨count - i - 1, by omega⟩
  rw [channelSamples_add, channelSamples_add, List.getElem?_append_right]
  · rw [length_channelSamples hchannel hbefore, Nat.sub_self]
    simp [channelSamples, List.getElem?_eq_getElem hinside]
  · rw [length_channelSamples hchannel hbefore]

section Channels

variable {scan : Scan S L D} {thresholds : List (Option D)} {channels : ℕ} {samples : List S}

/-- A channel after `m` samples: a windowed one has been judged by the windows
that are full. -/
def Tracked (scan : Scan S L D) (samples : List S) (m : ℕ) (threshold : Option D)
    (state : DetectorState L) : Prop :=
  ∀ value, threshold = some value → scan.detector = .windowedRmsPeak →
    ∃ done, Fed scan value samples m done state

theorem Tracked.prepared (hgeometry : scan.geometry.Sound) (samples : List S)
    (threshold : Option D) :
    Tracked scan samples 0 threshold (prepareState scan threshold (.empty scan)) := by
  rintro value rfl hdetector
  exact ⟨0, Fed.prepared hgeometry hdetector⟩

theorem Tracked.feedSample (hgeometry : scan.geometry.Sound)
    (hmemory : InMemory scan samples.length) {m : ℕ} {threshold : Option D}
    {state : DetectorState L} (h : Tracked scan samples m threshold state) {sample : S}
    (hsample : samples[m]? = some sample) :
    ∃ state', feedSample scan threshold sample m state = .ok state' ∧
      Tracked scan samples (m + 1) threshold state' := by
  have hlength : m < samples.length := (List.getElem?_eq_some_iff.mp hsample).1
  have hframes := hmemory.frames
  have hframe : checkedAddOr "activity frame overflow" scan.transactionStart m =
      .ok (scan.transactionStart + m) := checkedAddOr_of_le (by omega)
  cases threshold with
  | none =>
      refine ⟨state.note scan sample (scan.transactionStart + m), ?_, fun _ hnone => by cases hnone⟩
      unfold Activity.feedSample
      rw [hframe]
      rfl
  | some value =>
      by_cases hdetector : scan.detector = .windowedRmsPeak
      · obtain ⟨done, hfed⟩ := h value rfl hdetector
        obtain ⟨done', state', heq, hfed'⟩ := hfed.feedSample hgeometry hdetector hmemory hsample
        refine ⟨state', heq, ?_⟩
        rintro _ ⟨⟩ -
        exact ⟨done', hfed'⟩
      · refine ⟨state.note scan sample (scan.transactionStart + m), ?_,
          fun _ _ hwindowed => absurd hwindowed hdetector⟩
        unfold Activity.feedSample
        rw [hframe]
        simp only [bind, Except.bind]
        rw [if_neg hdetector]

/-- The verdict over a channel: what its windows show, unless a sample is not
finite. -/
def channelVerdict (scan : Scan S L D) (threshold : D) (samples : List S) : Verdict :=
  if samples.any fun sample => !scan.meter.isFinite sample then
    { windowsVerdict scan threshold samples with result := .ambiguous }
  else windowsVerdict scan threshold samples

theorem Tracked.finishState (hgeometry : scan.geometry.Sound)
    (hmemory : InMemory scan samples.length) {threshold : Option D} {state : DetectorState L}
    (h : Tracked scan samples samples.length threshold state) :
    ∃ state', finishState scan threshold state = .ok state' ∧
      ∀ value, threshold = some value → scan.detector = .windowedRmsPeak →
        state'.toVerdict = channelVerdict scan value samples := by
  cases threshold with
  | none => exact ⟨_, rfl, fun _ hnone => by cases hnone⟩
  | some value =>
      by_cases hdetector : scan.detector = .windowedRmsPeak
      · obtain ⟨done, hfed⟩ := h value rfl hdetector
        refine ⟨_, hfed.finishState hgeometry hdetector hmemory, ?_⟩
        rintro _ ⟨⟩ -
        rfl
      · unfold Activity.finishState
        simp only [bind, Except.bind, if_neg hdetector]
        exact ⟨_, rfl, fun _ _ hwindowed => absurd hwindowed hdetector⟩

/-- The channels of an interleaved block after `m` frames. -/
structure AllTracked (scan : Scan S L D) (thresholds : List (Option D)) (samples : List S)
    (m : ℕ) (states : List (DetectorState L)) : Prop where
  length : states.length = thresholds.length
  tracked : ∀ channel threshold state, thresholds[channel]? = some threshold →
    states[channel]? = some state →
    Tracked scan (channelSamples samples thresholds.length channel 0
      (samples.length / thresholds.length)) m threshold state

variable {m : ℕ} {states : List (DetectorState L)}

theorem AllTracked.prepared (hgeometry : scan.geometry.Sound) :
    AllTracked scan thresholds samples 0 (prepareStates scan thresholds) := by
  refine ⟨by simp [prepareStates], fun channel threshold state hthreshold hstate => ?_⟩
  simp only [prepareStates, List.getElem?_map, hthreshold, Option.map_some] at hstate
  obtain rfl := Option.some.inj hstate
  exact Tracked.prepared hgeometry _ _

/-- The samples of one channel of a block of whole frames. -/
theorem length_blockChannel {channel : ℕ} (hchannel : channel < thresholds.length) :
    (channelSamples samples thresholds.length channel 0
      (samples.length / thresholds.length)).length = samples.length / thresholds.length :=
  length_channelSamples hchannel (by rw [Nat.zero_add]; exact Nat.div_mul_le_self _ _)

theorem AllTracked.feedFrame (hgeometry : scan.geometry.Sound)
    (hmemory : InMemory scan (samples.length / thresholds.length))
    (h : AllTracked scan thresholds samples m states) (hm : m < samples.length / thresholds.length) :
    ∃ states', feedFrame scan thresholds (slice samples (m * thresholds.length) thresholds.length) m
        states = .ok states' ∧ AllTracked scan thresholds samples (m + 1) states' := by
  have hwhole : (m + 1) * thresholds.length ≤ samples.length :=
    (Nat.mul_le_mul_right _ hm).trans (Nat.div_mul_le_self _ _)
  rw [Nat.succ_mul] at hwhole
  have hvalues : (slice samples (m * thresholds.length) thresholds.length).length =
      thresholds.length := length_slice_of_le (by omega)
  have hstep : ∀ channel threshold state value, thresholds[channel]? = some threshold →
      states[channel]? = some state →
      (slice samples (m * thresholds.length) thresholds.length)[channel]? = some value →
      ∃ state', feedSample scan threshold value m state = .ok state' ∧
        Tracked scan (channelSamples samples thresholds.length channel 0
          (samples.length / thresholds.length)) (m + 1) threshold state' := by
    intro channel threshold state value hthreshold hstate hvalue
    have hchannel : channel < thresholds.length := (List.getElem?_eq_some_iff.mp hthreshold).1
    refine (h.tracked channel threshold state hthreshold hstate).feedSample hgeometry ?_ ?_
    · rw [length_blockChannel hchannel]
      exact hmemory
    · rw [getElem?_channelSamples hchannel
        (by rw [Nat.zero_add]; exact Nat.div_mul_le_self _ _) hm, Nat.zero_add]
      rw [getElem?_slice, if_pos hchannel] at hvalue
      exact hvalue
  obtain ⟨states', hfeed, hlength, hall⟩ := mapM_progress
    (l := (thresholds.zip states).zip (slice samples (m * thresholds.length) thresholds.length))
    (f := fun ((threshold, state), value) => Activity.feedSample scan threshold value m state) (by
      intro cell hcell
      obtain ⟨channel, hchannel⟩ := List.getElem?_of_mem hcell
      obtain ⟨hpair, hvalue⟩ := List.getElem?_zip_eq_some.mp hchannel
      obtain ⟨hthreshold, hstate⟩ := List.getElem?_zip_eq_some.mp hpair
      obtain ⟨state', hfed, -⟩ := hstep channel _ _ _ hthreshold hstate hvalue
      exact ⟨state', hfed⟩)
  have hcount : states'.length = thresholds.length := by
    rw [hlength, List.length_zip, List.length_zip, hvalues, h.length]
    omega
  refine ⟨states', hfeed, hcount, fun channel threshold state' hthreshold hstate' => ?_⟩
  have hchannel : channel < thresholds.length := (List.getElem?_eq_some_iff.mp hthreshold).1
  obtain ⟨state, hstate⟩ : ∃ state, states[channel]? = some state :=
    ⟨_, List.getElem?_eq_getElem (h.length.symm ▸ hchannel)⟩
  obtain ⟨value, hvalue⟩ : ∃ value,
      (slice samples (m * thresholds.length) thresholds.length)[channel]? = some value :=
    ⟨_, List.getElem?_eq_getElem (hvalues.symm ▸ hchannel)⟩
  obtain ⟨next, hfed, htracked⟩ := hstep channel threshold state value hthreshold hstate hvalue
  have hsame := hall channel ((threshold, state), value) state' (List.getElem?_zip_eq_some.mpr
    ⟨List.getElem?_zip_eq_some.mpr ⟨hthreshold, hstate⟩, hvalue⟩) hstate'
  rw [show next = state' from Except.ok.inj (hfed.symm.trans hsame)] at htracked
  exact htracked

theorem AllTracked.feedFrames (hgeometry : scan.geometry.Sound)
    (hmemory : InMemory scan (samples.length / thresholds.length)) :
    ∃ states, feedFrames scan thresholds thresholds.length samples 0
        (prepareStates scan thresholds) = .ok states ∧
      AllTracked scan thresholds samples (samples.length / thresholds.length) states := by
  refine foldlM_range_progress (P := AllTracked scan thresholds samples) ?_
    (AllTracked.prepared hgeometry)
  intro frame hframe states h
  rw [Nat.zero_add]
  exact h.feedFrame hgeometry hmemory hframe

theorem AllTracked.finishStates (hgeometry : scan.geometry.Sound)
    (hmemory : InMemory scan (samples.length / thresholds.length))
    (h : AllTracked scan thresholds samples (samples.length / thresholds.length) states) :
    ∃ states', finishStates scan thresholds states = .ok states' ∧
      states'.length = thresholds.length ∧
      ∀ channel threshold state', thresholds[channel]? = some (some threshold) →
        states'[channel]? = some state' → scan.detector = .windowedRmsPeak →
        state'.toVerdict = channelVerdict scan threshold (channelSamples samples thresholds.length channel 0
          (samples.length / thresholds.length)) := by
  have hstep : ∀ channel threshold state, thresholds[channel]? = some threshold →
      states[channel]? = some state →
      ∃ state', finishState scan threshold state = .ok state' ∧
        ∀ value, threshold = some value → scan.detector = .windowedRmsPeak →
          state'.toVerdict = channelVerdict scan value
            (channelSamples samples thresholds.length channel 0
              (samples.length / thresholds.length)) := by
    intro channel threshold state hthreshold hstate
    have hchannel : channel < thresholds.length := (List.getElem?_eq_some_iff.mp hthreshold).1
    have hcount := @length_blockChannel _ _ _ samples channel hchannel
    refine Tracked.finishState hgeometry (hcount.symm ▸ hmemory) ?_
    rw [hcount]
    exact h.tracked channel threshold state hthreshold hstate
  obtain ⟨states', hfinish, hlength, hall⟩ := mapM_progress (l := thresholds.zip states)
    (f := fun (threshold, state) => Activity.finishState scan threshold state) (by
      intro cell hcell
      obtain ⟨channel, hchannel⟩ := List.getElem?_of_mem hcell
      obtain ⟨hthreshold, hstate⟩ := List.getElem?_zip_eq_some.mp hchannel
      obtain ⟨state', hfinished, -⟩ := hstep channel _ _ hthreshold hstate
      exact ⟨state', hfinished⟩)
  refine ⟨states', hfinish, ?_, fun channel threshold state' hthreshold hstate' hdetector => ?_⟩
  · rw [hlength, List.length_zip, h.length]
    omega
  · have hchannel : channel < thresholds.length := (List.getElem?_eq_some_iff.mp hthreshold).1
    obtain ⟨state, hstate⟩ : ∃ state, states[channel]? = some state :=
      ⟨_, List.getElem?_eq_getElem (h.length.symm ▸ hchannel)⟩
    obtain ⟨final, hfinished, hverdict⟩ := hstep channel _ state hthreshold hstate
    have hsame := hall channel (some threshold, state) state'
      (List.getElem?_zip_eq_some.mpr ⟨hthreshold, hstate⟩) hstate'
    rw [show final = state' from Except.ok.inj (hfinished.symm.trans hsame)] at hverdict
    exact hverdict threshold rfl hdetector

/-- All channels of a block of whole frames. -/
theorem scanSamples_ok (hgeometry : scan.geometry.Sound)
    (hmemory : InMemory scan (samples.length / thresholds.length)) :
    ∃ states, scanSamples scan thresholds thresholds.length samples = .ok states ∧
      ∀ channel threshold state, thresholds[channel]? = some (some threshold) →
        states[channel]? = some state → scan.detector = .windowedRmsPeak →
        state.toVerdict = channelVerdict scan threshold (channelSamples samples thresholds.length
          channel 0 (samples.length / thresholds.length)) := by
  obtain ⟨fed, hfeed, htracked⟩ := AllTracked.feedFrames hgeometry hmemory
  obtain ⟨states, hfinish, -, hverdict⟩ := htracked.finishStates hgeometry hmemory
  refine ⟨states, ?_, hverdict⟩
  unfold scanSamples
  rw [hfeed]
  exact hfinish

end Channels

theorem channelVerdict_evaluated (scan : Scan S L D) (threshold : D) (samples : List S) :
    (channelVerdict scan threshold samples).evaluated =
      (List.range (samples.length ⌈/⌉ scan.geometry.hop)).map
        (windowRange scan samples.length) := by
  rw [← windowsVerdict_evaluated scan threshold samples]
  unfold channelVerdict
  split
  · rfl
  · rfl

/-! ### A frozen epoch -/

/-- Every frozen epoch, scratch buffer and partition of its samples into blocks
of frames: the detectors find in the epoch what they find in all of its samples
at once, and decide the same. A windowed channel has then been judged by the
windows that start every hop before the last sample, in order and cut off
there. The samples are in memory, so they have less than `2 ^ 63` bytes. -/
theorem frozen_classification_matches_batch {cfg : ArenaConfig} {zero : S}
    {worker₀ : WorkerState S} (hnew : WorkerState.new cfg zero = .ok worker₀) (slotCount : ℕ)
    (hpos : 0 < worker₀.cfg.slotFrames) (events : List (SessionEvent S))
    {frozen : FrozenCaptureEpoch}
    (hgranted : ((ArenaRun.start worker₀ slotCount hpos zero).steps events).granted =
      some frozen.descriptor)
    (hreleased : frozen.released = false) (hpending : frozen.releasePending = false)
    (meter : Meter S L D) {policy : ResolvedActivityPolicy D}
    (hpolicy : policy.channels.length = frozen.descriptor.channels) {geometry : WindowGeometry}
    (hgeometry : WindowGeometry.new frozen.descriptor.sampleRate = .ok geometry)
    {scratchFrames : ℕ} (hscratch : 0 < scratchFrames) {scratch : List S}
    (hlength : scratch.length = scratchFrames * frozen.descriptor.channels)
    (hlimit : frozen.absoluteRange.stop + scratchFrames ≤ u64Max)
    (hmemory : frozen.totalFrames * frozen.descriptor.channels * 4 < 2 ^ 63) :
    let run := (ArenaRun.start worker₀ slotCount hpos zero).steps events
    let ring := run.worker.epochs frozen.descriptor.index
    let channels := frozen.descriptor.channels
    let total := frozen.totalFrames
    let samples := slice run.history (frozen.absoluteRange.start * channels) (total * channels)
    let thresholds := policy.thresholds meter
    let scan : Scan S L D := ⟨meter, policy.detector, geometry, frozen.absoluteRange.start⟩
    ∃ states,
      scanFrozenEpoch meter policy frozen ring scratch = .ok states ∧
      (∀ chunks, chunks.flatten = samples → (∀ chunk ∈ chunks, channels ∣ chunk.length) →
        feedChunks scan thresholds channels 0 chunks (prepareStates scan thresholds) >>=
          finishStates scan thresholds = .ok states) ∧
      classifySamples meter samples channels frozen.absoluteRange.start
          frozen.descriptor.sampleRate policy channels =
        .ok (List.zipWith Dump.channelDecision policy.decided.modes
          (states.map DetectorState.found)) ∧
      (∀ decision, classifyFrozenEpoch meter policy frozen ring scratch decision =
        Dump.classifyFrozenEpoch frozen policy.decided
          ⟨scratch.length, .ok (states.map DetectorState.found)⟩ decision) ∧
      ∀ channel threshold state, thresholds[channel]? = some (some threshold) →
        states[channel]? = some state → policy.detector = .windowedRmsPeak →
        state.toVerdict =
          channelVerdict scan threshold (channelSamples samples channels channel 0 total) ∧
        state.evaluated =
          (List.range (total ⌈/⌉ geometry.hop)).map fun k =>
            ⟨frozen.absoluteRange.start + k * geometry.hop,
              frozen.absoluteRange.start + min (k * geometry.hop + geometry.window) total⟩ := by
  intro run ring channels total samples thresholds scan
  have hinv : run.Inv := (ArenaRun.Inv.start hnew slotCount hpos).steps events
  have htracks := hinv.tracks
  have hholds := htracks.holds frozen.descriptor hgranted
  have hchannels : channels = run.worker.cfg.ring.channels := hholds.channels
  have hchannelsPos : 0 < channels := hchannels ▸ htracks.inv.channels_pos
  have hthresholds : thresholds.length = channels := by
    simp only [thresholds, ResolvedActivityPolicy.thresholds, List.length_map]
    exact hpolicy
  have hstop := hholds.stop_le
  have hhead := htracks.inv.head
  change frozen.absoluteRange.stop ≤ _ at hstop
  have horder : frozen.absoluteRange.start < frozen.absoluteRange.stop := hholds.nonempty
  have htotal : total = frozen.absoluteRange.stop - frozen.absoluteRange.start := rfl
  have hhistory : frozen.absoluteRange.stop * run.worker.cfg.ring.channels ≤
      run.history.length := by
    rw [htracks.length]
    exact Nat.mul_le_mul_right _ (by omega)
  have hsamples : samples.length = total * channels := by
    refine length_slice_of_le ?_
    rw [← Nat.add_mul, hchannels]
    exact (Nat.mul_le_mul_right _ (by omega)).trans hhistory
  have hframes : samples.length / channels = total := by
    rw [hsamples, Nat.mul_div_cancel _ hchannelsPos]
  have hinMemory : InMemory scan total := by
    refine ⟨?_, show frozen.absoluteRange.start + total ≤ u64Max by omega⟩
    have hle : total * 1 ≤ total * channels := Nat.mul_le_mul_left _ hchannelsPos
    change total * channels * 4 < 2 ^ 63 at hmemory
    omega
  obtain ⟨states, hbatch, hverdict⟩ := @scanSamples_ok _ _ _ scan thresholds samples
    (WindowGeometry.Sound.of_new hgeometry) (by rw [hthresholds, hframes]; exact hinMemory)
  rw [hthresholds] at hbatch
  rw [hthresholds, hframes] at hverdict
  have hfrozen : scanFrozenEpoch meter policy frozen ring scratch = .ok states := by
    have hread := @feedEpoch_eq _ _ _ scan thresholds _ _ _ htracks.inv hholds hreleased hpending
      hhistory _ hscratch hlimit total frozen.absoluteRange.start le_rfl horder.le (by omega)
      scratch (by rw [hlength, ← hchannels]) (prepareStates scan thresholds)
    rw [← hchannels, Nat.sub_self] at hread
    unfold scanFrozenEpoch
    rw [hgeometry]
    exact (congrArg (· >>= finishStates scan thresholds) hread).trans hbatch
  refine ⟨states, hfrozen, fun chunks hflatten hwhole => ?_, ?_, fun decision => ?_,
    fun channel threshold state hthreshold hstate hdetector => ?_⟩
  · rw [feedChunks_eq hchannelsPos hwhole, hflatten]
    exact hbatch
  · unfold classifySamples
    rw [if_neg, hgeometry]
    · change (scanSamples scan thresholds channels samples >>= fun states => _) = _
      rw [hbatch]
      rfl
    · rw [hsamples, Nat.mul_mod_left]
      have hmatches : policy.channels.length = channels := hpolicy
      omega
  · unfold classifyFrozenEpoch
    rw [hfrozen]
    rfl
  · have hchannel : channel < channels := by
      rw [← hthresholds]
      exact (List.getElem?_eq_some_iff.mp hthreshold).1
    have hcount : (channelSamples samples channels channel 0 total).length = total :=
      length_channelSamples hchannel (by rw [Nat.zero_add, hsamples])
    have hjudged := hverdict channel threshold state hthreshold hstate hdetector
    refine ⟨hjudged, ?_⟩
    rw [hjudged, channelVerdict_evaluated, hcount]
    rfl

/-- Amplitudes as whole numbers: half of a threshold is 6 dB below it, four
times a threshold 12 dB above. -/
def wholeMeter : Meter ℕ (ℕ × ℕ) ℕ where
  isFinite := fun _ => true
  isZero := fun sample => sample = 0
  zero := (0, 0)
  add := fun level sample => (level.1 + sample * sample, max level.2 sample)
  rmsDbfs := fun level count => Nat.sqrt (level.1 / count)
  peakDbfs := Prod.snd
  closeThreshold := fun threshold => threshold / 2
  transientThreshold := fun threshold => 4 * threshold
  ge := fun a b => b ≤ a
  lt := fun a b => a < b
  isFiniteDbfs := fun _ => true

def wholePolicy : ResolvedActivityPolicy ℕ where
  detector := .windowedRmsPeak
  channels := [⟨.auto, some 2⟩]
  wholeExportExactZeroGate := false
  trimLeadingSilence := false

def wholeEpoch : FrozenCaptureEpoch :=
  ⟨1, ⟨0, 2, 0, ⟨0, 2⟩, ⟨0, 2⟩, 1, 1, .f32Le⟩, false, false⟩

/-- Two frames through one frame of scratch: one window for each. -/
theorem frozen_classification_matches_batch_two :
    ∃ worker₀, WorkerState.new Arena.smallArena (0 : ℕ) = .ok worker₀ ∧
      ∃ hpos : 0 < worker₀.cfg.slotFrames, ∃ states state,
        let run := (ArenaRun.start worker₀ 4 hpos 0).steps freezeTwo
        run.granted = some wholeEpoch.descriptor ∧
        scanFrozenEpoch wholeMeter wholePolicy wholeEpoch
          (run.worker.epochs wholeEpoch.descriptor.index) [0] = .ok states ∧
        states[0]? = some state ∧ state.evaluated = [⟨0, 1⟩, ⟨1, 2⟩] ∧ state.result = .active := by
  refine ⟨_, rfl, by decide, ?_⟩
  obtain ⟨states, hfrozen, -, -, -, hwindows⟩ :=
    @frozen_classification_matches_batch ℕ (ℕ × ℕ) ℕ Arena.smallArena 0 _ rfl 4 (by decide)
      freezeTwo wholeEpoch (by decide +kernel) rfl rfl wholeMeter wholePolicy rfl ⟨1, 1, 1⟩
      (by decide +kernel) 1 Nat.zero_lt_one [0] rfl (by decide) (by decide)
  have hresult : (.ok states : Result _).map (List.map fun state => state.result) =
      .ok [Dump.ActivityResult.active] := by
    rw [← hfrozen]
    decide +kernel
  obtain ⟨state, rest, rfl⟩ : ∃ state rest, states = state :: rest := by
    cases states with
    | nil => cases hresult
    | cons state rest => exact ⟨state, rest, rfl⟩
  have hjudged := hwindows 0 2 state rfl rfl rfl
  refine ⟨_, state, by decide +kernel, hfrozen, rfl, hjudged.2, ?_⟩
  exact (List.cons.inj (Except.ok.inj hresult)).1

end Lamb.Activity
