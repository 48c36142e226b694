import Lamb.Arena.Client

/-!
The export decision of a frozen epoch: which channels are retained and where
the export starts. The detectors work in floating point; what they find in a
channel is an input here, everything decided from it is computed.
-/

namespace Lamb.Dump

open Lamb.Ring Lamb.Arena

inductive ChannelExportMode
  | always
  | auto
  | never
  deriving DecidableEq, Repr

inductive ActivityResult
  | active
  | inactive
  | ambiguous
  deriving DecidableEq, Repr

inductive ChannelDisposition
  | retain
  | omit
  deriving DecidableEq, Repr

def canonicalDisposition (mode : ChannelExportMode) (result : ActivityResult) :
    ChannelDisposition :=
  match mode with
  | .never => .omit
  | .always => .retain
  | .auto => if result = .inactive then .omit else .retain

structure FrozenChannelDecision where
  mode : ChannelExportMode
  result : ActivityResult
  disposition : ChannelDisposition
  firstEvidenceFrame : Option ℕ
  deriving DecidableEq, Repr

def FrozenChannelDecision.empty : FrozenChannelDecision where
  mode := .never
  result := .inactive
  disposition := .omit
  firstEvidenceFrame := none

def FrozenChannelDecision.forceOmit (channel : FrozenChannelDecision) (forcedOmit : Bool) :
    FrozenChannelDecision :=
  if forcedOmit then { channel with disposition := .omit } else channel

structure FrozenExportDecision where
  channels : List FrozenChannelDecision
  exportRange : Range
  sampleRate : ℕ
  valid : Bool
  frozenEpoch : Option FrozenEpochIdentity
  deriving DecidableEq, Repr

def FrozenExportDecision.new (channels sampleRate : ℕ) : FrozenExportDecision where
  channels := List.replicate channels .empty
  exportRange := ⟨0, 0⟩
  sampleRate := sampleRate
  valid := false
  frozenEpoch := none

def FrozenExportDecision.reset (decision : FrozenExportDecision) : FrozenExportDecision :=
  { decision with
    channels := List.replicate decision.channels.length .empty
    exportRange := ⟨0, 0⟩
    valid := false
    frozenEpoch := none }

@[simp] theorem FrozenExportDecision.reset_valid (decision : FrozenExportDecision) :
    decision.reset.valid = false :=
  rfl

/-- The closure `reset` of `compatible_reset_with`. -/
def FrozenExportDecision.isReset (decision : FrozenExportDecision) : Bool :=
  !decision.valid && decision.exportRange == ⟨0, 0⟩ && decision.frozenEpoch.isNone &&
    decision.channels.all (· == .empty)

def FrozenExportDecision.compatibleResetWith (decision other : FrozenExportDecision) : Bool :=
  decision.isReset && other.isReset && decision.sampleRate == other.sampleRate &&
    decision.channels.length == other.channels.length

def allNever (channels : List FrozenChannelDecision) : Bool :=
  channels.all fun channel => channel.mode == .never

/-! ### Finalizing a decision -/

def firstRetainedEvidence (channels : List FrozenChannelDecision) (forcedOmit : Bool) :
    Option ℕ :=
  ((channels.filter fun channel => !forcedOmit && channel.disposition == .retain).filterMap
    FrozenChannelDecision.firstEvidenceFrame).min?

/-- The first frame of the export: two seconds before the first evidence, but
never before the frozen range. -/
def exportStart (frozenRange : Range) (sampleRate : ℕ) (trimLeadingSilence : Bool)
    (first : Option ℕ) : ℕ :=
  if trimLeadingSilence then
    max ((first.map fun frame => frame - 2 * sampleRate).getD frozenRange.start) frozenRange.start
  else frozenRange.start

/-- `finalize`; an error leaves the decision as it was. -/
def FrozenExportDecision.finalize (decision : FrozenExportDecision) (frozenRange : Range)
    (channels : List FrozenChannelDecision)
    (trimLeadingSilence wholeExportExactZeroGate : Bool) : Result FrozenExportDecision :=
  let forcedOmit := allNever channels || wholeExportExactZeroGate
  let start := exportStart frozenRange decision.sampleRate trimLeadingSilence
    (firstRetainedEvidence channels forcedOmit)
  if decision.valid then
    .error (.exportInvariant "frozen export decision is already final")
  else if frozenRange.start > frozenRange.stop ∨
      channels.length ≠ decision.channels.length then
    .error (.exportInvariant "invalid frozen export decision geometry")
  else if ∃ channel ∈ channels,
      channel.disposition ≠ canonicalDisposition channel.mode channel.result then
    .error (.exportInvariant "activity disposition contradicts mode and result")
  else if channels.any fun channel => channel.firstEvidenceFrame.any fun frame =>
      decide (frame < frozenRange.start ∨ frozenRange.stop ≤ frame) then
    .error (.exportInvariant "activity evidence is outside the frozen range")
  else if start > frozenRange.stop then
    .error (.exportInvariant "activity crop is outside the frozen range")
  else .ok
    { decision with
      channels := channels.map fun channel => channel.forceOmit forcedOmit
      exportRange := ⟨start, frozenRange.stop⟩
      valid := true }

theorem le_exportStart (frozenRange : Range) (sampleRate : ℕ) (trimLeadingSilence : Bool)
    (first : Option ℕ) :
    frozenRange.start ≤ exportStart frozenRange sampleRate trimLeadingSilence first := by
  unfold exportStart
  split
  · exact Nat.le_max_right _ _
  · exact Nat.le_refl _

/-- A final decision exports a suffix of the frozen range. -/
theorem FrozenExportDecision.finalize_ok {decision decision' : FrozenExportDecision}
    {frozenRange : Range} {channels : List FrozenChannelDecision} {trim gate : Bool}
    (h : decision.finalize frozenRange channels trim gate = .ok decision') :
    frozenRange.start ≤ decision'.exportRange.start ∧
      decision'.exportRange.start ≤ decision'.exportRange.stop ∧
      decision'.exportRange.stop = frozenRange.stop := by
  simp only [FrozenExportDecision.finalize] at h
  split_ifs at h with hvalid hgeometry hcanonical hevidence hcrop
  obtain rfl := Except.ok.inj h
  exact ⟨le_exportStart _ _ _ _, Nat.le_of_not_lt hcrop, rfl⟩

theorem firstRetainedEvidence_lt {channels : List FrozenChannelDecision} {forcedOmit : Bool}
    {stop first : ℕ} (hfirst : firstRetainedEvidence channels forcedOmit = some first)
    (hevidence : ∀ channel ∈ channels, ∀ frame ∈ channel.firstEvidenceFrame, frame < stop) :
    first < stop := by
  have hmem := List.min?_mem hfirst
  simp only [List.mem_filterMap, List.mem_filter] at hmem
  obtain ⟨channel, ⟨hchannel, -⟩, hframe⟩ := hmem
  exact hevidence channel hchannel first hframe

/-- The export of a frozen range that is not empty is not empty: it starts at
the latest at the first evidence. -/
theorem FrozenExportDecision.finalize_lt {decision decision' : FrozenExportDecision}
    {frozenRange : Range} {channels : List FrozenChannelDecision} {trim gate : Bool}
    (h : decision.finalize frozenRange channels trim gate = .ok decision')
    (hrange : frozenRange.start < frozenRange.stop) :
    decision'.exportRange.start < decision'.exportRange.stop := by
  simp only [FrozenExportDecision.finalize] at h
  split_ifs at h with hvalid hgeometry hcanonical hevidence hcrop
  obtain rfl := Except.ok.inj h
  simp only [exportStart]
  split
  · cases hfirst : firstRetainedEvidence channels (allNever channels || gate) with
    | none => simpa using hrange
    | some first =>
        have hlt : first < frozenRange.stop := by
          refine firstRetainedEvidence_lt hfirst fun channel hchannel frame hframe => ?_
          by_contra hlate
          refine hevidence (List.any_eq_true.mpr ⟨channel, hchannel, ?_⟩)
          rw [Option.mem_def.mp hframe]
          simp only [Option.any_some, decide_eq_true_eq]
          omega
        simp only [Option.map_some, Option.getD_some]
        omega
  · exact hrange

/-! ### Classifying a frozen epoch -/

structure ActivityPolicy where
  modes : List ChannelExportMode
  trimLeadingSilence : Bool
  wholeExportExactZeroGate : Bool
  deriving DecidableEq, Repr

structure DetectorState where
  result : ActivityResult
  evidence : Option ℕ
  nonFinite : Bool
  exactNonzero : Bool
  deriving DecidableEq, Repr

/-- The detectors of a workspace: the size of their scratch buffer and what
they make of the samples of an epoch. -/
structure Detector where
  scratch : ℕ
  scan : Result (List DetectorState)

def channelDecision (mode : ChannelExportMode) (state : DetectorState) :
    FrozenChannelDecision where
  mode := mode
  result := state.result
  disposition := canonicalDisposition mode state.result
  firstEvidenceFrame := state.evidence

def classifyFrozenEpoch (frozen : FrozenCaptureEpoch) (policy : ActivityPolicy)
    (detector : Detector) (decision : FrozenExportDecision) : Result FrozenExportDecision :=
  if decision.valid then
    .error (.exportInvariant "frozen export decision is already final")
  else if detector.scratch < frozen.descriptor.channels then
    .error (.exportInvariant "activity workspace has invalid scratch geometry")
  else if policy.modes.length ≠ frozen.descriptor.channels ∨
      decision.channels.length ≠ frozen.descriptor.channels then
    .error (.exportInvariant "activity policy does not match frozen geometry")
  else if frozen.descriptor.sampleRate ≠ decision.sampleRate ∨
      frozen.descriptor.sampleRate = 0 then
    .error (.exportInvariant "activity sample rate does not match frozen decision")
  else match detector.scan with
    | .error e => .error e
    | .ok states =>
        let entireRangeIsFiniteZero :=
          states.all fun state => !state.nonFinite && !state.exactNonzero
        match decision.finalize frozen.absoluteRange
            (List.zipWith channelDecision policy.modes states) policy.trimLeadingSilence
            (policy.wholeExportExactZeroGate && entireRangeIsFiniteZero) with
        | .error e => .error e
        | .ok decision => .ok { decision with frozenEpoch := some frozen.identity }

/-- The decision of a transaction is open, or it was made for the frozen epoch
of the transaction and exports a suffix of it. -/
def FrozenExportDecision.Fits (decision : FrozenExportDecision) (range : Range) : Prop :=
  decision.valid = true →
    range.start ≤ decision.exportRange.start ∧
      decision.exportRange.start ≤ decision.exportRange.stop ∧
      decision.exportRange.stop = range.stop

/-- A classified decision is a finalized one, bound to the epoch. -/
theorem classifyFrozenEpoch_ok {frozen : FrozenCaptureEpoch} {policy : ActivityPolicy}
    {detector : Detector} {decision decision' : FrozenExportDecision}
    (h : classifyFrozenEpoch frozen policy detector decision = .ok decision') :
    ∃ channels gate final,
      decision.finalize frozen.absoluteRange channels policy.trimLeadingSilence gate = .ok final ∧
        decision' = { final with frozenEpoch := some frozen.identity } := by
  unfold classifyFrozenEpoch at h
  split_ifs at h
  cases hscan : detector.scan with
  | error e =>
      rw [hscan] at h
      cases h
  | ok states =>
      simp only [hscan] at h
      split at h
      · cases h
      · rename_i final hfinal
        exact ⟨_, _, final, hfinal, (Except.ok.inj h).symm⟩

theorem classifyFrozenEpoch_fits {frozen : FrozenCaptureEpoch} {policy : ActivityPolicy}
    {detector : Detector} {decision decision' : FrozenExportDecision}
    (h : classifyFrozenEpoch frozen policy detector decision = .ok decision') :
    decision'.Fits frozen.absoluteRange := by
  intro _
  obtain ⟨channels, gate, final, hfinal, rfl⟩ := classifyFrozenEpoch_ok h
  have hsuffix := FrozenExportDecision.finalize_ok hfinal
  exact hsuffix

theorem classifyFrozenEpoch_lt {frozen : FrozenCaptureEpoch} {policy : ActivityPolicy}
    {detector : Detector} {decision decision' : FrozenExportDecision}
    (h : classifyFrozenEpoch frozen policy detector decision = .ok decision')
    (hrange : frozen.absoluteRange.start < frozen.absoluteRange.stop) :
    decision'.exportRange.start < decision'.exportRange.stop := by
  obtain ⟨channels, gate, final, hfinal, rfl⟩ := classifyFrozenEpoch_ok h
  have hlt := FrozenExportDecision.finalize_lt hfinal hrange
  exact hlt

end Lamb.Dump
