import Lamb.Activity.Detector
import Lamb.Calibration.Identity

/-!
The threshold report of a profile, and the activity policy it leaves: the
threshold of a channel is dropped unless the report evaluates it as effective.

What a profile resolves to apart from its name is a parameter, and so are the
digest and what is read of the generations.
-/

namespace Lamb.Calibration

open Lamb.Lib

/-! ### Profiles and policies -/

structure ResolvedCapturePort where
  source : String
  name : String
  deriving DecidableEq, Repr

structure ChannelActivityPolicy (δ : Type) where
  name : String
  mode : Dump.ChannelExportMode
  threshold : Option (ActivityThresholdConfig δ)
  deriving DecidableEq

structure ResolvedActivityPolicy (δ : Type) where
  detector : Activity.ActivityDetectorKind
  channels : List (ChannelActivityPolicy δ)
  wholeExportExactZeroGate : Bool
  trimLeadingSilence : Bool
  deriving DecidableEq

/-- What `validate_profile` resolves of a profile, the name apart; `target` is
the one of `pipewire_config`, and `rest` is everything not used here. -/
structure ProfileSettings (δ κ : Type) where
  backend : String
  ports : List ResolvedCapturePort
  target : Option String
  activity : ResolvedActivityPolicy δ
  rest : κ
  deriving DecidableEq

structure ResolvedProfile (δ κ : Type) extends ProfileSettings δ κ where
  name : String
  deriving DecidableEq

/-- The parts of a capture session that thresholds are evaluated against.
`identity` tells two sessions apart as `Arc::ptr_eq` does, and `activity` is that
part of its `policy`. -/
structure CaptureSession (δ : Type) where
  identity : ℕ
  sampleRate : ℕ
  channelCount : ℕ
  profileName : String
  activity : ResolvedActivityPolicy δ
  configuredInputs : List ConfiguredInputIdentity
  resolvedLiveInputs : List (Option ResolvedLiveInputIdentity)
  calibrationSampleFrames : ℕ

/-! ### The report -/

inductive CalibrationReportStatus
  | notConfigured
  | notApplicable
  | complete
  | stale (reason : StaleReason)
  deriving DecidableEq, Repr

inductive CalibrationEvaluation
  | notResolved
  | valid
  | stale (reason : StaleReason)
  deriving DecidableEq, Repr

structure ConfiguredInputReport where
  backend : InputBackend
  selector : ConfiguredDeviceSelector
  source : String
  inputId : String
  deriving DecidableEq, Repr

structure LiveInputReport where
  backend : InputBackend
  keyKind : LiveDeviceKeyKind
  keyValue : String
  resolvedSource : String
  deriving DecidableEq, Repr

structure StoredThresholdReport (δ : Type) where
  thresholdDbfs : δ
  source : ThresholdSource
  updatedAtUnixSeconds : ℕ
  ageSeconds : Option ℕ
  calibrationId : Option String
  deriving DecidableEq

structure ThresholdChannelReport (δ : Type) where
  channel : String
  detector : String
  detectorVersion : String
  configuredInput : ConfiguredInputReport
  stored : Option (StoredThresholdReport δ)
  artifactStatus : CalibrationReportStatus
  currentLiveIdentity : Option LiveInputReport
  configuredIdentityMatches : Option Bool
  calibrationEvaluation : CalibrationEvaluation
  effectiveThresholdDbfs : Option δ
  deriving DecidableEq

structure ThresholdReport (δ : Type) where
  profile : String
  activeProfile : Bool
  capturing : Bool
  channels : List (ThresholdChannelReport δ)
  message : String
  deriving DecidableEq

/-! ### Generations -/

/-- The check of `CalibrationStore::new` on its frames; its root is absolute. -/
def validateMaximumFrames (maximumFrames : ℕ) : Result Unit := do
  ensure (maximumFrames ≠ 0)
    (.validation "calibration store maximum frames must be nonzero")
  ensure (maximumFrames * 4 < 2 ^ 32) (.validation "WAV data too large")
  ensure (36 + maximumFrames * 4 < 2 ^ 32) (.validation "WAV size overflow")

inductive CalibrationArtifactStatus
  | complete
  | stale (reason : StaleReason)
  deriving DecidableEq, Repr

section Inspect

variable {γ φ δ : Type} (sha256 : List UInt8 → List UInt8) (store : CalibrationStore γ φ δ)

/-- The checks of `inspect_offline` on a generation that has been opened. -/
def inspectGeneration (threshold : ActivityThresholdConfig δ) (input : ConfiguredInputIdentity)
    (now : ℕ) (id : String) (generation : γ) : CalibrationArtifactStatus :=
  match store.readMetadataAt generation with
  | .error (.io .notFound) => .stale .missingMetadata
  | .error _ => .stale .corruptMetadata
  | .ok metadata =>
      if store.maximumFrames < metadata.frames then .stale .corruptMetadata
      else if metadata.calibrationId ≠ id then .stale .generationMismatch
      else if metadata.version = 1 then .stale .missingLiveIdentity
      else if metadata.inputId ≠ input.inputId ∨ metadata.configuredInput ≠ some input then
        .stale .inputMismatch
      else if metadata.resolvedLiveInput = none then .stale .missingLiveIdentity
      else if metadata.detectorVersion ≠ windowedRmsPeakDetectorVersion then
        .stale .detectorMismatch
      else if now < metadata.createdAtUnixSeconds then .stale .futureTimestamp
      else if metadata.createdAtUnixSeconds ≠ threshold.updatedAtUnixSeconds then
        .stale .incoherentTimestamp
      else if store.sameThreshold metadata.thresholdDbfs threshold.thresholdDbfs = false then
        .stale .thresholdMismatch
      else if staleSeconds < now - metadata.createdAtUnixSeconds then .stale .expired
      else
        match store.validateWavAt generation metadata.sampleRate metadata.frames with
        | .error (.io .notFound) => .stale .missingSample
        | .error _ => .stale .corruptSample
        | .ok sampleAbsPeak =>
            if store.exceeds metadata.observedPeak sampleAbsPeak then .stale .corruptMetadata
            else .complete

def inspectOffline (threshold : ActivityThresholdConfig δ) (input : ConfiguredInputIdentity)
    (now : ℕ) : Result CalibrationArtifactStatus := do
  input.validateCanonical sha256
  if threshold.inputId ≠ input.inputId then pure (.stale .inputMismatch)
  else if threshold.thresholdSource = .manual then pure .complete
  else
    match threshold.calibrationId.filter (· ≠ "") with
    | none => pure (.stale .missingCalibrationId)
    | some id =>
        if safeId id = false then pure (.stale .generationMismatch)
        else
          match store.openGeneration input.inputId id with
          | .error _ => pure (.stale .missingState)
          | .ok generation => pure (inspectGeneration store threshold input now id generation)

def inspectRoot (threshold : ActivityThresholdConfig δ) (input : ConfiguredInputIdentity)
    (now : ℕ) : Result CalibrationArtifactStatus := do
  let maximumFrames := (2 ^ 32 - 1 - 36) / 4
  validateMaximumFrames maximumFrames
  inspectOffline sha256 { store with maximumFrames := maximumFrames } threshold input now

def validateRoot (maximumFrames : ℕ) (threshold : ActivityThresholdConfig δ)
    (input : ConfiguredInputIdentity) (live : Option ResolvedLiveInputIdentity)
    (sampleRate now : ℕ) : Result CalibrationValidity := do
  validateMaximumFrames maximumFrames
  validate sha256 { store with maximumFrames := maximumFrames } threshold input live sampleRate now

end Inspect

/-! ### Evaluating the thresholds -/

/-- `str::split_once(':')`, the part in front. -/
def sourceClient (source : String) : Option String :=
  match source.toList.splitOn ':' with
  | client :: _ :: _ => some (String.ofList client)
  | _ => none

def configuredIdentity {δ κ : Type} (sha256 : List UInt8 → List UInt8)
    (profile : ResolvedProfile δ κ) (channel : String) : Result ConfiguredInputIdentity :=
  match profile.ports.find? fun port => port.name = channel with
  | none => .error (.config s!"profile {profile.name} has no channel {channel}")
  | some port =>
      if profile.backend = "pipewire" then
        let selector :=
          match (profile.target.map Text.trim).filter (· ≠ "") with
          | some target => .pipeWireTarget target
          | none => .pipeWireAuto
        ConfiguredInputIdentity.new sha256 .pipeWire selector port.name port.source
      else if profile.backend = "jack" then
        match sourceClient port.source with
        | none => .error (.validation "JACK source must be a complete client:port")
        | some client =>
            ConfiguredInputIdentity.new sha256 .jack (.jackSourceClient client) port.name
              port.source
      else .error (.validation s!"unsupported backend {profile.backend}")

def exactZeroDetectorVersion : String := "exact-zero-v1"

def detectorIdentity : Activity.ActivityDetectorKind → Result (String × String)
  | .exactZero => .ok ("exact-zero", exactZeroDetectorVersion)
  | .windowedRmsPeak => .ok ("windowed-rms-peak", windowedRmsPeakDetectorVersion)
  | _ => .error (.validation "resolved profile contains an unsupported activity detector")

/-- What the report relies on: how a profile resolves, the digest, and the
generations of a store. -/
structure ThresholdHost (γ φ δ π κ : Type) where
  resolveProfile : String → ProfileConfig δ π → Result (ProfileSettings δ κ)
  sha256 : List UInt8 → List UInt8
  generations : Recovery.World → CalibrationStore γ φ δ

section Report

variable {γ φ δ π ρ κ : Type} (host : ThresholdHost γ φ δ π κ) (store : Recovery.World)

def validateProfile (name : String) (profile : ProfileConfig δ π) :
    Result (ResolvedProfile δ κ) := do
  let settings ← host.resolveProfile name profile
  pure { settings with name := name }

def storedThreshold (now : ℕ) (threshold : ActivityThresholdConfig δ) :
    StoredThresholdReport δ where
  thresholdDbfs := threshold.thresholdDbfs
  source := threshold.thresholdSource
  updatedAtUnixSeconds := threshold.updatedAtUnixSeconds
  ageSeconds :=
    if threshold.updatedAtUnixSeconds ≤ now then some (now - threshold.updatedAtUnixSeconds)
    else none
  calibrationId := threshold.calibrationId

/-- What is on the disk of a calibrated threshold. -/
def artifactStatus (threshold : Option (ActivityThresholdConfig δ))
    (input : ConfiguredInputIdentity) (now : ℕ) : Result CalibrationReportStatus :=
  match threshold with
  | none => .ok .notConfigured
  | some threshold =>
      if threshold.thresholdSource = .calibrated then do
        match ← inspectRoot host.sha256 (host.generations store) threshold input now with
        | .complete => pure .complete
        | .stale reason => pure (.stale reason)
      else .ok .notApplicable

/-- Whether a threshold counts for the session, and its value if so. -/
def evaluateThreshold (capturing : Option (CaptureSession δ))
    (matching : Option Bool) (live : Option ResolvedLiveInputIdentity)
    (threshold : Option (ActivityThresholdConfig δ)) (input : ConfiguredInputIdentity) (now : ℕ) :
    Result (CalibrationEvaluation × Option δ) :=
  match threshold with
  | none => .ok (.notResolved, none)
  | some threshold =>
      if threshold.thresholdSource = .manual then
        if threshold.inputId = input.inputId then .ok (.valid, some threshold.thresholdDbfs)
        else .ok (.stale .inputMismatch, none)
      else
        match capturing with
        | none => .ok (.notResolved, none)
        | some session =>
            if matching = some false then .ok (.stale .inputMismatch, none)
            else do
              match ← validateRoot host.sha256 (host.generations store)
                session.calibrationSampleFrames threshold input live session.sampleRate now with
              | .valid => pure (.valid, some threshold.thresholdDbfs)
              | .stale reason => pure (.stale reason, none)

/-- The report of one port. -/
def channelReport (profileConfig : ProfileConfig δ π) (resolved : ResolvedProfile δ κ)
    (capturing : Option (CaptureSession δ)) (detector : String × String) (now : ℕ)
    (port : ResolvedCapturePort) (index : ℕ) : Result (ThresholdChannelReport δ) := do
  let input ← configuredIdentity host.sha256 resolved port.name
  let threshold := (profileConfig.channels.lookup port.name).join
  let status ← artifactStatus host store threshold input now
  let matching := capturing.map fun session =>
    decide (session.configuredInputs[index]? = some input)
  let live := capturing.bind fun session => (session.resolvedLiveInputs[index]?).join
  let (evaluation, effective) ←
    evaluateThreshold host store capturing matching live threshold input now
  pure
    { channel := port.name
      detector := detector.1
      detectorVersion := detector.2
      configuredInput := ⟨input.backend, input.selector, input.source, input.inputId⟩
      stored := threshold.map (storedThreshold now)
      artifactStatus := status
      currentLiveIdentity := live.map fun live =>
        ⟨live.backend, live.keyKind, live.keyValue, live.resolvedSource⟩
      configuredIdentityMatches := matching
      calibrationEvaluation := evaluation
      effectiveThresholdDbfs := effective }

def missingProfile (name : String) : LambError :=
  .config s!"profile {name} does not exist"

def thresholdReport (config : AppConfig δ π ρ) (profileName : String)
    (activeProfile : Option (ResolvedProfile δ κ)) (session : Option (CaptureSession δ))
    (now : ℕ) : Result (ThresholdReport δ) := do
  let profileConfig ← ((config.profiles.lookup profileName).elim
    (.error (missingProfile profileName)) .ok)
  let resolved ← validateProfile host profileName profileConfig
  let requestedActive := activeProfile.any fun active => active.name = profileName
  let capturing := session.filter fun session =>
    decide (session.profileName = profileName) && requestedActive
  let detector ← detectorIdentity resolved.activity.detector
  let channels ← resolved.ports.zipIdx.mapM fun (port, index) =>
    channelReport host store profileConfig resolved capturing detector now port index
  pure
    { profile := profileName
      activeProfile := requestedActive
      capturing := capturing.isSome
      channels
      message := "threshold report" }

end Report

/-! ### The effective policy -/

section Effective

variable {δ : Type}

/-- A channel of the policy as its report leaves it. -/
def ThresholdChannelReport.effective (report : ThresholdChannelReport δ)
    (channel : ChannelActivityPolicy δ) : ChannelActivityPolicy δ :=
  match report.effectiveThresholdDbfs with
  | none => { channel with threshold := none }
  | some _ => channel

/-- The loop over the channels of the policy and of the report. -/
def effectiveChannels (reordered : LambError) : List (ChannelActivityPolicy δ) →
    List (ThresholdChannelReport δ) → Result (List (ChannelActivityPolicy δ))
  | channel :: channels, report :: reports => do
      ensure (channel.name = report.channel) reordered
      let rest ← effectiveChannels reordered channels reports
      pure (report.effective channel :: rest)
  | channels, _ => .ok channels

/-- `owner` is what the messages call the policy. -/
def effectiveActivity (owner : String) (activity : ResolvedActivityPolicy δ)
    (report : ThresholdReport δ) : Result (ResolvedActivityPolicy δ) := do
  ensure (activity.channels.length = report.channels.length)
    (.controlInvariant (owner ++ " activity policy/report channel count changed"))
  let channels ← effectiveChannels
    (.controlInvariant (owner ++ " activity policy/report channel order changed"))
    activity.channels report.channels
  pure { activity with channels }

/-- The policy with exactly the thresholds removed that a report does not
evaluate as effective; the two are about the same channels. -/
structure Effective (report : ThresholdReport δ) (activity policy : ResolvedActivityPolicy δ) :
    Prop where
  names : activity.channels.map ChannelActivityPolicy.name =
    report.channels.map ThresholdChannelReport.channel
  policy_eq : policy = { activity with
    channels := List.zipWith ThresholdChannelReport.effective report.channels activity.channels }

theorem effectiveChannels_eq_ok {reordered : LambError}
    {channels kept : List (ChannelActivityPolicy δ)}
    {reports : List (ThresholdChannelReport δ)} (hlength : channels.length = reports.length)
    (h : effectiveChannels reordered channels reports = .ok kept) :
    channels.map ChannelActivityPolicy.name = reports.map ThresholdChannelReport.channel ∧
      kept = List.zipWith ThresholdChannelReport.effective reports channels := by
  induction channels generalizing reports kept with
  | nil =>
      obtain rfl := List.length_eq_zero_iff.mp hlength.symm
      cases h
      exact ⟨rfl, rfl⟩
  | cons channel channels ih =>
      cases reports with
      | nil => cases hlength
      | cons report reports =>
          obtain ⟨_, hname, h⟩ := bind_eq_ok.mp h
          obtain ⟨rest, hrest, h⟩ := bind_eq_ok.mp h
          cases h
          obtain ⟨hnames, rfl⟩ := ih (Nat.succ.inj hlength) hrest
          refine ⟨?_, rfl⟩
          rw [List.map_cons, List.map_cons, hnames, ensure_eq_ok.mp hname]

theorem effectiveActivity_eq_ok {owner : String} {activity policy : ResolvedActivityPolicy δ}
    {report : ThresholdReport δ} (h : effectiveActivity owner activity report = .ok policy) :
    Effective report activity policy := by
  obtain ⟨_, hlength, h⟩ := bind_eq_ok.mp h
  obtain ⟨channels, hchannels, h⟩ := bind_eq_ok.mp h
  cases h
  obtain ⟨hnames, rfl⟩ := effectiveChannels_eq_ok (ensure_eq_ok.mp hlength) hchannels
  exact ⟨hnames, rfl⟩

end Effective

end Lamb.Calibration
