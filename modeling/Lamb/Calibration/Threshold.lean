import Lamb.Calibration.Report
import Lamb.Lib.Table

/-!
The operations on thresholds: setting, resetting and calibrating the threshold
of one channel of a profile. Each builds the new configuration and the policy
that follows from it, saves the configuration, and installs both once the save
has returned; a reset then removes the generations that nothing refers to, a
calibration the one it replaced.

The operations run one after the other. Observing the channel and writing the
generation is one step of the store, a parameter here; a failing call, a hook
and a stopped capture may end an operation at every step.
-/

namespace Lamb.Calibration

open Lamb.Lib Lamb.Lib.SharedDisk

/-! ### The live state -/

inductive CaptureBackend
  | fake
  | jack
  | pipeWire
  deriving DecidableEq, Repr

/-- What `capture` and `capture_health` tell. -/
structure CaptureState where
  backend : CaptureBackend
  sampleRate : ℕ
  faulted : Bool
  deriving DecidableEq, Repr

structure AppRuntimeState (δ π ρ κ : Type) where
  config : AppConfig δ π ρ
  state : String
  capture : Option CaptureState
  activeProfile : Option (ResolvedProfile δ κ)
  session : Option (CaptureSession δ)

structure SessionCalibrationTarget (δ κ : Type) where
  session : CaptureSession δ
  activeProfile : ResolvedProfile δ κ
  channel : ℕ
  configured : ConfiguredInputIdentity
  live : ResolvedLiveInputIdentity
  sampleRate : ℕ
  capacity : ℕ

/-! ### The configuration -/

section Config

variable {δ π ρ : Type}

/-- `channels.entry(channel).or_default().activity = activity`. -/
def ProfileConfig.setActivity (profile : ProfileConfig δ π) (channel : String)
    (activity : Option (ActivityThresholdConfig δ)) : ProfileConfig δ π :=
  { profile with channels := Table.put profile.channels channel activity }

/-- The configuration with the activity of one channel of a profile changed. -/
def AppConfig.setActivity (config : AppConfig δ π ρ) (profileName : String)
    (profile : ProfileConfig δ π) (channel : String)
    (activity : Option (ActivityThresholdConfig δ)) : AppConfig δ π ρ :=
  { config with
    profiles := Table.put config.profiles profileName (profile.setActivity channel activity) }

def AppConfig.profile (config : AppConfig δ π ρ) (profileName : String) :
    Result (ProfileConfig δ π) :=
  (config.profiles.lookup profileName).elim (.error (missingProfile profileName)) .ok

end Config

/-! ### An operation -/

/-- What an operation meets outside the daemon: the clock, the hooks and the
names of temporary files. For a calibration it is also told whether the daemon
is to stop or the capture has failed, whether the observed channel is usable,
the threshold, and the generation that is made. -/
structure Occasion (δ : Type) where
  now : ℕ
  configHook : DurabilityHook
  cleanupHook : Generations.CleanupHook
  nameSource : World FileData → Result ℕ
  interrupted : ℕ → Bool
  calibrateChannel : ℕ → ℕ → Result Bool
  deriveThreshold : Result δ
  prepareGeneration : ConfiguredInputIdentity → ResolvedLiveInputIdentity → δ → ℕ →
    Recovery.Io (PreparedCalibrationGeneration δ)

/-- The daemon: its configuration file, the root of its generations, and what
its operations rely on. -/
structure DaemonContext (γ φ δ π ρ κ : Type) where
  host : Host
  configPath : Path
  store : Generations.StoreHost
  thresholds : ThresholdHost γ φ δ π κ
  format : ConfigFormat (AppConfig δ π ρ)
  thresholdInRange : δ → Bool
  display : LambError → String

abbrev ThresholdIo (δ π ρ κ β : Type) := Attempt (Setup (AppRuntimeState δ π ρ κ)) LambError β

inductive ThresholdRequest (δ : Type)
  | set (profile channel : String) (dbfs : δ)
  | reset (profile channel : String)
  | calibrate (profile channel : String) (seconds : ℕ)

section Operations

variable {γ φ δ π ρ κ : Type} [DecidableEq δ] [DecidableEq κ]
  (ctx : DaemonContext γ φ δ π ρ κ) (occasion : Occasion δ)

/-! ### The target of a calibration -/

def AppRuntimeState.captureMatchesTarget (runtime : AppRuntimeState δ π ρ κ)
    (target : SessionCalibrationTarget δ κ) : Bool :=
  match runtime.capture with
  | none => false
  | some capture =>
      match capture.backend with
      | .fake => false
      | .jack => target.activeProfile.backend = "jack" ∧ capture.sampleRate = target.sampleRate
      | .pipeWire =>
          target.activeProfile.backend = "pipewire" ∧ capture.sampleRate = target.sampleRate

/-- The configured input that the target's profile has at its channel. -/
def configuredMatchesProfile (target : SessionCalibrationTarget δ κ) : Bool :=
  match target.activeProfile.ports[target.channel]? with
  | none => false
  | some port =>
      port.name = target.configured.name ∧
        configuredIdentity ctx.thresholds.sha256 target.activeProfile port.name =
          .ok target.configured

def calibrationTargetMatchesRuntime (runtime : AppRuntimeState δ π ρ κ)
    (target : SessionCalibrationTarget δ κ) : Bool :=
  match runtime.session with
  | none => false
  | some session =>
      runtime.state = "capturing" ∧ runtime.captureMatchesTarget target ∧
        session.identity = target.session.identity ∧
        runtime.activeProfile = some target.activeProfile ∧
        target.activeProfile.name = session.profileName ∧
        session.channelCount = session.configuredInputs.length ∧
        session.configuredInputs.length = session.resolvedLiveInputs.length ∧
        session.configuredInputs.length = target.activeProfile.ports.length ∧
        configuredMatchesProfile ctx target ∧
        session.sampleRate = target.sampleRate ∧
        session.calibrationSampleFrames = target.capacity ∧
        session.configuredInputs[target.channel]? = some target.configured ∧
        session.resolvedLiveInputs[target.channel]? = some (some target.live) ∧
        runtime.capture.all fun capture => !capture.faulted

/-- `calibration_target_is_current`, the `moment`-th time it is asked. -/
def calibrationTargetIsCurrent (moment : ℕ) (runtime : AppRuntimeState δ π ρ κ)
    (target : SessionCalibrationTarget δ κ) : Bool :=
  !occasion.interrupted moment && calibrationTargetMatchesRuntime ctx runtime target

/-- The number of a channel fits in 32 bits. -/
def sessionCalibrationTarget (runtime : AppRuntimeState δ π ρ κ)
    (profileName channelName : String) : Result (SessionCalibrationTarget δ κ) := do
  let _ ← runtime.config.profile profileName
  let active ← runtime.activeProfile.elim
    (.error (.control s!"profile {profileName} is not active")) .ok
  ensure (active.name = profileName) (.control s!"profile {profileName} is not active")
  let session ← runtime.session.elim
    (.error (.control s!"profile {profileName} is not capturing")) .ok
  ensure (session.profileName = profileName) (.control "active capture session identity changed")
  match session.configuredInputs.findIdx? fun input => input.name = channelName with
  | none => .error (.config s!"profile {profileName} has no channel {channelName}")
  | some index =>
      match session.resolvedLiveInputs[index]?, session.configuredInputs[index]? with
      | some (some live), some configured => do
          let target : SessionCalibrationTarget δ κ :=
            { session
              activeProfile := active
              channel := index
              configured
              live
              sampleRate := session.sampleRate
              capacity := session.calibrationSampleFrames }
          ensure (calibrationTargetIsCurrent ctx occasion 0 runtime target)
            (.captureInvariant "calibration target is not currently capturing and healthy")
          pure target
      | _, _ =>
          .error (.control s!"profile {profileName} channel {channelName} has no durable live key")

/-! ### Installing -/

/-- The fields an operation installs; the policy goes to the session, if it is
given one. -/
def AppRuntimeState.install (runtime : AppRuntimeState δ π ρ κ) (config : AppConfig δ π ρ)
    (activeProfile : Option (ResolvedProfile δ κ)) (activity : Option (ResolvedActivityPolicy δ)) :
    AppRuntimeState δ π ρ κ :=
  { runtime with
    config
    activeProfile
    session := runtime.session.map fun session =>
      { session with activity := activity.getD session.activity } }

variable [DecidableEq π] [DecidableEq ρ]

def saveConfig (candidate : AppConfig δ π ρ) : ThresholdIo δ π ρ κ Unit :=
  onDisk (saveConfigAtomicWithHookAndNameSource ctx.host ctx.format ctx.configPath candidate
    occasion.configHook occasion.nameSource)

/-! ### Setting and resetting -/

/-- The generation of the previous threshold stays with a manual one if that was
for the same input. -/
def manualThreshold (identity : ConfiguredInputIdentity)
    (previous : Option (ActivityThresholdConfig δ)) (dbfs : δ) (now : ℕ) :
    ActivityThresholdConfig δ where
  thresholdDbfs := dbfs
  thresholdSource := .manual
  updatedAtUnixSeconds := now
  inputId := identity.inputId
  calibrationId := previous.bind fun previous =>
    if previous.inputId = identity.inputId then previous.calibrationId else none

/-- The generations that `referenced` leaves out are removed, and the message
tells what is left of them. -/
def cleanupReset (referenced : List (String × String)) : ThresholdIo δ π ρ κ String := do
  let cleaned ← (onStore
    (Generations.cleanupUnreferencedWithHook ctx.store referenced occasion.cleanupHook)).capture
  match cleaned with
  | .ok [] => pure "threshold reset"
  | .ok pending =>
      pure s!"threshold reset; calibration cleanup pending for {pending.length} path(s)"
  | .error error =>
      pure ("threshold reset; calibration cleanup warning: " ++ ctx.display error)

def mutateThreshold (profileName channel : String) (dbfs : Option δ) :
    ThresholdIo δ π ρ κ (String × ThresholdReport δ) := do
  let runtime := (← Attempt.get).live
  let profile ← Attempt.ofExcept (runtime.config.profile profileName)
  let resolved ← Attempt.ofExcept (validateProfile ctx.thresholds profileName profile)
  let identity ← Attempt.ofExcept (configuredIdentity ctx.thresholds.sha256 resolved channel)
  let previous := (profile.channels.lookup channel).join
  let activity := dbfs.map fun dbfs => manualThreshold identity previous dbfs occasion.now
  let candidate := runtime.config.setActivity profileName profile channel activity
  Attempt.ofExcept (ctx.format.validatePersistedConfig candidate)
  let candidateResolved ← Attempt.ofExcept
    (validateProfile ctx.thresholds profileName (profile.setActivity channel activity))
  let requestedActive := runtime.activeProfile.any fun active => active.name = profileName
  let matchingSession := runtime.session.filter fun session =>
    requestedActive && session.profileName = profileName
  let activeProfile := if requestedActive then some candidateResolved else runtime.activeProfile
  let report ← Attempt.ofExcept
    (thresholdReport ctx.thresholds (← Attempt.get).store candidate profileName activeProfile
      matchingSession occasion.now)
  let effective ← Attempt.ofExcept
    (effectiveActivity "candidate" candidateResolved.activity report)
  saveConfig ctx occasion candidate
  Attempt.modify fun setup =>
    { setup with
      live := setup.live.install candidate activeProfile (matchingSession.map fun _ => effective) }
  match dbfs with
  | some _ => pure ("threshold updated", report)
  | none => do
      let message ← cleanupReset ctx occasion (calibrationReferences candidate)
      pure (message, report)

def setThreshold (profileName channel : String) (dbfs : δ) :
    ThresholdIo δ π ρ κ (String × ThresholdReport δ) := do
  Attempt.require (ctx.thresholdInRange dbfs = true)
    (.validation "threshold dBFS must be finite and within [-120.0, 0.0]")
  mutateThreshold ctx occasion profileName channel (some dbfs)

def resetThreshold (profileName channel : String) :
    ThresholdIo δ π ρ κ (String × ThresholdReport δ) :=
  mutateThreshold ctx occasion profileName channel none

/-! ### Calibrating -/

/-- The generation that the threshold of a channel refers to, if it is there. -/
def capturePrevious (config : AppConfig δ π ρ) (profileName channelName : String) :
    Recovery.Io (Option Generations.RecordedGeneration) :=
  let activity := (config.profiles.lookup profileName).bind fun profile =>
    (profile.channels.lookup channelName).join
  match activity.bind ActivityThresholdConfig.generation with
  | none => pure none
  | some (inputId, id) => do
      match ← (Generations.RecordedGeneration.capture ctx.store inputId id).capture with
      | .ok recorded => pure (some recorded)
      | .error (.io .notFound) => pure none
      | .error error => Attempt.fail error

/-- A prepared generation that is dropped is removed unless it has become
authoritative. -/
def dropping {β : Type} (prepared : PreparedCalibrationGeneration δ)
    (rest : ThresholdIo δ π ρ κ β) : ThresholdIo δ π ρ κ β := do
  let result ← rest.capture
  let _ ← (cleanupWithHook ctx.store prepared fun _ _ => .ok ()).capture
  Attempt.ofExcept result

def displayLocation (location : Location) : String :=
  "/" ++ "/".intercalate location

def calibratedMessage (previous : Option Generations.RecordedGeneration) :
    OldGenerationCleanup → String
  | .pending =>
      "threshold calibrated; old calibration cleanup pending: " ++
        previous.elim "" fun old => displayLocation old.location
  | _ => "threshold calibrated"

def calibratedThreshold (target : SessionCalibrationTarget δ κ)
    (prepared : PreparedCalibrationGeneration δ) (thresholdDbfs : δ) :
    ActivityThresholdConfig δ where
  thresholdDbfs := thresholdDbfs
  thresholdSource := .calibrated
  updatedAtUnixSeconds := occasion.now
  inputId := target.configured.inputId
  calibrationId := some prepared.calibrationId

/-- What follows once the generation has been prepared. -/
def commitCalibration (profileName channelName : String) (target : SessionCalibrationTarget δ κ)
    (prepared : PreparedCalibrationGeneration δ) (thresholdDbfs : δ) :
    ThresholdIo δ π ρ κ (String × ThresholdReport δ) := do
  let runtime := (← Attempt.get).live
  let changed := LambError.captureInvariant "calibration target changed before commit"
  Attempt.require (calibrationTargetIsCurrent ctx occasion 2 runtime target = true) changed
  Attempt.require (calibrationTargetIsCurrent ctx occasion 3 runtime target = true) changed
  let previous ← onStore (capturePrevious ctx runtime.config profileName channelName)
  let profile ← Attempt.ofExcept (runtime.config.profile profileName)
  let activity := some (calibratedThreshold occasion target prepared thresholdDbfs)
  let candidate := runtime.config.setActivity profileName profile channelName activity
  Attempt.ofExcept (ctx.format.validatePersistedConfig candidate)
  let resolved ← Attempt.ofExcept
    (validateProfile ctx.thresholds profileName (profile.setActivity channelName activity))
  let report ← Attempt.ofExcept
    (thresholdReport ctx.thresholds (← Attempt.get).store candidate profileName (some resolved)
      (some target.session) occasion.now)
  let effective ← Attempt.ofExcept (effectiveActivity "candidate" resolved.activity report)
  let cleanup ← commitPreparedGenerationWithHooks ctx.host ctx.store prepared occasion.cleanupHook
    ctx.format (fun name profile => (fun _ => ()) <$> validateProfile ctx.thresholds name profile)
    ctx.configPath candidate previous
    (fun runtime => runtime.install candidate (some resolved) (some effective))
    occasion.configHook occasion.nameSource
  pure (calibratedMessage previous cleanup, report)

def calibrateThreshold (profileName channelName : String) (seconds : ℕ) :
    ThresholdIo δ π ρ κ (String × ThresholdReport δ) := do
  Attempt.require (1 ≤ seconds ∧ seconds ≤ 30)
    (.validation "calibration seconds must be within 1..=30")
  let runtime := (← Attempt.get).live
  let target ← Attempt.ofExcept
    (sessionCalibrationTarget ctx occasion runtime profileName channelName)
  let frames := target.sampleRate * seconds
  Attempt.require (frames ≤ u64Max) (.validation "calibration frame count overflow")
  Attempt.require (frames ≠ 0 ∧ frames ≤ target.capacity)
    (.validation "calibration frame count is outside startup capacity")
  let usable ← Attempt.ofExcept (occasion.calibrateChannel target.channel frames)
  Attempt.require (calibrationTargetIsCurrent ctx occasion 1 runtime target = true ∧ usable = true)
    (.captureInvariant "calibration observation was invalidated")
  let thresholdDbfs ← Attempt.ofExcept occasion.deriveThreshold
  Attempt.ofExcept (validateMaximumFrames target.capacity)
  let prepared ← onStore
    (occasion.prepareGeneration target.configured target.live thresholdDbfs occasion.now)
  Attempt.modify fun setup => { setup with authoritative := false }
  dropping ctx prepared
    (commitCalibration ctx occasion profileName channelName target prepared thresholdDbfs)

/-! ### Requests -/

def ThresholdRequest.profile : ThresholdRequest δ → String
  | .set profile _ _ => profile
  | .reset profile _ => profile
  | .calibrate profile _ _ => profile

def ThresholdRequest.run : ThresholdRequest δ → ThresholdIo δ π ρ κ (String × ThresholdReport δ)
  | .set profile channel dbfs => setThreshold ctx occasion profile channel dbfs
  | .reset profile channel => resetThreshold ctx occasion profile channel
  | .calibrate profile channel seconds => calibrateThreshold ctx occasion profile channel seconds

end Operations

end Lamb.Calibration
