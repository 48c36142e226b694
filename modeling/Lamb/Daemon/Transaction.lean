import Lamb.Daemon.Operation

/-!
The transactions of the operation worker: installing a prepared configuration, the
reload, the start and the stop of a capture, a retry, a runtime fault, and the job that
is executed.
-/

namespace Lamb.Daemon

open Lamb.Control (DaemonState CaptureState ErrorClass)
open Lamb.Lib

/-! ### Applying a configuration -/

/-- The first of some checks that fails. -/
def firstFailure : List (Op (Except OperationError Unit)) → Op (Except OperationError Unit)
  | [] => pure (.ok ())
  | check :: checks => do
      let result ← check
      match result with
      | .error error => pure (.error error)
      | .ok () => firstFailure checks

/-- `apply_capture_attempt_error_to_state`. -/
def applyCaptureAttemptErrorToState (runtime : AppRuntimeState) (error : CaptureAttemptError)
    (now : ℕ) : Except CaptureAttemptError AppRuntimeState :=
  if error.errorClass = .fatal then .error error
  else .ok (runtime.failed runtime.lifecycle error now)

/-- Starts the backend of a profile. -/
def startBackend (world : World) (profile : ResolvedProfile) (faultSink : RuntimeFaultSink) :
    Op (Except CaptureAttemptError CaptureBackend) :=
  match profile.backend with
  | "jack" =>
      match world.jackStart with
      | .error error => pure (.error (classifyLegacyAttemptError error))
      | .ok () => do
          let backend : CaptureBackend := ⟨.jack, faultSink.attemptId⟩
          Thread.modify fun ctx => ctx.startCapture backend faultSink
          pure (.ok backend)
  | "pipewire" =>
      if profile.hasPipewireConfig then
        match world.pipewireStart with
        | .error error => pure (.error error.classify)
        | .ok () => do
            let backend : CaptureBackend := ⟨.pipewire, faultSink.attemptId⟩
            Thread.modify fun ctx => ctx.startCapture backend faultSink
            pure (.ok backend)
      else pure (.error (classifyLegacyAttemptError
        (.validation "pipewire profile has no pipewire config")))
  | other =>
      pure (.error (classifyLegacyAttemptError (.validation s!"unknown backend: {other}")))

def dropBuild : Except CaptureAttemptError CaptureBackend → Op Unit
  | .error _ => pure ()
  | .ok backend => dropCapture backend.attemptId

/-- The runtime once the capture of a profile is up. -/
def AppRuntimeState.capturing (runtime : AppRuntimeState) (profile : ResolvedProfile)
    (backend : CaptureBackend) : AppRuntimeState :=
  { runtime with
    state := "capturing"
    lastError := none
    captureHealth := backend.health
    session := some backend.attemptId
    capture := some backend
    lifecycle := runtime.lifecycle.markRunning (some profile.name) (some profile.name)
    configLoadError := none }

/-- The start of a profile's capture, from the first checkpoint on. -/
def startProfile (world : World) (checkpoint : Op (Except OperationError Unit))
    (runtime : AppRuntimeState) (profile : ResolvedProfile) (faultSink : RuntimeFaultSink) :
    Op (Except OperationError Unit × AppRuntimeState) := do
  let passed ← checkpoint
  match passed with
  | .error error => pure (.error error, runtime)
  | .ok () => do
      let runtime := { runtime with capture := none, captureHealth := none, session := none }
      let build ← startBackend world profile faultSink
      let passed ← checkpoint
      match passed with
      | .error error => do
          dropBuild build
          pure (.error error, runtime)
      | .ok () =>
          match build with
          | .error error =>
              match applyCaptureAttemptErrorToState runtime error world.now with
              | .error fatal => pure (.error (.daemonFatal fatal.message), runtime)
              | .ok runtime => pure (.ok (), { runtime with configLoadError := none })
          | .ok backend => do
              let checked ← firstFailure
                [checkpoint, pure world.liveIdentities, pure world.sessionInputs, checkpoint,
                  pure world.activityPolicy, checkpoint, pure (world.recovery "app"), checkpoint]
              match checked with
              | .error error => do
                  dropCapture backend.attemptId
                  pure (.error error, runtime)
              | .ok () => pure (.ok (), runtime.capturing profile backend)

/-- A runtime without a capture, as `apply_loaded_app_config_inner` leaves it. -/
def AppRuntimeState.idle (runtime : AppRuntimeState) (state : String) (lastError : Option String)
    (activeProfile : Option ResolvedProfile) (lifecycle : LifecycleState) : AppRuntimeState :=
  { runtime with
    state
    lastError
    configLoadError := none
    activeProfile
    capture := none
    captureHealth := none
    session := none
    lifecycle }

def AppRuntimeState.unloaded (runtime : AppRuntimeState) (error : String) : AppRuntimeState :=
  { runtime.idle "unconfigured" (some error) none (runtime.lifecycle.markPermanent error) with
    configLoadError := some error }

/-- `apply_loaded_app_config_inner_with_checkpoint`; the state it has reached is handed
back with an error, too. -/
def applyLoadedAppConfig (world : World) (checkpoint : Op (Except OperationError Unit))
    (beginAttemptGeneration : Bool) (runtime : AppRuntimeState) (loaded : LoadedAppConfig)
    (faultSink : RuntimeFaultSink) : Op (Except OperationError Unit × AppRuntimeState) :=
  match loaded.state with
  | .missing => pure (.ok (), runtime.unloaded s!"config file not found: {world.configPath}")
  | .invalid =>
      pure (.ok (), runtime.unloaded
        (loaded.error.getD s!"invalid config file: {world.configPath}"))
  | .loaded =>
      match resolveActiveProfile loaded.config with
      | .error error => pure (.error error, runtime)
      | .ok none =>
          pure (.ok (), runtime.idle "unconfigured" (some "no active profile configured") none
            (runtime.lifecycle.markStopped none))
      | .ok (some profile) =>
          let runtime := { runtime with activeProfile := some profile }
          if loaded.config.startMode = "auto" then
            if beginAttemptGeneration then
              match runtime.lifecycle.beginOperation with
              | .error error => pure (.error error, runtime)
              | .ok (_, lifecycle) =>
                  startProfile world checkpoint { runtime with lifecycle } profile faultSink
            else startProfile world checkpoint runtime profile faultSink
          else
            pure (.ok (), runtime.idle "idle" none (some profile)
              (runtime.lifecycle.markStopped (some profile.name)))

/-! ### Installing -/

/-- The check between the steps of an attempt. -/
def currentCheckpoint (token : ℕ) : Op (Except OperationError Unit) := do
  let current ← operationIsCurrent token
  pure (if current then .ok () else .error (.control "capture operation superseded"))

/-- What a publication does to the runtime, under its mutex; the capture that was
there is handed out unless it was detached before. -/
def Context.publish (operationGeneration : Option ℕ) (oldAlreadyDetached : Bool)
    (install : AppRuntimeState → LifecycleState → ℕ → AppRuntimeState) (ctx : Context) :
    Option (ℕ × Option CaptureBackend) × Context :=
  match publicationGeneration ctx.runtime.lifecycle operationGeneration with
  | none => (none, ctx)
  | some (generation, lifecycle) =>
      let old := if oldAlreadyDetached then none else ctx.runtime.capture
      let runtime := if oldAlreadyDetached then ctx.runtime else ctx.runtime.detached
      (some (generation, old), ctx.setRuntime (install runtime lifecycle generation))

/-- The end of an installation: the runtime is published, the scheduler forgets what was
before, and the new capture's health is armed, before the old capture is dropped. -/
def publishInstalled (token : ℕ) (operationGeneration : Option ℕ) (oldAlreadyDetached : Bool)
    (candidate : Option CaptureBackend)
    (install : AppRuntimeState → LifecycleState → ℕ → AppRuntimeState) : Op Response := do
  lockOperationAuthority .worker
  let current ← operationIsCurrent token
  if current = false then do
    unlockOperationAuthority
    dropCaptureThenSession candidate
    supersededResponse
  else do
    let published ← Thread.atomic runtimeFree fun ctx =>
      ctx.publish operationGeneration oldAlreadyDetached install
    match published with
    | none => do
        unlockOperationAuthority
        dropCaptureThenSession candidate
        supersededResponse
    | some (generation, old) => do
        Thread.modify fun ctx => ctx.invalidate generation
        armHealth (candidate.bind CaptureBackend.health)
        let status ← readRuntime Context.idleStatusResponse
        unlockOperationAuthority
        dropCaptureThenSession old
        pure (.success "config reloaded" status)

/-- The runtime after a legacy capture was installed. -/
def installLegacy (prepared : PreparedLegacyConfig) (resolved : ResolvedCaptureState)
    (backend : CaptureBackend) (runtime : AppRuntimeState) (lifecycle : LifecycleState)
    (_generation : ℕ) : AppRuntimeState :=
  { runtime with
    captureHealth := backend.health
    configFamily := .legacy
    preparedLegacy := some prepared
    activeProfile := none
    capture := some backend
    session := some backend.attemptId
    resolvedCapture := some resolved
    state := "capturing"
    lastError := none
    configLoadError := none
    lifecycle := lifecycle.markRunning none resolved.resolvedTarget }

/-- The runtime after the candidate has taken its place. -/
def installApp (candidate _runtime : AppRuntimeState) (_lifecycle : LifecycleState)
    (generation : ℕ) : AppRuntimeState :=
  { candidate with lifecycle := { candidate.lifecycle with generation } }

/-- `LegacyCaptureStarter::start`. -/
def startLegacyCapture (world : World) (prepared : PreparedLegacyConfig)
    (faultSink : RuntimeFaultSink) :
    Op (Except CaptureAttemptError (CaptureBackend × ResolvedCaptureState)) :=
  match world.legacyStart with
  | .error error => pure (.error error.classify)
  | .ok resolved => do
      let backend : CaptureBackend :=
        ⟨if prepared.backend = "pipewire" then .pipewire else .fake, faultSink.attemptId⟩
      Thread.modify fun ctx => ctx.startCapture backend faultSink
      pure (.ok (backend, resolved))

def installPreparedLegacy (world : World) (token : ℕ) (operationGeneration : Option ℕ)
    (prepared : PreparedLegacyConfig) (oldAlreadyDetached : Bool) : Op Response := do
  let faultSink ← runtimeFaultSinkForAttempt operationGeneration
  match faultSink with
  | .error error =>
      commandAttemptFailureWithGeneration world token operationGeneration error
        (!oldAlreadyDetached)
  | .ok faultSink => do
      let started ← startLegacyCapture world prepared faultSink
      match started with
      | .error error =>
          commandAttemptFailureWithGeneration world token operationGeneration error
            (!oldAlreadyDetached)
      | .ok (backend, resolved) => do
          let current ← operationIsCurrent token
          if current = false then do
            dropCapture backend.attemptId
            supersededResponse
          else
            match world.recovery "legacy" with
            | .error error => do
                dropCapture backend.attemptId
                commandAttemptFailureWithGeneration world token operationGeneration
                  (classifyLegacyAttemptError error) (!oldAlreadyDetached)
            | .ok () => do
                let current ← operationIsCurrent token
                if current = false then do
                  dropCapture backend.attemptId
                  supersededResponse
                else
                  publishInstalled token operationGeneration oldAlreadyDetached (some backend)
                    (installLegacy prepared resolved backend)

/-- A candidate that neither runs nor is stopped has failed. -/
theorem ne_running_of_candidate {state : CaptureState}
    (h : ¬(state = .running ∨ state = .stopped)) : state ≠ .running :=
  fun heq => h (.inl heq)

def candidateError (candidate : AppRuntimeState)
    (h : ¬(candidate.lifecycle.captureState = .running ∨
      candidate.lifecycle.captureState = .stopped)) : CaptureAttemptError where
  errorClass := candidate.lifecycle.errorClass.getD .transient
  captureState := candidate.lifecycle.captureState
  message := candidate.lifecycle.lastError.getD "capture start failed"
  notRunning := ne_running_of_candidate h

/-- `save_config` under the authority; `none` if the operation was superseded. -/
def saveCandidate (world : World) (token : ℕ) : Op (Option (Except OperationError Unit)) := do
  lockOperationAuthority .worker
  let current ← operationIsCurrent token
  unlockOperationAuthority
  pure (if current then some world.saveConfig else none)

/-- The configuration is saved if the start was to make its profile the active one. -/
def saveActivated (world : World) (token : ℕ) (activate : Bool) :
    Op (Option (Except OperationError Unit)) :=
  if activate then saveCandidate world token else pure (some (.ok ()))

/-- A candidate is installed if it runs or is stopped. -/
def installCandidate (world : World) (token : ℕ) (operationGeneration : Option ℕ)
    (candidate : AppRuntimeState) (oldAlreadyDetached activate : Bool) : Op Response := do
  let current ← operationIsCurrent token
  if current = false then do
    dropCaptureThenSession candidate.capture
    supersededResponse
  else if h : candidate.lifecycle.captureState = .running ∨
      candidate.lifecycle.captureState = .stopped then do
    let saved ← saveActivated world token activate
    match saved with
    | none => do
        dropCaptureThenSession candidate.capture
        supersededResponse
    | some (.error error) => do
        dropCaptureThenSession candidate.capture
        commandAttemptFailureWithGeneration world token operationGeneration
          (classifyLegacyAttemptError error) (!oldAlreadyDetached)
    | some (.ok ()) =>
        publishInstalled token operationGeneration oldAlreadyDetached candidate.capture
          (installApp candidate)
  else do
    dropCaptureThenSession candidate.capture
    commandAttemptFailureWithGeneration world token operationGeneration
      (candidateError candidate h) (!oldAlreadyDetached)

/-- The start mode that is applied; the one on disk stays as it is. -/
def LoadedAppConfig.started (loaded : LoadedAppConfig) (forceStart : Bool) : LoadedAppConfig :=
  if forceStart then { loaded with config := { loaded.config with startMode := "auto" } }
  else loaded

def installPreparedApp (world : World) (token : ℕ) (operationGeneration : Option ℕ)
    (loaded : LoadedAppConfig) (oldAlreadyDetached forceStart activate : Bool) :
    Op Response := do
  let current ← operationIsCurrent token
  if current = false then supersededResponse
  else do
    let faultSink ← runtimeFaultSinkForAttempt operationGeneration
    match faultSink with
    | .error error =>
        commandAttemptFailureWithGeneration world token operationGeneration error
          (!oldAlreadyDetached)
    | .ok faultSink => do
        let applied ← applyLoadedAppConfig world (currentCheckpoint token) false
          (emptyRuntime .app) (loaded.started forceStart) faultSink
        match applied.1 with
        | .error error => do
            let current ← operationIsCurrent token
            if current = false then supersededResponse
            else
              commandAttemptFailure world token (classifyLegacyAttemptError error)
                (!oldAlreadyDetached)
        | .ok () =>
            installCandidate world token operationGeneration applied.2 oldAlreadyDetached activate

/-- `install_prepared_then_follow_start_mode_with_generation`. -/
def installPrepared (world : World) (token : ℕ) (operationGeneration : Option ℕ)
    (prepared : PreparedBootstrap) (oldAlreadyDetached forceStart activate : Bool) :
    Op Response := do
  let current ← operationIsCurrent token
  if current = false then supersededResponse
  else
    match prepared with
    | .legacy prepared => do
        let current ← operationIsCurrent token
        if current = false then supersededResponse
        else installPreparedLegacy world token operationGeneration prepared oldAlreadyDetached
    | .app loaded =>
        installPreparedApp world token operationGeneration loaded oldAlreadyDetached forceStart
          activate
    | .faulted _ message =>
        commandAttemptFailureWithGeneration world token operationGeneration
          (.faulted .permanent message) (!oldAlreadyDetached)

/-! ### The commands -/

def reloadDaemonConfig (world : World) (requestedProfile : Option String) : Op Response := do
  let begun ← beginNewOperationGeneration .worker .command
  match begun with
  | .error error => commandFailureWithoutStateMutation error
  | .ok operation =>
      match prepareConfigFromDisk world requestedProfile with
      | .error error =>
          commandAttemptFailureWithGeneration world operation.token (some operation.generation)
            error true
      | .ok candidate => do
          let current ← operationIsCurrent operation.token
          if current = false then supersededResponse
          else
            match validateCandidateSocket world candidate with
            | .error error =>
                commandAttemptFailureWithGeneration world operation.token
                  (some operation.generation) error true
            | .ok () =>
                installPrepared world operation.token (some operation.generation)
                  candidate.prepared false false false

/-- The old capture is taken out before the new one starts. -/
def Context.detachForStart (generation : ℕ) (requestedProfile : Option String) (ctx : Context) :
    Option (Option CaptureBackend) × Context :=
  let runtime := ctx.runtime
  if runtime.lifecycle.generation = generation then
    (some runtime.capture, ctx.setRuntime
      { runtime.detached with
        lifecycle := runtime.lifecycle.markStarting
          (requestedProfile.or runtime.lifecycle.activeProfile) })
  else (none, ctx)

def startDetached (world : World) (operation : BegunOperation) (candidate : Bootstrap)
    (requestedProfile : Option String) (activate : Bool) : Op Response := do
  lockOperationAuthority .worker
  let current ← operationIsCurrent operation.token
  if current = false then do
    unlockOperationAuthority
    supersededResponse
  else do
    let detached ← Thread.atomic runtimeFree fun ctx =>
      ctx.detachForStart operation.generation requestedProfile
    match detached with
    | none => do
        unlockOperationAuthority
        supersededResponse
    | some old => do
        unlockOperationAuthority
        dropCaptureThenSession old
        let current ← operationIsCurrent operation.token
        if current = false then supersededResponse
        else do
          let response ← installPrepared world operation.token (some operation.generation)
            candidate.prepared true true activate
          pure (if response.ok then
            { response with
              message := (requestedProfile.map fun profile => s!"capturing {profile}").getD
                "capture started" }
            else response)

def startCaptureTransaction (world : World) (requestedProfile : Option String)
    (activate : Bool) : Op Response := do
  let begun ← beginNewOperationGeneration .worker .command
  match begun with
  | .error error => commandFailureWithoutStateMutation error
  | .ok operation => do
      lockOperationAuthority .worker
      let current ← operationIsCurrent operation.token
      if current = false then do
        unlockOperationAuthority
        supersededResponse
      else do
        let running ← readRuntime Context.currentCaptureIsRunning
        if running then do
          let current ← operationIsCurrent operation.token
          if current = false then do
            unlockOperationAuthority
            supersededResponse
          else do
            let status ← readRuntime Context.idleStatusResponse
            unlockOperationAuthority
            pure (.success "capture already running" status)
        else do
          unlockOperationAuthority
          match prepareConfigFromDisk world requestedProfile with
          | .error error =>
              commandAttemptFailureWithGeneration world operation.token
                (some operation.generation) error false
          | .ok candidate => do
              let current ← operationIsCurrent operation.token
              if current = false then supersededResponse
              else
                match validateCandidateSocket world candidate with
                | .error error =>
                    commandAttemptFailureWithGeneration world operation.token
                      (some operation.generation) error false
                | .ok () => startDetached world operation candidate requestedProfile activate

/-- The runtime after a stop of the capture. -/
def AppRuntimeState.stopped (runtime : AppRuntimeState) : AppRuntimeState :=
  { runtime.detached with
    state :=
      if runtime.configFamily = .legacy then "stopped"
      else if runtime.activeProfile.isSome then "idle"
      else "unconfigured"
    lastError := none
    configLoadError := none
    lifecycle := runtime.lifecycle.markStopped (runtime.activeProfile.map ResolvedProfile.name) }

def Context.detachForStop (generation : ℕ) (ctx : Context) :
    Option (Option CaptureBackend) × Context :=
  if ctx.runtime.lifecycle.generation = generation then
    (some ctx.runtime.capture, ctx.setRuntime ctx.runtime.stopped)
  else (none, ctx)

def stopCaptureTransaction : Op Response := do
  let begun ← beginNewOperationGeneration .worker .command
  match begun with
  | .error error => commandFailureWithoutStateMutation error
  | .ok operation => do
      lockOperationAuthority .worker
      let current ← operationIsCurrent operation.token
      if current = false then do
        unlockOperationAuthority
        supersededResponse
      else do
        let detached ← Thread.atomic runtimeFree fun ctx =>
          ctx.detachForStop operation.generation
        match detached with
        | none => do
            unlockOperationAuthority
            supersededResponse
        | some old => do
            let status ← readRuntime Context.idleStatusResponse
            unlockOperationAuthority
            dropCaptureThenSession old
            pure (.success "capture stopped" status)

/-! ### Scheduled operations -/

inductive ScheduledGenerationDecision
  | current
  | stale
  | terminalized
  deriving DecidableEq, Repr

def scheduledGenerationDecision (generation : ℕ) : Op ScheduledGenerationDecision := do
  lockOperationAuthority .worker
  let decision ← readRuntime fun ctx =>
    if ctx.scheduler.state.stopped then .terminalized
    else if ctx.runtime.lifecycle.generation = generation then .current
    else .stale
  unlockOperationAuthority
  pure decision

def signalFatalResponse (response : Response) : Op Unit :=
  if response.errorClass = some .fatal then signalFatal response.message else pure ()

/-- A retry goes on while its generation is the current one and nobody has begun another
operation. -/
def retryGoesOn (generation token : ℕ) : Op Bool := do
  let decision ← scheduledGenerationDecision generation
  let current ← operationIsCurrent token
  pure (decision = .current && current)

def executeRetryOperation (world : World) (generation : ℕ) : Op Unit := do
  let decision ← scheduledGenerationDecision generation
  if decision ≠ .current then pure ()
  else do
    let begun ← beginCommandOperation
    match begun with
    | .error error =>
        if error.errorClass = .fatal then signalFatal error.message else pure ()
    | .ok token => do
        let goesOn ← retryGoesOn generation token
        if goesOn = false then pure ()
        else
          match prepareConfigFromDisk world none with
          | .error error => do
              let response ← commandAttemptFailure world token error false
              signalFatalResponse response
          | .ok candidate => do
              let goesOn ← retryGoesOn generation token
              if goesOn = false then pure ()
              else
                match validateCandidateSocket world candidate with
                | .error error => do
                    let response ← commandAttemptFailure world token error false
                    signalFatalResponse response
                | .ok () => do
                    let goesOn ← retryGoesOn generation token
                    if goesOn = false then pure ()
                    else do
                      let response ← installPrepared world token none candidate.prepared false
                        true false
                      signalFatalResponse response

/-- The runtime after its capture has met a fault. -/
def AppRuntimeState.faultedBy (runtime : AppRuntimeState) (fault : RuntimeCaptureFault)
    (now : ℕ) : AppRuntimeState :=
  let (captureState, message) : CaptureState × String :=
    match fault with
    | .deviceDisconnected message => (.waitingForDevice, message)
    | .backendFault message => (.faulted, message)
  { runtime.detached with
    state := "faulted"
    lastError := some message
    configLoadError := some message
    lifecycle := runtime.lifecycle.markTransient captureState message now }

/-- A fault counts if its generation is current and its capture the one the runtime has. -/
def Context.takeFault (generation attemptId : ℕ) (fault : RuntimeCaptureFault) (now : ℕ)
    (ctx : Context) : Option (Option CaptureBackend × Option ℕ) × Context :=
  let runtime := ctx.runtime
  let attached := ((runtime.captureHealth.bind ctx.healths).bind PipeWireHealth.attemptId)
  if runtime.lifecycle.generation = generation ∧ attached = some attemptId then
    let faulted := runtime.faultedBy fault now
    (some (runtime.capture, faulted.lifecycle.nextRetryAt), ctx.setRuntime faulted)
  else (none, ctx)

def scheduleDue (generation : ℕ) : Option ℕ → Op Unit
  | some due => .modify fun ctx => ctx.scheduleRetry generation due
  | none => pure ()

def publishRuntimeFault (world : World) (generation attemptId : ℕ)
    (fault : RuntimeCaptureFault) : Op Unit := do
  let decision ← scheduledGenerationDecision generation
  if decision ≠ .current then pure ()
  else do
    lockOperationAuthority .worker
    let stop ← Thread.read Context.stop
    if stop then unlockOperationAuthority
    else do
      let taken ← Thread.atomic runtimeFree fun ctx =>
        ctx.takeFault generation attemptId fault world.now
      match taken with
      | none => unlockOperationAuthority
      | some (old, due) => do
          dropCaptureThenSession old
          scheduleDue generation due
          unlockOperationAuthority

/-! ### Jobs -/

/-- `set_app_last_error`, if a request has met an error. -/
def setAppLastError : Option String → Op Unit
  | none => pure ()
  | some error => .await runtimeFree fun ctx =>
      ctx.setRuntime { ctx.runtime with lastError := some error }

/-- A request of a client; one whose answer is fatal brings the daemon down. -/
def executeRequest (world : World) : Request → Op Unit
  | .startCapture profile activate => do
      let response ← startCaptureTransaction world profile activate
      signalFatalResponse response
  | .stopCapture => do
      let response ← stopCaptureTransaction
      signalFatalResponse response
  | .reload => do
      let response ← reloadDaemonConfig world none
      signalFatalResponse response
  | .other lastError => setAppLastError lastError

def executeInternal (world : World) : ScheduledOperation → Op Unit
  | .retry generation => executeRetryOperation world generation
  | .runtimeFault generation attemptId fault =>
      publishRuntimeFault world generation attemptId fault

/-- What the operation worker does with a job it has popped. -/
def executeOperationJob (world : World) (job : OperationJob) : Op Unit := do
  Thread.modify Context.notifyLaneAvailable
  let stop ← Thread.read Context.stop
  if stop then pure ()
  else
    match job with
    | .client request => executeRequest world request
    | .internal operation => executeInternal world operation

end Lamb.Daemon
