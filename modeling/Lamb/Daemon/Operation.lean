import Lamb.Daemon.State
import Lamb.Lib.Text
import Lamb.Lib.Thread

/-!
The operations of the daemon, as threads over the shared state: beginning one, failing
and publishing, the transactions behind start, stop and reload, retries, runtime faults,
and the shutdown. What the world answers an operation (the configuration on disk, the
capture backends, the recovery of old transactions, the clock) is given to it from
outside. No thread panics with the runtime locked, so its poisoning is left out.
-/

namespace Lamb.Daemon

open Lamb.Control (DaemonState CaptureState ErrorClass)
open Lamb.Lib

abbrev Op := Thread Context

/-! ### What the world answers -/

inductive ConfigLoadState
  | loaded
  | missing
  | invalid
  deriving DecidableEq, Repr

/-- Each profile stands with what `validate_profile` makes of it. -/
structure AppConfig where
  startMode : String
  activeProfile : Option String
  profiles : List (String × Except OperationError ResolvedProfile)

structure LoadedAppConfig where
  config : AppConfig
  state : ConfigLoadState
  error : Option String

inductive PreparedBootstrap
  | app (loaded : LoadedAppConfig)
  | legacy (prepared : PreparedLegacyConfig)
  | faulted (family : ConfigFamily) (message : String)

/-- `bootstrap_config` and `prepare_bootstrap_config`. -/
structure Bootstrap where
  controlSocketPath : String
  prepared : PreparedBootstrap

structure World where
  configPath : String
  controlSocketPath : String
  bootstrap : Except OperationError Bootstrap
  legacyStart : Except PipeWireStartupError ResolvedCaptureState
  jackStart : Except OperationError Unit
  pipewireStart : Except PipeWireStartupError Unit
  liveIdentities : Except OperationError Unit
  sessionInputs : Except OperationError Unit
  activityPolicy : Except OperationError Unit
  failedCount : Except OperationError ℕ
  saveConfig : Except OperationError Unit
  now : ℕ

/-- `failed_count` as the operations use it. -/
def World.recovery (world : World) (family : String) : Except OperationError Unit :=
  match world.failedCount with
  | .error error => .error error
  | .ok failed =>
      if failed = 0 then .ok ()
      else .error (.control
        s!"{family} startup recovery failed for {failed} transaction(s)")

def AppConfig.named (name : Option String) : Option String :=
  (name.map Text.trim).filter (· ≠ "")

def resolveActiveProfile (config : AppConfig) :
    Except OperationError (Option ResolvedProfile) :=
  match AppConfig.named config.activeProfile with
  | none => .ok none
  | some name =>
      match config.profiles.lookup name with
      | none => .error (.validation s!"active profile {name} is not defined")
      | some profile => profile.map some

/-! ### Locks and the end of an operation -/

def runtimeFree (ctx : Context) : Bool :=
  ctx.runtimeLock.isNone

def lockOperationAuthority (party : Party) : Op Unit :=
  .await (fun ctx => ctx.authority.isNone) fun ctx =>
    { ctx with authority := some party }

def unlockOperationAuthority : Op Unit :=
  .modify fun ctx => { ctx with authority := none }

def unlockRuntime : Op Unit :=
  .modify fun ctx => { ctx with runtimeLock := none }

/-- A look at the runtime, under its mutex. -/
def readRuntime {β : Type} (f : Context → β) : Op β :=
  .atomic runtimeFree fun ctx => (f ctx, ctx)

def Context.isCurrent (ctx : Context) (token : ℕ) : Bool :=
  !ctx.stop && decide (ctx.operationEpoch = token)

def operationIsCurrent (token : ℕ) : Op Bool :=
  .read fun ctx => ctx.isCurrent token

def setStop : Op Unit :=
  .modify fun ctx => { ctx with stop := true }

/-- The control socket is woken up besides. -/
def signalFatal (message : String) : Op Unit := do
  Thread.modify fun ctx => { ctx with firstFatal := ctx.firstFatal.or (some message) }
  setStop
  Thread.modify Context.stopScheduler

/-! ### Responses -/

structure Response where
  ok : Bool
  message : String
  status : Context.Status
  errorClass : Option ErrorClass
  daemonState : Option DaemonState
  captureState : Option CaptureState
  deriving DecidableEq, Repr

def Response.success (message : String) (status : Context.Status) : Response :=
  ⟨true, message, status, none, none, none⟩

def Response.failure (message : String) (status : Context.Status)
    (errorClass : Option ErrorClass) (lifecycle : LifecycleState) : Response :=
  ⟨false, message, status, errorClass, some lifecycle.daemonState, some lifecycle.captureState⟩

def supersededResponse : Op Response := do
  let status ← readRuntime Context.idleStatusResponse
  let stop ← Thread.read Context.stop
  pure (.failure (if stop then "daemon is shutting down" else "capture operation was superseded")
    status (some .transient) status.lifecycle)

def commandFailureWithoutStateMutation (error : CaptureAttemptError) : Op Response := do
  let lifecycle ← readRuntime fun ctx => ctx.runtime.lifecycle
  let status ← readRuntime Context.idleStatusResponse
  pure (.failure error.message status (some error.errorClass) lifecycle)

def fatalFailureResponse (message : String) : Op Response := do
  let status ← readRuntime Context.idleStatusResponse
  pure (.failure message status (some .fatal) status.lifecycle)

def currentFailureResponse : Op Response := do
  let lifecycle ← readRuntime fun ctx => ctx.runtime.lifecycle
  let status ← readRuntime Context.idleStatusResponse
  pure (.failure (lifecycle.lastError.getD "capture command failed") status lifecycle.errorClass
    lifecycle)

/-! ### Captures -/

/-- A notification that a call of a health has left is delivered after it. -/
def deliverNotification : Option Notification → Op Unit
  | none => pure ()
  | some notification => .modify fun ctx => ctx.notify notification

def callHealth (attemptId : ℕ) (call : PipeWireHealth → Option Notification × PipeWireHealth) :
    Op Unit := do
  let notification ← Thread.atomic (fun _ => true) fun ctx => ctx.callHealth attemptId call
  deliverNotification notification

def armHealth : Option ℕ → Op Unit
  | none => pure ()
  | some attemptId => callHealth attemptId PipeWireHealth.arm

/-- The capture is told to stop, and its thread is joined. -/
def dropCapture (attemptId : ℕ) : Op Unit := do
  Thread.modify fun ctx => (ctx.callHealth attemptId fun health =>
    (none, health.markNormalStop)).2
  Thread.await (fun ctx => ctx.captures attemptId = .running none) fun ctx =>
    ctx.setCapture attemptId .joined

def dropCaptureThenSession : Option CaptureBackend → Op Unit
  | none => pure ()
  | some backend => dropCapture backend.attemptId

def allocateCaptureAttemptId : Op (Except CaptureAttemptError ℕ) :=
  .atomic (fun _ => true) fun ctx =>
    match checkedAdd ctx.nextAttempt 1 with
    | none => (.error (.faulted .fatal "capture attempt identity overflow"), ctx)
    | some next => (.ok next, { ctx with nextAttempt := next })

/-- Without a generation of its own an attempt is for the one that comes next. -/
def sinkGeneration : Option ℕ → Op (Option ℕ)
  | some generation => pure (some generation)
  | none => readRuntime fun ctx => checkedAdd ctx.runtime.lifecycle.generation 1

def runtimeFaultSinkForAttempt (operationGeneration : Option ℕ) :
    Op (Except CaptureAttemptError RuntimeFaultSink) := do
  let generation ← sinkGeneration operationGeneration
  match generation with
  | none => pure (.error (.faulted .fatal "capture generation overflow"))
  | some generation => do
      let attemptId ← allocateCaptureAttemptId
      pure (attemptId.map fun attemptId => ⟨generation, attemptId⟩)

/-! ### Beginning an operation -/

structure BegunOperation where
  token : ℕ
  generation : ℕ
  deriving DecidableEq, Repr

inductive OperationEntry
  | command
  | directStop
  deriving DecidableEq, Repr

/-- The runtime is locked from here on if the operation could begin. -/
def Context.begin (party : Party) (entry : OperationEntry) (token : ℕ) (ctx : Context) :
    Except CaptureAttemptError (ℕ × Option ℕ) × Context :=
  match ctx.runtime.lifecycle.beginOperation with
  | .error error => (.error (.faulted .fatal error.message), ctx)
  | .ok (generation, lifecycle) =>
      (.ok (generation, if entry = .command then ctx.runtime.captureHealth else none),
        { ctx.setLifecycle lifecycle with
          operationEpoch := token
          runtimeLock := some party })

def stopDirectly : OperationEntry → Op Unit
  | .command => pure ()
  | .directStop => do
      setStop
      Thread.modify fun ctx => ctx.setLifecycle ctx.runtime.lifecycle.markStopping
      Thread.modify Context.stopScheduler

def rebindHealth (generation : ℕ) : Option ℕ → Op Unit
  | none => pure ()
  | some attemptId => do
      let bound ← Thread.read fun ctx =>
        (ctx.healths attemptId).bind PipeWireHealth.attemptId
      match bound with
      | none => pure ()
      | some bound => callHealth attemptId fun health => health.rebindAndArm ⟨generation, bound⟩

def beginNewOperationGeneration (party : Party) (entry : OperationEntry) :
    Op (Except CaptureAttemptError BegunOperation) := do
  lockOperationAuthority party
  let stop ← Thread.read Context.stop
  if stop then do
    unlockOperationAuthority
    pure (.error shutdownAttemptError)
  else do
    let epoch ← Thread.read Context.operationEpoch
    match checkedAdd epoch 1 with
    | none => do
        unlockOperationAuthority
        pure (.error (.faulted .fatal "operation epoch overflow"))
    | some token => do
        let begun ← Thread.atomic runtimeFree fun ctx => ctx.begin party entry token
        match begun with
        | .error error => do
            unlockOperationAuthority
            pure (.error error)
        | .ok (generation, health) => do
            Thread.modify fun ctx => ctx.invalidate generation
            stopDirectly entry
            unlockRuntime
            rebindHealth generation health
            unlockOperationAuthority
            pure (.ok ⟨token, generation⟩)

/-- The entry of a retry, which leaves the generation alone. -/
def beginCommandOperation : Op (Except CaptureAttemptError ℕ) := do
  lockOperationAuthority .worker
  let stop ← Thread.read Context.stop
  if stop then do
    unlockOperationAuthority
    pure (.error shutdownAttemptError)
  else do
    let token ← Thread.atomic (fun _ => true) fun ctx =>
      match checkedAdd ctx.operationEpoch 1 with
      | none => (none, ctx)
      | some token => (some token, { ctx with operationEpoch := token })
    unlockOperationAuthority
    pure (match token with
      | none => .error (.faulted .fatal "operation epoch overflow")
      | some token => .ok token)

/-! ### The shutdown -/

def beginShutdown : Op Unit := do
  let begun ← beginNewOperationGeneration .listener .directStop
  match begun with
  | .ok _ => pure ()
  | .error _ => do
      lockOperationAuthority .listener
      setStop
      Thread.modify Context.stopScheduler
      Thread.await runtimeFree fun ctx =>
        ctx.setLifecycle ctx.runtime.lifecycle.markStopping
      unlockOperationAuthority

/-! ### Failing -/

/-- `publication_generation`. -/
def publicationGeneration (lifecycle : LifecycleState) (operationGeneration : Option ℕ) :
    Option (ℕ × LifecycleState) :=
  match operationGeneration with
  | some generation =>
      if lifecycle.generation = generation then some (generation, lifecycle) else none
  | none => lifecycle.beginOperation.toOption

/-- The runtime after an attempt has failed; no error that gets here is fatal. -/
def AppRuntimeState.failed (runtime : AppRuntimeState) (lifecycle : LifecycleState)
    (error : CaptureAttemptError) (now : ℕ) : AppRuntimeState :=
  { runtime with
    state := "faulted"
    lastError := some error.message
    configLoadError := some error.message
    lifecycle :=
      if error.errorClass = .transient then
        lifecycle.markTransient error.captureState error.message now
      else lifecycle.markPermanent error.message }

/-- What is announced of a failure: its generation, and when to try again. -/
def Context.publishFailure (token : ℕ) (operationGeneration : Option ℕ)
    (error : CaptureAttemptError) (now : ℕ) (ctx : Context) :
    Option (ℕ × Option ℕ) × Context :=
  if ctx.isCurrent token then
    match publicationGeneration ctx.runtime.lifecycle operationGeneration with
    | none => (none, ctx)
    | some (generation, lifecycle) =>
        let runtime := ctx.runtime.failed lifecycle error now
        (some (generation, runtime.lifecycle.nextRetryAt), ctx.setRuntime runtime)
  else (none, ctx)

/-- The scheduler hears of a failure. -/
def announce (generation : ℕ) : Option ℕ → Op Unit
  | some due => .modify fun ctx => ctx.scheduleRetry generation due
  | none => .modify fun ctx => ctx.invalidate generation

def preservedRunning (preserveRunning : Bool) : Op Bool :=
  if preserveRunning then readRuntime Context.currentCaptureIsRunning else pure false

def commandAttemptFailureWithGeneration (world : World) (token : ℕ)
    (operationGeneration : Option ℕ) (error : CaptureAttemptError) (preserveRunning : Bool) :
    Op Response := do
  lockOperationAuthority .worker
  let current ← operationIsCurrent token
  if current = false then do
    unlockOperationAuthority
    supersededResponse
  else if error.errorClass = .fatal then do
    unlockOperationAuthority
    signalFatal error.message
    fatalFailureResponse error.message
  else do
    let running ← preservedRunning preserveRunning
    if running then do
      let response ← commandFailureWithoutStateMutation error
      unlockOperationAuthority
      pure response
    else do
      let published ← Thread.atomic runtimeFree fun ctx =>
        ctx.publishFailure token operationGeneration error world.now
      match published with
      | none => do
          unlockOperationAuthority
          supersededResponse
      | some (generation, due) => do
          announce generation due
          unlockOperationAuthority
          currentFailureResponse

def commandAttemptFailure (world : World) (token : ℕ) (error : CaptureAttemptError)
    (preserveRunning : Bool) : Op Response :=
  commandAttemptFailureWithGeneration world token none error preserveRunning

/-! ### Preparing -/

/-- `prepare_config_from_disk`. -/
def prepareConfigFromDisk (world : World) (requestedProfile : Option String) :
    Except CaptureAttemptError Bootstrap :=
  match world.bootstrap with
  | .error error => .error (classifyLegacyAttemptError error)
  | .ok bootstrap =>
      match bootstrap.prepared with
      | .faulted _ message => .error (.faulted .permanent message)
      | .legacy _ => .ok bootstrap
      | .app loaded =>
          if loaded.state ≠ .loaded then
            .error (.faulted .permanent
              (loaded.error.getD s!"config file not found: {world.configPath}"))
          else
            match AppConfig.named requestedProfile with
            | some profile =>
                if (loaded.config.profiles.lookup profile).isNone then
                  .error (.faulted .permanent s!"profile {profile} does not exist")
                else
                  let config := { loaded.config with activeProfile := some profile }
                  match resolveActiveProfile config with
                  | .error error => .error (classifyLegacyAttemptError error)
                  | .ok _ => .ok { bootstrap with prepared := .app { loaded with config } }
            | none =>
                match resolveActiveProfile loaded.config with
                | .error error => .error (classifyLegacyAttemptError error)
                | .ok _ => .ok bootstrap

def validateCandidateSocket (world : World) (candidate : Bootstrap) :
    Except CaptureAttemptError Unit :=
  if candidate.controlSocketPath = world.controlSocketPath then .ok ()
  else .error (.faulted .permanent
    s!"candidate control socket {candidate.controlSocketPath} differs from bound socket {world.controlSocketPath}")

end Lamb.Daemon
