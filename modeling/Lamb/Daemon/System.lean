import Lamb.Daemon.Transaction

/-!
The daemon as its threads run it. The main thread starts it up and listens from then on;
what it does before is put down to the operation worker, which it starts only then. The
listener takes requests into the lane and stops the daemon, the worker executes the jobs
of the lane, the scheduler's thread makes its rounds, and the thread of a capture meets
faults and reports them. Which thread goes on is decided by a list of turns.
-/

namespace Lamb.Daemon

open Lamb.Control (DaemonState CaptureState ErrorClass)
open Lamb.Lib

/-! ### Starting up -/

/-- `publish_capture_attempt_error` begins an operation of its own; `none` if no
generation is left. -/
def Context.publishAttemptError (error : CaptureAttemptError) (now : ℕ) (ctx : Context) :
    Except OperationError (ℕ × Option ℕ) × Context :=
  match ctx.runtime.lifecycle.beginOperation with
  | .error error => (.error error, ctx)
  | .ok (generation, lifecycle) =>
      let runtime := ctx.runtime.failed lifecycle error now
      (.ok (generation, runtime.lifecycle.nextRetryAt), ctx.setRuntime runtime)

def publishCaptureAttemptError (world : World) (error : CaptureAttemptError) : Op Unit :=
  if error.errorClass = .fatal then signalFatal error.message
  else do
    lockOperationAuthority .worker
    let published ← Thread.atomic runtimeFree fun ctx => ctx.publishAttemptError error world.now
    match published with
    | .error error => do
        unlockOperationAuthority
        signalFatal error.message
    | .ok (generation, due) => do
        announce generation due
        unlockOperationAuthority

/-- The runtime of a daemon that is to start a legacy capture. -/
def AppRuntimeState.starting (prepared : PreparedLegacyConfig) : AppRuntimeState :=
  { emptyRuntime .legacy with
    preparedLegacy := some prepared
    state := "starting"
    lifecycle := (LifecycleState.readyStopped none).markStarting none }

def AppRuntimeState.unprepared (family : ConfigFamily) (message : String) : AppRuntimeState :=
  { emptyRuntime family with
    state := "faulted"
    lastError := some message
    configLoadError := some message
    lifecycle := (LifecycleState.readyStopped none).markPermanent message }

/-- The runtime `build_idle_context` starts with, before there is a context; an error ends
the process. -/
def bootstrapRuntime (world : World) :
    PreparedBootstrap → Op (Except OperationError AppRuntimeState)
  | .legacy prepared => pure (.ok (.starting prepared))
  | .faulted family message => pure (.ok (.unprepared family message))
  | .app loaded => do
      let attemptId ← allocateCaptureAttemptId
      match attemptId with
      | .error error => pure (.error ⟨.other, s!"capture error: {error.message}"⟩)
      | .ok attemptId => do
          let applied ← applyLoadedAppConfig world (pure (.ok ())) true (emptyRuntime .app) loaded
            ⟨1, attemptId⟩
          match applied.1 with
          | .ok () => pure (.ok applied.2)
          | .error error =>
              let error := classifyLegacyAttemptError error
              match applyCaptureAttemptErrorToState applied.2.detached error world.now with
              | .error fatal => pure (.error ⟨.other, s!"capture error: {fatal.message}"⟩)
              | .ok runtime => pure (.ok runtime)

/-- `build_idle_context`. -/
def buildIdleContext (world : World) (prepared : PreparedBootstrap) :
    Op (Except OperationError Unit) := do
  let runtime ← bootstrapRuntime world prepared
  match runtime with
  | .error error => pure (.error error)
  | .ok runtime => do
      Thread.modify fun ctx => ctx.setRuntime runtime
      let (health, generation) ← readRuntime fun ctx =>
        (ctx.runtime.captureHealth, ctx.runtime.lifecycle.generation)
      Thread.modify fun ctx => ctx.invalidate generation
      armHealth health
      let (generation, due) ← readRuntime fun ctx =>
        (ctx.runtime.lifecycle.generation, ctx.runtime.lifecycle.nextRetryAt)
      scheduleDue generation due
      pure (.ok ())

/-- The publication of the first legacy capture, for which an operation begins. -/
def Context.publishStart (prepared : PreparedLegacyConfig) (resolved : ResolvedCaptureState)
    (backend : CaptureBackend) (ctx : Context) : Option ℕ × Context :=
  match ctx.runtime.lifecycle.beginOperation with
  | .error _ => (none, ctx)
  | .ok (generation, lifecycle) =>
      (some generation, ctx.setRuntime
        { installLegacy prepared resolved backend ctx.runtime lifecycle generation with
          configFamily := ctx.runtime.configFamily
          activeProfile := ctx.runtime.activeProfile })

/-- `attempt_configured_start_with_recovery`; an error ends the process. -/
def attemptConfiguredStart (world : World) : Op (Except OperationError Unit) := do
  let prepared ← readRuntime fun ctx => ctx.runtime.preparedLegacy
  match prepared with
  | none => pure (.ok ())
  | some prepared => do
      let faultSink ← runtimeFaultSinkForAttempt none
      match faultSink with
      | .error error => startFailed error
      | .ok faultSink => do
          let started ← startLegacyCapture world prepared faultSink
          match started with
          | .error error => startFailed error
          | .ok (backend, resolved) =>
              match world.recovery "legacy" with
              | .error error => do
                  dropCapture backend.attemptId
                  startFailed (classifyLegacyAttemptError error)
              | .ok () => installFirst prepared resolved backend
where
  /-- Only a fatal error ends the process. -/
  startFailed (error : CaptureAttemptError) : Op (Except OperationError Unit) :=
    if error.errorClass = .fatal then pure (.error ⟨.other, s!"capture error: {error.message}"⟩)
    else do
      publishCaptureAttemptError world error
      pure (.ok ())
  installFirst (prepared : PreparedLegacyConfig) (resolved : ResolvedCaptureState)
      (backend : CaptureBackend) : Op (Except OperationError Unit) := do
    lockOperationAuthority .worker
    let published ← Thread.atomic runtimeFree fun ctx => ctx.publishStart prepared resolved backend
    match published with
    | none => do
        unlockOperationAuthority
        dropCapture backend.attemptId
        pure (.error (.controlInvariant "initial capture publication generation overflow"))
    | some generation => do
        Thread.modify fun ctx => ctx.invalidate generation
        armHealth backend.health
        unlockOperationAuthority
        pure (.ok ())

/-- `run_from_config_path`, until the daemon listens. -/
def startUp (world : World) (prepared : PreparedBootstrap) : Op Unit := do
  let built ← buildIdleContext world prepared
  match built with
  | .error _ => pure ()
  | .ok () => do
      let started ← attemptConfiguredStart world
      match started with
      | .error _ => pure ()
      | .ok () => Thread.modify fun ctx => { ctx with started := true }

/-! ### Threads and turns -/

/-- What a thread may take up. -/
inductive Task
  | pop (world : World)
  | stop
  | request (request : Request)
  | iterate (now : ℕ)
  | wake
  | fault (attemptId : ℕ) (fault : RuntimeCaptureFault)
  | deliver (attemptId : ℕ)

/-- A step that leaves its thread with nothing else to do. -/
def alone (ctx : Context) : Option (Thread Context Unit × Context) :=
  some (.done (), ctx)

def launch : Pool.Launch Party Task Context
  | .worker, .pop world, ctx =>
      if ctx.started then
        match ctx.lane.queue with
        | [] => none
        | job :: queue =>
            some (executeOperationJob world job, { ctx with lane := { ctx.lane with queue } })
      else none
  | .listener, .stop, ctx =>
      if ctx.started then some (beginShutdown, { ctx with stopRequested := true }) else none
  | .listener, .request request, ctx =>
      -- a full lane rejects the request
      if ctx.started ∧ ctx.laneAnswer = .ok () then alone (ctx.enqueue (.client request)) else none
  | .scheduler, .iterate now, ctx => if ctx.started then alone (ctx.iterate now) else none
  | .scheduler, .wake, ctx =>
      alone { ctx with scheduler := { ctx.scheduler with worker := ctx.scheduler.worker.wake } }
  | .captures, .fault attemptId fault, ctx => alone (ctx.recordFatal attemptId fault)
  | .captures, .deliver attemptId, ctx => alone (ctx.deliver attemptId)
  | _, _, _ => none

def Context.initial (laneCapacity : ℕ) : Context where
  stop := false
  firstFatal := none
  operationEpoch := 0
  authority := none
  runtimeLock := none
  runtime := emptyRuntime .app
  scheduler := .new
  lane := ⟨[], laneCapacity, false⟩
  nextAttempt := 0
  captures := fun _ => .absent
  healths := fun _ => none
  started := false
  stopRequested := false
  strays := 0

/-- The daemon before its first step. -/
def start (laneCapacity : ℕ) (world : World) (prepared : PreparedBootstrap) :
    Pool Party Context where
  shared := .initial laneCapacity
  threads := fun party =>
    match party with
    | .worker => startUp world prepared
    | .listener | .scheduler | .captures => .done ()

/-- The daemon after some turns of its threads. -/
def run (laneCapacity : ℕ) (world : World) (prepared : PreparedBootstrap)
    (turns : List (Turn Party Task)) : Pool Party Context :=
  (start laneCapacity world prepared).run launch turns

end Lamb.Daemon
