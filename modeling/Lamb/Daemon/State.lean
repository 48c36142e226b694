import Lamb.Control.Lane
import Lamb.Daemon.Health
import Lamb.Daemon.Lifecycle

/-!
The state that the threads of the daemon share: the runtime and its lifecycle, the
retry scheduler, the operation lane, and the captures with their threads. The operation
authority and the runtime are mutexes, of which the state keeps who holds them; an access
to the runtime that touches nothing else is one step.
-/

namespace Lamb.Daemon

open Lamb.Control (DaemonState CaptureState ErrorClass LaneState)

inductive ConfigFamily
  | app
  | legacy
  deriving DecidableEq, Repr

/-- Of the configuration an operation looks at the backend only. -/
structure PreparedLegacyConfig where
  backend : String
  deriving DecidableEq, Repr

structure ResolvedCaptureState where
  channelCount : ℕ
  sampleRate : ℕ
  resolvedTarget : Option String
  deriving DecidableEq, Repr

/-- A profile that is valid, and whether it has a configuration for PipeWire. -/
structure ResolvedProfile where
  name : String
  backend : String
  hasPipewireConfig : Bool
  deriving DecidableEq, Repr

inductive BackendKind
  | fake
  | jack
  | pipewire
  deriving DecidableEq, Repr

/-- A capture that was started. The number of the attempt tells it from all others. -/
structure CaptureBackend where
  kind : BackendKind
  attemptId : ℕ
  deriving DecidableEq, Repr

/-- The health a backend reports to, which only PipeWire has. -/
def CaptureBackend.health (backend : CaptureBackend) : Option ℕ :=
  match backend.kind with
  | .pipewire => some backend.attemptId
  | .fake | .jack => none

/-- A session is known by the attempt that opened it. -/
structure AppRuntimeState where
  configFamily : ConfigFamily
  preparedLegacy : Option PreparedLegacyConfig
  resolvedCapture : Option ResolvedCaptureState
  lifecycle : LifecycleState
  state : String
  lastError : Option String
  configLoadError : Option String
  activeProfile : Option ResolvedProfile
  capture : Option CaptureBackend
  captureHealth : Option ℕ
  session : Option ℕ
  deriving DecidableEq, Repr

def emptyRuntime (family : ConfigFamily) : AppRuntimeState where
  configFamily := family
  preparedLegacy := none
  resolvedCapture := none
  lifecycle := .readyStopped none
  state := "unconfigured"
  lastError := none
  configLoadError := none
  activeProfile := none
  capture := none
  captureHealth := none
  session := none

/-- What is left of a runtime after `take_active_capture`. -/
def AppRuntimeState.detached (runtime : AppRuntimeState) : AppRuntimeState :=
  { runtime with
    capture := none
    session := none
    captureHealth := none
    resolvedCapture := none }

/-! ### Jobs -/

/-- The requests that the operation worker executes. What a recall, a dump, a clear or
a threshold request does is not the runtime's concern, but for the error it may leave
there. -/
inductive Request
  | startCapture (profile : Option String) (activate : Bool)
  | stopCapture
  | reload
  | other (lastError : Option String)
  deriving DecidableEq, Repr

inductive OperationJob
  | client (request : Request)
  | internal (operation : ScheduledOperation)
  deriving DecidableEq, Repr

/-! ### The ctx -/

/-- The threads of the daemon; the threads of all captures count as one. -/
inductive Party
  | worker
  | listener
  | scheduler
  | captures
  deriving DecidableEq, Repr

/-- The thread of a capture, with the notification it is about to deliver. -/
inductive CaptureThread
  | absent
  | running (notification : Option Notification)
  | joined
  deriving DecidableEq, Repr

def CaptureThread.live : CaptureThread → Bool
  | .running _ => true
  | .absent | .joined => false

/-- `IdleDaemonContext`, with the lane and the captures. The listener and the worker run
once the daemon has `started`. Two fields only remember: whether a client has asked the
daemon to stop, and how many notifications the scheduler has taken from a capture that
the runtime no longer had. -/
structure Context where
  stop : Bool
  firstFatal : Option String
  operationEpoch : ℕ
  authority : Option Party
  runtimeLock : Option Party
  runtime : AppRuntimeState
  scheduler : Scheduler
  lane : LaneState OperationJob
  nextAttempt : ℕ
  captures : ℕ → CaptureThread
  healths : ℕ → Option PipeWireHealth
  started : Bool
  stopRequested : Bool
  strays : ℕ

namespace Context

variable (ctx : Context)

def live (attemptId : ℕ) : Bool :=
  (ctx.captures attemptId).live

def setRuntime (runtime : AppRuntimeState) : Context :=
  { ctx with runtime }

def setLifecycle (lifecycle : LifecycleState) : Context :=
  { ctx with runtime := { ctx.runtime with lifecycle } }

/-! ### The scheduler and the lane -/

def invalidate (generation : ℕ) : Context :=
  { ctx with scheduler := ctx.scheduler.invalidate generation }

def scheduleRetry (generation due : ℕ) : Context :=
  { ctx with scheduler := ctx.scheduler.scheduleRetry generation due }

def stopScheduler : Context :=
  { ctx with scheduler := ctx.scheduler.stop }

def notifyLaneAvailable : Context :=
  { ctx with scheduler := ctx.scheduler.notifyLaneAvailable }

/-- The sink of a notification: `notify_fault` of the scheduler. -/
def notify (notification : Notification) : Context :=
  { ctx with
    scheduler := ctx.scheduler.notifyFault notification.1.generation
      notification.1.attemptId notification.2
    strays := ctx.strays +
      if ctx.scheduler.accepts notification.1.generation ∧
        ctx.runtime.captureHealth ≠ some notification.1.attemptId then 1 else 0 }

/-- The answer of `try_enqueue`. -/
def laneAnswer : Except EnqueueError Unit :=
  if ctx.lane.closed then .error .closed
  else if ctx.lane.capacity ≤ ctx.lane.queue.length then .error .full
  else .ok ()

def enqueue (job : OperationJob) : Context :=
  { ctx with lane := { ctx.lane with queue := ctx.lane.queue ++ [job] } }

/-- A round of the scheduler's thread, which hands what is due to the lane. -/
def iterate (now : ℕ) : Context :=
  let (scheduler, submitted) := ctx.scheduler.iterate now ctx.laneAnswer
  match submitted, ctx.laneAnswer with
  | some operation, .ok () => { ctx with scheduler }.enqueue (.internal operation)
  | _, _ => { ctx with scheduler }

/-! ### Captures -/

def setCapture (attemptId : ℕ) (thread : CaptureThread) : Context :=
  { ctx with captures := Function.update ctx.captures attemptId thread }

def setHealth (attemptId : ℕ) (health : PipeWireHealth) : Context :=
  { ctx with healths := Function.update ctx.healths attemptId (some health) }

/-- A call of the health of a capture. A capture without one has nothing to report. -/
def callHealth (attemptId : ℕ)
    (call : PipeWireHealth → Option Notification × PipeWireHealth) :
    Option Notification × Context :=
  match ctx.healths attemptId with
  | none => (none, ctx)
  | some health => ((call health).1, ctx.setHealth attemptId (call health).2)

/-- A capture that has started runs its own thread, and its health is not armed yet. -/
def startCapture (backend : CaptureBackend) (faultSink : RuntimeFaultSink) : Context :=
  match backend.health with
  | none => ctx.setCapture backend.attemptId (.running none)
  | some attemptId =>
      (ctx.setCapture attemptId (.running none)).setHealth attemptId
        (.unarmedWithFaultSink faultSink)

/-- The thread of a capture meets a fault. -/
def recordFatal (attemptId : ℕ) (fault : RuntimeCaptureFault) : Context :=
  match ctx.captures attemptId with
  | .running none =>
      let (notification, ctx) := ctx.callHealth attemptId (·.recordFatal fault)
      ctx.setCapture attemptId (.running notification)
  | _ => ctx

/-- It delivers the notification to the sink. -/
def deliver (attemptId : ℕ) : Context :=
  match ctx.captures attemptId with
  | .running (some notification) =>
      (ctx.notify notification).setCapture attemptId (.running none)
  | _ => ctx

/-! ### What a status reports -/

/-- The part of a `DaemonStatus` that is the runtime's. -/
structure Status where
  state : String
  lastError : Option String
  lifecycle : LifecycleState
  deriving DecidableEq, Repr

def healthFault (attemptId : ℕ) : Option String := do
  let health ← ctx.healths attemptId
  let fault ← health.fault
  match fault with
  | .deviceDisconnected message | .backendFault message => pure message

def captureFault : Option String :=
  (ctx.runtime.captureHealth.bind ctx.healthFault).or
    ((ctx.runtime.capture.bind CaptureBackend.health).bind ctx.healthFault)

def idleStatusResponse : Status :=
  let runtime := ctx.runtime
  { state :=
      if ctx.stop then "stopping"
      else if ctx.captureFault.isSome then "faulted"
      else runtime.state
    lastError := (ctx.captureFault.or runtime.configLoadError).or runtime.lastError
    lifecycle :=
      if ctx.stop then runtime.lifecycle.markStopping
      else
        match ctx.captureFault with
        | none => runtime.lifecycle
        | some error =>
            { runtime.lifecycle with
              daemonState := .degraded
              captureState := .faulted
              errorClass := some .transient
              lastError := some error
              retryPolicy := .manual
              retryAttempt := 0
              nextRetryAt := none } }

def currentCaptureIsRunning : Bool :=
  ctx.runtime.capture.isSome && ctx.runtime.session.isSome &&
    decide (ctx.runtime.lifecycle.captureState = .running)

end Context

end Lamb.Daemon
