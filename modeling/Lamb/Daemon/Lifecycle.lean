import Lamb.Control.Response

/-!
The lifecycle of the daemon: what state it and its capture are in, the error it is
degraded by and when it tries again, and the generation that every operation begins
anew. Errors are classed by what is to be done about them.
-/

namespace Lamb.Daemon

open Lamb.Control

/-! ### Errors -/

/-- The variants of `LambError` that `classify_legacy_attempt_error` tells apart. -/
inductive OperationErrorKind
  | config
  | validation
  | daemonFatal
  | captureInvariant
  | controlInvariant
  | exportInvariant
  | other
  deriving DecidableEq, Repr

/-- An error and the text it is displayed as. -/
structure OperationError where
  kind : OperationErrorKind
  message : String
  deriving DecidableEq, Repr

def OperationError.control (message : String) : OperationError :=
  ⟨.other, s!"control error: {message}"⟩

def OperationError.controlInvariant (message : String) : OperationError :=
  ⟨.controlInvariant, s!"control error: {message}"⟩

def OperationError.validation (message : String) : OperationError :=
  ⟨.validation, s!"validation error: {message}"⟩

def OperationError.daemonFatal (message : String) : OperationError :=
  ⟨.daemonFatal, s!"fatal daemon error: {message}"⟩

/-- A capture that could not be had is not running. -/
structure CaptureAttemptError where
  errorClass : ErrorClass
  captureState : CaptureState
  message : String
  notRunning : captureState ≠ .running

theorem faulted_ne_running : CaptureState.faulted ≠ .running := by
  decide

theorem stopped_ne_running : CaptureState.stopped ≠ .running := by
  decide

theorem waitingForDevice_ne_running : CaptureState.waitingForDevice ≠ .running := by
  decide

def CaptureAttemptError.faulted (errorClass : ErrorClass) (message : String) :
    CaptureAttemptError :=
  ⟨errorClass, .faulted, message, faulted_ne_running⟩

def classifyLegacyAttemptError (error : OperationError) : CaptureAttemptError :=
  match error.kind with
  | .config | .validation => .faulted .permanent error.message
  | .daemonFatal | .captureInvariant | .controlInvariant | .exportInvariant =>
      .faulted .fatal error.message
  | .other => .faulted .transient error.message

/-- Why a target of PipeWire could not be found, with the text it was looked for by. -/
inductive TargetResolutionError
  | targetMissing (text : String)
  | portMissing (text : String)
  | targetChanged (text : String)
  | invalidSelector (text : String)
  | backendUnavailable (text : String)
  deriving DecidableEq, Repr

def TargetResolutionError.message : TargetResolutionError → String
  | .targetMissing text => s!"PipeWire target not found: {text}"
  | .portMissing text => s!"PipeWire capture port not found: {text}"
  | .targetChanged text => s!"PipeWire target changed during startup: {text}"
  | .invalidSelector text => text
  | .backendUnavailable text => text

/-- A device that is missing is waited for. -/
def classifyPipewireResolutionError (error : TargetResolutionError) : CaptureAttemptError :=
  match error with
  | .targetMissing _ | .portMissing _ | .targetChanged _ =>
      ⟨.transient, .waitingForDevice, error.message, waitingForDevice_ne_running⟩
  | .backendUnavailable _ => .faulted .transient error.message
  | .invalidSelector _ => .faulted .permanent error.message

inductive PipeWireStartupError
  | resolution (error : TargetResolutionError)
  | capture (error : OperationError)
  deriving DecidableEq, Repr

def PipeWireStartupError.classify : PipeWireStartupError → CaptureAttemptError
  | .resolution error => classifyPipewireResolutionError error
  | .capture error => classifyLegacyAttemptError error

/-- A capture that fails to start is not said to be stopped. -/
theorem classifyLegacyAttemptError_ne_stopped (error : OperationError) :
    (classifyLegacyAttemptError error).captureState ≠ .stopped := by
  unfold classifyLegacyAttemptError CaptureAttemptError.faulted
  split <;> simp

theorem PipeWireStartupError.classify_ne_stopped (error : PipeWireStartupError) :
    error.classify.captureState ≠ .stopped := by
  cases error with
  | resolution error => cases error <;> simp [classify, classifyPipewireResolutionError,
      CaptureAttemptError.faulted]
  | capture error => exact classifyLegacyAttemptError_ne_stopped error

def shutdownAttemptError : CaptureAttemptError :=
  ⟨.transient, .stopped, "daemon is shutting down", stopped_ne_running⟩

/-! ### Retries -/

/-- `RETRY_DELAYS`, in milliseconds. -/
def retryDelays : List ℕ := [1000, 2000, 5000, 10000, 30000, 60000]

def retryDelay (attempt : ℕ) : ℕ :=
  retryDelays.getD (min (attempt - 1) (retryDelays.length - 1)) 0

/-! ### The state -/

structure LifecycleState where
  daemonState : DaemonState
  captureState : CaptureState
  errorClass : Option ErrorClass
  lastError : Option String
  retryPolicy : RetryPolicy
  retryAttempt : ℕ
  nextRetryAt : Option ℕ
  activeProfile : Option String
  resolvedTarget : Option String
  generation : ℕ
  deriving DecidableEq, Repr

namespace LifecycleState

def readyStopped (activeProfile : Option String) : LifecycleState where
  daemonState := .ready
  captureState := .stopped
  errorClass := none
  lastError := none
  retryPolicy := .none
  retryAttempt := 0
  nextRetryAt := none
  activeProfile
  resolvedTarget := none
  generation := 0

def clearErrorAndRetry (lifecycle : LifecycleState) : LifecycleState :=
  { lifecycle with
    errorClass := none
    lastError := none
    retryPolicy := .none
    retryAttempt := 0
    nextRetryAt := none }

def markStarting (lifecycle : LifecycleState) (activeProfile : Option String) :
    LifecycleState :=
  { lifecycle.clearErrorAndRetry with
    daemonState := .ready
    captureState := .starting
    activeProfile
    resolvedTarget := none }

def markPermanent (lifecycle : LifecycleState) (error : String) : LifecycleState :=
  { lifecycle with
    daemonState := .degraded
    captureState := .faulted
    errorClass := some .permanent
    lastError := some error
    retryPolicy := .manual
    retryAttempt := 0
    nextRetryAt := none }

/-- `retry_attempt` saturates at the end of `u32`, and the due time at that of `u64`. -/
def markTransient (lifecycle : LifecycleState) (captureState : CaptureState) (error : String)
    (now : ℕ) : LifecycleState :=
  let retryAttempt := min (lifecycle.retryAttempt + 1) (2 ^ 32 - 1)
  { lifecycle with
    daemonState := .degraded
    captureState
    errorClass := some .transient
    lastError := some error
    retryPolicy := .boundedBackoff
    retryAttempt
    nextRetryAt := some ((checkedAdd now (retryDelay retryAttempt)).getD u64Max) }

def markRunning (lifecycle : LifecycleState) (activeProfile resolvedTarget : Option String) :
    LifecycleState :=
  { lifecycle.clearErrorAndRetry with
    daemonState := .ready
    captureState := .running
    activeProfile
    resolvedTarget }

def markStopped (lifecycle : LifecycleState) (activeProfile : Option String) : LifecycleState :=
  { lifecycle.clearErrorAndRetry with
    daemonState := .ready
    captureState := .stopped
    activeProfile
    resolvedTarget := none }

def markStopping (lifecycle : LifecycleState) : LifecycleState :=
  { lifecycle.clearErrorAndRetry with daemonState := .stopping }

def beginOperation (lifecycle : LifecycleState) :
    Except OperationError (ℕ × LifecycleState) :=
  if lifecycle.daemonState = .stopping then .error (.control "daemon is stopping")
  else
    match checkedAdd lifecycle.generation 1 with
    | none => .error (.controlInvariant "operation generation overflow")
    | some generation => .ok (generation, { lifecycle with generation })

theorem beginOperation_eq_ok {lifecycle lifecycle' : LifecycleState} {generation : ℕ} :
    lifecycle.beginOperation = .ok (generation, lifecycle') ↔
      lifecycle.daemonState ≠ .stopping ∧ lifecycle.generation + 1 ≤ u64Max ∧
        generation = lifecycle.generation + 1 ∧ lifecycle' = { lifecycle with generation } := by
  unfold beginOperation
  split_ifs with hstopping
  · simp [hstopping]
  · cases hnext : checkedAdd lifecycle.generation 1 with
    | none =>
        have hover := checkedAdd_eq_none.mp hnext
        constructor
        · intro h
          cases h
        · rintro ⟨-, hle, -, -⟩
          omega
    | some next =>
        obtain ⟨rfl, hle⟩ := checkedAdd_eq_some.mp hnext
        constructor
        · intro h
          cases h
          exact ⟨hstopping, hle, rfl, rfl⟩
        · rintro ⟨-, -, rfl, rfl⟩
          rfl

/-- With a generation left, a daemon that is not stopping may begin an operation. -/
theorem beginOperation_of_lt {lifecycle : LifecycleState}
    (hrunning : lifecycle.daemonState ≠ .stopping)
    (hlt : lifecycle.generation < u64Max) :
    lifecycle.beginOperation =
      .ok (lifecycle.generation + 1, { lifecycle with generation := lifecycle.generation + 1 }) :=
  beginOperation_eq_ok.mpr ⟨hrunning, hlt, rfl, rfl⟩

end LifecycleState

end Lamb.Daemon
