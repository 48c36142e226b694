import Lamb.Daemon.System
import Mathlib.Order.Basic

/-!
What always holds of the context, and what the threads rely on each other for. The
listener touches the runtime only under the authority, and what it changes there it
changes on the way to a stop; the scheduler moves operations into the lane; the captures
record and deliver their faults; the worker leaves a daemon that is to stop as it is.
-/

namespace Lamb.Daemon

open Lamb.Control (DaemonState CaptureState ErrorClass)
open Lamb.Lib

/-! ### The runtime -/

/-- Capture, session and health belong together, and are there exactly while the lifecycle
says that the capture runs. -/
structure AppRuntimeState.Owned (runtime : AppRuntimeState) : Prop where
  session : runtime.session = runtime.capture.map CaptureBackend.attemptId
  health : runtime.captureHealth = runtime.capture.bind CaptureBackend.health
  running : runtime.lifecycle.daemonState ≠ .stopping →
    (runtime.capture ≠ none ↔ runtime.lifecycle.captureState = .running)
  retry : runtime.lifecycle.nextRetryAt ≠ none → runtime.capture = none

theorem AppRuntimeState.Owned.captureHealth_eq {runtime : AppRuntimeState} (h : runtime.Owned)
    {attemptId : ℕ} (hhealth : runtime.captureHealth = some attemptId) :
    ∃ backend, runtime.capture = some backend ∧ backend.attemptId = attemptId ∧
      backend.kind = .pipewire := by
  rw [h.health] at hhealth
  obtain ⟨backend, hcapture, hbackend⟩ := Option.bind_eq_some_iff.mp hhealth
  refine ⟨backend, hcapture, ?_⟩
  unfold CaptureBackend.health at hbackend
  cases hkind : backend.kind with
  | pipewire =>
      rw [hkind] at hbackend
      exact ⟨Option.some.inj hbackend, rfl⟩
  | fake =>
      rw [hkind] at hbackend
      cases hbackend
  | jack =>
      rw [hkind] at hbackend
      cases hbackend

theorem CaptureBackend.health_eq {backend : CaptureBackend} {attemptId : ℕ}
    (h : backend.health = some attemptId) : backend.attemptId = attemptId := by
  unfold CaptureBackend.health at h
  split at h
  · exact Option.some.inj h
  · cases h
  · cases h

/-! ### The context -/

namespace Context

variable (ctx : Context)

/-- The sinks a health has reported to or may report to. -/
def SinkOf (attemptId : ℕ) (sink : RuntimeFaultSink) : Prop :=
  ∃ health, ctx.healths attemptId = some health ∧
    (health.notifiedSink = some sink ∨ health.armed = true ∧ health.faultSink = some sink)

structure Inv : Prop where
  runtimeLock : ∀ party, ctx.runtimeLock = some party → ctx.authority = some party
  stopping : ctx.runtime.lifecycle.daemonState = .stopping → ctx.stop = true
  stopped : ctx.scheduler.state.stopped = true → ctx.stop = true
  laneOpen : ctx.lane.closed = false
  ahead : ctx.scheduler.state.generation ≤ ctx.runtime.lifecycle.generation
  pending : ∀ pending, ctx.scheduler.state.pending = some pending →
    pending.generation = ctx.scheduler.state.generation
  queued : ∀ operation, .internal operation ∈ ctx.lane.queue →
    operation.generation ≤ ctx.scheduler.state.generation
  sinks : ∀ attemptId sink, ctx.SinkOf attemptId sink →
    sink.generation ≤ ctx.scheduler.state.generation
  bound : ∀ attemptId health sink, ctx.healths attemptId = some health →
    health.faultSink = some sink → sink.attemptId = attemptId
  notes : ∀ attemptId notification, ctx.captures attemptId = .running (some notification) →
    notification.1.generation ≤ ctx.scheduler.state.generation ∧
      notification.1.attemptId = attemptId
  attempts : ∀ attemptId, ctx.nextAttempt < attemptId →
    ctx.captures attemptId = .absent ∧ ctx.healths attemptId = none
  owned : ctx.runtime.Owned
  installed : ∀ backend, ctx.runtime.capture = some backend → ctx.live backend.attemptId = true

/-- The daemon stops, or the listener is about to stop it. -/
def Closing : Prop :=
  ctx.stop = true ∨ ctx.runtimeLock = some .listener

/-- No operation begins any more. -/
def Over : Prop :=
  ctx.Closing ∨ u64Max ≤ ctx.runtime.lifecycle.generation

instance decidableOver : Decidable ctx.Over :=
  inferInstanceAs (Decidable ((ctx.stop = true ∨ ctx.runtimeLock = some .listener) ∨
    u64Max ≤ ctx.runtime.lifecycle.generation))

end Context

/-! ### What the scheduler and the captures do -/

section Steps

variable {ctx : Context}

/-- A round of the scheduler's thread leaves its operation where it is, or moves it to the
end of the lane. -/
theorem Context.Inv.iterate_cases (h : ctx.Inv) (now : ℕ) :
    ∃ worker pending queue,
      ctx.iterate now =
        { ctx with
          scheduler := ⟨{ ctx.scheduler.state with pending }, worker⟩
          lane := { ctx.lane with queue } } ∧
      (pending = ctx.scheduler.state.pending ∧ queue = ctx.lane.queue ∨
        ∃ found, ctx.scheduler.state.pending = some found ∧ pending = none ∧
          queue = ctx.lane.queue ++ [.internal found.operation]) := by
  unfold Context.iterate
  rcases ctx.scheduler.iterate_cases now ctx.laneAnswer h.pending with
    ⟨worker, heq, -⟩ | ⟨found, hfound, -, -, heq⟩
  · rw [heq]
    exact ⟨worker, _, _, rfl, .inl ⟨rfl, rfl⟩⟩
  · rw [heq]
    by_cases hfull : ctx.lane.capacity ≤ ctx.lane.queue.length
    · have hanswer : ctx.laneAnswer = .error .full := by
        simp [Context.laneAnswer, h.laneOpen, hfull]
      simp only [hanswer, Scheduler.submit, ↓reduceIte]
      exact ⟨.parked, _, _, rfl, .inl ⟨rfl, rfl⟩⟩
    · have hanswer : ctx.laneAnswer = .ok () := by
        simp [Context.laneAnswer, h.laneOpen, hfull]
      simp only [hanswer, Scheduler.submit]
      exact ⟨ctx.scheduler.worker, none, _, rfl, .inr ⟨found, hfound, rfl, rfl⟩⟩

/-- What a health remembers once its capture has met a fault. -/
theorem PipeWireHealth.recordFatal_cases (health : PipeWireHealth) (fault : RuntimeCaptureFault) :
    ∃ notification fault' notifiedSink,
      health.recordFatal fault =
        (notification, { health with fault := fault', notifiedSink }) ∧
      (notification = none ∧ notifiedSink = health.notifiedSink ∨
        ∃ sink, notification = some (sink, fault) ∧ notifiedSink = some sink ∧
          health.faultSink = some sink ∧ health.armed = true) := by
  unfold recordFatal
  split_ifs with hstill
  · exact ⟨none, _, _, rfl, .inl ⟨rfl, rfl⟩⟩
  · rcases { health with fault := some fault }.pendingNotification_cases with
      hquiet | ⟨sink, fault', hsink, harmed, -, hfault, hreported⟩
    · exact ⟨none, some fault, health.notifiedSink, hquiet, .inl ⟨rfl, rfl⟩⟩
    · cases hfault
      exact ⟨some (sink, fault), some fault, some sink, hreported,
        .inr ⟨sink, rfl, rfl, hsink, harmed⟩⟩

/-- What a notification leaves behind: the scheduler takes it unless it was stopped or has
seen a later generation. -/
theorem Context.notify_cases (ctx : Context) (notification : Notification) :
    ctx.scheduler.accepts notification.1.generation = false ∧
        ctx.notify notification = ctx ∨
      ctx.scheduler.accepts notification.1.generation = true ∧
        ∃ worker wakeEpoch strays,
          ctx.notify notification =
            { ctx with
              scheduler :=
                { state :=
                    { ctx.scheduler.state with
                      generation := notification.1.generation
                      pending := some (.immediate (.runtimeFault notification.1.generation
                        notification.1.attemptId notification.2))
                      wakeEpoch }
                  worker }
              strays } ∧
            (strays = 0 → ctx.strays = 0 ∧
              ctx.runtime.captureHealth = some notification.1.attemptId) := by
  unfold Context.notify Scheduler.notifyFault Scheduler.put
  cases haccepts : ctx.scheduler.accepts notification.1.generation with
  | false => exact .inl ⟨rfl, by simp⟩
  | true =>
      refine .inr ⟨rfl, _, _, _, rfl, ?_⟩
      split_ifs with hstray
      · intro hzero
        exact hzero.elim
      · intro hzero
        exact ⟨hzero, by simpa using hstray⟩

theorem Context.recordFatal_cases (ctx : Context) (attemptId : ℕ) (fault : RuntimeCaptureFault) :
    ctx.recordFatal attemptId fault = ctx ∨
      ∃ health, ctx.captures attemptId = .running none ∧
        ctx.healths attemptId = some health ∧
        ctx.recordFatal attemptId fault =
          (ctx.setHealth attemptId (health.recordFatal fault).2).setCapture attemptId
            (.running (health.recordFatal fault).1) := by
  unfold Context.recordFatal
  split
  · next hrunning =>
      unfold Context.callHealth
      cases hhealth : ctx.healths attemptId with
      | none =>
          refine .inl ?_
          simp only [Context.setCapture, ← hrunning, Function.update_eq_self]
      | some health => exact .inr ⟨health, hrunning, rfl, rfl⟩
  · exact .inl rfl

theorem Context.deliver_cases (ctx : Context) (attemptId : ℕ) :
    ctx.deliver attemptId = ctx ∨
      ∃ notification, ctx.captures attemptId = .running (some notification) ∧
        ctx.deliver attemptId =
          (ctx.notify notification).setCapture attemptId (.running none) := by
  unfold Context.deliver
  split
  · next notification hrunning => exact .inr ⟨notification, hrunning, rfl⟩
  · exact .inl rfl

end Steps

/-! ### The invariant is kept -/

namespace Context.Inv

variable {ctx : Context} (h : ctx.Inv)

include h

/-- Changes of the scheduler and of the lane. -/
theorem rescheduled {scheduler : Scheduler} {queue : List OperationJob}
    (hstopped : scheduler.state.stopped = true → ctx.stop = true)
    (hahead : scheduler.state.generation ≤ ctx.runtime.lifecycle.generation)
    (hraised : ctx.scheduler.state.generation ≤ scheduler.state.generation)
    (hpending : ∀ pending, scheduler.state.pending = some pending →
      pending.generation = scheduler.state.generation)
    (hqueued : ∀ operation, .internal operation ∈ queue →
      operation.generation ≤ scheduler.state.generation) :
    Inv { ctx with scheduler, lane := { ctx.lane with queue } } where
  runtimeLock := h.runtimeLock
  stopping := h.stopping
  stopped := hstopped
  laneOpen := h.laneOpen
  ahead := hahead
  pending := hpending
  queued := hqueued
  sinks attemptId sink hsink := (h.sinks attemptId sink hsink).trans hraised
  bound := h.bound
  notes attemptId notification hnote :=
    ⟨(h.notes attemptId notification hnote).1.trans hraised,
      (h.notes attemptId notification hnote).2⟩
  attempts := h.attempts
  owned := h.owned
  installed := h.installed

/-- Jobs that come and go. -/
theorem requeued {queue : List OperationJob}
    (hqueued : ∀ operation, .internal operation ∈ queue →
      operation.generation ≤ ctx.scheduler.state.generation) :
    Inv { ctx with lane := { ctx.lane with queue } } :=
  h.rescheduled h.stopped h.ahead le_rfl h.pending hqueued

/-- Changes of the runtime. -/
theorem setRuntime {runtime : AppRuntimeState}
    (hstopping : runtime.lifecycle.daemonState = .stopping → ctx.stop = true)
    (hahead : ctx.runtime.lifecycle.generation ≤ runtime.lifecycle.generation)
    (howned : runtime.Owned)
    (hinstalled : ∀ backend, runtime.capture = some backend →
      ctx.live backend.attemptId = true) : (ctx.setRuntime runtime).Inv where
  runtimeLock := h.runtimeLock
  stopping := hstopping
  stopped := h.stopped
  laneOpen := h.laneOpen
  ahead := h.ahead.trans hahead
  pending := h.pending
  queued := h.queued
  sinks := h.sinks
  bound := h.bound
  notes := h.notes
  attempts := h.attempts
  owned := howned
  installed := hinstalled

/-- A change of the health and the thread of one capture, which was known before. -/
theorem setCapture (attemptId : ℕ) (thread : CaptureThread) (health : Option PipeWireHealth)
    (hknown : attemptId ≤ ctx.nextAttempt)
    (hsinks : ∀ found sink, health = some found →
      (found.notifiedSink = some sink ∨ found.armed = true ∧ found.faultSink = some sink) →
      sink.generation ≤ ctx.scheduler.state.generation)
    (hbound : ∀ found sink, health = some found → found.faultSink = some sink →
      sink.attemptId = attemptId)
    (hnotes : ∀ notification, thread = .running (some notification) →
      notification.1.generation ≤ ctx.scheduler.state.generation ∧
        notification.1.attemptId = attemptId)
    (hinstalled : ∀ backend, ctx.runtime.capture = some backend →
      backend.attemptId = attemptId → thread.live = true) :
    Inv { ctx with
      captures := Function.update ctx.captures attemptId thread
      healths := Function.update ctx.healths attemptId health } where
  runtimeLock := h.runtimeLock
  stopping := h.stopping
  stopped := h.stopped
  laneOpen := h.laneOpen
  ahead := h.ahead
  pending := h.pending
  queued := h.queued
  sinks := by
    rintro other sink ⟨found, hfound, hsink⟩
    rcases eq_or_ne other attemptId with rfl | hother
    · simp only [Function.update_self] at hfound
      exact hsinks found sink hfound hsink
    · simp only [Function.update_of_ne hother] at hfound
      exact h.sinks other sink ⟨found, hfound, hsink⟩
  bound := by
    intro other found sink hfound hsink
    rcases eq_or_ne other attemptId with rfl | hother
    · simp only [Function.update_self] at hfound
      exact hbound found sink hfound hsink
    · simp only [Function.update_of_ne hother] at hfound
      exact h.bound other found sink hfound hsink
  notes := by
    intro other notification hnote
    rcases eq_or_ne other attemptId with rfl | hother
    · simp only [Function.update_self] at hnote
      exact hnotes notification hnote
    · simp only [Function.update_of_ne hother] at hnote
      exact h.notes other notification hnote
  attempts := by
    intro other hlater
    have hother : other ≠ attemptId := by
      rintro rfl
      exact absurd hknown (Nat.not_le.mpr hlater)
    simp only [Function.update_of_ne hother]
    exact h.attempts other hlater
  owned := h.owned
  installed := by
    intro backend hcapture
    rcases eq_or_ne backend.attemptId attemptId with hsame | hother
    · simp only [Context.live, hsame, Function.update_self]
      exact hinstalled backend hcapture hsame
    · simp only [Context.live, Function.update_of_ne hother]
      exact h.installed backend hcapture

theorem known {attemptId : ℕ} (hlive : ctx.captures attemptId ≠ .absent) :
    attemptId ≤ ctx.nextAttempt := by
  by_contra hlater
  exact hlive (h.attempts attemptId (Nat.lt_of_not_le hlater)).1

theorem iterate (now : ℕ) : (ctx.iterate now).Inv := by
  obtain ⟨worker, pending, queue, heq, hcases⟩ := h.iterate_cases now
  rw [heq]
  rcases hcases with ⟨rfl, rfl⟩ | ⟨found, hfound, rfl, rfl⟩
  · exact h.rescheduled h.stopped h.ahead le_rfl h.pending h.queued
  · refine h.rescheduled h.stopped h.ahead le_rfl (by rintro _ ⟨⟩) fun operation hjob => ?_
    rcases List.mem_append.mp hjob with hold | hnew
    · exact h.queued operation hold
    · obtain rfl : operation = found.operation := by simpa using hnew
      rw [found.generation_operation]
      exact (h.pending found hfound).le

theorem notify {notification : Notification}
    (hgeneration : notification.1.generation ≤ ctx.scheduler.state.generation) :
    (ctx.notify notification).Inv := by
  rcases ctx.notify_cases notification with ⟨-, heq⟩ | ⟨haccepts, worker, wakeEpoch, strays, heq, -⟩
  · rwa [heq]
  · rw [heq]
    obtain ⟨-, hle⟩ := accepts_eq_true.mp haccepts
    have hsame := Nat.le_antisymm hle hgeneration
    have hkept : Inv { ctx with
        scheduler :=
          { state :=
              { ctx.scheduler.state with
                generation := notification.1.generation
                pending := some (.immediate (.runtimeFault notification.1.generation
                  notification.1.attemptId notification.2))
                wakeEpoch }
            worker }
        lane := { ctx.lane with queue := ctx.lane.queue } } :=
      h.rescheduled h.stopped (hsame ▸ h.ahead) hle (by rintro _ ⟨⟩; rfl)
        fun operation hjob => (h.queued operation hjob).trans hle
    exact ⟨hkept.runtimeLock, hkept.stopping, hkept.stopped, hkept.laneOpen, hkept.ahead,
      hkept.pending, hkept.queued, hkept.sinks, hkept.bound, hkept.notes, hkept.attempts,
      hkept.owned, hkept.installed⟩

/-- A fault that is recorded is reported, if at all, to the sink its health is bound to. -/
theorem recordFatal (attemptId : ℕ) (fault : RuntimeCaptureFault) :
    (ctx.recordFatal attemptId fault).Inv := by
  rcases ctx.recordFatal_cases attemptId fault with heq | ⟨health, hrunning, hhealth, heq⟩
  · rwa [heq]
  · rw [heq]
    obtain ⟨notification, fault', notifiedSink, hrecorded, hcases⟩ := health.recordFatal_cases fault
    have hsink : ∀ sink, notifiedSink = some sink ∨ health.armed = true ∧
        health.faultSink = some sink → sink.generation ≤ ctx.scheduler.state.generation := by
      intro sink hsink
      refine h.sinks attemptId sink ⟨health, hhealth, ?_⟩
      rcases hcases with ⟨-, rfl⟩ | ⟨reported, -, rfl, hreported, harmed⟩
      · exact hsink
      · rcases hsink with hsame | harmed'
        · cases hsame
          exact .inr ⟨harmed, hreported⟩
        · exact .inr harmed'
    refine h.setCapture _ _ (some _) (h.known (by simp [hrunning])) ?_ ?_ ?_ ?_
    · rintro _ sink ⟨⟩ hnotified
      rw [hrecorded] at hnotified
      exact hsink sink hnotified
    · rintro _ sink ⟨⟩ hbound
      rw [hrecorded] at hbound
      exact h.bound attemptId health sink hhealth hbound
    · intro found hfound
      rw [hrecorded] at hfound
      rcases hcases with ⟨rfl, -⟩ | ⟨reported, rfl, rfl, hreported, harmed⟩
      · cases hfound
      · cases hfound
        exact ⟨hsink reported (.inl rfl), h.bound attemptId health reported hhealth hreported⟩
    · exact fun _ _ _ => rfl

theorem deliver (attemptId : ℕ) : (ctx.deliver attemptId).Inv := by
  rcases ctx.deliver_cases attemptId with heq | ⟨notification, hrunning, heq⟩
  · rwa [heq]
  · rw [heq]
    have hnotified := h.notify (h.notes attemptId notification hrunning).1
    have hkept := hnotified.setCapture attemptId (.running none)
      ((ctx.notify notification).healths attemptId)
      (h.known (by simp [hrunning]))
      (fun found sink hfound hsink => hnotified.sinks attemptId sink ⟨found, hfound, hsink⟩)
      (fun found sink hfound hsink => hnotified.bound attemptId found sink hfound hsink)
      (by rintro _ ⟨⟩) fun _ _ _ => rfl
    rwa [Function.update_eq_self] at hkept

end Context.Inv

/-! ### Relies and guarantees -/

/-- What the threads of the scheduler do. -/
def SchedulerStep (ctx ctx' : Context) : Prop :=
  (∃ now, ctx' = ctx.iterate now) ∨
    ctx' = { ctx with scheduler := { ctx.scheduler with worker := ctx.scheduler.worker.wake } }

/-- What the threads of the captures do. -/
def CaptureStep (ctx ctx' : Context) : Prop :=
  ∃ attemptId, (∃ fault, ctx' = ctx.recordFatal attemptId fault) ∨ ctx' = ctx.deliver attemptId

/-- What the listener does to the context. -/
structure ListenerStep (ctx ctx' : Context) : Prop where
  inv : ctx.Inv → ctx'.Inv
  started : ctx.started = true ∧ ctx'.started = true
  authority : ctx'.authority = some .worker ↔ ctx.authority = some .worker
  runtimeLock : ctx'.runtimeLock = some .worker ↔ ctx.runtimeLock = some .worker
  stop : ctx.stop = true → ctx'.stop = true
  closing : ctx.Closing → ctx'.Closing
  /-- While the worker has the authority, the listener has nothing to say. -/
  held : ctx.authority = some .worker → ctx'.stop = ctx.stop ∧
    ctx'.operationEpoch = ctx.operationEpoch ∧ ctx'.runtime = ctx.runtime ∧
    ctx'.scheduler = ctx.scheduler
  /-- Unless it stops the daemon, it leaves everything but the lane alone. -/
  going : ¬ctx'.Closing → ctx'.operationEpoch = ctx.operationEpoch ∧
    ctx'.runtime = ctx.runtime ∧ ctx'.scheduler = ctx.scheduler
  stopping : ctx.runtime.lifecycle.daemonState = .stopping →
    ctx'.runtime.lifecycle.daemonState = .stopping
  capture : ctx'.runtime.capture = ctx.runtime.capture
  captureHealth : ctx'.runtime.captureHealth = ctx.runtime.captureHealth
  generation : ctx.runtime.lifecycle.generation ≤ ctx'.runtime.lifecycle.generation
  captures : ctx'.captures = ctx.captures
  healths : ctx'.healths = ctx.healths
  nextAttempt : ctx'.nextAttempt = ctx.nextAttempt
  strays : ctx'.strays = ctx.strays
  queue : ∃ requests : List Request, ctx'.lane.queue = ctx.lane.queue ++ requests.map .client

/-- What the worker does to a context that is to stop, and to what is not its own. -/
structure WorkerStep (ctx ctx' : Context) : Prop where
  inv : ctx.Inv → ctx'.Inv
  started : ctx.started = true → ctx'.started = true
  authority : ctx'.authority = some .listener ↔ ctx.authority = some .listener
  runtimeLock : ctx'.runtimeLock = some .listener ↔ ctx.runtimeLock = some .listener
  stop : ctx.stop = true → ctx'.stop = true ∧
    ctx'.runtime.lifecycle = ctx.runtime.lifecycle ∧
    ctx'.runtime.capture = ctx.runtime.capture ∧ ctx'.runtime.session = ctx.runtime.session
  stopRequested : ctx'.stopRequested = ctx.stopRequested
  generation : ctx.runtime.lifecycle.generation ≤ ctx'.runtime.lifecycle.generation

/-- What happens between two steps of the worker. -/
def WorkerRely (ctx ctx' : Context) : Prop :=
  ListenerStep ctx ctx' ∨ SchedulerStep ctx ctx' ∨ CaptureStep ctx ctx'

/-- What happens between two steps of the listener. -/
def ListenerRely (ctx ctx' : Context) : Prop :=
  WorkerStep ctx ctx' ∨ SchedulerStep ctx ctx' ∨ CaptureStep ctx ctx'

section Steps

variable {ctx ctx' : Context}

/-- What the scheduler and the captures leave alone. -/
structure Context.Same (ctx ctx' : Context) : Prop where
  stop : ctx'.stop = ctx.stop
  operationEpoch : ctx'.operationEpoch = ctx.operationEpoch
  authority : ctx'.authority = ctx.authority
  runtimeLock : ctx'.runtimeLock = ctx.runtimeLock
  runtime : ctx'.runtime = ctx.runtime
  nextAttempt : ctx'.nextAttempt = ctx.nextAttempt
  started : ctx'.started = ctx.started
  stopRequested : ctx'.stopRequested = ctx.stopRequested
  live : ∀ attemptId, ctx'.live attemptId = ctx.live attemptId

theorem SchedulerStep.inv (hstep : SchedulerStep ctx ctx') (h : ctx.Inv) : ctx'.Inv := by
  rcases hstep with ⟨now, rfl⟩ | rfl
  · exact h.iterate now
  · exact h.rescheduled h.stopped h.ahead le_rfl h.pending h.queued

theorem SchedulerStep.same (hstep : SchedulerStep ctx ctx') (h : ctx.Inv) :
    ctx.Same ctx' := by
  rcases hstep with ⟨now, rfl⟩ | rfl
  · obtain ⟨worker, pending, queue, heq, -⟩ := h.iterate_cases now
    rw [heq]
    exact ⟨rfl, rfl, rfl, rfl, rfl, rfl, rfl, rfl, fun _ => rfl⟩
  · exact ⟨rfl, rfl, rfl, rfl, rfl, rfl, rfl, rfl, fun _ => rfl⟩

theorem CaptureStep.inv (hstep : CaptureStep ctx ctx') (h : ctx.Inv) : ctx'.Inv := by
  obtain ⟨attemptId, ⟨fault, rfl⟩ | rfl⟩ := hstep
  · exact h.recordFatal attemptId fault
  · exact h.deliver attemptId

theorem Context.live_setCapture {attemptId : ℕ} {notification notification' : Option Notification}
    (hrunning : ctx.captures attemptId = .running notification) (other : ℕ) :
    (ctx.setCapture attemptId (.running notification')).live other = ctx.live other := by
  rcases eq_or_ne other attemptId with rfl | hother
  · simp only [Context.live, Context.setCapture, Function.update_self, hrunning,
      CaptureThread.live]
  · simp only [Context.live, Context.setCapture, Function.update_of_ne hother]

theorem CaptureStep.same (hstep : CaptureStep ctx ctx') : ctx.Same ctx' := by
  obtain ⟨attemptId, ⟨fault, rfl⟩ | rfl⟩ := hstep
  · rcases ctx.recordFatal_cases attemptId fault with heq | ⟨health, hrunning, -, heq⟩
    · rw [heq]
      exact ⟨rfl, rfl, rfl, rfl, rfl, rfl, rfl, rfl, fun _ => rfl⟩
    · rw [heq]
      exact ⟨rfl, rfl, rfl, rfl, rfl, rfl, rfl, rfl, Context.live_setCapture hrunning⟩
  · rcases ctx.deliver_cases attemptId with heq | ⟨notification, hrunning, heq⟩
    · rw [heq]
      exact ⟨rfl, rfl, rfl, rfl, rfl, rfl, rfl, rfl, fun _ => rfl⟩
    · rw [heq]
      exact ⟨rfl, rfl, rfl, rfl, rfl, rfl, rfl, rfl, Context.live_setCapture hrunning⟩

end Steps

end Lamb.Daemon
