import Lamb.Daemon.Law

/-!
What the worker knows between two of its steps, and why the other threads leave it
alone. A fact need only last until the daemon is about to stop, or has no generation
left for another operation.
-/

namespace Lamb.Daemon

open Lamb.Control (DaemonState CaptureState ErrorClass)
open Lamb.Lib

/-- `P` survives the steps of the other threads. -/
def Steady (P : Context → Prop) : Prop :=
  ∀ ctx ctx', ctx.Inv → WorkerRely ctx ctx' → P ctx → P ctx'

theorem Steady.and {P P' : Context → Prop} (h : Steady P) (h' : Steady P') :
    Steady fun ctx => P ctx ∧ P' ctx :=
  fun ctx ctx' hinv hstep hP => ⟨h ctx ctx' hinv hstep hP.1, h' ctx ctx' hinv hstep hP.2⟩

theorem Steady.const (p : Prop) : Steady fun _ => p :=
  fun _ _ _ _ hp => hp

theorem Steady.imp {p : Prop} {P : Context → Prop} (h : Steady P) : Steady fun ctx => p → P ctx :=
  fun ctx ctx' hinv hstep hP hp => h ctx ctx' hinv hstep (hP hp)

/-! ### What the worker owns -/

/-- The captures that live are the one the runtime has and those the worker holds itself. -/
structure Own (loose : List ℕ) (ctx : Context) : Prop where
  inv : ctx.Inv
  runtimeLock : ctx.runtimeLock ≠ some .worker
  loose : ∀ attemptId, ctx.live attemptId = true →
    (∃ backend, ctx.runtime.capture = some backend ∧ backend.attemptId = attemptId) ∨
      attemptId ∈ loose

/-- The worker owns the captures `loose` and knows `P`. -/
def At (loose : List ℕ) (P : Context → Prop) (ctx : Context) : Prop :=
  Own loose ctx ∧ P ctx

section Rely

variable {ctx ctx' : Context}

theorem WorkerRely.inv (hstep : WorkerRely ctx ctx') (h : ctx.Inv) : ctx'.Inv := by
  rcases hstep with hlistener | hscheduler | hcapture
  · exact hlistener.inv h
  · exact hscheduler.inv h
  · exact hcapture.inv h

/-- What no other thread changes, whatever happens. -/
structure Context.Kept (ctx ctx' : Context) : Prop where
  authority : ctx'.authority = some .worker ↔ ctx.authority = some .worker
  runtimeLock : ctx'.runtimeLock = some .worker ↔ ctx.runtimeLock = some .worker
  stop : ctx.stop = true → ctx'.stop = true
  closing : ctx.Closing → ctx'.Closing
  held : ctx.authority = some .worker → ctx'.stop = ctx.stop ∧
    ctx'.operationEpoch = ctx.operationEpoch ∧ ctx'.runtime = ctx.runtime
  going : ¬ctx'.Closing → ctx'.operationEpoch = ctx.operationEpoch ∧ ctx'.runtime = ctx.runtime
  capture : ctx'.runtime.capture = ctx.runtime.capture
  captureHealth : ctx'.runtime.captureHealth = ctx.runtime.captureHealth
  generation : ctx.runtime.lifecycle.generation ≤ ctx'.runtime.lifecycle.generation
  nextAttempt : ctx'.nextAttempt = ctx.nextAttempt
  live : ∀ attemptId, ctx'.live attemptId = ctx.live attemptId

theorem Context.Same.kept (h : ctx.Same ctx') : ctx.Kept ctx' where
  authority := by rw [h.authority]
  runtimeLock := by rw [h.runtimeLock]
  stop := by rw [h.stop]; exact id
  closing := by
    rintro (hstop | hlock)
    · exact .inl (h.stop.trans hstop)
    · exact .inr (h.runtimeLock.trans hlock)
  held := fun _ => ⟨h.stop, h.operationEpoch, h.runtime⟩
  going := fun _ => ⟨h.operationEpoch, h.runtime⟩
  capture := by rw [h.runtime]
  captureHealth := by rw [h.runtime]
  generation := by rw [h.runtime]
  nextAttempt := h.nextAttempt
  live := h.live

theorem WorkerRely.kept (hstep : WorkerRely ctx ctx') (h : ctx.Inv) : ctx.Kept ctx' := by
  rcases hstep with hlistener | hscheduler | hcapture
  · exact
      { authority := hlistener.authority
        runtimeLock := hlistener.runtimeLock
        stop := hlistener.stop
        closing := hlistener.closing
        held := fun hheld => ⟨(hlistener.held hheld).1, (hlistener.held hheld).2.1,
          (hlistener.held hheld).2.2.1⟩
        going := fun hgoing => ⟨(hlistener.going hgoing).1, (hlistener.going hgoing).2.1⟩
        capture := hlistener.capture
        captureHealth := hlistener.captureHealth
        generation := hlistener.generation
        nextAttempt := hlistener.nextAttempt
        live := fun attemptId => by rw [Context.live, Context.live, hlistener.captures] }
  · exact (hscheduler.same h).kept
  · exact hcapture.same.kept

theorem At.stable {loose : List ℕ} {P : Context → Prop} (hP : Steady P) :
    Thread.Stable WorkerRely (At loose P) := by
  rintro ctx ctx' ⟨hown, h⟩ hstep
  have hkept := hstep.kept hown.inv
  refine ⟨⟨hstep.inv hown.inv, ?_, ?_⟩, hP ctx ctx' hown.inv hstep h⟩
  · exact fun hlock => hown.runtimeLock (hkept.runtimeLock.mp hlock)
  · intro attemptId hlive
    rw [hkept.capture]
    exact hown.loose attemptId (hkept.live attemptId ▸ hlive)

end Rely

/-! ### The authority -/

def Context.Held (ctx : Context) : Prop :=
  ctx.authority = some .worker

/-- The worker has the authority, and the operation `token` is the current one. -/
def Context.Holds (token : ℕ) (ctx : Context) : Prop :=
  ctx.Held ∧ ctx.stop = false ∧ ctx.operationEpoch = token

theorem steady_held : Steady Context.Held :=
  fun _ _ hinv hstep hheld => (hstep.kept hinv).authority.mpr hheld

theorem steady_holds (token : ℕ) : Steady (Context.Holds token) := by
  rintro ctx ctx' hinv hstep ⟨hheld, hstop, htoken⟩
  obtain ⟨hstop', hepoch, -⟩ := (hstep.kept hinv).held hheld
  exact ⟨(hstep.kept hinv).authority.mpr hheld, hstop'.trans hstop, hepoch.trans htoken⟩

theorem steady_vacant : Steady fun ctx => ctx.runtime.capture = none :=
  fun _ _ hinv hstep hvacant => (hstep.kept hinv).capture.trans hvacant

theorem steady_stop : Steady fun ctx => ctx.stop = true :=
  fun _ _ hinv hstep hstop => (hstep.kept hinv).stop hstop

/-- Nobody else holds the authority, so the daemon is not about to stop. -/
theorem Context.Inv.not_closing {ctx : Context} (h : ctx.Inv) (hheld : ctx.Held)
    (hstop : ctx.stop = false) : ¬ctx.Closing := by
  rintro (hstopped | hlock)
  · rw [hstop] at hstopped
    cases hstopped
  · have hlistener := h.runtimeLock _ hlock
    rw [hheld] at hlistener
    cases hlistener

/-! ### Facts that last until the end -/

/-- `F` holds unless the daemon is about to stop or has no generation left. -/
def Unless (F : Context → Prop) (ctx : Context) : Prop :=
  ctx.Over ∨ F ctx

theorem Unless.mono {F F' : Context → Prop} {ctx : Context} (h : Unless F ctx)
    (hF : F ctx → F' ctx) : Unless F' ctx :=
  h.imp_right hF

theorem Unless.and {F F' : Context → Prop} {ctx : Context} (h : Unless F ctx)
    (h' : Unless F' ctx) : Unless (fun ctx => F ctx ∧ F' ctx) ctx := by
  rcases h with hover | hF
  · exact .inl hover
  · rcases h' with hover | hF'
    · exact .inl hover
    · exact .inr ⟨hF, hF'⟩

/-- A fact that the other threads leave alone while the daemon goes on: requests of
clients come to the lane, the scheduler makes its rounds, captures meet their faults. -/
structure Fact (F : Context → Prop) : Prop where
  requests : ∀ ctx ctx', F ctx → ctx'.operationEpoch = ctx.operationEpoch →
    ctx'.runtime = ctx.runtime → ctx'.scheduler = ctx.scheduler →
    ctx'.captures = ctx.captures → ctx'.healths = ctx.healths → ctx'.strays = ctx.strays →
    (∃ requests : List Request, ctx'.lane.queue = ctx.lane.queue ++ requests.map .client) →
    F ctx'
  scheduler : ∀ ctx ctx', ctx.Inv → SchedulerStep ctx ctx' → F ctx → F ctx'
  captures : ∀ ctx ctx', ctx.Inv → ¬ctx.Over → CaptureStep ctx ctx' → F ctx → F ctx'

theorem Context.Same.over {ctx ctx' : Context} (h : ctx.Same ctx') : ctx'.Over ↔ ctx.Over := by
  unfold Context.Over Context.Closing
  rw [h.stop, h.runtimeLock, h.runtime]

theorem Fact.steady {F : Context → Prop} (h : Fact F) : Steady (Unless F) := by
  rintro ctx ctx' hinv hstep (hover | hF)
  · refine .inl ?_
    have hkept := hstep.kept hinv
    exact hover.imp hkept.closing fun hspent => hspent.trans hkept.generation
  · by_cases hover : ctx'.Over
    · exact .inl hover
    refine .inr ?_
    rcases hstep with hlistener | hscheduler | hcapture
    · obtain ⟨hepoch, hruntime, hsame⟩ := hlistener.going fun hclosing => hover (.inl hclosing)
      exact h.requests ctx ctx' hF hepoch hruntime hsame hlistener.captures hlistener.healths
        hlistener.strays hlistener.queue
    · exact h.scheduler ctx ctx' hinv hscheduler hF
    · exact h.captures ctx ctx' hinv (fun h => hover (hcapture.same.over.mpr h)) hcapture hF

theorem Fact.and {F F' : Context → Prop} (h : Fact F) (h' : Fact F') :
    Fact fun ctx => F ctx ∧ F' ctx where
  requests ctx ctx' hF hepoch hruntime hscheduler hcaptures hhealths hstrays hqueue :=
    ⟨h.requests ctx ctx' hF.1 hepoch hruntime hscheduler hcaptures hhealths hstrays hqueue,
      h'.requests ctx ctx' hF.2 hepoch hruntime hscheduler hcaptures hhealths hstrays hqueue⟩
  scheduler ctx ctx' hinv hstep hF :=
    ⟨h.scheduler ctx ctx' hinv hstep hF.1, h'.scheduler ctx ctx' hinv hstep hF.2⟩
  captures ctx ctx' hinv hover hstep hF :=
    ⟨h.captures ctx ctx' hinv hover hstep hF.1, h'.captures ctx ctx' hinv hover hstep hF.2⟩

/-- Facts of the epoch and of the runtime. -/
theorem Fact.runtime (P : ℕ → AppRuntimeState → Prop) :
    Fact fun ctx => P ctx.operationEpoch ctx.runtime where
  requests ctx ctx' hF hepoch hruntime _ _ _ _ _ := by
    rw [hepoch, hruntime]
    exact hF
  scheduler ctx ctx' hinv hstep hF := by
    rw [(hstep.same hinv).operationEpoch, (hstep.same hinv).runtime]
    exact hF
  captures ctx ctx' _ _ hstep hF := by
    rw [hstep.same.operationEpoch, hstep.same.runtime]
    exact hF

/-! ### Retries -/

/-- No retry of this generation is pending or in the lane. -/
def Context.NoRetry (generation : ℕ) (ctx : Context) : Prop :=
  (∀ pending, ctx.scheduler.state.pending = some pending →
    pending.operation ≠ .retry generation) ∧ .internal (.retry generation) ∉ ctx.lane.queue

/-- The lifecycle and the scheduler agree: with a time for the next retry, one retry of the
current generation is pending for then or in the lane, and no capture is there to be
retried; without one there is no such retry. -/
def Context.Paired (ctx : Context) : Prop :=
  let generation := ctx.runtime.lifecycle.generation
  match ctx.runtime.lifecycle.nextRetryAt with
  | none => ctx.NoRetry generation
  | some due =>
      (∀ attemptId, ctx.live attemptId = false) ∧
      (ctx.scheduler.state.pending = some (.retry generation due) ∧
          .internal (.retry generation) ∉ ctx.lane.queue ∨
        (∀ pending, ctx.scheduler.state.pending = some pending →
          pending.operation ≠ .retry generation) ∧
          ctx.lane.queue.count (.internal (.retry generation)) = 1)

theorem retry_notMem_requests (generation : ℕ) (requests : List Request) :
    OperationJob.internal (.retry generation) ∉ requests.map OperationJob.client := by
  simp

theorem notMem_append_requests {queue : List OperationJob} {generation : ℕ}
    (h : .internal (.retry generation) ∉ queue) (requests : List Request) :
    OperationJob.internal (.retry generation) ∉ queue ++ requests.map OperationJob.client := by
  rw [List.mem_append]
  exact fun hmem => hmem.elim h (retry_notMem_requests generation requests)

/-- What a capture does to the scheduler: at most it puts a fault there. -/
theorem CaptureStep.scheduler_cases {ctx ctx' : Context} (hstep : CaptureStep ctx ctx') :
    ctx'.lane = ctx.lane ∧ (ctx'.scheduler.state = ctx.scheduler.state ∨
      ∃ generation attemptId fault, ctx'.scheduler.state.pending =
        some (.immediate (.runtimeFault generation attemptId fault))) := by
  obtain ⟨attemptId, ⟨fault, rfl⟩ | rfl⟩ := hstep
  · rcases ctx.recordFatal_cases attemptId fault with heq | ⟨health, -, -, heq⟩
    · rw [heq]
      exact ⟨rfl, .inl rfl⟩
    · rw [heq]
      exact ⟨rfl, .inl rfl⟩
  · rcases ctx.deliver_cases attemptId with heq | ⟨notification, -, heq⟩
    · rw [heq]
      exact ⟨rfl, .inl rfl⟩
    · rw [heq]
      rcases ctx.notify_cases notification with ⟨-, hsame⟩ | ⟨-, worker, wakeEpoch, strays, hput, -⟩
      · rw [hsame]
        exact ⟨rfl, .inl rfl⟩
      · rw [hput]
        exact ⟨rfl, .inr ⟨_, _, _, rfl⟩⟩

theorem fact_noRetry (generation : ℕ) : Fact (Context.NoRetry generation) where
  requests ctx ctx' hF _ _ hscheduler _ _ _ hqueue := by
    obtain ⟨requests, hqueue⟩ := hqueue
    refine ⟨by rw [hscheduler]; exact hF.1, ?_⟩
    rw [hqueue]
    exact notMem_append_requests hF.2 requests
  scheduler ctx ctx' hinv hstep hF := by
    rcases hstep with ⟨now, rfl⟩ | rfl
    · obtain ⟨worker, pending, queue, heq, hcases⟩ := hinv.iterate_cases now
      rw [heq]
      rcases hcases with ⟨rfl, rfl⟩ | ⟨found, hfound, rfl, rfl⟩
      · exact hF
      · refine ⟨by rintro _ ⟨⟩, ?_⟩
        have hother := hF.1 found hfound
        simp only [List.mem_append, List.mem_singleton, OperationJob.internal.injEq, not_or]
        exact ⟨hF.2, hother.symm⟩
    · exact hF
  captures ctx ctx' _ _ hstep hF := by
    obtain ⟨hlane, hsame | ⟨generation', attemptId, fault, hput⟩⟩ := hstep.scheduler_cases
    · exact ⟨by rw [hsame]; exact hF.1, by rw [hlane]; exact hF.2⟩
    · refine ⟨?_, by rw [hlane]; exact hF.2⟩
      rw [hput]
      rintro _ ⟨⟩
      simp [PendingOperation.operation]

/-- Without a capture that lives, no capture does anything. -/
theorem CaptureStep.eq_of_no_live {ctx ctx' : Context} (hstep : CaptureStep ctx ctx')
    (hlive : ∀ attemptId, ctx.live attemptId = false) : ctx' = ctx := by
  obtain ⟨attemptId, ⟨fault, rfl⟩ | rfl⟩ := hstep
  · rcases ctx.recordFatal_cases attemptId fault with heq | ⟨health, hrunning, -, -⟩
    · exact heq
    · have hdead := hlive attemptId
      simp [Context.live, hrunning, CaptureThread.live] at hdead
  · rcases ctx.deliver_cases attemptId with heq | ⟨notification, hrunning, -⟩
    · exact heq
    · have hdead := hlive attemptId
      simp [Context.live, hrunning, CaptureThread.live] at hdead

theorem fact_paired : Fact Context.Paired where
  requests ctx ctx' hF _ hruntime hscheduler hcaptures _ _ hqueue := by
    unfold Context.Paired at hF ⊢
    obtain ⟨requests, hqueue⟩ := hqueue
    rw [hruntime]
    cases hnext : ctx.runtime.lifecycle.nextRetryAt with
    | none =>
        rw [hnext] at hF
        refine ⟨by rw [hscheduler]; exact hF.1, ?_⟩
        rw [hqueue]
        exact notMem_append_requests hF.2 requests
    | some due =>
        rw [hnext] at hF
        obtain ⟨hlive, hcases⟩ := hF
        refine ⟨fun attemptId => by rw [Context.live, hcaptures]; exact hlive attemptId, ?_⟩
        rw [hscheduler, hqueue]
        rcases hcases with ⟨hpending, hnot⟩ | ⟨hpending, hcount⟩
        · exact .inl ⟨hpending, notMem_append_requests hnot requests⟩
        · refine .inr ⟨hpending, ?_⟩
          rw [List.count_append, hcount, List.count_eq_zero.mpr (retry_notMem_requests _ _)]
  scheduler ctx ctx' hinv hstep hF := by
    rcases hstep with ⟨now, rfl⟩ | rfl
    · have hnoRetry := (fact_noRetry ctx.runtime.lifecycle.generation).scheduler ctx _ hinv
        (.inl ⟨now, rfl⟩)
      unfold Context.Paired at hF ⊢
      obtain ⟨worker, pending, queue, heq, hcases⟩ := hinv.iterate_cases now
      rw [heq] at hnoRetry ⊢
      cases hnext : ctx.runtime.lifecycle.nextRetryAt with
      | none =>
          simp only [hnext] at hF ⊢
          exact hnoRetry hF
      | some due =>
          simp only [hnext] at hF ⊢
          obtain ⟨hlive, hretry⟩ := hF
          refine ⟨hlive, ?_⟩
          rcases hcases with ⟨rfl, rfl⟩ | ⟨found, hfound, rfl, rfl⟩
          · exact hretry
          · refine .inr ⟨by rintro _ ⟨⟩, ?_⟩
            rcases hretry with ⟨hpending, hnot⟩ | ⟨hpending, hcount⟩
            · rw [hfound] at hpending
              cases hpending
              rw [List.count_append, List.count_eq_zero.mpr hnot]
              simp [PendingOperation.operation]
            · have hother := hpending found hfound
              rw [List.count_append, hcount, List.count_eq_zero.mpr (by simpa using hother.symm)]
    · exact hF
  captures ctx ctx' hinv hover hstep hF := by
    unfold Context.Paired at hF ⊢
    cases hnext : ctx.runtime.lifecycle.nextRetryAt with
    | none =>
        simp only [hstep.same.runtime, hnext] at hF ⊢
        exact (fact_noRetry _).captures ctx ctx' hinv hover hstep hF
    | some due =>
        simp only [hstep.same.runtime, hnext] at hF ⊢
        rw [hstep.eq_of_no_live hF.1]
        exact hF

/-! ### Faults -/

namespace Context

/-- The scheduler or the lane has the fault this sink was notified of. -/
def FaultDue (sink : RuntimeFaultSink) (ctx : Context) : Prop :=
  (∃ fault, ctx.scheduler.state.pending =
      some (.immediate (.runtimeFault sink.generation sink.attemptId fault))) ∨
    ∃ fault, .internal (.runtimeFault sink.generation sink.attemptId fault) ∈ ctx.lane.queue

/-- The capture is about to deliver a fault to this sink. -/
def InFlight (sink : RuntimeFaultSink) (ctx : Context) : Prop :=
  ∃ fault, ctx.captures sink.attemptId = .running (some (sink, fault))

/-- The capture of the sink is listened to: its health is bound to the sink, and if it has
notified the sink then the fault is on its way, unless it is the one to `skip`. -/
def Attended (skip : Option ℕ) (sink : RuntimeFaultSink) (ctx : Context) : Prop :=
  ∃ health, ctx.healths sink.attemptId = some health ∧ health.Bound sink ∧
    (skip ≠ some sink.attemptId → health.notifiedSink = some sink →
      ctx.InFlight sink ∨ ctx.FaultDue sink)

/-- The runtime and the scheduler are at this generation, and no fault of the installed
capture was lost, unless a capture that was not installed has spoken up. -/
def Attentive (skip : Option ℕ) (generation : ℕ) (ctx : Context) : Prop :=
  ctx.runtime.lifecycle.generation = generation ∧
    ctx.scheduler.state.generation = generation ∧
    (ctx.strays = 0 → ∀ attemptId, ctx.runtime.captureHealth = some attemptId →
      ctx.Attended skip ⟨generation, attemptId⟩)

/-- The health of the installed capture waits to be bound to this generation. -/
def Rebindable (generation : ℕ) (ctx : Context) : Prop :=
  ctx.strays = 0 → ∀ attemptId, ctx.runtime.captureHealth = some attemptId →
    ∃ health sink, ctx.healths attemptId = some health ∧ health.normalStop = false ∧
      health.faultSink = some sink ∧ sink.generation < generation ∧
      ∀ notified, health.notifiedSink = some notified → notified.generation < generation

/-- The health of a capture that was started but not armed. -/
def Awaiting (sink : RuntimeFaultSink) (ctx : Context) : Prop :=
  ∃ health, ctx.healths sink.attemptId = some health ∧ health.faultSink = some sink ∧
    health.armed = false ∧ health.normalStop = false ∧ health.notifiedSink = none

end Context

/-- What the fault of a capture does to its own health, and that it leaves the others. -/
theorem Context.healths_recordFatal (ctx : Context) (attemptId : ℕ) (fault : RuntimeCaptureFault)
    {other : ℕ} {health : PipeWireHealth} (hhealth : ctx.healths other = some health) :
    (ctx.recordFatal attemptId fault).healths other = some health ∧
        (ctx.recordFatal attemptId fault).captures other = ctx.captures other ∨
      other = attemptId ∧ ctx.captures other = .running none ∧
        (ctx.recordFatal attemptId fault).healths other = some (health.recordFatal fault).2 ∧
        (ctx.recordFatal attemptId fault).captures other =
          .running (health.recordFatal fault).1 := by
  rcases ctx.recordFatal_cases attemptId fault with heq | ⟨found, hrunning, hfound, heq⟩
  · rw [heq]
    exact .inl ⟨hhealth, rfl⟩
  · rw [heq]
    rcases eq_or_ne other attemptId with rfl | hother
    · obtain rfl : found = health := Option.some.inj (hfound.symm.trans hhealth)
      exact .inr ⟨rfl, hrunning, Function.update_self .., Function.update_self ..⟩
    · exact .inl ⟨(Function.update_of_ne hother ..).trans hhealth,
        Function.update_of_ne hother ..⟩

/-- A notification that is delivered leaves every health as it is. -/
theorem Context.healths_deliver (ctx : Context) (attemptId : ℕ) :
    (ctx.deliver attemptId).healths = ctx.healths := by
  rcases ctx.deliver_cases attemptId with heq | ⟨notification, -, heq⟩
  · rw [heq]
  · rw [heq]
    rfl

theorem Context.strays_recordFatal (ctx : Context) (attemptId : ℕ) (fault : RuntimeCaptureFault) :
    (ctx.recordFatal attemptId fault).strays = ctx.strays := by
  rcases ctx.recordFatal_cases attemptId fault with heq | ⟨health, -, -, heq⟩
  · rw [heq]
  · rw [heq]
    rfl

theorem Context.scheduler_recordFatal (ctx : Context) (attemptId : ℕ)
    (fault : RuntimeCaptureFault) :
    (ctx.recordFatal attemptId fault).scheduler = ctx.scheduler ∧
      (ctx.recordFatal attemptId fault).lane = ctx.lane := by
  rcases ctx.recordFatal_cases attemptId fault with heq | ⟨health, -, -, heq⟩
  · rw [heq]
    exact ⟨rfl, rfl⟩
  · rw [heq]
    exact ⟨rfl, rfl⟩

theorem Context.FaultDue.iterate {ctx : Context} {sink : RuntimeFaultSink} (h : ctx.FaultDue sink)
    (hinv : ctx.Inv) (now : ℕ) : (ctx.iterate now).FaultDue sink := by
  obtain ⟨worker, pending, queue, heq, hcases⟩ := hinv.iterate_cases now
  rw [heq]
  rcases hcases with ⟨rfl, rfl⟩ | ⟨found, hfound, rfl, rfl⟩
  · exact h
  · rcases h with ⟨fault, hpending⟩ | ⟨fault, hqueue⟩
    · rw [hfound] at hpending
      cases hpending
      exact .inr ⟨fault, by simp [PendingOperation.operation]⟩
    · exact .inr ⟨fault, List.mem_append_left _ hqueue⟩

/-- A capture that is listened to stays so while captures meet and deliver faults. -/
theorem Context.Attended.captures {ctx ctx' : Context} {skip : Option ℕ}
    {sink : RuntimeFaultSink} (h : ctx.Attended skip sink) (hinv : ctx.Inv) (hover : ¬ctx.Over)
    (hgeneration : ctx.scheduler.state.generation = sink.generation)
    (hinstalled : ctx.runtime.captureHealth = some sink.attemptId)
    (hstep : CaptureStep ctx ctx') (hstrays : ctx'.strays = 0) : ctx'.Attended skip sink := by
  obtain ⟨health, hhealth, hbound, hdue⟩ := h
  obtain ⟨attemptId, ⟨fault, rfl⟩ | rfl⟩ := hstep
  · obtain ⟨hscheduler, hlane⟩ := ctx.scheduler_recordFatal attemptId fault
    have hkept : ctx.FaultDue sink → (ctx.recordFatal attemptId fault).FaultDue sink := by
      unfold Context.FaultDue
      rw [hscheduler, hlane]
      exact id
    rcases ctx.healths_recordFatal attemptId fault hhealth with
      ⟨hsame, hcapture⟩ | ⟨-, hrunning, hchanged, hcapture⟩
    · refine ⟨health, hsame, hbound, fun hskip hnotified => ?_⟩
      refine (hdue hskip hnotified).imp (fun hflight => ?_) hkept
      rw [Context.InFlight, hcapture]
      exact hflight
    · refine ⟨_, hchanged, hbound.recordFatal fault, fun hskip hnotified => ?_⟩
      obtain ⟨notification, fault', notifiedSink, hrecorded, hcases⟩ :=
        health.recordFatal_cases fault
      rw [hrecorded] at hcapture hnotified
      rcases hcases with ⟨rfl, rfl⟩ | ⟨reported, rfl, rfl, hreported, -⟩
      · rcases hdue hskip hnotified with ⟨fault', hflight⟩ | hdue
        · rw [hrunning] at hflight
          cases hflight
        · exact .inr (hkept hdue)
      · cases hnotified
        exact .inl ⟨fault, hcapture⟩
  · refine ⟨health, by rw [ctx.healths_deliver]; exact hhealth, hbound, fun hskip hnotified => ?_⟩
    rcases ctx.deliver_cases attemptId with heq | ⟨notification, hrunning, heq⟩
    · rw [heq]
      exact hdue hskip hnotified
    · rw [heq] at hstrays ⊢
      obtain ⟨hnote, hown⟩ := hinv.notes attemptId notification hrunning
      have hother : sink.attemptId ≠ attemptId →
          ctx.InFlight sink → (ctx.setCapture attemptId (.running none)).InFlight sink := by
        intro hne hflight
        simp only [Context.InFlight, Context.setCapture, Function.update_of_ne hne]
        exact hflight
      rcases ctx.notify_cases notification with
        ⟨hrejects, hsame⟩ | ⟨haccepts, worker, wakeEpoch, strays, hput, hstray⟩
      · rw [hsame]
        refine (hdue hskip hnotified).imp (fun hflight => ?_) id
        refine hother ?_ hflight
        rintro hsink
        obtain ⟨fault, hflight⟩ := hflight
        rw [hsink, hrunning] at hflight
        cases hflight
        -- the scheduler goes on and is at the generation of the sink
        have hyes := accepts_eq_true.mpr ⟨Bool.not_eq_true _ ▸ fun hstopped =>
          hover (.inl (.inl (hinv.stopped hstopped))), hgeneration.le⟩
        rw [hrejects] at hyes
        cases hyes
      · rw [hput] at hstrays ⊢
        obtain ⟨-, hspeaker⟩ := hstray hstrays
        rw [hinstalled, hown] at hspeaker
        have hsame : notification.1 = sink := by
          obtain ⟨-, hle⟩ := accepts_eq_true.mp haccepts
          rw [hgeneration] at hle hnote
          obtain ⟨⟨generation, attemptId'⟩, fault⟩ := notification
          obtain ⟨generation', attemptId''⟩ := sink
          simp only [RuntimeFaultSink.mk.injEq]
          exact ⟨Nat.le_antisymm hnote hle, hown.trans (Option.some.inj hspeaker).symm⟩
        refine .inr (.inl ⟨notification.2, ?_⟩)
        simp only [Context.setCapture, hsame]

/-- The generation of the scheduler is nobody else's business. -/
theorem generation_eq_of_step {ctx ctx' : Context} (hinv : ctx.Inv)
    (hstep : SchedulerStep ctx ctx' ∨ CaptureStep ctx ctx') :
    ctx'.scheduler.state.generation = ctx.scheduler.state.generation := by
  rcases hstep with (⟨now, rfl⟩ | rfl) | ⟨attemptId, ⟨fault, rfl⟩ | rfl⟩
  · obtain ⟨worker, pending, queue, heq, -⟩ := hinv.iterate_cases now
    rw [heq]
  · rfl
  · rw [(ctx.scheduler_recordFatal attemptId fault).1]
  · rcases ctx.deliver_cases attemptId with heq | ⟨notification, hrunning, heq⟩
    · rw [heq]
    · rw [heq]
      rcases ctx.notify_cases notification with
        ⟨-, hsame⟩ | ⟨haccepts, worker, wakeEpoch, strays, hput, -⟩
      · rw [hsame]
        rfl
      · rw [hput]
        obtain ⟨-, hle⟩ := accepts_eq_true.mp haccepts
        exact Nat.le_antisymm (hinv.notes attemptId notification hrunning).1 hle

theorem CaptureStep.strays_eq_zero {ctx ctx' : Context} (hstep : CaptureStep ctx ctx')
    (hstrays : ctx'.strays = 0) : ctx.strays = 0 := by
  obtain ⟨attemptId, ⟨fault, rfl⟩ | rfl⟩ := hstep
  · rwa [ctx.strays_recordFatal] at hstrays
  · rcases ctx.deliver_cases attemptId with heq | ⟨notification, -, heq⟩
    · rwa [heq] at hstrays
    · rw [heq] at hstrays
      rcases ctx.notify_cases notification with
        ⟨-, hsame⟩ | ⟨-, worker, wakeEpoch, strays, hput, hstray⟩
      · rwa [hsame] at hstrays
      · rw [hput] at hstrays
        exact (hstray hstrays).1

theorem fact_attentive (skip : Option ℕ) (generation : ℕ) :
    Fact (Context.Attentive skip generation) where
  requests ctx ctx' hF _ hruntime hscheduler hcaptures hhealths hstrays hqueue := by
    obtain ⟨hgeneration, hscheduled, hattended⟩ := hF
    obtain ⟨requests, hqueue⟩ := hqueue
    refine ⟨by rw [hruntime]; exact hgeneration, by rw [hscheduler]; exact hscheduled, ?_⟩
    rw [hstrays, hruntime]
    intro hzero attemptId hinstalled
    obtain ⟨health, hhealth, hbound, hdue⟩ := hattended hzero attemptId hinstalled
    refine ⟨health, by rw [hhealths]; exact hhealth, hbound, fun hskip hnotified => ?_⟩
    refine (hdue hskip hnotified).imp (fun hflight => ?_) fun hdue => ?_
    · rw [Context.InFlight, hcaptures]
      exact hflight
    · rw [Context.FaultDue, hscheduler, hqueue]
      refine hdue.imp_right ?_
      rintro ⟨fault, hmem⟩
      exact ⟨fault, List.mem_append_left _ hmem⟩
  scheduler ctx ctx' hinv hstep hF := by
    obtain ⟨hgeneration, hscheduled, hattended⟩ := hF
    have hsame := hstep.same hinv
    refine ⟨by rw [hsame.runtime]; exact hgeneration,
      (generation_eq_of_step hinv (.inl hstep)).trans hscheduled, ?_⟩
    rw [hsame.runtime]
    rcases hstep with ⟨now, rfl⟩ | rfl
    · intro hzero attemptId hinstalled
      have hdues : ∀ sink, ctx.FaultDue sink → (ctx.iterate now).FaultDue sink :=
        fun sink hdue => hdue.iterate hinv now
      obtain ⟨worker, pending, queue, heq, -⟩ := hinv.iterate_cases now
      rw [heq] at hzero hdues ⊢
      obtain ⟨health, hhealth, hbound, hdue⟩ := hattended hzero attemptId hinstalled
      exact ⟨health, hhealth, hbound, fun hskip hnotified =>
        (hdue hskip hnotified).imp id (hdues _)⟩
    · exact hattended
  captures ctx ctx' hinv hover hstep hF := by
    obtain ⟨hgeneration, hscheduled, hattended⟩ := hF
    refine ⟨by rw [hstep.same.runtime]; exact hgeneration,
      (generation_eq_of_step hinv (.inr hstep)).trans hscheduled, ?_⟩
    rw [hstep.same.runtime]
    intro hzero attemptId hinstalled
    exact (hattended (hstep.strays_eq_zero hzero) attemptId hinstalled).captures hinv hover
      hscheduled hinstalled hstep hzero

/-- What a health keeps when its capture meets a fault. -/
theorem Context.healths_captures {ctx ctx' : Context} (hstep : CaptureStep ctx ctx') {attemptId : ℕ}
    {health : PipeWireHealth} (hhealth : ctx.healths attemptId = some health) :
    ∃ fault notifiedSink, ctx'.healths attemptId = some { health with fault, notifiedSink } ∧
      (notifiedSink = health.notifiedSink ∨
        health.armed = true ∧ notifiedSink = health.faultSink) := by
  obtain ⟨acting, ⟨fault, rfl⟩ | rfl⟩ := hstep
  · rcases ctx.healths_recordFatal acting fault hhealth with
      ⟨hsame, -⟩ | ⟨-, -, hchanged, -⟩
    · exact ⟨_, _, hsame, .inl rfl⟩
    · obtain ⟨notification, fault', notifiedSink, hrecorded, hcases⟩ :=
        health.recordFatal_cases fault
      rw [hrecorded] at hchanged
      refine ⟨_, _, hchanged, ?_⟩
      rcases hcases with ⟨-, rfl⟩ | ⟨sink, -, rfl, hsink, harmed⟩
      · exact .inl rfl
      · exact .inr ⟨harmed, hsink.symm⟩
  · rw [ctx.healths_deliver]
    exact ⟨_, _, hhealth, .inl rfl⟩

theorem SchedulerStep.healths {ctx ctx' : Context} (hstep : SchedulerStep ctx ctx')
    (hinv : ctx.Inv) : ctx'.healths = ctx.healths ∧ ctx'.strays = ctx.strays := by
  rcases hstep with ⟨now, rfl⟩ | rfl
  · obtain ⟨worker, pending, queue, heq, -⟩ := hinv.iterate_cases now
    rw [heq]
    exact ⟨rfl, rfl⟩
  · exact ⟨rfl, rfl⟩

theorem fact_rebindable (generation : ℕ) : Fact (Context.Rebindable generation) where
  requests ctx ctx' hF _ hruntime _ _ hhealths hstrays _ := by
    rw [Context.Rebindable, hruntime, hhealths, hstrays]
    exact hF
  scheduler ctx ctx' hinv hstep hF := by
    rw [Context.Rebindable, (hstep.same hinv).runtime, (hstep.healths hinv).1,
      (hstep.healths hinv).2]
    exact hF
  captures ctx ctx' hinv hover hstep hF := by
    rw [Context.Rebindable, hstep.same.runtime]
    intro hzero attemptId hinstalled
    obtain ⟨health, sink, hhealth, hgoing, hsink, hlt, hnotified⟩ :=
      hF (hstep.strays_eq_zero hzero) attemptId hinstalled
    obtain ⟨fault, notifiedSink, hhealth', hcases⟩ := Context.healths_captures hstep hhealth
    refine ⟨_, sink, hhealth', hgoing, hsink, hlt, ?_⟩
    rcases hcases with rfl | ⟨-, rfl⟩
    · exact hnotified
    · intro notified heq
      obtain rfl : sink = notified := Option.some.inj (hsink.symm.trans heq)
      exact hlt

theorem steady_awaiting (sink : RuntimeFaultSink) : Steady (Context.Awaiting sink) := by
  rintro ctx ctx' hinv hstep ⟨health, hhealth, hsink, harmed, hgoing, hnotified⟩
  rcases hstep with hlistener | hscheduler | hcapture
  · exact ⟨health, by rw [hlistener.healths]; exact hhealth, hsink, harmed, hgoing, hnotified⟩
  · exact ⟨health, by rw [(hscheduler.healths hinv).1]; exact hhealth, hsink, harmed, hgoing,
      hnotified⟩
  · obtain ⟨fault, notifiedSink, hhealth', hcases⟩ := Context.healths_captures hcapture hhealth
    refine ⟨_, hhealth', hsink, harmed, hgoing, ?_⟩
    rcases hcases with rfl | ⟨harmed', -⟩
    · exact hnotified
    · rw [harmed] at harmed'
      cases harmed'

end Lamb.Daemon
