import Lamb.Daemon.Step

/-!
Beginning an operation. The runtime gets a new generation, the scheduler forgets what
was before, and the health of the installed capture is bound anew, so that a fault that
was lost with the old generation is reported again.
-/

namespace Lamb.Daemon

open Lamb.Control (DaemonState CaptureState ErrorClass)
open Lamb.Lib

/-! ### Binding a health -/

namespace PipeWireHealth

variable {health : PipeWireHealth} {sink : RuntimeFaultSink}

/-- To arm a health is to bind it to the sink it has. -/
theorem arm_eq_rebindAndArm (hsink : health.faultSink = some sink) :
    health.arm = health.rebindAndArm sink := by
  unfold arm rebindAndArm
  rw [← hsink]

/-- The sinks a health knows after it was bound. -/
theorem rebindAndArm_cases (health : PipeWireHealth) (sink : RuntimeFaultSink) :
    (∀ notification, (health.rebindAndArm sink).1 = some notification → notification.1 = sink) ∧
    (∀ found, (health.rebindAndArm sink).2.faultSink = some found →
      found = sink ∨ health.faultSink = some found) ∧
    ∀ found, (health.rebindAndArm sink).2.notifiedSink = some found ∨
        (health.rebindAndArm sink).2.armed = true ∧
          (health.rebindAndArm sink).2.faultSink = some found →
      found = sink ∨ health.notifiedSink = some found ∨
        health.armed = true ∧ health.faultSink = some found := by
  unfold rebindAndArm
  split_ifs
  · exact ⟨by rintro _ ⟨⟩, fun _ => .inr, fun _ => .inr⟩
  · rcases { health with faultSink := some sink, armed := true }.pendingNotification_cases with
      heq | ⟨reported, fault, hreported, -, -, -, heq⟩
    · rw [heq]
      refine ⟨by rintro _ ⟨⟩, fun _ h => .inl (Option.some.inj h).symm, ?_⟩
      rintro found (hnotified | ⟨-, hfound⟩)
      · exact .inr (.inl hnotified)
      · exact .inl (Option.some.inj hfound).symm
    · rw [heq]
      cases hreported
      refine ⟨?_, fun _ h => .inl (Option.some.inj h).symm, ?_⟩
      · rintro _ ⟨⟩
        rfl
      · rintro found (hfound | ⟨-, hfound⟩)
        · exact .inl (Option.some.inj hfound).symm
        · exact .inl (Option.some.inj hfound).symm

/-- A sink that was not notified yet is notified of a fault that is known. -/
theorem bound_rebindAndArm (hgoing : health.normalStop = false)
    (hnew : health.notifiedSink ≠ some sink) :
    (health.rebindAndArm sink).2.Bound sink ∧
      ((health.rebindAndArm sink).1 = none →
        (health.rebindAndArm sink).2.notifiedSink ≠ some sink) := by
  unfold rebindAndArm
  rw [if_neg (by simp [hgoing])]
  refine ⟨bound_pendingNotification rfl rfl hgoing, ?_⟩
  rcases { health with faultSink := some sink, armed := true }.pendingNotification_cases with
    heq | ⟨reported, fault, -, -, -, -, heq⟩
  · rw [heq]
    exact fun _ => hnew
  · rw [heq]
    rintro ⟨⟩

end PipeWireHealth

/-! ### Reporting under the authority -/

/-- The runtime is the worker's alone: under the authority, or before the listener runs in
a daemon that is not told to stop. -/
def Context.Alone : (held : Bool) → Context → Prop
  | true, ctx => ctx.Held
  | false, ctx => ctx.started = false ∧ ctx.stop = false

/-- The runtime is as the worker has left it. -/
def Context.Fixed (held : Bool) (R : AppRuntimeState → Prop) (ctx : Context) : Prop :=
  ctx.Alone held ∧ R ctx.runtime

/-- The scheduler was told of this generation. -/
def Context.Told (held : Bool) (generation : ℕ) (ctx : Context) : Prop :=
  ctx.Alone held ∧ ctx.scheduler.state.generation = generation

theorem Quiet.alone {held : Bool} {ctx ctx' : Context} (h : Quiet ctx ctx')
    (halone : ctx.Alone held) : ctx'.Alone held := by
  cases held with
  | true => exact h.authority.trans halone
  | false => exact ⟨h.started.trans halone.1, h.stop.trans halone.2⟩

theorem Quiet.fixed {held : Bool} {R : AppRuntimeState → Prop} {ctx ctx' : Context}
    (h : Quiet ctx ctx') (hfixed : ctx.Fixed held R) : ctx'.Fixed held R := by
  refine ⟨h.alone hfixed.1, ?_⟩
  rw [h.runtime]
  exact hfixed.2

/-- Nobody else changes the runtime then, or the generation of the scheduler. -/
theorem alone_of_step {held : Bool} {ctx ctx' : Context} (hinv : ctx.Inv)
    (hstep : WorkerRely ctx ctx') (h : ctx.Alone held) :
    ctx'.Alone held ∧ ctx'.stop = ctx.stop ∧ ctx'.runtime = ctx.runtime ∧
      ctx'.scheduler.state.generation = ctx.scheduler.state.generation := by
  rcases hstep with hlistener | hothers
  · cases held with
    | true =>
        obtain ⟨hstop, -, hruntime, hscheduler⟩ := hlistener.held h
        exact ⟨hlistener.authority.mpr h, hstop, hruntime, by rw [hscheduler]⟩
    | false =>
        have hstarted := hlistener.started.1
        rw [h.1] at hstarted
        cases hstarted
  · have hsame : ctx.Same ctx' := hothers.elim (·.same hinv) (·.same)
    refine ⟨?_, hsame.stop, hsame.runtime, generation_eq_of_step hinv hothers⟩
    cases held with
    | true => exact hsame.authority.trans h
    | false => exact ⟨hsame.started.trans h.1, hsame.stop.trans h.2⟩

theorem steady_alone (held : Bool) : Steady (Context.Alone held) :=
  fun _ _ hinv hstep h => (alone_of_step hinv hstep h).1

theorem steady_fixed (held : Bool) (R : AppRuntimeState → Prop) :
    Steady (Context.Fixed held R) := by
  rintro ctx ctx' hinv hstep ⟨halone, hruntime⟩
  obtain ⟨halone', -, hsame, -⟩ := alone_of_step hinv hstep halone
  refine ⟨halone', ?_⟩
  rw [hsame]
  exact hruntime

theorem steady_told (held : Bool) (generation : ℕ) : Steady (Context.Told held generation) := by
  rintro ctx ctx' hinv hstep ⟨halone, htold⟩
  obtain ⟨halone', -, -, hsame⟩ := alone_of_step hinv hstep halone
  exact ⟨halone', hsame.trans htold⟩

/-- The stop, as the worker has found it. -/
def Context.Found (held stop : Bool) (ctx : Context) : Prop :=
  ctx.Alone held ∧ ctx.stop = stop

theorem steady_found (held stop : Bool) : Steady (Context.Found held stop) := by
  rintro ctx ctx' hinv hstep ⟨halone, hstop⟩
  obtain ⟨halone', hsame, -⟩ := alone_of_step hinv hstep halone
  exact ⟨halone', hsame.trans hstop⟩

/-- The health of the installed capture waits to be bound to a sink: it goes on and has
not notified it, unless a capture that was not installed has spoken up. -/
def Context.Unbound (sink : RuntimeFaultSink) (ctx : Context) : Prop :=
  ctx.strays = 0 → ∃ health, ctx.healths sink.attemptId = some health ∧
    health.normalStop = false ∧ health.notifiedSink ≠ some sink

/-- What an operation knows of the capture it is about to bind to its generation. -/
structure Context.Binding (token : ℕ) (sink : RuntimeFaultSink) (ctx : Context) : Prop where
  operationEpoch : ctx.operationEpoch = token
  generation : ctx.runtime.lifecycle.generation = sink.generation
  noRetry : ctx.NoRetry sink.generation
  installed : ctx.runtime.captureHealth = some sink.attemptId
  unbound : ctx.Unbound sink

section Reporting

variable {ctx : Context} {loose : List ℕ} {P : Context → Prop} {R : AppRuntimeState → Prop}
  {held : Bool} {token : ℕ} {sink : RuntimeFaultSink}

/-- The health was bound, and what is left to be reported is the worker's to report. -/
def Context.Reporting (token : ℕ) (sink : RuntimeFaultSink) (notification : Option Notification)
    (ctx : Context) : Prop :=
  ctx.operationEpoch = token ∧ ctx.runtime.captureHealth = some sink.attemptId ∧
    ctx.NoRetry sink.generation ∧
    ctx.Attentive (if notification = none then none else some sink.attemptId) sink.generation

theorem fact_reporting (token : ℕ) (sink : RuntimeFaultSink)
    (notification : Option Notification) : Fact (Context.Reporting token sink notification) :=
  (Fact.runtime fun epoch _ => epoch = token).and
    ((Fact.runtime fun _ runtime => runtime.captureHealth = some sink.attemptId).and
      ((fact_noRetry _).and (fact_attentive _ _)))

theorem Context.Inv.bind (h : ctx.Inv) {health : PipeWireHealth}
    (hhealth : ctx.healths sink.attemptId = some health)
    (htold : sink.generation ≤ ctx.scheduler.state.generation) :
    (ctx.setHealth sink.attemptId (health.rebindAndArm sink).2).Inv := by
  obtain ⟨-, hfaultSink, hsinks⟩ := health.rebindAndArm_cases sink
  have hknown : sink.attemptId ≤ ctx.nextAttempt := by
    by_contra hlater
    have habsent := (h.attempts _ (Nat.lt_of_not_le hlater)).2
    rw [hhealth] at habsent
    cases habsent
  have hkept := h.setCapture sink.attemptId (ctx.captures sink.attemptId)
    (some (health.rebindAndArm sink).2) hknown ?_ ?_
    (fun notification hnote => h.notes _ notification hnote)
    fun backend hcapture hsame => hsame ▸ h.installed backend hcapture
  · rwa [Function.update_eq_self] at hkept
  · rintro _ found ⟨⟩ hfound
    rcases hsinks found hfound with rfl | hold
    · exact htold
    · exact h.sinks _ found ⟨health, hhealth, hold⟩
  · rintro _ found ⟨⟩ hfound
    rcases hfaultSink found hfound with rfl | hold
    · rfl
    · exact h.bound _ health found hhealth hold

/-- The scheduler has the fault then, unless it was stopped. -/
theorem Context.Reporting.notify {notification : Notification}
    (h : Unless (Context.Reporting token notification.1 (some notification)) ctx)
    (hinv : ctx.Inv) (htold : ctx.scheduler.state.generation = notification.1.generation) :
    Unless (Context.Debt token notification.1.generation) (ctx.notify notification) := by
  rcases h with hover | ⟨hepoch, hinstalled, hnoRetry, hgeneration, -, hattended⟩
  · exact .inl hover
  · rcases ctx.notify_cases notification with
      ⟨hrejects, hsame⟩ | ⟨haccepts, worker, wakeEpoch, strays, hput, hstray⟩
    · cases hstopped : ctx.scheduler.state.stopped with
      | true => exact .inl (.inl (.inl (hinv.stopped hstopped)))
      | false =>
          rw [accepts_eq_true.mpr ⟨hstopped, htold.le⟩] at hrejects
          cases hrejects
    · rw [hput]
      refine .inr ⟨hepoch, ⟨hgeneration, rfl, fun hzero attemptId hother => ?_⟩,
        by rintro _ ⟨⟩; simp [PendingOperation.operation], hnoRetry.2⟩
      obtain rfl := Option.some.inj (hinstalled.symm.trans hother)
      obtain ⟨health, hhealth, hbound, -⟩ := hattended (hstray hzero).1 _ hinstalled
      exact ⟨health, hhealth, hbound, fun _ _ => .inr (.inl ⟨notification.2, rfl⟩)⟩

/-- The capture that is installed is bound to the sink, and a fault it has met by then is
reported to the scheduler, which takes it. -/
theorem does_callHealth (held : Bool) (token : ℕ) (sink : RuntimeFaultSink)
    (R : AppRuntimeState → Prop)
    {call : PipeWireHealth → Option Notification × PipeWireHealth} (hP : Steady P)
    (hcall : ∀ ctx, P ctx → ctx.callHealth sink.attemptId call =
      ctx.callHealth sink.attemptId (·.rebindAndArm sink))
    (hfixed : ∀ ctx, P ctx → ctx.Fixed held R ∧ ctx.Told held sink.generation)
    (hbinding : ∀ ctx, P ctx → Unless (Context.Binding token sink) ctx) :
    Does (At loose P) (callHealth sink.attemptId call) fun _ =>
      At loose fun ctx => ctx.Fixed held R ∧ Unless (Context.Debt token sink.generation) ctx := by
  have hreporting : ∀ notification : Option Notification, Steady fun ctx =>
      (∀ found, notification = some found → found.1 = sink) ∧
        (ctx.Fixed held R ∧ ctx.Told held sink.generation) ∧
          Unless (Context.Reporting token sink notification) ctx := fun notification =>
    (Steady.const _).and (((steady_fixed held R).and (steady_told held _)).and
      (fact_reporting token sink notification).steady)
  have hafter := (steady_fixed held R).and (open_debt token sink.generation).steady
  refine (Does.step (l := fun _ => loose) hP hreporting fun ctx hown hctx _ => ?_).bind
    fun notification => ?_
  · rw [hcall ctx hctx]
    obtain ⟨hfixed, htold⟩ := hfixed ctx hctx
    have hbound := hbinding ctx hctx
    cases hhealth : ctx.healths sink.attemptId with
    | none =>
        simp only [Context.callHealth, hhealth]
        refine ⟨.refl ctx, hown, by rintro _ ⟨⟩, ⟨hfixed, htold⟩, hbound.mono fun hbound => ?_⟩
        refine ⟨hbound.operationEpoch, hbound.installed, hbound.noRetry, hbound.generation,
          htold.2, fun hzero => ?_⟩
        obtain ⟨health, hfound, -⟩ := hbound.unbound hzero
        rw [hhealth] at hfound
        cases hfound
    | some health =>
        simp only [Context.callHealth, hhealth]
        have hquiet : Quiet ctx (ctx.setHealth sink.attemptId (health.rebindAndArm sink).2) :=
          ⟨fun hinv => hinv.bind hhealth htold.2.ge, rfl, rfl, rfl, rfl, rfl, rfl⟩
        refine ⟨hquiet.workerStep, hquiet.own_same hown rfl, (health.rebindAndArm_cases sink).1,
          ⟨hquiet.fixed hfixed, hquiet.alone htold.1, htold.2⟩, hbound.imp id fun hbound => ?_⟩
        refine ⟨hbound.operationEpoch, hbound.installed, hbound.noRetry, hbound.generation,
          htold.2, fun hzero attemptId hinstalled => ?_⟩
        obtain rfl := Option.some.inj (hbound.installed.symm.trans hinstalled)
        obtain ⟨found, hfound, hgoing, hnew⟩ := hbound.unbound hzero
        obtain rfl := Option.some.inj (hhealth.symm.trans hfound)
        obtain ⟨hbound, hquiet⟩ := PipeWireHealth.bound_rebindAndArm hgoing hnew
        refine ⟨_, Function.update_self .., hbound, fun hskip hnotified => ?_⟩
        split_ifs at hskip with hnone
        · exact (hquiet hnone hnotified).elim
        · exact (hskip rfl).elim
  · cases notification with
    | none =>
        refine Does.weaken (Q := fun _ ctx => ctx.Fixed held R ∧
          Unless (Context.Debt token sink.generation) ctx) (Does.done hafter fun _ _ h => h)
          (fun ctx _ hctx => ⟨hctx.2.1.1, hctx.2.2.mono fun h => ⟨h.1, h.2.2.2, h.2.2.1⟩⟩)
          fun _ _ _ h => h
    | some notification =>
        refine Does.change (hreporting _) hafter fun ctx hown hctx => ?_
        obtain ⟨hsink, ⟨hruntime, htold⟩, hreported⟩ := hctx
        obtain rfl := hsink notification rfl
        have hquiet : Quiet ctx (ctx.notify notification) :=
          ⟨fun hinv => hinv.notify htold.2.ge, rfl, rfl, rfl, rfl, rfl, rfl⟩
        exact ⟨hquiet.workerStep, hquiet.own_same hown rfl, hquiet.fixed hruntime,
          Context.Reporting.notify hreported hown.inv htold.2⟩

end Reporting

/-! ### Beginning an operation -/

/-- The worker has the runtime locked; it holds no capture of its own. -/
structure Locked (P : Context → Prop) (ctx : Context) : Prop where
  inv : ctx.Inv
  runtimeLock : ctx.runtimeLock = some .worker
  loose : ∀ attemptId, ctx.live attemptId = true →
    ∃ backend, ctx.runtime.capture = some backend ∧ backend.attemptId = attemptId
  knows : P ctx

theorem Locked.stable {P : Context → Prop} (hP : Steady P) :
    Thread.Stable WorkerRely (Locked P) := by
  intro ctx ctx' h hstep
  have hkept := hstep.kept h.inv
  refine ⟨hstep.inv h.inv, hkept.runtimeLock.mpr h.runtimeLock, ?_, hP ctx ctx' h.inv hstep h.knows⟩
  intro attemptId hlive
  rw [hkept.capture]
  exact h.loose attemptId (hkept.live attemptId ▸ hlive)

/-- The operation `token` has taken the next generation, and the health of the installed
capture, if it has one, is still bound to an earlier one. -/
def Context.Entered (token generation : ℕ) (health : Option ℕ) (ctx : Context) : Prop :=
  ctx.Fixed true (fun runtime => runtime.lifecycle.generation = generation ∧
      runtime.captureHealth = health) ∧
    Unless (fun ctx => ctx.operationEpoch = token ∧ ctx.NoRetry generation ∧
      ctx.Rebindable generation) ctx

section Begin

variable {ctx : Context} {token generation : ℕ}

theorem steady_entered (token generation : ℕ) (health : Option ℕ) :
    Steady (Context.Entered token generation health) :=
  (steady_fixed true _).and ((Fact.runtime fun epoch _ => epoch = token).and
    ((fact_noRetry generation).and (fact_rebindable generation))).steady

/-- What was scheduled for the generations before is none of the next one's. -/
theorem Context.Inv.noRetry (h : ctx.Inv)
    (hlater : ctx.scheduler.state.generation < generation) : ctx.NoRetry generation := by
  refine ⟨fun pending hpending hretry => ?_, fun hmem => ?_⟩
  · have hgeneration := h.pending pending hpending
    rw [← pending.generation_operation, hretry] at hgeneration
    exact hlater.ne hgeneration.symm
  · exact (Nat.not_lt.mpr (h.queued _ hmem)) hlater

/-- All that the health of the installed capture has notified was of the generation before. -/
theorem Context.Settled.rebindable (h : ctx.Settled) (hinv : ctx.Inv)
    (hlater : ctx.runtime.lifecycle.generation < generation) : ctx.Rebindable generation := by
  intro hzero attemptId hinstalled
  obtain ⟨-, hscheduled, hattended⟩ := h.1
  obtain ⟨health, hhealth, hbound, -⟩ := hattended hzero attemptId hinstalled
  refine ⟨health, _, hhealth, hbound.going, hbound.faultSink, hlater, fun notified hnotified => ?_⟩
  have hle := hinv.sinks attemptId notified ⟨health, hhealth, .inl hnotified⟩
  omega

/-- What is known once the worker has tried to take the next generation. -/
def AfterEntry (token : ℕ) : Except CaptureAttemptError (ℕ × Option ℕ) → Context → Prop
  | .error _, ctx => At [] (fun ctx => ctx.Held ∧ Unless Context.Settled ctx) ctx
  | .ok (generation, health), ctx => Locked (Context.Entered token generation health) ctx

theorem does_begin :
    Does (At [] fun ctx => ctx.Found true false ∧ Unless Context.Settled ctx)
      (Thread.atomic runtimeFree fun ctx => ctx.begin .worker .command token)
      (AfterEntry token) := by
  refine Thread.Spec.atomic (At.stable ((steady_found true false).and framed_settled.steady)) ?_ ?_
  · intro begun
    cases begun with
    | error error => exact At.stable (steady_held.and framed_settled.steady)
    | ok begun => exact Locked.stable (steady_entered token begun.1 begun.2)
  · rintro ctx ⟨hown, ⟨hheld, hstop⟩, hsettled⟩ hready
    have hfree : ctx.runtimeLock = none := Option.isNone_iff_eq_none.mp hready
    unfold Context.begin
    cases hbegin : ctx.runtime.lifecycle.beginOperation with
    | error error => exact ⟨.refl ctx, hown, hheld, hsettled⟩
    | ok begun =>
        obtain ⟨generation, lifecycle⟩ := begun
        obtain ⟨hrunning, hroom, rfl, rfl⟩ := LifecycleState.beginOperation_eq_ok.mp hbegin
        -- the daemon was going on, and the generation was not spent
        have hsettled : ctx.Settled := by
          rcases hsettled with (hclosing | hspent) | hsettled
          · exact (hown.inv.not_closing hheld hstop hclosing).elim
          · omega
          · exact hsettled
        have hraised : (ctx.setLifecycle { ctx.runtime.lifecycle with
            generation := ctx.runtime.lifecycle.generation + 1 }).Inv :=
          hown.inv.setRuntime (fun hstopping => (hrunning hstopping).elim) (Nat.le_succ _)
            ⟨hown.inv.owned.session, hown.inv.owned.health, hown.inv.owned.running,
              hown.inv.owned.retry⟩ hown.inv.installed
        have hinv : Context.Inv
            { ctx.setLifecycle { ctx.runtime.lifecycle with
                generation := ctx.runtime.lifecycle.generation + 1 } with
              operationEpoch := token
              runtimeLock := some .worker } :=
          hraised.controlled (by rintro _ ⟨⟩; exact hheld) id le_rfl
        refine ⟨⟨fun _ => hinv, id, .rfl, by simp [hfree], ?_, rfl, Nat.le_succ _⟩, hinv, rfl,
          ?_, ?_⟩
        · intro hstopped
          rw [hstop] at hstopped
          cases hstopped
        · exact fun attemptId hlive => (hown.loose attemptId hlive).resolve_right (by rintro ⟨⟩)
        · refine ⟨⟨hheld, rfl, rfl⟩, .inr ⟨rfl, ?_, ?_⟩⟩
          · exact hown.inv.noRetry (Nat.lt_succ_of_le hown.inv.ahead)
          · exact hsettled.rebindable hown.inv (Nat.lt_succ_self _)

/-- The scheduler hears of the generation, and the runtime is unlocked. -/
theorem does_invalidate_locked (health : Option ℕ) :
    Does (Locked (Context.Entered token generation health))
      (Thread.modify fun ctx => ctx.invalidate generation) fun _ =>
        Locked fun ctx => ctx.Entered token generation health ∧ ctx.Told true generation := by
  refine Thread.Spec.modify (Locked.stable (steady_entered token generation health))
    (Locked.stable ((steady_entered token generation health).and (steady_told true generation)))
    fun ctx h => ?_
  obtain ⟨⟨hheld, hgeneration, hhealth⟩, hentered⟩ := h.knows
  have hquiet : Quiet ctx (ctx.invalidate generation) :=
    ⟨fun hinv => hinv.invalidate hgeneration.ge, rfl, rfl, rfl, rfl, rfl, rfl⟩
  have hahead : ¬generation < ctx.scheduler.state.generation :=
    Nat.not_lt.mpr (h.inv.ahead.trans hgeneration.le)
  refine ⟨hquiet.workerStep, ⟨hquiet.inv h.inv, h.runtimeLock, h.loose, ?_, hheld, ?_⟩⟩
  · refine ⟨⟨hheld, hgeneration, hhealth⟩, hentered.imp id ?_⟩
    rintro ⟨hepoch, hnoRetry, hrebindable⟩
    refine ⟨hepoch, ?_, hrebindable⟩
    unfold Context.invalidate Scheduler.invalidate
    rw [if_neg hahead]
    exact ⟨by rintro _ ⟨⟩, hnoRetry.2⟩
  · unfold Context.invalidate Scheduler.invalidate
    rw [if_neg hahead]

theorem does_unlockRuntime {P : Context → Prop} (hP : Steady P)
    (hkept : ∀ ctx, P ctx → ctx.runtimeLock = some .worker → P { ctx with runtimeLock := none }) :
    Does (Locked P) unlockRuntime fun _ => At [] P := by
  refine Thread.Spec.modify (Locked.stable hP) (At.stable hP) fun ctx h => ?_
  have hinv : Context.Inv { ctx with runtimeLock := none } :=
    h.inv.controlled (by rintro _ ⟨⟩) id le_rfl
  refine ⟨⟨fun _ => hinv, id, .rfl, by simp [h.runtimeLock], fun hstop => ⟨hstop, rfl, rfl, rfl⟩,
    rfl, le_rfl⟩, ⟨hinv, by rintro ⟨⟩, fun attemptId hlive => .inl (h.loose attemptId hlive)⟩, ?_⟩
  exact hkept ctx h.knows h.runtimeLock

/-- The health of the installed capture is bound to the new generation. -/
theorem does_rebindHealth (health : Option ℕ) :
    Does (At [] fun ctx => ctx.Entered token generation health ∧ ctx.Told true generation)
      (rebindHealth generation health) fun _ =>
        At [] fun ctx => ctx.Held ∧ Unless (Context.Debt token generation) ctx := by
  have hbefore := (steady_entered token generation health).and (steady_told true generation)
  have hafter := steady_held.and (open_debt token generation).steady
  cases health with
  | none =>
      refine Does.weaken (Q := fun _ ctx => ctx.Held ∧ Unless (Context.Debt token generation) ctx)
        (Does.done hafter fun _ _ h => h) (fun ctx _ hctx => ?_) fun _ _ _ h => h
      obtain ⟨⟨⟨hheld, hgeneration, hnone⟩, hentered⟩, htold⟩ := hctx
      refine ⟨hheld, hentered.mono fun h => ?_⟩
      refine ⟨h.1, ⟨hgeneration, htold.2, fun _ attemptId hsome => ?_⟩, h.2.1⟩
      rw [hnone] at hsome
      cases hsome
  | some attemptId =>
      have hstray : Fact fun ctx => ctx.strays ≠ 0 := by
        constructor
        · intro ctx ctx' h _ _ _ _ _ hstrays _
          rwa [hstrays]
        · intro ctx ctx' hinv hstep h
          rwa [(hstep.healths hinv).2]
        · exact fun ctx ctx' _ _ hstep h hzero => h (hstep.strays_eq_zero hzero)
      refine (Does.look (Q := fun bound ctx =>
        (ctx.Entered token generation (some attemptId) ∧ ctx.Told true generation) ∧
          (bound = none → Unless (fun ctx => ctx.strays ≠ 0) ctx) ∧
          ∀ found, bound = some found → found = attemptId) hbefore
        (fun bound => hbefore.and (hstray.steady.imp.and (Steady.const _)))
        fun ctx hown hctx => ⟨hctx, fun hnone => ?_, fun found hfound => ?_⟩).bind fun bound => ?_
      · refine hctx.1.2.mono fun h hzero => ?_
        obtain ⟨health, sink, hhealth, -, hsink, -⟩ := h.2.2 hzero attemptId hctx.1.1.2.2
        simp [hhealth, PipeWireHealth.attemptId, hsink] at hnone
      · obtain ⟨health, hhealth, hbound⟩ := Option.bind_eq_some_iff.mp hfound
        obtain ⟨sink, hsink, rfl⟩ := Option.map_eq_some_iff.mp hbound
        exact hown.inv.bound attemptId health sink hhealth hsink
      · cases bound with
        | none =>
            refine Does.weaken
              (Q := fun _ ctx => ctx.Held ∧ Unless (Context.Debt token generation) ctx)
              (Does.done hafter fun _ _ h => h) (fun ctx _ hctx => ?_) fun _ _ _ h => h
            obtain ⟨⟨⟨⟨hheld, hgeneration, -⟩, hentered⟩, htold⟩, hstray, -⟩ := hctx
            refine ⟨hheld, (hentered.and (hstray rfl)).mono fun h => ?_⟩
            exact ⟨h.1.1, ⟨hgeneration, htold.2, fun hzero => (h.2 hzero).elim⟩, h.1.2.1⟩
        | some bound =>
            have hsome := hbefore.and ((hstray.steady.imp (p := some bound = none)).and
              (Steady.const (∀ found, some bound = some found → found = attemptId)))
            by_cases hsame : bound = attemptId
            · subst hsame
              refine (does_callHealth true token ⟨generation, bound⟩
                (fun runtime => runtime.lifecycle.generation = generation ∧
                  runtime.captureHealth = some bound) hsome
                (fun _ _ => rfl) (fun ctx h => ⟨h.1.1.1, h.1.2⟩) fun ctx h => ?_).weaken
                (fun _ _ h => h) fun _ _ _ h => ⟨h.1.1, h.2⟩
              obtain ⟨⟨⟨⟨-, hgeneration, hinstalled⟩, hentered⟩, -⟩, -⟩ := h
              refine hentered.mono fun h => ⟨h.1, hgeneration, h.2.1, hinstalled, fun hzero => ?_⟩
              obtain ⟨health, sink, hhealth, hgoing, -, -, hnotified⟩ := h.2.2 hzero _ hinstalled
              exact ⟨health, hhealth, hgoing, fun heq => (hnotified _ heq).ne rfl⟩
            · exact Thread.Spec.absurd fun ctx h => hsame (h.2.2.2 bound rfl)

/-- What an operation knows once it has tried to begin. -/
def AfterBegin : Except CaptureAttemptError BegunOperation → Context → Prop
  | .error _, ctx => Unless Context.Settled ctx
  | .ok operation, ctx => Unless (Context.Debt operation.token operation.generation) ctx

/-- An operation that has begun is in debt, and one that could not has changed nothing. -/
theorem does_beginNewOperationGeneration :
    Does (At [] (Unless Context.Settled)) (beginNewOperationGeneration .worker .command)
      fun begun => At [] (AfterBegin begun) := by
  have hsettled : Steady fun ctx => ctx.Held ∧ Unless Context.Settled ctx :=
    steady_held.and framed_settled.steady
  have hfailed : ∀ error, Does (At [] fun ctx => ctx.Held ∧ Unless Context.Settled ctx)
      (do unlockOperationAuthority; pure (Except.error error))
      fun begun => At [] (AfterBegin begun) := fun error =>
    (does_unlockOperationAuthority floating_settled).bind fun _ =>
      Does.done framed_settled.steady fun _ _ h => h
  refine (does_lockOperationAuthority floating_settled).bind fun _ => ?_
  have hfound := fun stop => (steady_found true stop).and framed_settled.steady
  refine (Does.look hsettled hfound fun ctx _ h => ⟨⟨h.1, rfl⟩, h.2⟩).bind fun stop => ?_
  refine .ite (fun hstop => ?_) fun hstop => ?_
  · exact (hfailed shutdownAttemptError).start fun ctx _ h => ⟨h.1.1, h.2⟩
  · obtain rfl : stop = false := by simpa using hstop
    refine (Does.look (hfound false) (fun _ => hfound false) fun ctx _ h => h).bind fun epoch => ?_
    cases checkedAdd epoch 1 with
    | none => exact (hfailed _).start fun ctx _ h => ⟨h.1.1, h.2⟩
    | some token =>
        refine does_begin.bind fun begun => ?_
        cases begun with
        | error error => exact hfailed error
        | ok begun =>
            obtain ⟨generation, health⟩ := begun
            refine (does_invalidate_locked health).bind fun _ => ?_
            have hlocked : Steady fun ctx =>
                ctx.Entered token generation health ∧ ctx.Told true generation :=
              (steady_entered token generation health).and (steady_told true generation)
            refine Thread.Spec.bind (Q := fun _ => Locked fun ctx =>
              ctx.Entered token generation health ∧ ctx.Told true generation)
              (Thread.Spec.pure (Locked.stable hlocked) fun _ h => h) fun _ => ?_
            refine (does_unlockRuntime hlocked fun ctx h hlock => ?_).bind fun _ => ?_
            · refine ⟨⟨h.1.1, h.1.2.imp (fun hover => ?_) id⟩, h.2⟩
              refine hover.imp (fun hclosing => hclosing.imp id fun hlistener => ?_) id
              rw [hlock] at hlistener
              cases hlistener
            refine (does_rebindHealth health).bind fun _ => ?_
            refine (does_unlockOperationAuthority (open_debt token generation).toFloating).bind
              fun _ => ?_
            exact Does.done (open_debt token generation).steady fun _ _ h => h

end Begin

end Lamb.Daemon
