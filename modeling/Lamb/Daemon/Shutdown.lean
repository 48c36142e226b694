import Lamb.Daemon.Boot

/-!
The shutdown. From the moment the listener has locked the runtime the daemon is about to
stop, so the worker has nothing to lose by what the listener does to the scheduler and to
the lifecycle; and once the daemon is to stop the worker leaves the lifecycle alone.
-/

namespace Lamb.Daemon

open Lamb.Control (DaemonState CaptureState ErrorClass)
open Lamb.Lib

/-- What the listener does from `P` on, and what it knows after it. -/
abbrev Listens {β : Type} (P : Context → Prop) (op : Op β) (Q : β → Context → Prop) : Prop :=
  Thread.Spec ListenerRely ListenerStep P op Q

/-! ### Steps of the listener -/

section Steps

variable {ctx : Context} {stop stopRequested : Bool} {operationEpoch : ℕ}
  {authority runtimeLock : Option Party} {lifecycle : LifecycleState} {scheduler : Scheduler}

/-- Locks and the stop. -/
theorem listenerStep_control
    (hinv : Context.Inv { ctx with stop, stopRequested, authority, runtimeLock })
    (hstarted : ctx.started = true)
    (hauthority : authority = some .worker ↔ ctx.authority = some .worker)
    (hlock : runtimeLock = some .worker ↔ ctx.runtimeLock = some .worker)
    (hstop : ctx.stop = true → stop = true)
    (hclosing : ctx.Closing → stop = true ∨ runtimeLock = some .listener)
    (hheld : ctx.authority = some .worker → stop = ctx.stop) :
    ListenerStep ctx { ctx with stop, stopRequested, authority, runtimeLock } where
  inv _ := hinv
  started := ⟨hstarted, hstarted⟩
  authority := hauthority
  runtimeLock := hlock
  stop := hstop
  closing := hclosing
  held h := ⟨hheld h, rfl, rfl, rfl⟩
  going _ := ⟨rfl, rfl, rfl⟩
  stopping := id
  capture := rfl
  captureHealth := rfl
  generation := le_rfl
  captures := rfl
  healths := rfl
  nextAttempt := rfl
  strays := rfl
  queue := ⟨[], by simp⟩

/-- Under the authority, and on the way to a stop, the listener may change the lifecycle and
the scheduler. -/
theorem listenerStep_closing
    (hinv : Context.Inv { ctx with
      operationEpoch, runtimeLock, scheduler, runtime := { ctx.runtime with lifecycle } })
    (hstarted : ctx.started = true) (hheld : ctx.authority = some .listener)
    (hlock : runtimeLock = some .worker ↔ ctx.runtimeLock = some .worker)
    (hclosing : ctx.stop = true ∨ runtimeLock = some .listener)
    (hstopping : ctx.runtime.lifecycle.daemonState = .stopping →
      lifecycle.daemonState = .stopping)
    (hraised : ctx.runtime.lifecycle.generation ≤ lifecycle.generation) :
    ListenerStep ctx { ctx with
      operationEpoch, runtimeLock, scheduler, runtime := { ctx.runtime with lifecycle } } where
  inv _ := hinv
  started := ⟨hstarted, hstarted⟩
  authority := .rfl
  runtimeLock := hlock
  stop := id
  closing _ := hclosing
  held h := by
    rw [hheld] at h
    cases h
  going h := (h hclosing).elim
  stopping := hstopping
  capture := rfl
  captureHealth := rfl
  generation := hraised
  captures := rfl
  healths := rfl
  nextAttempt := rfl
  strays := rfl
  queue := ⟨[], by simp⟩

theorem ListenerStep.refl (hstarted : ctx.started = true) : ListenerStep ctx ctx where
  inv := id
  started := ⟨hstarted, hstarted⟩
  authority := .rfl
  runtimeLock := .rfl
  stop := id
  closing := id
  held _ := ⟨rfl, rfl, rfl, rfl⟩
  going _ := ⟨rfl, rfl, rfl⟩
  stopping := id
  capture := rfl
  captureHealth := rfl
  generation := le_rfl
  captures := rfl
  healths := rfl
  nextAttempt := rfl
  strays := rfl
  queue := ⟨[], by simp⟩

end Steps

/-! ### What the listener knows -/

/-- What others may do to the stop and to the lifecycle while the listener listens. -/
structure Context.Spares (ctx ctx' : Context) : Prop where
  started : ctx.started = true → ctx'.started = true
  authority : ctx'.authority = some .listener ↔ ctx.authority = some .listener
  runtimeLock : ctx'.runtimeLock = some .listener ↔ ctx.runtimeLock = some .listener
  stop : ctx.stop = true → ctx'.stop = true ∧ ctx'.runtime.lifecycle = ctx.runtime.lifecycle
  stopRequested : ctx'.stopRequested = ctx.stopRequested
  generation : ctx.runtime.lifecycle.generation ≤ ctx'.runtime.lifecycle.generation

theorem Context.Same.spares {ctx ctx' : Context} (h : ctx.Same ctx') : ctx.Spares ctx' where
  started hstarted := h.started.trans hstarted
  authority := by rw [h.authority]
  runtimeLock := by rw [h.runtimeLock]
  stop hstop := ⟨h.stop.trans hstop, by rw [h.runtime]⟩
  stopRequested := h.stopRequested
  generation := by rw [h.runtime]

section Rely

variable {ctx ctx' : Context}

theorem ListenerRely.inv (hstep : ListenerRely ctx ctx') (h : ctx.Inv) : ctx'.Inv := by
  rcases hstep with hworker | hscheduler | hcapture
  · exact hworker.inv h
  · exact hscheduler.inv h
  · exact hcapture.inv h

theorem ListenerRely.spares (hstep : ListenerRely ctx ctx') (h : ctx.Inv) : ctx.Spares ctx' := by
  rcases hstep with hworker | hscheduler | hcapture
  · exact ⟨hworker.started, hworker.authority, hworker.runtimeLock,
      fun hstop => ⟨(hworker.stop hstop).1, (hworker.stop hstop).2.1⟩, hworker.stopRequested,
      hworker.generation⟩
  · exact (hscheduler.same h).spares
  · exact hcapture.same.spares

end Rely

/-- A fact of the stop and the lifecycle that survives what others do to them. -/
def Spared (P : Bool → LifecycleState → Prop) : Prop :=
  ∀ (stop stop' : Bool) (lifecycle lifecycle' : LifecycleState),
    (stop = true → stop' = true ∧ lifecycle' = lifecycle) →
    lifecycle.generation ≤ lifecycle'.generation → P stop lifecycle → P stop' lifecycle'

/-- Nothing is known. -/
def anything : Bool → LifecycleState → Prop :=
  fun _ _ => True

def told : Bool → LifecycleState → Prop :=
  fun stop _ => stop = true

def stopping : Bool → LifecycleState → Prop :=
  fun stop lifecycle => stop = true ∧ lifecycle.daemonState = .stopping

def raisedTo (generation : ℕ) : Bool → LifecycleState → Prop :=
  fun _ lifecycle => generation ≤ lifecycle.generation

theorem spared_anything : Spared anything :=
  fun _ _ _ _ _ _ _ => trivial

theorem spared_told : Spared told :=
  fun _ _ _ _ hstop _ h => (hstop h).1

theorem spared_stopping : Spared stopping := by
  intro stop stop' lifecycle lifecycle' hstop _ h
  obtain ⟨hstop', rfl⟩ := hstop h.1
  exact ⟨hstop', h.2⟩

theorem spared_raisedTo (generation : ℕ) : Spared (raisedTo generation) :=
  fun _ _ _ _ _ hraised h => h.trans hraised

/-- The locks the listener holds, and what it knows. -/
structure Listening (held locked : Bool) (P : Bool → LifecycleState → Prop) (ctx : Context) :
    Prop where
  inv : ctx.Inv
  started : ctx.started = true
  authority : ctx.authority = some .listener ↔ held = true
  runtimeLock : ctx.runtimeLock = some .listener ↔ locked = true
  knows : P ctx.stop ctx.runtime.lifecycle

theorem Listening.stable {held locked : Bool} {P : Bool → LifecycleState → Prop} (hP : Spared P) :
    Thread.Stable ListenerRely (Listening held locked P) := by
  intro ctx ctx' h hstep
  have hspares := hstep.spares h.inv
  exact ⟨hstep.inv h.inv, hspares.started h.started, hspares.authority.trans h.authority,
    hspares.runtimeLock.trans h.runtimeLock,
    hP _ _ _ _ hspares.stop hspares.generation h.knows⟩

theorem Listening.mono {held locked : Bool} {P P' : Bool → LifecycleState → Prop} {ctx : Context}
    (h : Listening held locked P ctx) (hP : P' ctx.stop ctx.runtime.lifecycle) :
    Listening held locked P' ctx :=
  ⟨h.inv, h.started, h.authority, h.runtimeLock, hP⟩

/-! ### One step at a time -/

section Listens

variable {β : Type} {held held' locked locked' : Bool} {P P' : Bool → LifecycleState → Prop}

theorem Listens.done {b : β} {Q : β → Context → Prop} (hP : Spared P)
    (h : ∀ ctx, Listening held locked P ctx → Q b ctx) :
    Listens (Listening held locked P) (pure b) Q :=
  Thread.Spec.pure (Listening.stable hP) h

theorem Listens.look {f : Context → β} (hP : Spared P) :
    Listens (Listening held locked P) (Thread.read f) fun _ => Listening held locked P :=
  Thread.Spec.read (Listening.stable hP) (fun _ => Listening.stable hP)
    fun _ h => ⟨.refl h.started, h⟩

theorem Listens.change {f : Context → Context} (hP : Spared P) (hP' : Spared P')
    (h : ∀ ctx, Listening held locked P ctx →
      ListenerStep ctx (f ctx) ∧ Listening held' locked' P' (f ctx)) :
    Listens (Listening held locked P) (Thread.modify f) fun _ => Listening held' locked' P' :=
  Thread.Spec.modify (Listening.stable hP) (Listening.stable hP') h

theorem Listens.await {ready : Context → Bool} {f : Context → Context} (hP : Spared P)
    (hP' : Spared P') (h : ∀ ctx, Listening held locked P ctx → ready ctx = true →
      ListenerStep ctx (f ctx) ∧ Listening held' locked' P' (f ctx)) :
    Listens (Listening held locked P) (Thread.await ready f) fun _ => Listening held' locked' P' :=
  Thread.Spec.await (Listening.stable hP) (Listening.stable hP') h

theorem listens_lockOperationAuthority (hP : Spared P) :
    Listens (Listening false false P) (lockOperationAuthority .listener)
      fun _ => Listening true false P := by
  refine Listens.await hP hP fun ctx h hready => ?_
  have hfree : ctx.authority = none := Option.isNone_iff_eq_none.mp hready
  have hinv : Context.Inv { ctx with authority := some .listener } :=
    h.inv.controlled (fun party hlock => by
      have hauthority := h.inv.runtimeLock party hlock
      rw [hfree] at hauthority
      cases hauthority) id le_rfl
  refine ⟨listenerStep_control hinv h.started (by simp [hfree]) .rfl id id fun hworker => rfl,
    hinv, h.started, by simp, h.runtimeLock, h.knows⟩

theorem listens_unlockOperationAuthority (hP : Spared P) :
    Listens (Listening true false P) unlockOperationAuthority fun _ => Listening false false P := by
  refine Listens.change hP hP fun ctx h => ?_
  have hheld : ctx.authority = some .listener := h.authority.mpr rfl
  have hfree : ctx.runtimeLock = none := by
    cases hlock : ctx.runtimeLock with
    | none => rfl
    | some party =>
        have hparty := h.inv.runtimeLock party hlock
        rw [hheld] at hparty
        cases hparty
        cases h.runtimeLock.mp hlock
  have hinv : Context.Inv { ctx with authority := none } :=
    h.inv.controlled (fun party hlock => by
      rw [hfree] at hlock
      cases hlock) id le_rfl
  refine ⟨listenerStep_control hinv h.started (by simp [hheld]) .rfl id id fun _ => rfl,
    hinv, h.started, by simp, h.runtimeLock, h.knows⟩

theorem listens_setStop (hP : Spared P) (hP' : Spared P')
    (hstop : ∀ stop lifecycle, P stop lifecycle → P' true lifecycle) :
    Listens (Listening true locked P) setStop fun _ => Listening true locked P' := by
  refine Listens.change hP hP' fun ctx h => ?_
  have hheld : ctx.authority = some .listener := h.authority.mpr rfl
  have hinv : Context.Inv { ctx with stop := true } :=
    h.inv.controlled h.inv.runtimeLock (fun _ => rfl) le_rfl
  refine ⟨listenerStep_control hinv h.started .rfl .rfl (fun _ => rfl) (fun _ => .inl rfl) ?_,
    hinv, h.started, h.authority, h.runtimeLock, hstop _ _ h.knows⟩
  rw [hheld]
  rintro ⟨⟩

/-- The scheduler stops when the daemon does. -/
theorem Context.Inv.stopScheduler {ctx : Context} (h : ctx.Inv) (hstop : ctx.stop = true) :
    ctx.stopScheduler.Inv :=
  h.rescheduled (fun _ => hstop) h.ahead le_rfl (by rintro _ ⟨⟩) h.queued

theorem listens_stopScheduler (hP : Spared P)
    (hstop : ∀ stop lifecycle, P stop lifecycle → stop = true) :
    Listens (Listening true locked P) (Thread.modify Context.stopScheduler)
      fun _ => Listening true locked P := by
  refine Listens.change hP hP fun ctx h => ?_
  have hinv := h.inv.stopScheduler (hstop _ _ h.knows)
  exact ⟨listenerStep_closing hinv h.started (h.authority.mpr rfl) .rfl
    (.inl (hstop _ _ h.knows)) id le_rfl, hinv, h.started, h.authority, h.runtimeLock, h.knows⟩

/-- A lifecycle that stops says so. -/
theorem listenerStep_markStopping {ctx : Context} (h : Listening true locked told ctx) :
    ListenerStep ctx (ctx.setLifecycle ctx.runtime.lifecycle.markStopping) ∧
      Listening true locked stopping (ctx.setLifecycle ctx.runtime.lifecycle.markStopping) := by
  have hinv : (ctx.setLifecycle ctx.runtime.lifecycle.markStopping).Inv := by
    refine h.inv.setRuntime (fun _ => h.knows) le_rfl ⟨h.inv.owned.session, h.inv.owned.health,
      fun hrunning => (hrunning rfl).elim, ?_⟩ h.inv.installed
    intro hretry
    exact (hretry rfl).elim
  exact ⟨listenerStep_closing hinv h.started (h.authority.mpr rfl) .rfl (.inl h.knows)
    (fun _ => rfl) le_rfl, hinv, h.started, h.authority, h.runtimeLock, h.knows, rfl⟩

theorem listens_unlockRuntime (hP : Spared P)
    (hstop : ∀ stop lifecycle, P stop lifecycle → stop = true) :
    Listens (Listening true true P) unlockRuntime fun _ => Listening true false P := by
  refine Listens.change hP hP fun ctx h => ?_
  have hinv : Context.Inv { ctx with runtimeLock := none } :=
    h.inv.controlled (by rintro _ ⟨⟩) id le_rfl
  refine ⟨listenerStep_control hinv h.started .rfl ?_ id
    (fun _ => .inl (hstop _ _ h.knows)) fun _ => rfl, hinv, h.started, h.authority, by simp,
    h.knows⟩
  simp [h.runtimeLock.mpr rfl]

/-! ### The shutdown -/

/-- What is known once the listener has tried to take the next generation. -/
def AfterDirectEntry : Except CaptureAttemptError (ℕ × Option ℕ) → Context → Prop
  | .error _, ctx => Listening true false anything ctx
  | .ok (generation, health), ctx =>
      Listening true true (raisedTo generation) ctx ∧ health = none

theorem listens_begin (token : ℕ) :
    Listens (Listening true false anything)
      (Thread.atomic runtimeFree fun ctx => ctx.begin .listener .directStop token)
      AfterDirectEntry := by
  refine Thread.Spec.atomic (Listening.stable spared_anything) ?_ fun ctx h hready => ?_
  · intro begun
    cases begun with
    | error error => exact Listening.stable spared_anything
    | ok begun =>
        exact (Listening.stable (spared_raisedTo begun.1)).and fun _ _ h _ => h
  · have hfree : ctx.runtimeLock = none := Option.isNone_iff_eq_none.mp hready
    have hheld : ctx.authority = some .listener := h.authority.mpr rfl
    unfold Context.begin
    cases hbegin : ctx.runtime.lifecycle.beginOperation with
    | error error => exact ⟨.refl h.started, h⟩
    | ok begun =>
        obtain ⟨generation, lifecycle⟩ := begun
        obtain ⟨hrunning, -, rfl, rfl⟩ := LifecycleState.beginOperation_eq_ok.mp hbegin
        have hraised : (ctx.setLifecycle { ctx.runtime.lifecycle with
            generation := ctx.runtime.lifecycle.generation + 1 }).Inv :=
          h.inv.setRuntime (fun hstopping => (hrunning hstopping).elim) (Nat.le_succ _)
            ⟨h.inv.owned.session, h.inv.owned.health, h.inv.owned.running,
              h.inv.owned.retry⟩ h.inv.installed
        have hinv : Context.Inv
            { ctx.setLifecycle { ctx.runtime.lifecycle with
                generation := ctx.runtime.lifecycle.generation + 1 } with
              operationEpoch := token
              runtimeLock := some .listener } :=
          hraised.controlled (by rintro _ ⟨⟩; exact hheld) id le_rfl
        refine ⟨listenerStep_closing hinv h.started hheld (by simp [hfree]) (.inr rfl) id
          (Nat.le_succ _), ⟨hinv, h.started, h.authority, by simp, le_rfl⟩, rfl⟩

theorem listens_invalidate (generation : ℕ) :
    Listens (Listening true true (raisedTo generation))
      (Thread.modify fun ctx => ctx.invalidate generation)
      fun _ => Listening true true anything := by
  refine Listens.change (spared_raisedTo generation) spared_anything fun ctx h => ?_
  have hinv := h.inv.invalidate h.knows
  exact ⟨listenerStep_closing hinv h.started (h.authority.mpr rfl) .rfl
    (.inr (h.runtimeLock.mpr rfl)) id le_rfl, hinv, h.started, h.authority, h.runtimeLock, trivial⟩

theorem listens_stopDirectly :
    Listens (Listening true true anything) (stopDirectly .directStop)
      fun _ => Listening true true stopping :=
  (listens_setStop spared_anything spared_told fun _ _ _ => rfl).bind fun _ =>
    (Listens.change spared_told spared_stopping fun _ h => listenerStep_markStopping h).bind
      fun _ => listens_stopScheduler spared_stopping fun _ _ h => h.1

/-- The daemon is stopping, unless it was to stop already or no epoch or generation is left. -/
def AfterDirectStop : Except CaptureAttemptError BegunOperation → Context → Prop
  | .error _, ctx => Listening false false anything ctx
  | .ok _, ctx => Listening false false stopping ctx

theorem listens_beginNewOperationGeneration :
    Listens (Listening false false anything) (beginNewOperationGeneration .listener .directStop)
      AfterDirectStop := by
  have hfail : ∀ error : CaptureAttemptError, Listens (Listening true false anything)
      (do unlockOperationAuthority; pure (Except.error error)) AfterDirectStop := fun error =>
    (listens_unlockOperationAuthority spared_anything).bind fun _ =>
      Listens.done spared_anything fun _ h => h
  refine (listens_lockOperationAuthority spared_anything).bind fun _ => ?_
  refine (Listens.look spared_anything).bind fun stop => ?_
  refine .ite (fun _ => hfail _) fun _ => ?_
  refine (Listens.look spared_anything).bind fun epoch => ?_
  cases checkedAdd epoch 1 with
  | none => exact hfail _
  | some token =>
      refine (listens_begin token).bind fun begun => ?_
      cases begun with
      | error error => exact hfail error
      | ok begun =>
          obtain ⟨generation, health⟩ := begun
          cases health with
          | some attemptId => exact Thread.Spec.absurd fun ctx h => by cases h.2
          | none =>
              refine ((listens_invalidate generation).pre fun _ h => h.1).bind fun _ => ?_
              refine listens_stopDirectly.bind fun _ => ?_
              refine (listens_unlockRuntime spared_stopping fun _ _ h => h.1).bind fun _ => ?_
              have hquiet : Listens (Listening true false stopping) (rebindHealth generation none)
                  fun _ => Listening true false stopping :=
                Listens.done spared_stopping fun _ h => h
              refine hquiet.bind fun _ => ?_
              exact (listens_unlockOperationAuthority spared_stopping).bind fun _ =>
                Listens.done spared_stopping fun _ h => h

/-- Whatever the worker is about to do, the daemon is stopping once the shutdown returns. -/
theorem listens_beginShutdown :
    Listens (Listening false false anything) beginShutdown
      fun _ => Listening false false stopping := by
  refine listens_beginNewOperationGeneration.bind fun begun => ?_
  cases begun with
  | ok operation => exact Listens.done spared_stopping fun _ h => h
  | error error =>
      refine (listens_lockOperationAuthority spared_anything).bind fun _ => ?_
      refine (listens_setStop spared_anything spared_told fun _ _ _ => rfl).bind fun _ => ?_
      refine (listens_stopScheduler spared_told fun _ _ h => h).bind fun _ => ?_
      refine (Listens.await spared_told spared_stopping fun _ h _ =>
        listenerStep_markStopping h).bind fun _ => ?_
      exact listens_unlockOperationAuthority spared_stopping

end Listens

/-! ### Between two requests -/

/-- What the listener leaves behind whenever it has nothing to do. -/
structure Context.Listened (ctx : Context) : Prop where
  inv : ctx.Inv
  authority : ctx.authority ≠ some .listener
  runtimeLock : ctx.runtimeLock ≠ some .listener
  stopped : ctx.stopRequested = true → ctx.stop = true ∧
    ctx.runtime.lifecycle.daemonState = .stopping

theorem stable_listened : Thread.Stable ListenerRely Context.Listened := by
  intro ctx ctx' h hstep
  have hspares := hstep.spares h.inv
  refine ⟨hstep.inv h.inv, fun hheld => h.authority (hspares.authority.mp hheld),
    fun hlock => h.runtimeLock (hspares.runtimeLock.mp hlock), fun hrequested => ?_⟩
  obtain ⟨hstop, hstopping⟩ := h.stopped (hspares.stopRequested.symm.trans hrequested)
  obtain ⟨hstop', hlifecycle⟩ := hspares.stop hstop
  exact ⟨hstop', by rw [hlifecycle]; exact hstopping⟩

theorem Listening.listened {ctx : Context} (h : Listening false false stopping ctx) :
    ctx.Listened :=
  ⟨h.inv, by simp [h.authority], by simp [h.runtimeLock], fun _ => h.knows⟩

/-- A client's request comes to the end of the lane. -/
theorem Context.Inv.enqueue {ctx : Context} (h : ctx.Inv) (request : Request) :
    (ctx.enqueue (.client request)).Inv :=
  h.requeued fun operation hmem => h.queued operation (by simpa using hmem)

theorem listenerStep_enqueue {ctx : Context} (hstarted : ctx.started = true) (request : Request) :
    ListenerStep ctx (ctx.enqueue (.client request)) where
  inv h := h.enqueue request
  started := ⟨hstarted, hstarted⟩
  authority := .rfl
  runtimeLock := .rfl
  stop := id
  closing := id
  held _ := ⟨rfl, rfl, rfl, rfl⟩
  going _ := ⟨rfl, rfl, rfl⟩
  stopping := id
  capture := rfl
  captureHealth := rfl
  generation := le_rfl
  captures := rfl
  healths := rfl
  nextAttempt := rfl
  strays := rfl
  queue := ⟨[request], rfl⟩

end Lamb.Daemon
