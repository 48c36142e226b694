import Lamb.Daemon.Begin

/-!
The ends of an operation that is in debt: a failure is published and announced to the
scheduler, or a candidate is installed and armed. Both settle what is owed.
-/

namespace Lamb.Daemon

open Lamb.Control (DaemonState CaptureState ErrorClass)
open Lamb.Lib

/-! ### The generation of a publication -/

section Publication

variable {ctx : Context} {operationGeneration : Option ℕ} {token generation : ℕ}

/-- Where an operation that is still the current one may publish: at its own generation, or
at the next one if it has none. -/
structure Context.Publishes (operationGeneration : Option ℕ) (generation : ℕ)
    (published : ℕ) (ctx : Context) : Prop where
  raised : ctx.runtime.lifecycle.generation ≤ published
  noRetry : Unless (Context.NoRetry published) ctx
  sink : ∀ sink, ctx.SinkFor operationGeneration generation sink → sink.generation = published
  going : operationGeneration = none → ¬ctx.Over

/-- Under the authority a publication fails only if no generation is left. -/
theorem publicationGeneration_cases (hinv : ctx.Inv) (hheld : ctx.Held)
    (hstop : ctx.stop = false) (hdebt : Unless (Context.Debt token generation) ctx)
    (hgiven : ∀ given, operationGeneration = some given → given = generation) :
    publicationGeneration ctx.runtime.lifecycle operationGeneration = none ∧ ctx.Over ∨
      ∃ published, ctx.Publishes operationGeneration generation published ∧
        publicationGeneration ctx.runtime.lifecycle operationGeneration =
          some (published, { ctx.runtime.lifecycle with generation := published }) := by
  have hgoing := hinv.not_closing hheld hstop
  cases operationGeneration with
  | some given =>
      obtain rfl := hgiven given rfl
      unfold publicationGeneration
      by_cases hsame : ctx.runtime.lifecycle.generation = given
      · refine .inr ⟨given, ⟨hsame.le, hdebt.mono fun h => h.2.2, fun sink hsink =>
          hsink.1 given rfl, by rintro ⟨⟩⟩, ?_⟩
        simp only [if_pos hsame]
        rw [← hsame]
      · refine .inl ⟨if_neg hsame, ?_⟩
        rcases hdebt with hover | hdebt
        · exact hover
        · exact (hsame hdebt.2.1.1).elim
  | none =>
      unfold publicationGeneration
      cases hbegin : ctx.runtime.lifecycle.beginOperation with
      | error error =>
          refine .inl ⟨rfl, .inr ?_⟩
          by_contra hroom
          have hrunning : ctx.runtime.lifecycle.daemonState ≠ .stopping := fun hstopping => by
            rw [hinv.stopping hstopping] at hstop
            cases hstop
          rw [LifecycleState.beginOperation_of_lt hrunning (Nat.lt_of_not_le hroom)] at hbegin
          cases hbegin
      | ok begun =>
          obtain ⟨published, lifecycle⟩ := begun
          obtain ⟨-, hroom, rfl, rfl⟩ := LifecycleState.beginOperation_eq_ok.mp hbegin
          have hover : ¬ctx.Over := by
            rintro (hclosing | hspent)
            · exact hgoing hclosing
            · omega
          have hdebt := hdebt.resolve_left hover
          refine .inr ⟨_, ⟨Nat.le_succ _, .inr (hinv.noRetry (Nat.lt_succ_of_le hinv.ahead)),
            fun sink hsink => ?_, fun _ => hover⟩, rfl⟩
          rw [hsink.2.2.resolve_left hover, hdebt.2.1.1]
          rfl

end Publication

/-! ### Changes of the runtime -/

section Runtime

variable {ctx : Context} {runtime : AppRuntimeState}

theorem workerStep_setRuntime (hinv : (ctx.setRuntime runtime).Inv) (hstop : ctx.stop = false)
    (hraised : ctx.runtime.lifecycle.generation ≤ runtime.lifecycle.generation) :
    WorkerStep ctx (ctx.setRuntime runtime) where
  inv _ := hinv
  started := id
  authority := .rfl
  runtimeLock := .rfl
  stop hstopped := by
    rw [hstop] at hstopped
    cases hstopped
  stopRequested := rfl
  generation := hraised

theorem Context.over_setRuntime (hraised : ctx.runtime.lifecycle.generation ≤
    runtime.lifecycle.generation) (h : ctx.Over) : (ctx.setRuntime runtime).Over :=
  h.imp id fun hspent => hspent.trans hraised

/-- Without a capture there is no health to listen to. -/
theorem Context.Inv.captureHealth_eq_none (hinv : ctx.Inv) (hvacant : ctx.runtime.capture = none) :
    ctx.runtime.captureHealth = none := by
  rw [hinv.owned.health, hvacant]
  rfl

theorem AppRuntimeState.Owned.session_eq_none (h : runtime.Owned)
    (hvacant : runtime.capture = none) :
    runtime.session = none := by
  rw [h.session, hvacant]
  rfl

theorem AppRuntimeState.Owned.captureHealth_eq_none (h : runtime.Owned)
    (hvacant : runtime.capture = none) : runtime.captureHealth = none := by
  rw [h.health, hvacant]
  rfl

/-- A runtime without a capture that does not say it runs. -/
theorem AppRuntimeState.Owned.of_vacant (hcapture : runtime.capture = none)
    (hsession : runtime.session = none) (hhealth : runtime.captureHealth = none)
    (hstate : runtime.lifecycle.captureState ≠ .running) : runtime.Owned where
  session := by rw [hsession, hcapture]; rfl
  health := by rw [hhealth, hcapture]; rfl
  running _ := ⟨fun h => (h hcapture).elim, fun h => (hstate h).elim⟩
  retry _ := hcapture

end Runtime

/-! ### Announcing a failure -/

/-- A failure was published that the scheduler has not heard of yet. -/
def Context.Announceable (held : Bool) (generation : ℕ) (due : Option ℕ)
    (R : AppRuntimeState → Prop) (ctx : Context) : Prop :=
  ctx.Fixed held (fun runtime => (runtime.capture = none ∧
      runtime.lifecycle.generation = generation ∧ runtime.lifecycle.nextRetryAt = due) ∧
      R runtime) ∧
    Unless (Context.NoRetry generation) ctx

theorem steady_announceable (held : Bool) (generation : ℕ) (due : Option ℕ)
    (R : AppRuntimeState → Prop) : Steady (Context.Announceable held generation due R) :=
  (steady_fixed held _).and (fact_noRetry generation).steady

section Announce

variable {ctx : Context} {held : Bool} {generation : ℕ} {R : AppRuntimeState → Prop}

/-- No capture lives if the runtime has none and the worker holds none. -/
theorem Own.no_live (hown : Own [] ctx) (hvacant : ctx.runtime.capture = none) (attemptId : ℕ) :
    ctx.live attemptId = false := by
  cases hlive : ctx.live attemptId with
  | false => rfl
  | true =>
      rcases hown.loose attemptId hlive with ⟨backend, hcapture, -⟩ | hmem
      · rw [hvacant] at hcapture
        cases hcapture
      · cases hmem

/-- A retry that the scheduler takes is the one the lifecycle has set the time for. -/
theorem does_scheduleRetry (due : ℕ) :
    Does (At [] (Context.Announceable held generation (some due) R))
      (Thread.modify fun ctx => ctx.scheduleRetry generation due) fun _ =>
        At [] fun ctx => ctx.Fixed held R ∧ Unless Context.Settled ctx := by
  refine Does.change (steady_announceable held generation (some due) R)
    ((steady_fixed held R).and framed_settled.steady) fun ctx hown hctx => ?_
  obtain ⟨⟨halone, ⟨hvacant, hgeneration, hnext⟩, hR⟩, hnoRetry⟩ := hctx
  have hquiet : Quiet ctx (ctx.scheduleRetry generation due) :=
    ⟨fun hinv => hinv.scheduleRetry hgeneration.ge, rfl, rfl, rfl, rfl, rfl, rfl⟩
  refine ⟨hquiet.workerStep, hquiet.own_same hown rfl, hquiet.fixed ⟨halone, hR⟩, ?_⟩
  rcases hnoRetry with hover | hnoRetry
  · exact .inl hover
  · cases hstopped : ctx.scheduler.state.stopped with
    | true => exact .inl (.inl (.inl (hown.inv.stopped hstopped)))
    | false =>
        have haccepts : ctx.scheduler.accepts generation = true :=
          accepts_eq_true.mpr ⟨hstopped, hown.inv.ahead.trans hgeneration.le⟩
        refine .inr ⟨⟨rfl, ?_, fun _ attemptId hinstalled => ?_⟩, ?_⟩
        · simp only [Context.scheduleRetry, Scheduler.scheduleRetry, Scheduler.put, haccepts,
            ↓reduceIte]
          exact hgeneration.symm
        · rw [show (ctx.scheduleRetry generation due).runtime = ctx.runtime from rfl,
            hown.inv.captureHealth_eq_none hvacant] at hinstalled
          cases hinstalled
        · simp only [Context.Paired, Context.scheduleRetry, Scheduler.scheduleRetry,
            Scheduler.put, haccepts, ↓reduceIte, hnext, hgeneration]
          exact ⟨hown.no_live hvacant, .inl ⟨trivial, hnoRetry.2⟩⟩

/-- Without a time for a retry the scheduler forgets what it had. -/
theorem does_invalidate_failed :
    Does (At [] (Context.Announceable held generation none R))
      (Thread.modify fun ctx => ctx.invalidate generation) fun _ =>
        At [] fun ctx => ctx.Fixed held R ∧ Unless Context.Settled ctx := by
  refine Does.change (steady_announceable held generation none R)
    ((steady_fixed held R).and framed_settled.steady) fun ctx hown hctx => ?_
  obtain ⟨⟨halone, ⟨hvacant, hgeneration, hnext⟩, hR⟩, hnoRetry⟩ := hctx
  have hquiet : Quiet ctx (ctx.invalidate generation) :=
    ⟨fun hinv => hinv.invalidate hgeneration.ge, rfl, rfl, rfl, rfl, rfl, rfl⟩
  have hahead : ¬generation < ctx.scheduler.state.generation :=
    Nat.not_lt.mpr (hown.inv.ahead.trans hgeneration.le)
  refine ⟨hquiet.workerStep, hquiet.own_same hown rfl, hquiet.fixed ⟨halone, hR⟩,
    hnoRetry.imp id fun hnoRetry => ?_⟩
  refine ⟨⟨rfl, ?_, fun _ attemptId hinstalled => ?_⟩, ?_⟩
  · simp only [Context.invalidate, Scheduler.invalidate, if_neg hahead]
    exact hgeneration.symm
  · rw [show (ctx.invalidate generation).runtime = ctx.runtime from rfl,
      hown.inv.captureHealth_eq_none hvacant] at hinstalled
    cases hinstalled
  · simp only [Context.Paired, Context.invalidate, Scheduler.invalidate, if_neg hahead, hnext,
      hgeneration]
    exact ⟨by rintro _ ⟨⟩, hnoRetry.2⟩

theorem does_announce (due : Option ℕ) :
    Does (At [] (Context.Announceable held generation due R)) (announce generation due) fun _ =>
      At [] fun ctx => ctx.Fixed held R ∧ Unless Context.Settled ctx := by
  cases due with
  | none => exact does_invalidate_failed
  | some due => exact does_scheduleRetry due

end Announce

/-! ### Failing -/

section Failing

variable {ctx : Context} {operationGeneration : Option ℕ} {token generation : ℕ}
  {error : CaptureAttemptError}

/-- A runtime that has failed has no capture, and does not say it runs. -/
theorem AppRuntimeState.Owned.failed {runtime : AppRuntimeState} (h : runtime.Owned)
    (hvacant : runtime.capture = none) (lifecycle : LifecycleState) (now : ℕ) :
    (runtime.failed lifecycle error now).Owned := by
  refine .of_vacant hvacant (h.session_eq_none hvacant) (h.captureHealth_eq_none hvacant) ?_
  unfold AppRuntimeState.failed
  split_ifs
  · exact error.notRunning
  · exact faulted_ne_running

theorem AppRuntimeState.failed_generation (runtime : AppRuntimeState) (lifecycle : LifecycleState)
    (error : CaptureAttemptError) (now : ℕ) :
    (runtime.failed lifecycle error now).lifecycle.generation = lifecycle.generation := by
  unfold AppRuntimeState.failed
  split_ifs <;> rfl

theorem AppRuntimeState.failed_daemonState (runtime : AppRuntimeState) (lifecycle : LifecycleState)
    (error : CaptureAttemptError) (now : ℕ) :
    (runtime.failed lifecycle error now).lifecycle.daemonState = .degraded := by
  unfold AppRuntimeState.failed
  split_ifs <;> rfl

/-- No capture is lost by a failure. An operation without a generation of its own needs no
such promise where none is left. -/
def Context.Vacant (operationGeneration : Option ℕ) (ctx : Context) : Prop :=
  (∀ given, operationGeneration = some given → ctx.runtime.capture = none) ∧
    Unless (fun ctx => ctx.runtime.capture = none) ctx

theorem Context.vacant_of_eq_none (operationGeneration : Option ℕ)
    (h : ctx.runtime.capture = none) : ctx.Vacant operationGeneration :=
  ⟨fun _ _ => h, .inr h⟩

theorem floating_vacant (operationGeneration : Option ℕ) :
    Floating (Context.Vacant operationGeneration) where
  steady ctx ctx' hinv hstep h := by
    refine ⟨fun given hgiven => steady_vacant ctx ctx' hinv hstep (h.1 given hgiven), ?_⟩
    exact (Fact.runtime fun _ runtime => runtime.capture = none).steady ctx ctx' hinv hstep h.2
  control _ _ _ h := h

/-- Publishing a failure where there is no capture. -/
theorem workerStep_failed (held : Bool) (hown : Own [] ctx) (halone : ctx.Alone held)
    (hstop : ctx.stop = false) (hvacant : ctx.runtime.capture = none) (lifecycle : LifecycleState)
    (hraised : ctx.runtime.lifecycle.generation ≤ lifecycle.generation)
    (hnoRetry : Unless (Context.NoRetry lifecycle.generation) ctx) (now : ℕ) :
    WorkerStep ctx (ctx.setRuntime (ctx.runtime.failed lifecycle error now)) ∧
      At [] (Context.Announceable held lifecycle.generation
          (ctx.runtime.failed lifecycle error now).lifecycle.nextRetryAt fun _ => True)
        (ctx.setRuntime (ctx.runtime.failed lifecycle error now)) := by
  have hgeneration := ctx.runtime.failed_generation lifecycle error now
  have hinv : (ctx.setRuntime (ctx.runtime.failed lifecycle error now)).Inv := by
    refine hown.inv.setRuntime (fun hstopping => ?_) (by rw [hgeneration]; exact hraised)
      (hown.inv.owned.failed hvacant lifecycle now) hown.inv.installed
    rw [ctx.runtime.failed_daemonState] at hstopping
    cases hstopping
  refine ⟨workerStep_setRuntime hinv hstop (by rw [hgeneration]; exact hraised),
    ⟨hinv, hown.runtimeLock, hown.loose⟩, ?_⟩
  refine ⟨⟨?_, ⟨hvacant, hgeneration, rfl⟩, trivial⟩, hnoRetry.imp (ctx.over_setRuntime ?_) id⟩
  · cases held with
    | true => exact halone
    | false => exact halone
  · rw [hgeneration]
    exact hraised

/-- What is known after an attempt to publish a failure. -/
def AfterFailure : Option (ℕ × Option ℕ) → Context → Prop
  | none, ctx => ctx.Held ∧ Unless Context.Settled ctx
  | some (generation, due), ctx => ctx.Announceable true generation due fun _ => True

theorem steady_afterFailure (published : Option (ℕ × Option ℕ)) :
    Steady (AfterFailure published) := by
  cases published with
  | none => exact steady_held.and framed_settled.steady
  | some published => exact steady_announceable true published.1 published.2 _

theorem does_publishFailure
    (hgiven : ∀ given, operationGeneration = some given → given = generation) (now : ℕ) :
    Does (At [] fun ctx => ctx.Holds token ∧ Unless (Context.Debt token generation) ctx ∧
        ctx.Vacant operationGeneration)
      (Thread.atomic runtimeFree fun ctx => ctx.publishFailure token operationGeneration error now)
      fun published => At [] (AfterFailure published) := by
  refine Does.step ((steady_holds token).and ((open_debt token generation).steady.and
    (floating_vacant operationGeneration).steady)) steady_afterFailure fun ctx hown hctx _ => ?_
  obtain ⟨hholds, hdebt, hvacant⟩ := hctx
  have hcurrent : ctx.isCurrent token = true := by
    simp [Context.isCurrent, hholds.2.1, hholds.2.2]
  unfold Context.publishFailure
  rw [if_pos hcurrent]
  rcases publicationGeneration_cases hown.inv hholds.1 hholds.2.1 hdebt hgiven with
    ⟨hnone, hover⟩ | ⟨published, hpublishes, hsome⟩
  · rw [hnone]
    exact ⟨.refl ctx, hown, hholds.1, .inl hover⟩
  · rw [hsome]
    have hnone : ctx.runtime.capture = none := by
      cases operationGeneration with
      | some given => exact hvacant.1 given rfl
      | none => exact hvacant.2.resolve_left (hpublishes.going rfl)
    exact workerStep_failed true hown hholds.1 hholds.2.1 hnone _ hpublishes.raised
      hpublishes.noRetry now

/-- A capture that runs under the authority needs no retry, and one that does not run is
not there. -/
theorem Context.currentCaptureIsRunning_cases (hinv : ctx.Inv) (hstop : ctx.stop = false) :
    (ctx.currentCaptureIsRunning = true → ctx.runtime.lifecycle.nextRetryAt = none) ∧
      (ctx.currentCaptureIsRunning = false → ctx.runtime.capture = none) := by
  have hrunning : ctx.runtime.lifecycle.daemonState ≠ .stopping := fun hstopping => by
    rw [hinv.stopping hstopping] at hstop
    cases hstop
  unfold Context.currentCaptureIsRunning
  cases hcapture : ctx.runtime.capture with
  | none => exact ⟨by simp, fun _ => rfl⟩
  | some backend =>
      have hsome : ctx.runtime.capture ≠ none := by simp [hcapture]
      have hsession : ctx.runtime.session.isSome = true := by
        rw [hinv.owned.session, hcapture]
        rfl
      refine ⟨fun _ => ?_, fun hnot => ?_⟩
      · by_contra hretry
        exact hsome (hinv.owned.retry hretry)
      · simp [hsession, (hinv.owned.running hrunning).mp hsome] at hnot

/-- What an operation learns when it asks whether the capture runs. -/
theorem does_currentCaptureIsRunning :
    Does (At [] fun ctx => ctx.Holds token ∧ Unless (Context.Debt token generation) ctx)
      (readRuntime Context.currentCaptureIsRunning) fun running =>
        At [] fun ctx => (ctx.Holds token ∧ Unless (Context.Debt token generation) ctx) ∧
          (running = true → Unless Context.Settled ctx) ∧
          (running = false → ctx.runtime.capture = none) := by
  have hbefore := (steady_holds token).and (open_debt token generation).steady
  refine Does.lookRuntime hbefore (fun running => hbefore.and
    (framed_settled.steady.imp.and steady_vacant.imp)) fun ctx hown hctx => ?_
  obtain ⟨hholds, hdebt⟩ := hctx
  obtain ⟨hretry, hvacant⟩ := ctx.currentCaptureIsRunning_cases hown.inv hholds.2.1
  exact ⟨⟨hholds, hdebt⟩, fun hrunning => hdebt.mono fun h => h.settled (hretry hrunning), hvacant⟩

theorem does_preservedRunning (operationGeneration : Option ℕ) (preserveRunning : Bool) :
    Does (At [] fun ctx => ctx.Holds token ∧ Unless (Context.Debt token generation) ctx ∧
        (preserveRunning = false → ctx.Vacant operationGeneration))
      (preservedRunning preserveRunning) fun running =>
        At [] fun ctx => (ctx.Holds token ∧ Unless (Context.Debt token generation) ctx) ∧
          (running = true → Unless Context.Settled ctx) ∧
          (running = false → ctx.Vacant operationGeneration) := by
  have hbefore : Steady fun ctx => ctx.Holds token ∧ Unless (Context.Debt token generation) ctx ∧
      (preserveRunning = false → ctx.Vacant operationGeneration) :=
    (steady_holds token).and ((open_debt token generation).steady.and
      (floating_vacant operationGeneration).steady.imp)
  unfold preservedRunning
  refine .ite (fun hpreserve => ?_) fun hpreserve => ?_
  · exact does_currentCaptureIsRunning.weaken (fun ctx _ h => ⟨h.1, h.2.1⟩) fun running ctx _ h =>
      ⟨h.1, h.2.1, fun hnot => ctx.vacant_of_eq_none _ (h.2.2 hnot)⟩
  · refine Does.done hbefore fun ctx _ hctx => ⟨⟨hctx.1, hctx.2.1⟩, by simp, fun _ => ?_⟩
    exact hctx.2.2 (by simpa using hpreserve)

/-- An operation that lost the authority to a stop. -/
theorem does_unlock_superseded :
    Does (At [] fun ctx => ctx.Held ∧ Unless Context.Settled ctx)
      (do unlockOperationAuthority; supersededResponse) fun _ => At [] (Unless Context.Settled) :=
  (does_unlockOperationAuthority floating_settled).bind fun _ =>
    does_supersededResponse framed_settled.steady

/-- However an operation fails, nothing is owed in the end. Where it does not preserve a
capture that runs, there must be none. -/
theorem does_commandAttemptFailureWithGeneration (world : World)
    (hgiven : ∀ given, operationGeneration = some given → given = generation)
    (error : CaptureAttemptError) (preserveRunning : Bool) :
    Does (At [] fun ctx => Unless (Context.Debt token generation) ctx ∧
        (preserveRunning = false → ctx.Vacant operationGeneration))
      (commandAttemptFailureWithGeneration world token operationGeneration error preserveRunning)
      fun _ => At [] (Unless Context.Settled) := by
  have hdebt := open_debt token generation
  have hsettled := framed_settled.steady
  have hvacant := (floating_vacant operationGeneration).imp (p := preserveRunning = false)
  refine (does_lockOperationAuthority (hdebt.toFloating.and hvacant)).bind fun _ => ?_
  refine (does_operationIsCurrent_held hvacant.steady).bind fun current => ?_
  refine .ite (fun hcurrent => ?_) fun hcurrent => ?_
  · exact does_unlock_superseded.start fun ctx _ h => ⟨h.1.1, .inl (h.2.1 hcurrent)⟩
  refine .ite (fun _ => ?_) fun _ => ?_
  · -- a fatal error stops the daemon
    have hany : Floating fun _ => True := ⟨fun _ _ _ _ _ => trivial, fun _ _ _ _ => trivial⟩
    refine (Does.start (does_unlockOperationAuthority hany) fun ctx _ h => ⟨h.1.1, trivial⟩).bind
      fun _ => (does_signalFatal error.message).bind fun _ => ?_
    exact (does_fatalFailureResponse steady_over error.message).weaken (fun _ _ h => h)
      fun _ _ _ => .inl
  refine (Does.start (does_preservedRunning operationGeneration preserveRunning) fun ctx _ h =>
    ⟨h.2.2 (by simpa using hcurrent), h.1.2.1, h.1.2.2⟩).bind fun running => ?_
  refine .ite (fun hrunning => ?_) fun hrunning => ?_
  · refine (Does.start (does_commandFailureWithoutStateMutation (steady_held.and hsettled) error)
      fun ctx _ h => ⟨h.1.1.1, h.2.1 hrunning⟩).bind fun _ => ?_
    exact (does_unlockOperationAuthority floating_settled).bind fun _ =>
      Does.done hsettled fun _ _ h => h
  refine (Does.start (does_publishFailure hgiven world.now) fun ctx _ h =>
    ⟨h.1.1, h.1.2, h.2.2 (by simpa using hrunning)⟩).bind fun published => ?_
  cases published with
  | none => exact does_unlock_superseded
  | some published =>
      refine (does_announce published.2).bind fun _ => ?_
      exact (Does.start (does_unlockOperationAuthority floating_settled) fun ctx _ h =>
        ⟨h.1.1, h.2⟩).bind fun _ => does_currentFailureResponse hsettled

end Failing

/-! ### Installing -/

/-- What an installation makes of the runtime: it has the candidate then, at the generation
of the publication, and needs no retry. -/
structure Installs (install : AppRuntimeState → LifecycleState → ℕ → AppRuntimeState)
    (candidate : Option CaptureBackend) : Prop where
  capture : ∀ runtime lifecycle generation,
    (install runtime lifecycle generation).capture = candidate
  owned : ∀ runtime lifecycle generation, (install runtime lifecycle generation).Owned
  running : ∀ runtime lifecycle generation,
    (install runtime lifecycle generation).lifecycle.daemonState ≠ .stopping
  settled : ∀ runtime lifecycle generation,
    (install runtime lifecycle generation).lifecycle.nextRetryAt = none
  generation : ∀ runtime (lifecycle : LifecycleState),
    (install runtime lifecycle lifecycle.generation).lifecycle.generation = lifecycle.generation

/-- The runtime has a capture whose health, if it has one, waits to be armed. -/
def Context.Installed (held : Bool) (generation : ℕ) (sink : RuntimeFaultSink)
    (health : Option ℕ) (R : AppRuntimeState → Prop) (ctx : Context) : Prop :=
  ctx.Fixed held (fun runtime => runtime.captureHealth = health ∧
      runtime.lifecycle.generation = generation ∧ R runtime) ∧
    (∀ attemptId, health = some attemptId →
      sink = ⟨generation, attemptId⟩ ∧ ctx.Awaiting sink)

/-- The runtime needs no retry, and has another capture than the one before. -/
def AppRuntimeState.Replaces (old : Option CaptureBackend) (runtime : AppRuntimeState) : Prop :=
  runtime.lifecycle.nextRetryAt = none ∧ ∀ attemptId ∈ looseOf old, ∀ backend,
    runtime.capture = some backend → backend.attemptId ≠ attemptId

section Installing

variable {ctx : Context} {held : Bool} {loose : List ℕ} {operationGeneration : Option ℕ}
  {token generation : ℕ} {sink : RuntimeFaultSink} {candidate old : Option CaptureBackend}
  {health : Option ℕ} {R : AppRuntimeState → Prop}
  {install : AppRuntimeState → LifecycleState → ℕ → AppRuntimeState}

theorem steady_installed (held : Bool) (generation : ℕ) (sink : RuntimeFaultSink)
    (health : Option ℕ) (R : AppRuntimeState → Prop) :
    Steady (Context.Installed held generation sink health R) :=
  (steady_fixed held _).and fun ctx ctx' hinv hstep h attemptId hhealth =>
    ⟨(h attemptId hhealth).1, steady_awaiting sink ctx ctx' hinv hstep (h attemptId hhealth).2⟩

/-- The epoch, and that no retry of this generation is left. -/
def Context.Quits (token generation : ℕ) (ctx : Context) : Prop :=
  ctx.operationEpoch = token ∧ ctx.NoRetry generation

theorem fact_quits (token generation : ℕ) : Fact (Context.Quits token generation) :=
  (Fact.runtime fun epoch _ => epoch = token).and (fact_noRetry generation)

/-- The scheduler hears of the generation that was published. -/
theorem does_invalidate_installed :
    Does (At loose fun ctx => ctx.Installed held generation sink health R ∧
        Unless (Context.Quits token generation) ctx)
      (Thread.modify fun ctx => ctx.invalidate generation) fun _ =>
        At loose fun ctx => (ctx.Installed held generation sink health R ∧
          Unless (Context.Quits token generation) ctx) ∧ ctx.Told held generation := by
  have hbefore := (steady_installed held generation sink health R).and
    (fact_quits token generation).steady
  refine Does.change hbefore (hbefore.and (steady_told held generation)) fun ctx hown hctx => ?_
  obtain ⟨⟨hfixed, hawaiting⟩, hquits⟩ := hctx
  have hquiet : Quiet ctx (ctx.invalidate generation) :=
    ⟨fun hinv => hinv.invalidate hfixed.2.2.1.ge, rfl, rfl, rfl, rfl, rfl, rfl⟩
  have hahead : ¬generation < ctx.scheduler.state.generation :=
    Nat.not_lt.mpr (hown.inv.ahead.trans hfixed.2.2.1.le)
  refine ⟨hquiet.workerStep, hquiet.own_same hown rfl, ⟨⟨hquiet.fixed hfixed, hawaiting⟩,
    hquits.imp id fun hquits => ⟨hquits.1, ?_⟩⟩, hquiet.alone hfixed.1, ?_⟩
  · simp only [Context.NoRetry, Context.invalidate, Scheduler.invalidate, if_neg hahead]
    exact ⟨by rintro _ ⟨⟩, hquits.2.2⟩
  · simp only [Context.invalidate, Scheduler.invalidate, if_neg hahead]

/-- Once the capture is armed it is listened to. -/
theorem does_armHealth :
    Does (At loose fun ctx => (ctx.Installed held generation sink health R ∧
        Unless (Context.Quits token generation) ctx) ∧ ctx.Told held generation)
      (armHealth health) fun _ =>
        At loose fun ctx => ctx.Fixed held R ∧ Unless (Context.Debt token generation) ctx := by
  have hbefore := ((steady_installed held generation sink health R).and
    (fact_quits token generation).steady).and (steady_told held generation)
  cases health with
  | none =>
      refine Does.done hbefore fun ctx _ hctx => ?_
      obtain ⟨⟨⟨⟨halone, hnone, hgeneration, hR⟩, -⟩, hquits⟩, htold⟩ := hctx
      refine ⟨⟨halone, hR⟩, hquits.mono fun hquits => ⟨hquits.1, ⟨hgeneration, htold.2, ?_⟩,
        hquits.2⟩⟩
      intro _ attemptId hsome
      rw [hnone] at hsome
      cases hsome
  | some attemptId =>
      refine does_callHealth held token ⟨generation, attemptId⟩ R hbefore
        (fun ctx hctx => ?_) (fun ctx hctx => ?_) fun ctx hctx => ?_
      · obtain ⟨rfl, health, hhealth, hsink, -⟩ := hctx.1.1.2 attemptId rfl
        simp only [Context.callHealth, hhealth, PipeWireHealth.arm_eq_rebindAndArm hsink]
      · obtain ⟨⟨⟨⟨halone, -, -, hR⟩, -⟩, -⟩, htold⟩ := hctx
        exact ⟨⟨halone, hR⟩, htold⟩
      · obtain ⟨⟨⟨⟨-, hinstalled, hgeneration, -⟩, hawaiting⟩, hquits⟩, -⟩ := hctx
        obtain ⟨rfl, health, hhealth, -, -, hgoing, hnotified⟩ := hawaiting attemptId rfl
        refine hquits.mono fun hquits => ⟨hquits.1, hgeneration, hquits.2, hinstalled, fun _ => ?_⟩
        exact ⟨health, hhealth, hgoing, by simp [hnotified]⟩

/-- What is known after an attempt to publish a candidate, and what the worker holds. -/
def looseAfter (candidate : Option CaptureBackend) :
    Option (ℕ × Option CaptureBackend) → List ℕ
  | none => looseOf candidate
  | some (_, old) => looseOf old

def AfterPublication (token : ℕ) (sink : RuntimeFaultSink) (candidate : Option CaptureBackend) :
    Option (ℕ × Option CaptureBackend) → Context → Prop
  | none, ctx => ctx.Held ∧ ctx.Apart candidate ∧ Unless Context.Settled ctx
  | some (generation, old), ctx =>
      ctx.Installed true generation sink (candidate.bind CaptureBackend.health)
          (AppRuntimeState.Replaces old) ∧
        Unless (Context.Quits token generation) ctx

theorem steady_afterPublication (token : ℕ) (sink : RuntimeFaultSink)
    (candidate : Option CaptureBackend) (published : Option (ℕ × Option CaptureBackend)) :
    Steady (AfterPublication token sink candidate published) := by
  cases published with
  | none => exact steady_held.and ((open_apart candidate).steady.and framed_settled.steady)
  | some published => exact (steady_installed _ _ _ _ _).and (fact_quits _ _).steady

/-- The runtime gets the candidate, and the worker what was there before. -/
theorem workerStep_install (hown : Own (looseOf candidate) ctx) (hheld : ctx.Held)
    (hstop : ctx.stop = false) (hepoch : Unless (fun ctx => ctx.operationEpoch = token) ctx)
    (hready : ctx.Ready sink candidate) (hinstall : Installs install candidate)
    {runtime : AppRuntimeState} (lifecycle : LifecycleState)
    (hraised : ctx.runtime.lifecycle.generation ≤ lifecycle.generation)
    (hold : old = ctx.runtime.capture)
    (hsink : sink.generation = lifecycle.generation)
    (hnoRetry : Unless (Context.NoRetry lifecycle.generation) ctx) :
    WorkerStep ctx (ctx.setRuntime (install runtime lifecycle lifecycle.generation)) ∧
      At (looseOf old)
        (AfterPublication token sink candidate (some (lifecycle.generation, old)))
        (ctx.setRuntime (install runtime lifecycle lifecycle.generation)) := by
  subst hold
  have hgeneration := hinstall.generation runtime lifecycle
  have hcapture := hinstall.capture runtime lifecycle lifecycle.generation
  have hinv : (ctx.setRuntime (install runtime lifecycle lifecycle.generation)).Inv := by
    refine hown.inv.setRuntime (fun hstopping => ((hinstall.running _ _ _) hstopping).elim)
      (by rw [hgeneration]; exact hraised) (hinstall.owned _ _ _) fun backend hbackend => ?_
    rw [hcapture] at hbackend
    exact (hready backend hbackend).2.1
  refine ⟨workerStep_setRuntime hinv hstop (by rw [hgeneration]; exact hraised),
    ⟨hinv, hown.runtimeLock, fun attemptId hlive => ?_⟩,
    ⟨⟨hheld, ?_, hgeneration, hinstall.settled _ _ _, ?_⟩, ?_⟩, ?_⟩
  · rcases hown.loose attemptId hlive with ⟨backend, hbackend, rfl⟩ | hmem
    · refine .inr ?_
      rw [hbackend]
      exact List.mem_singleton_self _
    · refine .inl ?_
      cases candidate with
      | none => cases hmem
      | some backend => exact ⟨backend, hcapture, (List.mem_singleton.mp hmem).symm⟩
  · rw [← hcapture]
    exact (hinstall.owned _ _ _).health
  · intro attemptId hmem backend hbackend
    rw [show (ctx.setRuntime (install runtime lifecycle lifecycle.generation)).runtime.capture =
      candidate from hcapture] at hbackend
    cases hcurrent : ctx.runtime.capture with
    | none =>
        rw [hcurrent] at hmem
        cases hmem
    | some current =>
        rw [hcurrent] at hmem
        obtain rfl := List.mem_singleton.mp hmem
        exact ((hready backend hbackend).2.2.1 current hcurrent).symm
  · intro attemptId hhealth
    obtain ⟨backend, hbackend, hattempt⟩ := Option.bind_eq_some_iff.mp hhealth
    obtain ⟨hsame, -, -, hawaiting⟩ := hready backend hbackend
    refine ⟨?_, hawaiting (by simp [hattempt])⟩
    rw [← CaptureBackend.health_eq hattempt, hsame, ← hsink]
  · exact (hepoch.and hnoRetry).imp
      (ctx.over_setRuntime (by rw [hgeneration]; exact hraised)) id

theorem does_publish (hgiven : ∀ given, operationGeneration = some given → given = generation)
    (hinstall : Installs install candidate) (oldAlreadyDetached : Bool) :
    Does (At (looseOf candidate) fun ctx => ctx.Holds token ∧
        Unless (Context.Debt token generation) ctx ∧ ctx.Ready sink candidate ∧
        ctx.SinkFor operationGeneration generation sink ∧
        (oldAlreadyDetached = true → ctx.runtime.capture = none))
      (Thread.atomic runtimeFree fun ctx =>
        ctx.publish operationGeneration oldAlreadyDetached install)
      fun published => At (looseAfter candidate published)
        (AfterPublication token sink candidate published) := by
  refine Does.step ((steady_holds token).and ((open_debt token generation).steady.and
    ((floating_ready sink candidate).steady.and ((open_sinkFor _ _ sink).steady.and
      steady_vacant.imp)))) (steady_afterPublication token sink candidate) fun ctx hown hctx _ => ?_
  obtain ⟨hholds, hdebt, hready, hsinkFor, hdetached⟩ := hctx
  unfold Context.publish
  rcases publicationGeneration_cases hown.inv hholds.1 hholds.2.1 hdebt hgiven with
    ⟨hnone, hover⟩ | ⟨published, hpublishes, hsome⟩
  · rw [hnone]
    exact ⟨.refl ctx, hown, hholds.1, hready.apart, .inl hover⟩
  · rw [hsome]
    refine workerStep_install hown hholds.1 hholds.2.1 (.inr hholds.2.2) hready hinstall
      { ctx.runtime.lifecycle with generation := published } hpublishes.raised ?_
      (hpublishes.sink sink hsinkFor) hpublishes.noRetry
    split_ifs with hold
    · exact (hdetached hold).symm
    · rfl

/-- A candidate is installed and listened to, or dropped; what was installed before is
dropped after it. -/
theorem does_publishInstalled
    (hgiven : ∀ given, operationGeneration = some given → given = generation)
    (hinstall : Installs install candidate) (oldAlreadyDetached : Bool) :
    Does (At (looseOf candidate) fun ctx => Unless (Context.Debt token generation) ctx ∧
        ctx.Ready sink candidate ∧ ctx.SinkFor operationGeneration generation sink ∧
        (oldAlreadyDetached = true → ctx.runtime.capture = none))
      (publishInstalled token operationGeneration oldAlreadyDetached candidate install)
      fun _ => At [] (Unless Context.Settled) := by
  have hready : Floating fun ctx => ctx.Ready sink candidate ∧
      ctx.SinkFor operationGeneration generation sink ∧
      (oldAlreadyDetached = true → ctx.runtime.capture = none) :=
    (floating_ready sink candidate).and
      ((open_sinkFor _ _ sink).toFloating.and open_vacant.imp.toFloating)
  have happart := (open_apart candidate).toFloating.and floating_settled
  have hdrop : Does (At (looseOf candidate) fun ctx =>
      ctx.Held ∧ ctx.Apart candidate ∧ Unless Context.Settled ctx)
      (do unlockOperationAuthority; dropCaptureThenSession candidate; supersededResponse)
      fun _ => At [] (Unless Context.Settled) :=
    (does_unlockOperationAuthority happart).bind fun _ =>
      (does_dropCaptureThenSession framed_settled candidate).bind fun _ =>
        does_supersededResponse framed_settled.steady
  refine (does_lockOperationAuthority
    ((open_debt token generation).toFloating.and hready)).bind fun _ => ?_
  refine (does_operationIsCurrent_held hready.steady).bind fun current => ?_
  refine .ite (fun hcurrent => ?_) fun hcurrent => ?_
  · exact hdrop.start fun ctx _ h => ⟨h.1.1, h.1.2.2.1.apart, .inl (h.2.1 hcurrent)⟩
  refine (Does.start (does_publish hgiven hinstall oldAlreadyDetached) fun ctx _ h =>
    ⟨h.2.2 (by simpa using hcurrent), h.1.2⟩).bind fun published => ?_
  cases published with
  | none => exact hdrop
  | some published =>
      obtain ⟨published, old⟩ := published
      have hold : Floating fun ctx => ctx.Apart old ∧ Unless Context.Settled ctx :=
        (open_apart old).toFloating.and floating_settled
      refine does_invalidate_installed.bind fun _ => does_armHealth.bind fun _ => ?_
      refine (Does.start (Does.lookRuntime (steady_held.and hold.steady)
        (fun _ => steady_held.and hold.steady) fun _ _ h => h) fun ctx _ h =>
          ⟨h.1.1, h.1.2.2, h.2.mono fun hdebt => hdebt.settled h.1.2.1⟩).bind fun _ => ?_
      exact (does_unlockOperationAuthority hold).bind fun _ =>
        (does_dropCaptureThenSession framed_settled old).bind fun _ =>
          Does.done framed_settled.steady fun _ _ h => h

end Installing

end Lamb.Daemon
