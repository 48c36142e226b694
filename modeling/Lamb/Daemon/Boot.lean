import Lamb.Daemon.Work

/-!
The start of the daemon. Nobody listens yet, so the runtime is the main thread's alone;
what it publishes is settled before the worker takes its first job.
-/

namespace Lamb.Daemon

open Lamb.Control (DaemonState CaptureState ErrorClass)
open Lamb.Lib

/-! ### The first runtime -/

/-- A runtime to start with: a capture it has runs at the generation given, and one that is
prepared for later is not there yet. -/
structure AppRuntimeState.Boots (generation : ℕ) (runtime : AppRuntimeState) : Prop where
  owned : runtime.Owned
  running : runtime.lifecycle.daemonState ≠ .stopping
  prepared : runtime.preparedLegacy ≠ none →
    runtime.capture = none ∧ runtime.lifecycle.nextRetryAt = none
  generation : runtime.capture ≠ none → runtime.lifecycle.generation = generation

section Boots

variable {runtime : AppRuntimeState} {generation : ℕ}

theorem AppRuntimeState.Built.boots (h : runtime.Built generation) : runtime.Boots generation where
  owned := h.owned
  running := h.running
  prepared hprepared := (hprepared h.preparedLegacy).elim
  generation := h.generation

theorem AppRuntimeState.boots_starting (prepared : PreparedLegacyConfig) :
    (AppRuntimeState.starting prepared).Boots generation where
  owned := .of_vacant rfl rfl rfl (by rintro ⟨⟩)
  running := by rintro ⟨⟩
  prepared _ := ⟨rfl, rfl⟩
  generation h := (h rfl).elim

theorem AppRuntimeState.boots_unprepared (family : ConfigFamily) (message : String) :
    (AppRuntimeState.unprepared family message).Boots generation where
  owned := .of_vacant rfl rfl rfl (by rintro ⟨⟩)
  running := by rintro ⟨⟩
  prepared h := (h rfl).elim
  generation h := (h rfl).elim

/-- An attempt that has failed leaves a runtime that may be started with. -/
theorem AppRuntimeState.Blank.boots (h : runtime.Blank) (error : CaptureAttemptError) (now : ℕ) :
    (runtime.detached.failed runtime.detached.lifecycle error now).Boots generation where
  owned := (AppRuntimeState.Owned.of_vacant rfl rfl rfl (by
    rw [show runtime.detached.lifecycle = runtime.lifecycle from rfl, h.captureState]
    simp)).failed rfl _ now
  running := by
    rw [AppRuntimeState.failed_daemonState]
    simp
  prepared hprepared := (hprepared h.preparedLegacy).elim
  generation hcapture := (hcapture rfl).elim

end Boots

theorem steady_unstarted : Steady fun ctx => ctx.started = false := by
  intro ctx ctx' hinv hstep h
  rcases hstep with hlistener | hothers
  · have hstarted := hlistener.started.1
    rw [h] at hstarted
    cases hstarted
  · have hsame : ctx.Same ctx' := hothers.elim (·.same hinv) (·.same)
    exact hsame.started.trans h

theorem open_fixed (R : AppRuntimeState → Prop) : Open (Context.Fixed false R) :=
  ⟨⟨steady_fixed false R, fun _ _ _ h => h⟩, fun _ _ _ _ _ _ h => h⟩

/-- The first runtime, before the context has it. -/
def Context.Booting (runtime : AppRuntimeState) (ctx : Context) : Prop :=
  (ctx.Fixed false (fun runtime => runtime = emptyRuntime .app) ∧ Unless (Context.Debt 0 0) ctx) ∧
    ∃ sink : RuntimeFaultSink, ctx.Ready sink runtime.capture ∧ runtime.Boots sink.generation

theorem steady_booting (runtime : AppRuntimeState) : Steady (Context.Booting runtime) := by
  refine ((steady_fixed false _).and (open_debt 0 0).steady).and ?_
  rintro ctx ctx' hinv hstep ⟨sink, hready, hboots⟩
  exact ⟨sink, (floating_ready sink _).steady ctx ctx' hinv hstep hready, hboots⟩

/-- The capture of the first runtime, if there is one. -/
def bootedCapture : Except OperationError AppRuntimeState → Option CaptureBackend
  | .error _ => none
  | .ok runtime => runtime.capture

/-- What is known of the first runtime; without one the process ends. -/
def AfterBoot : Except OperationError AppRuntimeState → Context → Prop
  | .error _, ctx => ctx.started = false
  | .ok runtime, ctx => ctx.Booting runtime

theorem does_bootstrapRuntime (world : World) (prepared : PreparedBootstrap) :
    Does (At [] fun ctx => ctx.Fixed false (fun runtime => runtime = emptyRuntime .app) ∧
        Unless (Context.Debt 0 0) ctx)
      (bootstrapRuntime world prepared) fun result =>
        At (looseOf (bootedCapture result)) (AfterBoot result) := by
  have hfirst : Open fun ctx => ctx.Fixed false (fun runtime => runtime = emptyRuntime .app) ∧
      Unless (Context.Debt 0 0) ctx :=
    (open_fixed _).and (open_debt 0 0)
  have hnone : ∀ runtime : AppRuntimeState, runtime.capture = none → runtime.Boots 1 →
      Does (At [] fun ctx => ctx.Fixed false (fun runtime => runtime = emptyRuntime .app) ∧
        Unless (Context.Debt 0 0) ctx) (pure (Except.ok runtime)) fun result =>
          At (looseOf (bootedCapture result)) (AfterBoot result) := by
    intro runtime hcapture hboots
    refine Thread.Spec.pure (At.stable hfirst.steady) fun ctx h => ?_
    simp only [bootedCapture, hcapture]
    exact ⟨h.1, h.2, ⟨1, 0⟩, by rw [hcapture]; exact ctx.ready_none _, hboots⟩
  cases prepared with
  | legacy prepared => exact hnone _ rfl (AppRuntimeState.boots_starting prepared)
  | faulted family message => exact hnone _ rfl (AppRuntimeState.boots_unprepared family message)
  | app loaded =>
      refine (does_allocateCaptureAttemptId hfirst.toFloating).bind fun attempt => ?_
      cases attempt with
      | error error =>
          exact Thread.Spec.pure (At.stable (steady_alone false)) (fun ctx h => ⟨h.1, h.2.1⟩)
            |>.pre fun ctx h => ⟨h.1, h.2.1.1.1⟩
      | ok attemptId =>
          refine (Does.start (does_applyLoadedAppConfig hfirst (checks_pure (.ok ())) world true
            loaded ⟨1, attemptId⟩) fun ctx _ h => ⟨h.1, h.2 attemptId rfl⟩).bind fun attempt => ?_
          obtain ⟨result, runtime⟩ := attempt
          cases result with
          | ok _ =>
              refine Thread.Spec.pure (At.stable ((hfirst.steady.and
                (floating_ready _ _).steady).and (Steady.const _))) fun ctx h => ?_
              exact ⟨h.1, h.2.1.1, _, h.2.1.2, (h.2.2.built rfl).boots⟩
          | error error =>
              have hattempted : Steady fun ctx => (ctx.Fixed false (fun runtime =>
                  runtime = emptyRuntime .app) ∧ Unless (Context.Debt 0 0) ctx) ∧
                  runtime.Blank :=
                hfirst.steady.and (Steady.const _)
              unfold applyCaptureAttemptErrorToState
              by_cases hfatal : (classifyLegacyAttemptError error).errorClass = .fatal
              · simp only [if_pos hfatal]
                exact Thread.Spec.pure (At.stable hattempted)
                  (fun ctx h => ⟨h.1, h.2.1.1.1.1⟩)
                  |>.pre fun ctx h => ⟨h.1, h.2.1.1, h.2.2.blank error rfl⟩
              · simp only [if_neg hfatal]
                exact Thread.Spec.pure (At.stable hattempted) (fun ctx h =>
                  ⟨h.1, h.2.1, ⟨1, 0⟩, ctx.ready_none _, h.2.2.boots _ _⟩)
                  |>.pre fun ctx h => ⟨h.1, h.2.1.1, h.2.2.blank error rfl⟩

/-! ### Building the context -/

/-- The context is built: what is to be published of the start is settled, or a capture is
prepared that is still to be started. -/
def Context.Prepared (ctx : Context) : Prop :=
  ctx.Alone false ∧
    (ctx.runtime.preparedLegacy = none ∧ Unless Context.Settled ctx ∨
      ∃ generation, ctx.Fixed false (fun runtime => runtime.capture = none ∧
          runtime.lifecycle.nextRetryAt = none) ∧
        Unless (Context.Debt 0 generation) ctx)

theorem steady_prepared : Steady Context.Prepared := by
  rintro ctx ctx' hinv hstep ⟨halone, hcases⟩
  obtain ⟨halone', -, hsame, -⟩ := alone_of_step hinv hstep halone
  refine ⟨halone', ?_⟩
  rcases hcases with ⟨hnone, hsettled⟩ | ⟨generation, hfixed, hdebt⟩
  · refine .inl ⟨?_, framed_settled.steady ctx ctx' hinv hstep hsettled⟩
    rw [hsame]
    exact hnone
  · exact .inr ⟨generation, steady_fixed false _ ctx ctx' hinv hstep hfixed,
      (open_debt 0 generation).steady ctx ctx' hinv hstep hdebt⟩

/-- What is known once the context is built; an error ends the process. -/
def AfterBuild : Except OperationError Unit → Context → Prop
  | .error _, ctx => ctx.started = false
  | .ok _, ctx => ctx.Prepared

/-- The runtime is the first one, and its capture is not armed yet. -/
theorem does_setRuntime_boot (runtime : AppRuntimeState) :
    Does (At (looseOf runtime.capture) (Context.Booting runtime))
      (Thread.modify fun ctx => ctx.setRuntime runtime) fun _ =>
        At [] fun ctx => ∃ sink, ctx.Installed false runtime.lifecycle.generation sink
            runtime.captureHealth (fun found => found = runtime ∧ runtime.Boots sink.generation) ∧
          Unless (Context.Quits 0 runtime.lifecycle.generation) ctx := by
  have hafter : Steady fun ctx => ∃ sink, ctx.Installed false runtime.lifecycle.generation sink
      runtime.captureHealth (fun found => found = runtime ∧ runtime.Boots sink.generation) ∧
      Unless (Context.Quits 0 runtime.lifecycle.generation) ctx := by
    rintro ctx ctx' hinv hstep ⟨sink, hinstalled, hquits⟩
    exact ⟨sink, steady_installed _ _ _ _ _ ctx ctx' hinv hstep hinstalled,
      (fact_quits _ _).steady ctx ctx' hinv hstep hquits⟩
  refine Does.change (steady_booting runtime) hafter fun ctx hown hctx => ?_
  obtain ⟨⟨⟨halone, hempty⟩, hdebt⟩, sink, hready, hboots⟩ := hctx
  have hraised : ctx.runtime.lifecycle.generation ≤ runtime.lifecycle.generation := by
    rw [hempty]
    exact Nat.zero_le _
  have hinv : (ctx.setRuntime runtime).Inv :=
    hown.inv.setRuntime (fun hstopping => (hboots.running hstopping).elim) hraised hboots.owned
      fun backend hbackend => (hready backend hbackend).2.1
  refine ⟨workerStep_setRuntime hinv halone.2 hraised, ⟨hinv, hown.runtimeLock,
    fun attemptId hlive => .inl ?_⟩, sink, ⟨⟨halone, rfl, rfl, rfl, hboots⟩, ?_⟩, ?_⟩
  · rcases hown.loose attemptId hlive with ⟨backend, hbackend, -⟩ | hmem
    · rw [hempty] at hbackend
      cases hbackend
    · obtain ⟨backend, hbackend, rfl⟩ := List.mem_map.mp hmem
      exact ⟨backend, Option.mem_toList.mp hbackend, rfl⟩
  · intro attemptId hhealth
    rw [hboots.owned.health] at hhealth
    obtain ⟨backend, hbackend, hattempt⟩ := Option.bind_eq_some_iff.mp hhealth
    obtain ⟨hsame, -, -, hawaiting⟩ := hready backend hbackend
    refine ⟨?_, hawaiting (by simp [hattempt])⟩
    rw [← CaptureBackend.health_eq hattempt, hsame, hboots.generation (by simp [hbackend])]
  · refine hdebt.imp (ctx.over_setRuntime hraised) fun hdebt => ⟨hdebt.1, ?_⟩
    rcases Nat.eq_zero_or_pos runtime.lifecycle.generation with hzero | hpos
    · rw [hzero]
      exact hdebt.2.2
    · refine hown.inv.noRetry ?_
      rw [hdebt.2.1.2.1]
      exact hpos

theorem does_buildIdleContext (world : World) (prepared : PreparedBootstrap) :
    Does (At [] fun ctx => ctx.Fixed false (fun runtime => runtime = emptyRuntime .app) ∧
        Unless (Context.Debt 0 0) ctx)
      (buildIdleContext world prepared) fun result => At [] (AfterBuild result) := by
  refine (does_bootstrapRuntime world prepared).bind fun result => ?_
  cases result with
  | error error =>
      exact Thread.Spec.pure (At.stable steady_unstarted) fun ctx h => h
  | ok runtime =>
      refine (does_setRuntime_boot runtime).bind fun _ => Does.some fun sink => ?_
      refine Does.lookKnown (runtime.captureHealth, runtime.lifecycle.generation)
        ((steady_installed _ _ _ _ _).and (fact_quits _ _).steady)
        (fun ctx h => by rw [h.1.1.2.2.2.1]) ?_
      refine does_invalidate_installed.bind fun _ => does_armHealth.bind fun _ => ?_
      have hfixed : Steady fun ctx => ctx.Fixed false (fun found =>
          found = runtime ∧ runtime.Boots sink.generation) ∧
          Unless (Context.Debt 0 runtime.lifecycle.generation) ctx :=
        (steady_fixed _ _).and (open_debt _ _).steady
      refine Does.lookKnown (runtime.lifecycle.generation, runtime.lifecycle.nextRetryAt) hfixed
        (fun ctx h => by rw [h.1.2.1]) ?_
      have hprepared : Does (At [] Context.Prepared) (pure (.ok ()))
          fun result => At [] (AfterBuild result) :=
        Does.done steady_prepared fun _ _ h => h
      cases hnext : runtime.lifecycle.nextRetryAt with
      | none =>
          have hscheduled : Does (At [] fun ctx => ctx.Fixed false (fun found =>
              found = runtime ∧ runtime.Boots sink.generation) ∧
              Unless (Context.Debt 0 runtime.lifecycle.generation) ctx)
              (scheduleDue runtime.lifecycle.generation none) fun _ => At [] Context.Prepared := by
            refine Does.done hfixed fun ctx _ hctx => ?_
            obtain ⟨⟨halone, rfl, hboots⟩, hdebt⟩ := hctx
            refine ⟨halone, ?_⟩
            by_cases hprepared : ctx.runtime.preparedLegacy = none
            · exact .inl ⟨hprepared, hdebt.mono fun hdebt => hdebt.settled hnext⟩
            · exact .inr ⟨_, ⟨halone, hboots.prepared hprepared⟩, hdebt⟩
          exact hscheduled.bind fun _ => hprepared
      | some due =>
          have hannounceable : ∀ ctx : Context, Own [] ctx → (ctx.Fixed false (fun found =>
              found = runtime ∧ runtime.Boots sink.generation) ∧
              Unless (Context.Debt 0 runtime.lifecycle.generation) ctx) →
              ctx.Announceable false runtime.lifecycle.generation (some due)
                fun found => found.preparedLegacy = none := by
            rintro ctx hown ⟨⟨halone, rfl, hboots⟩, hdebt⟩
            refine ⟨⟨halone, ⟨hown.inv.owned.retry (by simp [hnext]), rfl, hnext⟩, ?_⟩,
              hdebt.mono fun hdebt => hdebt.2.2⟩
            by_contra hprepared
            have hnone := (hboots.prepared hprepared).2
            rw [hnext] at hnone
            cases hnone
          exact (Does.weaken (does_scheduleRetry due) hannounceable fun _ ctx _ h =>
            ⟨h.1.1, .inl ⟨h.1.2, h.2⟩⟩).bind fun _ => hprepared

/-! ### The first capture -/

section First

variable {generation : ℕ}

/-- A capture is prepared that is still to be started. -/
def Context.Pending (generation : ℕ) (ctx : Context) : Prop :=
  Unless (Context.Debt 0 generation) ctx ∧ ctx.Fixed false (fun runtime =>
    runtime.capture = none ∧ runtime.lifecycle.nextRetryAt = none)

theorem open_pending (generation : ℕ) : Open (Context.Pending generation) :=
  (open_debt 0 generation).and (open_fixed _)

/-- What is known once the start has been tried; an error ends the process. -/
def AfterStart : Except OperationError Unit → Context → Prop
  | .error _, ctx => ctx.started = false
  | .ok _, ctx => Unless Context.Settled ctx

/-- A start that has failed is published as an operation of its own. -/
def AfterAttempt : Except OperationError (ℕ × Option ℕ) → Context → Prop
  | .error _, ctx => ctx.Held
  | .ok (generation, due), ctx => ctx.Announceable true generation due fun _ => True

theorem does_publishAttemptError (error : CaptureAttemptError) (now : ℕ) :
    Does (At [] fun ctx => ctx.Held ∧ ctx.Pending generation)
      (Thread.atomic runtimeFree fun ctx => ctx.publishAttemptError error now)
      fun published => At [] (AfterAttempt published) := by
  refine Does.step (steady_held.and (open_pending generation).steady) ?_ fun ctx hown hctx _ => ?_
  · intro published
    cases published with
    | error error => exact steady_held
    | ok published => exact steady_announceable _ _ _ _
  · obtain ⟨hheld, hdebt, halone, hvacant, -⟩ := hctx
    unfold Context.publishAttemptError
    cases hbegin : ctx.runtime.lifecycle.beginOperation with
    | error error => exact ⟨.refl ctx, hown, hheld⟩
    | ok begun =>
        obtain ⟨published, lifecycle⟩ := begun
        obtain ⟨-, -, rfl, rfl⟩ := LifecycleState.beginOperation_eq_ok.mp hbegin
        exact workerStep_failed true hown hheld halone.2 hvacant
          { ctx.runtime.lifecycle with
            generation := ctx.runtime.lifecycle.generation + 1 } (Nat.le_succ _)
          (.inr (hown.inv.noRetry (Nat.lt_succ_of_le hown.inv.ahead))) now

theorem does_publishCaptureAttemptError (world : World) (error : CaptureAttemptError) :
    Does (At [] (Context.Pending generation)) (publishCaptureAttemptError world error)
      fun _ => At [] (Unless Context.Settled) := by
  have hfatal : ∀ message, Does (At [] fun _ => True) (signalFatal message)
      fun _ => At [] (Unless Context.Settled) := fun message =>
    (does_signalFatal message).weaken (fun _ _ h => h) fun _ _ _ => .inl
  have hany : Floating fun _ => True := ⟨Steady.const True, fun _ _ _ h => h⟩
  unfold publishCaptureAttemptError
  refine .ite (fun _ => (hfatal _).start fun _ _ _ => trivial) fun _ => ?_
  refine (does_lockOperationAuthority (open_pending generation).toFloating).bind fun _ => ?_
  refine (does_publishAttemptError error world.now).bind fun published => ?_
  cases published with
  | error error =>
      exact (Does.start (does_unlockOperationAuthority hany) fun ctx _ h =>
        ⟨h, trivial⟩).bind fun _ => hfatal error.message
  | ok published =>
      exact (does_announce published.2).bind fun _ =>
        (does_unlockOperationAuthority floating_settled).start fun ctx _ h => ⟨h.1.1, h.2⟩

theorem does_startFailed (world : World) (error : CaptureAttemptError) :
    Does (At [] (Context.Pending generation)) (attemptConfiguredStart.startFailed world error)
      fun result => At [] (AfterStart result) := by
  unfold attemptConfiguredStart.startFailed
  refine .ite (fun _ => ?_) fun _ => ?_
  · exact Does.done (open_pending generation).steady fun ctx _ h => h.2.1.1
  · exact (does_publishCaptureAttemptError world error).bind fun _ =>
      Does.done framed_settled.steady fun _ _ h => h

/-- What is known after an attempt to publish the first capture, which is the worker's own
unless it was installed. -/
def AfterInstall (sink : RuntimeFaultSink) (backend : CaptureBackend) : Option ℕ → Context → Prop
  | none, ctx => ctx.Held ∧ ctx.Distinct backend.attemptId ∧ ctx.started = false
  | some generation, ctx =>
      ctx.Installed true generation sink backend.health (AppRuntimeState.Replaces none) ∧
        Unless (Context.Quits 0 generation) ctx

def looseUnless (backend : CaptureBackend) (published : Option ℕ) : List ℕ :=
  if published.isSome then [] else looseOf (some backend)

theorem open_unstarted : Open fun ctx => ctx.started = false :=
  ⟨⟨steady_unstarted, fun _ _ _ h => h⟩, fun _ _ _ _ _ _ h => h⟩

theorem steady_afterInstall (sink : RuntimeFaultSink) (backend : CaptureBackend)
    (published : Option ℕ) : Steady (AfterInstall sink backend published) := by
  cases published with
  | none => exact steady_held.and ((open_distinct _).steady.and steady_unstarted)
  | some published => exact (steady_installed _ _ _ _ _).and (fact_quits _ _).steady

theorem installs_start (prepared : PreparedLegacyConfig) (resolved : ResolvedCaptureState)
    (backend : CaptureBackend) :
    Installs (fun runtime lifecycle generation =>
      { installLegacy prepared resolved backend runtime lifecycle generation with
        configFamily := runtime.configFamily
        activeProfile := runtime.activeProfile }) (some backend) where
  capture _ _ _ := rfl
  owned _ _ _ := ⟨rfl, rfl, fun _ => ⟨fun _ => rfl, fun _ => by rintro ⟨⟩⟩,
    fun h => (h rfl).elim⟩
  running _ _ _ := by rintro ⟨⟩
  settled _ _ _ := rfl
  generation _ _ := rfl

theorem does_publishStart (prepared : PreparedLegacyConfig) (resolved : ResolvedCaptureState)
    (backend : CaptureBackend) (sink : RuntimeFaultSink) :
    Does (At (looseOf (some backend)) fun ctx => ctx.Held ∧
        (ctx.Pending generation ∧ ctx.SinkFor none generation sink) ∧
          ctx.Ready sink (some backend))
      (Thread.atomic runtimeFree fun ctx => ctx.publishStart prepared resolved backend)
      fun published =>
        At (looseUnless backend published) (AfterInstall sink backend published) := by
  refine Does.step (steady_held.and ((((open_pending generation).and
    (open_sinkFor _ _ sink)).steady).and (floating_ready sink _).steady))
    (steady_afterInstall sink backend) fun ctx hown hctx _ => ?_
  obtain ⟨hheld, ⟨⟨hdebt, halone, hvacant, -⟩, hsinkFor⟩, hready⟩ := hctx
  unfold Context.publishStart
  cases hbegin : ctx.runtime.lifecycle.beginOperation with
  | error error => exact ⟨.refl ctx, hown, hheld, (hready backend rfl).2.2.1, halone.1⟩
  | ok begun =>
      obtain ⟨published, lifecycle⟩ := begun
      rcases publicationGeneration_cases hown.inv hheld halone.2 hdebt given_none with
        ⟨hnone, -⟩ | ⟨generation', hpublishes, hsome⟩
      · simp only [publicationGeneration, hbegin, Except.toOption] at hnone
        cases hnone
      · simp only [publicationGeneration, hbegin, Except.toOption, Option.some.injEq,
          Prod.mk.injEq] at hsome
        obtain ⟨rfl, rfl⟩ := hsome
        exact workerStep_install hown hheld halone.2
          (hdebt.mono fun hdebt => hdebt.1) hready (installs_start prepared resolved backend)
          { ctx.runtime.lifecycle with generation := published } hpublishes.raised hvacant.symm
          (hpublishes.sink sink hsinkFor) hpublishes.noRetry

/-- What is known once it is clear whether a capture is to be started. -/
def AfterLook : Option PreparedLegacyConfig → Context → Prop
  | none, ctx => Unless Context.Settled ctx
  | some _, ctx => ∃ generation, ctx.Pending generation

theorem steady_afterLook (prepared : Option PreparedLegacyConfig) :
    Steady (AfterLook prepared) := by
  cases prepared with
  | none => exact framed_settled.steady
  | some prepared =>
      rintro ctx ctx' hinv hstep ⟨generation, hpending⟩
      exact ⟨generation, (open_pending generation).steady ctx ctx' hinv hstep hpending⟩

theorem Context.Prepared.afterLook {ctx : Context} (h : ctx.Prepared) :
    AfterLook ctx.runtime.preparedLegacy ctx := by
  obtain ⟨-, ⟨hnone, hsettled⟩ | ⟨generation, hfixed, hdebt⟩⟩ := h
  · rw [hnone]
    exact hsettled
  · cases ctx.runtime.preparedLegacy with
    | none => exact hdebt.mono fun hdebt => hdebt.settled hfixed.2.2
    | some prepared => exact ⟨generation, hdebt, hfixed⟩

theorem does_installFirst (prepared : PreparedLegacyConfig) (resolved : ResolvedCaptureState)
    (backend : CaptureBackend) (sink : RuntimeFaultSink) :
    Does (At (looseOf (some backend)) fun ctx =>
        (ctx.Pending generation ∧ ctx.SinkFor none generation sink) ∧
          ctx.Ready sink (some backend))
      (attemptConfiguredStart.installFirst prepared resolved backend) fun result =>
        At [] (AfterStart result) := by
  refine (does_lockOperationAuthority (((open_pending generation).and
    (open_sinkFor none generation sink)).toFloating.and (floating_ready sink _))).bind
      fun _ => ?_
  refine (does_publishStart prepared resolved backend sink).bind fun published => ?_
  cases published with
  | none =>
      have hleft : Open fun ctx => ctx.Distinct backend.attemptId ∧ ctx.started = false :=
        (open_distinct _).and open_unstarted
      refine (does_unlockOperationAuthority hleft.toFloating).bind fun _ => ?_
      exact (does_dropCapture open_unstarted.framed).bind fun _ =>
        Does.done steady_unstarted fun _ _ h => h
  | some published =>
      refine does_invalidate_installed.bind fun _ => does_armHealth.bind fun _ => ?_
      exact (Does.start (does_unlockOperationAuthority floating_settled) fun ctx _ h =>
        ⟨h.1.1, h.2.mono fun hdebt => hdebt.settled h.1.2.1⟩).bind fun _ =>
          Does.done framed_settled.steady fun _ _ h => h

/-- The first capture is installed and listened to, or its failure is announced. -/
theorem does_attemptConfiguredStart (world : World) :
    Does (At [] Context.Prepared) (attemptConfiguredStart world) fun result =>
      At [] (AfterStart result) := by
  refine (Does.lookRuntime steady_prepared steady_afterLook fun ctx _ h => h.afterLook).bind
    fun prepared => ?_
  cases prepared with
  | none => exact Does.done framed_settled.steady fun _ _ h => h
  | some prepared =>
      refine Does.some fun generation => ?_
      refine (does_runtimeFaultSinkForAttempt (open_fixed _).toFloating given_none).bind
        fun result => ?_
      cases result with
      | error error => exact (does_startFailed world error).start fun ctx _ h => h.1
      | ok sink =>
          have hpending : Open fun ctx => ctx.Pending generation ∧
              ctx.SinkFor none generation sink :=
            (open_pending generation).and (open_sinkFor _ _ sink)
          refine (Does.start (does_startLegacyCapture hpending world prepared sink) fun ctx _ h =>
            ⟨⟨h.1, (h.2 sink rfl).1⟩, (h.2 sink rfl).2⟩).bind fun started => ?_
          cases started with
          | error error => exact (does_startFailed world error).start fun ctx _ h => h.1.1
          | ok started =>
              obtain ⟨backend, resolved⟩ := started
              simp only
              cases world.recovery "legacy" with
              | error error =>
                  refine (Does.start (does_dropCapture (open_pending generation).framed)
                    fun ctx _ h => ⟨(h.2 backend rfl).2.2.1, h.1.1⟩).bind fun _ => ?_
                  exact does_startFailed world _
              | ok _ => exact does_installFirst prepared resolved backend sink

end First

/-! ### Until the daemon listens -/

/-- What the worker leaves behind whenever it has nothing to do. -/
def Context.Idle (ctx : Context) : Prop :=
  ctx.started = true → At [] (Unless Context.Settled) ctx

theorem does_startUp (world : World) (prepared : PreparedBootstrap) :
    Does (At [] fun ctx => ctx.Fixed false (fun runtime => runtime = emptyRuntime .app) ∧
        Unless (Context.Debt 0 0) ctx)
      (startUp world prepared) fun _ => Context.Idle := by
  have hquit : Does (At [] fun ctx => ctx.started = false) (pure ()) fun _ => Context.Idle := by
    refine Thread.Spec.pure (At.stable steady_unstarted) fun ctx h hstarted => ?_
    rw [h.2] at hstarted
    cases hstarted
  refine (does_buildIdleContext world prepared).bind fun built => ?_
  cases built with
  | error error => exact hquit
  | ok _ =>
      refine (does_attemptConfiguredStart world).bind fun started => ?_
      cases started with
      | error error => exact hquit
      | ok _ =>
          refine (Does.change (l := []) framed_settled.steady framed_settled.steady
            fun ctx hown hctx => ?_).mono (fun _ h => h) fun _ ctx h _ => h
          have hinv : Context.Inv { ctx with started := true } :=
            hown.inv.controlled hown.inv.runtimeLock id le_rfl
          exact ⟨⟨fun _ => hinv, fun _ => rfl, .rfl, .rfl, fun hstop => ⟨hstop, rfl, rfl, rfl⟩,
            rfl, le_rfl⟩, ⟨hinv, hown.runtimeLock, hown.loose⟩, hctx⟩

end Lamb.Daemon
