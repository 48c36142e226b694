import Lamb.Daemon.Publish

/-!
The attempts of an operation: a capture is started and installed, or dropped again where
something fails after it.
-/

namespace Lamb.Daemon

open Lamb.Control (DaemonState CaptureState ErrorClass)
open Lamb.Lib

/-! ### Legacy captures -/

/-- The capture of an attempt, if it got that far. -/
def startedCapture {β : Type} :
    Except CaptureAttemptError (CaptureBackend × β) → Option CaptureBackend
  | .error _ => none
  | .ok started => some started.1

/-- What an operation owes, and whether it has detached the old capture before. -/
def Context.Owing (token generation : ℕ) (detached : Bool) (ctx : Context) : Prop :=
  Unless (Context.Debt token generation) ctx ∧ (detached = true → ctx.runtime.capture = none)

theorem open_owing (token generation : ℕ) (detached : Bool) :
    Open (Context.Owing token generation detached) :=
  (open_debt token generation).and open_vacant.imp

theorem Context.ready_none (ctx : Context) (sink : RuntimeFaultSink) : ctx.Ready sink none := by
  rintro _ ⟨⟩

section Legacy

variable {P : Context → Prop} {operationGeneration : Option ℕ} {token generation : ℕ}
  {sink : RuntimeFaultSink} {backend : CaptureBackend} {detached : Bool}

theorem does_startLegacyCapture (hP : Open P) (world : World) (prepared : PreparedLegacyConfig)
    (sink : RuntimeFaultSink) :
    Does (At [] fun ctx => P ctx ∧ ctx.Fresh sink.attemptId)
      (startLegacyCapture world prepared sink) fun started =>
        At (looseOf (startedCapture started)) fun ctx =>
          P ctx ∧ ctx.Ready sink (startedCapture started) := by
  have hbefore := hP.steady.and (steady_fresh sink.attemptId)
  unfold startLegacyCapture
  cases world.legacyStart with
  | error error =>
      refine Thread.Spec.pure (At.stable hbefore) fun ctx h => ?_
      exact ⟨h.1, h.2.1, ctx.ready_none sink⟩
  | ok resolved =>
      refine (does_startCapture hP ⟨if prepared.backend = "pipewire" then .pipewire else .fake,
        sink.attemptId⟩ sink rfl).bind fun _ => ?_
      exact Thread.Spec.pure (At.stable (hP.steady.and (floating_ready sink _).steady))
        fun _ h => h

/-- A failure of the operation, whether or not it has detached the old capture. -/
theorem does_fail (world : World)
    (hgiven : ∀ given, operationGeneration = some given → given = generation)
    (error : CaptureAttemptError) :
    Does (At [] (Context.Owing token generation detached))
      (commandAttemptFailureWithGeneration world token operationGeneration error (!detached))
      fun _ => At [] (Unless Context.Settled) :=
  (does_commandAttemptFailureWithGeneration world hgiven error (!detached)).start
    fun ctx _ h => ⟨h.1, fun hpreserve =>
      ctx.vacant_of_eq_none _ (h.2 (by simpa using hpreserve))⟩

/-- A capture that was started too late is dropped. -/
theorem does_drop_superseded :
    Does (At (looseOf (some backend)) fun ctx =>
        ctx.Ready sink (some backend) ∧ Unless Context.Settled ctx)
      (do dropCapture backend.attemptId; supersededResponse)
      fun _ => At [] (Unless Context.Settled) := by
  have hdrop : Does (At (looseOf (some backend)) fun ctx =>
      ctx.Distinct backend.attemptId ∧ Unless Context.Settled ctx)
      (dropCapture backend.attemptId) fun _ => At [] (Unless Context.Settled) :=
    does_dropCapture framed_settled
  exact (hdrop.start fun ctx _ h => ⟨(h.1 backend rfl).2.2.1, h.2⟩).bind fun _ =>
    does_supersededResponse framed_settled.steady

theorem does_drop_fail (world : World)
    (hgiven : ∀ given, operationGeneration = some given → given = generation)
    (error : CaptureAttemptError) :
    Does (At (looseOf (some backend)) fun ctx =>
        ctx.Ready sink (some backend) ∧ ctx.Owing token generation detached)
      (do
        dropCapture backend.attemptId
        commandAttemptFailureWithGeneration world token operationGeneration error (!detached))
      fun _ => At [] (Unless Context.Settled) := by
  have hdrop : Does (At (looseOf (some backend)) fun ctx =>
      ctx.Distinct backend.attemptId ∧ ctx.Owing token generation detached)
      (dropCapture backend.attemptId) fun _ => At [] (Context.Owing token generation detached) :=
    does_dropCapture (open_owing token generation detached).framed
  exact (hdrop.start fun ctx _ h => ⟨(h.1 backend rfl).2.2.1, h.2⟩).bind fun _ =>
    does_fail world hgiven error

theorem installs_legacy (prepared : PreparedLegacyConfig) (resolved : ResolvedCaptureState)
    (backend : CaptureBackend) :
    Installs (installLegacy prepared resolved backend) (some backend) where
  capture _ _ _ := rfl
  owned _ _ _ := ⟨rfl, rfl, fun _ => ⟨fun _ => rfl, fun _ => by rintro ⟨⟩⟩,
    fun h => (h rfl).elim⟩
  running _ _ _ := by rintro ⟨⟩
  settled _ _ _ := rfl
  generation _ _ := rfl

theorem does_installPreparedLegacy (world : World)
    (hgiven : ∀ given, operationGeneration = some given → given = generation)
    (prepared : PreparedLegacyConfig) :
    Does (At [] (Context.Owing token generation detached))
      (installPreparedLegacy world token operationGeneration prepared detached)
      fun _ => At [] (Unless Context.Settled) := by
  refine (does_runtimeFaultSinkForAttempt open_vacant.imp.toFloating hgiven).bind
    fun result => ?_
  cases result with
  | error error => exact (does_fail world hgiven error).start fun _ _ h => h.1
  | ok sink =>
      have howing : Open fun ctx => ctx.Owing token generation detached ∧
          ctx.SinkFor operationGeneration generation sink :=
        (open_owing token generation detached).and (open_sinkFor _ _ sink)
      refine (Does.start (does_startLegacyCapture howing world prepared sink) fun ctx _ h =>
        ⟨⟨h.1, (h.2 sink rfl).1⟩, (h.2 sink rfl).2⟩).bind fun started => ?_
      cases started with
      | error error => exact (does_fail world hgiven error).start fun _ _ h => h.1.1
      | ok started =>
          obtain ⟨backend, resolved⟩ := started
          have hready : Steady fun ctx => (detached = true → ctx.runtime.capture = none) ∧
              ctx.SinkFor operationGeneration generation sink ∧ ctx.Ready sink (some backend) :=
            steady_vacant.imp.and ((open_sinkFor _ _ sink).steady.and
              (floating_ready sink _).steady)
          have hlook := does_operationIsCurrent (looseOf (some backend)) token generation hready
          refine (hlook.start fun ctx _ h => ⟨h.1.1.1, h.1.1.2, h.1.2, h.2⟩).bind
            fun current => ?_
          refine .ite (fun hcurrent => ?_) fun _ => ?_
          · exact does_drop_superseded.start fun ctx _ h => ⟨h.1.2.2.2, .inl (h.2 hcurrent)⟩
          cases world.recovery "legacy" with
          | error error =>
              exact (does_drop_fail world hgiven _).start fun ctx _ h =>
                ⟨h.1.2.2.2, h.1.1, h.1.2.1⟩
          | ok _ =>
              refine (hlook.start fun ctx _ h => h.1).bind fun current => ?_
              refine .ite (fun hcurrent => ?_) fun _ => ?_
              · exact does_drop_superseded.start fun ctx _ h => ⟨h.1.2.2.2, .inl (h.2 hcurrent)⟩
              exact (does_publishInstalled hgiven
                (installs_legacy prepared resolved backend) detached).start fun ctx _ h =>
                  ⟨h.1.1, h.1.2.2.2, h.1.2.2.1, h.1.2.1⟩

end Legacy

/-! ### Captures of a profile -/

/-- A runtime that has never had a capture. -/
structure AppRuntimeState.Blank (runtime : AppRuntimeState) : Prop where
  capture : runtime.capture = none
  session : runtime.session = none
  captureHealth : runtime.captureHealth = none
  preparedLegacy : runtime.preparedLegacy = none
  captureState : runtime.lifecycle.captureState = .stopped
  daemonState : runtime.lifecycle.daemonState = .ready
  nextRetryAt : runtime.lifecycle.nextRetryAt = none

theorem blank_emptyRuntime (family : ConfigFamily) : (emptyRuntime family).Blank :=
  ⟨rfl, rfl, rfl, rfl, rfl, rfl, rfl⟩

/-- A runtime that was built for a configuration of profiles: its capture runs at the
generation given, or there is none. -/
structure AppRuntimeState.Built (generation : ℕ) (runtime : AppRuntimeState) : Prop where
  owned : runtime.Owned
  running : runtime.lifecycle.daemonState ≠ .stopping
  preparedLegacy : runtime.preparedLegacy = none
  settled : runtime.lifecycle.captureState = .running ∨
    runtime.lifecycle.captureState = .stopped → runtime.lifecycle.nextRetryAt = none
  generation : runtime.capture ≠ none → runtime.lifecycle.generation = generation

section Built

variable {runtime : AppRuntimeState} {generation : ℕ}

theorem AppRuntimeState.Built.of_vacant (hcapture : runtime.capture = none)
    (hsession : runtime.session = none) (hhealth : runtime.captureHealth = none)
    (hlegacy : runtime.preparedLegacy = none) (hrunning : runtime.lifecycle.daemonState ≠ .stopping)
    (hstate : runtime.lifecycle.captureState ≠ .running)
    (hsettled : runtime.lifecycle.captureState = .stopped →
      runtime.lifecycle.nextRetryAt = none) : runtime.Built generation where
  owned := .of_vacant hcapture hsession hhealth hstate
  running := hrunning
  preparedLegacy := hlegacy
  settled := fun h => h.elim (fun h => (hstate h).elim) hsettled
  generation h := (h hcapture).elim

theorem AppRuntimeState.Blank.built (h : runtime.Blank) : runtime.Built generation :=
  .of_vacant h.capture h.session h.captureHealth h.preparedLegacy (by rw [h.daemonState]; simp)
    (by rw [h.captureState]; simp) fun _ => h.nextRetryAt

/-- An attempt that has failed leaves a runtime without a capture. -/
theorem AppRuntimeState.Blank.failed (h : runtime.Blank) (generation : ℕ)
    {error : CaptureAttemptError}
    (hstate : error.captureState ≠ .stopped) (now : ℕ) :
    (runtime.failed runtime.lifecycle error now).Built generation := by
  refine .of_vacant h.capture h.session h.captureHealth h.preparedLegacy ?_ ?_ ?_
  · rw [runtime.failed_daemonState]
    simp
  · unfold AppRuntimeState.failed
    split_ifs
    · exact error.notRunning
    · exact faulted_ne_running
  · unfold AppRuntimeState.failed
    split_ifs
    · exact fun hstopped => (hstate hstopped).elim
    · rintro ⟨⟩

theorem AppRuntimeState.built_capturing (hlegacy : runtime.preparedLegacy = none)
    (hgeneration : runtime.lifecycle.generation = generation) (profile : ResolvedProfile)
    (backend : CaptureBackend) : (runtime.capturing profile backend).Built generation where
  owned := ⟨rfl, rfl, fun _ => ⟨fun _ => rfl, fun _ => by rintro ⟨⟩⟩, fun h => (h rfl).elim⟩
  running := by rintro ⟨⟩
  preparedLegacy := hlegacy
  settled _ := rfl
  generation _ := hgeneration

end Built

/-- A check between the steps of an attempt, which changes nothing. -/
def Checks (check : Op (Except OperationError Unit)) : Prop :=
  ∀ (loose : List ℕ) (P : Context → Prop), Steady P →
    Does (At loose P) check fun _ => At loose P

theorem checks_pure (result : Except OperationError Unit) : Checks (pure result) :=
  fun _ _ hP => Does.done hP fun _ _ h => h

theorem checks_currentCheckpoint (token : ℕ) : Checks (currentCheckpoint token) :=
  fun _ _ hP => (Does.look hP (fun _ => hP) fun _ _ h => h).bind fun _ =>
    Does.done hP fun _ _ h => h

theorem checks_firstFailure {checks : List (Op (Except OperationError Unit))}
    (h : ∀ check ∈ checks, Checks check) : Checks (firstFailure checks) := by
  intro loose P hP
  induction checks with
  | nil => exact Does.done hP fun _ _ h => h
  | cons check checks ih =>
      refine (h check (List.mem_cons_self ..) loose P hP).bind fun result => ?_
      cases result with
      | error error => exact Does.done hP fun _ _ h => h
      | ok _ => exact ih fun check hmem => h check (List.mem_cons_of_mem _ hmem)

/-- The capture a backend was started for. -/
def builtCapture (build : Except CaptureAttemptError CaptureBackend) : Option CaptureBackend :=
  build.toOption

/-- What an attempt at a profile's capture leaves: a runtime with the capture it has
started, or nothing if it gave up. -/
def attemptedCapture (attempt : Except OperationError Unit × AppRuntimeState) :
    Option CaptureBackend :=
  match attempt.1 with
  | .ok _ => attempt.2.capture
  | .error _ => none

section Profile

variable {P : Context → Prop} {checkpoint : Op (Except OperationError Unit)}
  {runtime : AppRuntimeState} {sink : RuntimeFaultSink} {generation : ℕ}

/-- A backend that could not be started does not say it was stopped. -/
theorem does_startBackend (hP : Open P) (world : World) (profile : ResolvedProfile)
    (sink : RuntimeFaultSink) :
    Does (At [] fun ctx => P ctx ∧ ctx.Fresh sink.attemptId)
      (startBackend world profile sink) fun build =>
        At (looseOf (builtCapture build)) fun ctx =>
          (P ctx ∧ ctx.Ready sink (builtCapture build)) ∧
            ∀ error, build = .error error → error.captureState ≠ .stopped := by
  have hbefore := hP.steady.and (steady_fresh sink.attemptId)
  have hfailed : ∀ error : CaptureAttemptError, error.captureState ≠ .stopped →
      Does (At [] fun ctx => P ctx ∧ ctx.Fresh sink.attemptId) (pure (Except.error error))
        fun build => At (looseOf (builtCapture build)) fun ctx =>
          (P ctx ∧ ctx.Ready sink (builtCapture build)) ∧
            ∀ error, build = .error error → error.captureState ≠ .stopped := by
    intro error hstate
    refine Thread.Spec.pure (At.stable hbefore) fun ctx h => ⟨h.1, ⟨h.2.1, ctx.ready_none sink⟩, ?_⟩
    rintro _ ⟨⟩
    exact hstate
  have hstarted : ∀ backend : CaptureBackend, backend.attemptId = sink.attemptId →
      Does (At [] fun ctx => P ctx ∧ ctx.Fresh backend.attemptId)
        (do
          Thread.modify fun ctx => ctx.startCapture backend sink
          pure (Except.ok backend))
        fun build => At (looseOf (builtCapture build)) fun ctx =>
          (P ctx ∧ ctx.Ready sink (builtCapture build)) ∧
            ∀ error : CaptureAttemptError, build = .error error →
              error.captureState ≠ .stopped := by
    intro backend hsink
    refine (does_startCapture hP backend sink hsink).bind fun _ => ?_
    refine Thread.Spec.pure (At.stable (hP.steady.and (floating_ready sink _).steady))
      fun ctx h => ⟨h.1, h.2, ?_⟩
    rintro _ ⟨⟩
  unfold startBackend
  split
  · cases world.jackStart with
    | error error => exact hfailed _ (classifyLegacyAttemptError_ne_stopped error)
    | ok _ => exact hstarted ⟨.jack, sink.attemptId⟩ rfl
  · split_ifs
    · cases world.pipewireStart with
      | error error => exact hfailed _ error.classify_ne_stopped
      | ok _ => exact hstarted ⟨.pipewire, sink.attemptId⟩ rfl
    · exact hfailed _ (classifyLegacyAttemptError_ne_stopped _)
  · exact hfailed _ (classifyLegacyAttemptError_ne_stopped _)

/-- What an attempt at a profile's capture has made of the runtime. -/
structure Attempted (generation : ℕ) (attempt : Except OperationError Unit × AppRuntimeState) :
    Prop where
  built : attempt.1 = .ok () → attempt.2.Built generation
  blank : ∀ error, attempt.1 = .error error → attempt.2.Blank

theorem does_dropBuild (hP : Framed P) (build : Except CaptureAttemptError CaptureBackend) :
    Does (At (looseOf (builtCapture build)) fun ctx => P ctx ∧ ctx.Ready sink (builtCapture build))
      (dropBuild build) fun _ => At [] P := by
  cases build with
  | error error =>
      refine Thread.Spec.pure (At.stable (hP.steady.and (floating_ready sink _).steady)) ?_
      exact fun ctx h => ⟨h.1, h.2.1⟩
  | ok backend =>
      have hdrop : Does (At (looseOf (some backend)) fun ctx =>
          ctx.Distinct backend.attemptId ∧ P ctx) (dropCapture backend.attemptId)
          fun _ => At [] P :=
        does_dropCapture hP
      exact hdrop.start fun ctx _ h => ⟨(h.2 backend rfl).2.2.1, h.1⟩

/-- An attempt that gives up has dropped what it has started. -/
theorem does_startProfile (hP : Open P) (hcheck : Checks checkpoint) (world : World)
    (hblank : runtime.Blank) (hgeneration : runtime.lifecycle.generation = generation)
    (profile : ResolvedProfile) (sink : RuntimeFaultSink) :
    Does (At [] fun ctx => P ctx ∧ ctx.Fresh sink.attemptId)
      (startProfile world checkpoint runtime profile sink) fun attempt =>
        At (looseOf (attemptedCapture attempt)) fun ctx =>
          (P ctx ∧ ctx.Ready sink (attemptedCapture attempt)) ∧ Attempted generation attempt := by
  have hfresh := hP.steady.and (steady_fresh sink.attemptId)
  have hgivesUp : ∀ (error : OperationError) (runtime : AppRuntimeState), runtime.Blank →
      Does (At [] P) (pure (Except.error error, runtime)) fun attempt =>
        At (looseOf (attemptedCapture attempt)) fun ctx =>
          (P ctx ∧ ctx.Ready sink (attemptedCapture attempt)) ∧ Attempted generation attempt :=
    fun error runtime hblank => Thread.Spec.pure (At.stable hP.steady) fun ctx h =>
      ⟨h.1, ⟨h.2, ctx.ready_none sink⟩, by rintro ⟨⟩, fun _ _ => hblank⟩
  have hbare : ({ runtime with capture := none, captureHealth := none, session := none } :
      AppRuntimeState).Blank :=
    ⟨rfl, rfl, rfl, hblank.preparedLegacy, hblank.captureState, hblank.daemonState,
      hblank.nextRetryAt⟩
  refine (hcheck [] _ hfresh).bind fun passed => ?_
  cases passed with
  | error error => exact (hgivesUp error runtime hblank).start fun _ _ h => h.1
  | ok _ =>
      refine (does_startBackend hP world profile sink).bind fun build => ?_
      have hbuild : Steady fun ctx => (P ctx ∧ ctx.Ready sink (builtCapture build)) ∧
          ∀ error, build = .error error → error.captureState ≠ .stopped :=
        (hP.steady.and (floating_ready sink _).steady).and (Steady.const _)
      refine (hcheck _ _ hbuild).bind fun passed => ?_
      cases passed with
      | error error =>
          refine (Does.start (does_dropBuild hP.framed build) fun _ _ h => h.1).bind fun _ => ?_
          exact hgivesUp error _ hbare
      | ok _ =>
          cases build with
          | error error =>
              simp only [applyCaptureAttemptErrorToState]
              split_ifs
              · exact (hgivesUp _ _ hbare).start fun _ _ h => h.1.1
              · refine Thread.Spec.pure (At.stable hbuild) fun ctx h => ?_
                have hbuilt := hbare.failed generation (h.2.2 error rfl) world.now
                exact ⟨h.1, ⟨h.2.1.1, ctx.ready_none sink⟩, fun _ => ⟨⟨hbuilt.owned.session,
                  hbuilt.owned.health, hbuilt.owned.running, hbuilt.owned.retry⟩, hbuilt.running,
                  hbuilt.preparedLegacy, hbuilt.settled, hbuilt.generation⟩, by rintro _ ⟨⟩⟩
          | ok backend =>
              refine (checks_firstFailure ?_ _ _ hbuild).bind fun checked => ?_
              · simp only [List.mem_cons, List.not_mem_nil, or_false, forall_eq_or_imp, forall_eq]
                exact ⟨hcheck, checks_pure _, checks_pure _, hcheck, checks_pure _, hcheck,
                  checks_pure _, hcheck⟩
              · cases checked with
                | error error =>
                    refine (Does.start (does_dropBuild hP.framed (.ok backend))
                      fun _ _ h => h.1).bind fun _ => ?_
                    exact hgivesUp error _ hbare
                | ok _ =>
                    refine Thread.Spec.pure (At.stable hbuild) fun ctx h => ⟨h.1, h.2.1, ?_⟩
                    refine ⟨fun _ => AppRuntimeState.built_capturing hblank.preparedLegacy
                      hgeneration profile backend, by rintro _ ⟨⟩⟩

/-- The runtime that a configuration is applied to was not used yet. -/
theorem does_applyLoadedAppConfig (hP : Open P) (hcheck : Checks checkpoint) (world : World)
    (beginAttemptGeneration : Bool) (loaded : LoadedAppConfig) (sink : RuntimeFaultSink) :
    Does (At [] fun ctx => P ctx ∧ ctx.Fresh sink.attemptId)
      (applyLoadedAppConfig world checkpoint beginAttemptGeneration (emptyRuntime .app) loaded sink)
      fun attempt => At (looseOf (attemptedCapture attempt)) fun ctx =>
        (P ctx ∧ ctx.Ready sink (attemptedCapture attempt)) ∧
          Attempted (if beginAttemptGeneration then 1 else 0) attempt := by
  have hfresh := hP.steady.and (steady_fresh sink.attemptId)
  have hvacant : ∀ (generation : ℕ) (runtime : AppRuntimeState), runtime.capture = none →
      runtime.Built generation →
      Does (At [] fun ctx => P ctx ∧ ctx.Fresh sink.attemptId) (pure (Except.ok (), runtime))
        fun attempt => At (looseOf (attemptedCapture attempt)) fun ctx =>
          (P ctx ∧ ctx.Ready sink (attemptedCapture attempt)) ∧ Attempted generation attempt := by
    intro generation runtime hcapture hbuilt
    refine Thread.Spec.pure (At.stable hfresh) fun ctx h => ?_
    simp only [attemptedCapture, hcapture]
    exact ⟨h.1, ⟨h.2.1, ctx.ready_none sink⟩, fun _ => hbuilt, by rintro _ ⟨⟩⟩
  have hgivesUp : ∀ (generation : ℕ) (error : OperationError) (runtime : AppRuntimeState),
      runtime.Blank →
      Does (At [] fun ctx => P ctx ∧ ctx.Fresh sink.attemptId) (pure (Except.error error, runtime))
        fun attempt => At (looseOf (attemptedCapture attempt)) fun ctx =>
          (P ctx ∧ ctx.Ready sink (attemptedCapture attempt)) ∧ Attempted generation attempt :=
    fun generation error runtime hblank => Thread.Spec.pure (At.stable hfresh) fun ctx h =>
      ⟨h.1, ⟨h.2.1, ctx.ready_none sink⟩, by rintro ⟨⟩, fun _ _ => hblank⟩
  have hstill : ∀ (generation : ℕ) (lifecycle : LifecycleState) (state : String)
      (lastError : Option String) (activeProfile : Option ResolvedProfile),
      lifecycle.daemonState ≠ .stopping → lifecycle.captureState ≠ .running →
      lifecycle.nextRetryAt = none →
      ((emptyRuntime .app).idle state lastError activeProfile lifecycle).Built generation :=
    fun _ _ _ _ _ hrunning hstate hnext => .of_vacant rfl rfl rfl rfl hrunning hstate fun _ => hnext
  unfold applyLoadedAppConfig
  cases loaded.state with
  | missing =>
      exact hvacant _ _ rfl (.of_vacant rfl rfl rfl rfl (by rintro ⟨⟩) (by rintro ⟨⟩)
        fun _ => rfl)
  | invalid =>
      exact hvacant _ _ rfl (.of_vacant rfl rfl rfl rfl (by rintro ⟨⟩) (by rintro ⟨⟩)
        fun _ => rfl)
  | loaded =>
      cases resolveActiveProfile loaded.config with
      | error error => exact hgivesUp _ error _ (blank_emptyRuntime .app)
      | ok profile =>
          cases profile with
          | none => exact hvacant _ _ rfl (hstill _ _ _ _ _ (by rintro ⟨⟩) (by rintro ⟨⟩) rfl)
          | some profile =>
              have hblank : ({ emptyRuntime .app with activeProfile := some profile } :
                  AppRuntimeState).Blank :=
                ⟨rfl, rfl, rfl, rfl, rfl, rfl, rfl⟩
              simp only
              by_cases hauto : loaded.config.startMode = "auto"
              · rw [if_pos hauto]
                cases beginAttemptGeneration with
                | false => exact does_startProfile hP hcheck world hblank rfl profile sink
                | true =>
                    simp only [↓reduceIte]
                    cases hbegin : (emptyRuntime .app).lifecycle.beginOperation with
                    | error error => exact hgivesUp _ error _ hblank
                    | ok begun =>
                        obtain ⟨generation, lifecycle⟩ := begun
                        obtain ⟨-, -, rfl, rfl⟩ := LifecycleState.beginOperation_eq_ok.mp hbegin
                        exact does_startProfile hP hcheck world
                          ⟨rfl, rfl, rfl, rfl, rfl, rfl, rfl⟩ rfl profile sink
              · rw [if_neg hauto]
                exact hvacant _ _ rfl (.of_vacant rfl rfl rfl rfl (by rintro ⟨⟩) (by rintro ⟨⟩)
                  fun _ => rfl)

end Profile

/-! ### Installing a candidate -/

section Candidate

variable {P : Context → Prop} {operationGeneration : Option ℕ} {token generation built : ℕ}
  {sink : RuntimeFaultSink} {detached : Bool} {loose : List ℕ}

theorem installs_app {candidate : AppRuntimeState} (hbuilt : candidate.Built built)
    (hstate : candidate.lifecycle.captureState = .running ∨
      candidate.lifecycle.captureState = .stopped) :
    Installs (installApp candidate) candidate.capture where
  capture _ _ _ := rfl
  owned _ _ _ := ⟨hbuilt.owned.session, hbuilt.owned.health, hbuilt.owned.running,
    hbuilt.owned.retry⟩
  running _ _ _ := hbuilt.running
  settled _ _ _ := hbuilt.settled hstate
  generation _ _ := rfl

/-- The configuration is saved while the operation is the current one. -/
theorem does_saveActivated (hP : Floating P) (world : World) (activate : Bool) :
    Does (At loose fun ctx => Unless (Context.Debt token generation) ctx ∧ P ctx)
      (saveActivated world token activate) fun saved =>
        At loose fun ctx => (Unless (Context.Debt token generation) ctx ∧ P ctx) ∧
          (saved = none → ctx.Over) := by
  have hbefore := (open_debt token generation).toFloating.and hP
  unfold saveActivated
  refine .ite (fun _ => ?_) fun _ => Does.done hbefore.steady fun _ _ h => ⟨h, by simp⟩
  refine (does_lockOperationAuthority hbefore).bind fun _ => ?_
  refine (does_operationIsCurrent_held hP.steady).bind fun current => ?_
  have hcurrent : Floating fun ctx => (Unless (Context.Debt token generation) ctx ∧ P ctx) ∧
      (current = false → ctx.Over) :=
    hbefore.and ⟨steady_over.imp, fun _ _ _ h => h⟩
  refine (Does.start (does_unlockOperationAuthority hcurrent) fun ctx _ h =>
    ⟨h.1.1, h.1.2, h.2.1⟩).bind fun _ => ?_
  refine Does.done hcurrent.steady fun ctx _ h => ⟨h.1, fun hnone => h.2 ?_⟩
  simpa using hnone

/-- A candidate that cannot be installed any more is dropped. -/
theorem does_dropCandidate_superseded (candidate : Option CaptureBackend) :
    Does (At (looseOf candidate) fun ctx => ctx.Ready sink candidate ∧ ctx.Over)
      (do dropCaptureThenSession candidate; supersededResponse)
      fun _ => At [] (Unless Context.Settled) :=
  (Does.start (does_dropCaptureThenSession framed_settled candidate) fun _ _ h =>
    ⟨h.1.apart, .inl h.2⟩).bind fun _ => does_supersededResponse framed_settled.steady

theorem does_dropCandidate_fail (world : World)
    (hgiven : ∀ given, operationGeneration = some given → given = generation)
    (candidate : Option CaptureBackend) (error : CaptureAttemptError) :
    Does (At (looseOf candidate) fun ctx =>
        ctx.Ready sink candidate ∧ ctx.Owing token generation detached)
      (do
        dropCaptureThenSession candidate
        commandAttemptFailureWithGeneration world token operationGeneration error (!detached))
      fun _ => At [] (Unless Context.Settled) :=
  (Does.start (does_dropCaptureThenSession (open_owing token generation detached).framed
    candidate) fun _ _ h => ⟨h.1.apart, h.2⟩).bind fun _ => does_fail world hgiven error

theorem does_installCandidate (world : World)
    (hgiven : ∀ given, operationGeneration = some given → given = generation)
    {candidate : AppRuntimeState} (hbuilt : candidate.Built built) (activate : Bool) :
    Does (At (looseOf candidate.capture) fun ctx =>
        (ctx.Owing token generation detached ∧
          ctx.SinkFor operationGeneration generation sink) ∧ ctx.Ready sink candidate.capture)
      (installCandidate world token operationGeneration candidate detached activate)
      fun _ => At [] (Unless Context.Settled) := by
  have hready : Floating fun ctx => (detached = true → ctx.runtime.capture = none) ∧
      ctx.SinkFor operationGeneration generation sink ∧ ctx.Ready sink candidate.capture :=
    open_vacant.imp.toFloating.and ((open_sinkFor _ _ sink).toFloating.and
      (floating_ready sink _))
  refine (Does.start (does_operationIsCurrent (looseOf candidate.capture) token generation
    hready.steady) fun ctx _ h => ⟨h.1.1.1, h.1.1.2, h.1.2, h.2⟩).bind fun current => ?_
  refine .ite (fun hcurrent => ?_) fun _ => ?_
  · exact (does_dropCandidate_superseded _).start fun ctx _ h => ⟨h.1.2.2.2, h.2 hcurrent⟩
  split
  · next hstate =>
      refine (Does.start (does_saveActivated hready world activate) fun _ _ h => h.1).bind
        fun saved => ?_
      cases saved with
      | none =>
          exact (does_dropCandidate_superseded _).start fun ctx _ h => ⟨h.1.2.2.2, h.2 rfl⟩
      | some saved =>
          cases saved with
          | error error =>
              exact (does_dropCandidate_fail world hgiven _ _).start fun ctx _ h =>
                ⟨h.1.2.2.2, h.1.1, h.1.2.1⟩
          | ok _ =>
              exact (does_publishInstalled hgiven (installs_app hbuilt hstate) detached).start
                fun ctx _ h => ⟨h.1.1, h.1.2.2.2, h.1.2.2.1, h.1.2.1⟩
  · exact (does_dropCandidate_fail world hgiven _ _).start fun ctx _ h =>
      ⟨h.1.2.2.2, h.1.1, h.1.2.1⟩

theorem does_installPreparedApp (world : World)
    (hgiven : ∀ given, operationGeneration = some given → given = generation)
    (loaded : LoadedAppConfig) (forceStart activate : Bool) :
    Does (At [] (Context.Owing token generation detached))
      (installPreparedApp world token operationGeneration loaded detached forceStart activate)
      fun _ => At [] (Unless Context.Settled) := by
  have hlook := does_operationIsCurrent [] token generation
    (open_vacant.imp (p := detached = true)).steady
  have hsuperseded : Does (At [] (Unless Context.Settled)) supersededResponse fun _ =>
      At [] (Unless Context.Settled) :=
    does_supersededResponse framed_settled.steady
  refine hlook.bind fun current => ?_
  refine .ite (fun hcurrent => ?_) fun _ => ?_
  · exact hsuperseded.start fun ctx _ h => .inl (h.2 hcurrent)
  refine (Does.start (does_runtimeFaultSinkForAttempt
    (open_vacant.imp (p := detached = true)).toFloating hgiven) fun _ _ h => h.1).bind
      fun result => ?_
  cases result with
  | error error => exact (does_fail world hgiven error).start fun _ _ h => h.1
  | ok sink =>
      have howing : Open fun ctx => ctx.Owing token generation detached ∧
          ctx.SinkFor operationGeneration generation sink :=
        (open_owing token generation detached).and (open_sinkFor _ _ sink)
      refine (Does.start (does_applyLoadedAppConfig howing (checks_currentCheckpoint token) world
        false (loaded.started forceStart) sink) fun ctx _ h =>
          ⟨⟨h.1, (h.2 sink rfl).1⟩, (h.2 sink rfl).2⟩).bind fun attempt => ?_
      obtain ⟨result, candidate⟩ := attempt
      cases result with
      | error error =>
          refine (Does.start hlook fun ctx _ h => h.1.1.1).bind fun current => ?_
          refine .ite (fun hcurrent => ?_) fun _ => ?_
          · exact hsuperseded.start fun ctx _ h => .inl (h.2 hcurrent)
          exact (does_fail world given_none _).start
            fun ctx _ h => h.1
      | ok _ =>
          by_cases hbuilt : candidate.Built 0
          · exact (does_installCandidate world hgiven hbuilt activate).start fun ctx _ h => h.1
          · exact Thread.Spec.absurd fun ctx h => hbuilt (h.2.2.built rfl)

theorem does_installPrepared (world : World)
    (hgiven : ∀ given, operationGeneration = some given → given = generation)
    (prepared : PreparedBootstrap) (forceStart activate : Bool) :
    Does (At [] (Context.Owing token generation detached))
      (installPrepared world token operationGeneration prepared detached forceStart activate)
      fun _ => At [] (Unless Context.Settled) := by
  have hlook := does_operationIsCurrent [] token generation
    (open_vacant.imp (p := detached = true)).steady
  have hsuperseded : Does (At [] (Unless Context.Settled)) supersededResponse fun _ =>
      At [] (Unless Context.Settled) :=
    does_supersededResponse framed_settled.steady
  refine hlook.bind fun current => ?_
  refine .ite (fun hcurrent => ?_) fun _ => ?_
  · exact hsuperseded.start fun ctx _ h => .inl (h.2 hcurrent)
  cases prepared with
  | legacy prepared =>
      refine (Does.start hlook fun ctx _ h => h.1).bind fun current => ?_
      refine .ite (fun hcurrent => ?_) fun _ => ?_
      · exact hsuperseded.start fun ctx _ h => .inl (h.2 hcurrent)
      exact (does_installPreparedLegacy world hgiven prepared).start fun _ _ h => h.1
  | app loaded =>
      exact (does_installPreparedApp world hgiven loaded forceStart activate).start
        fun _ _ h => h.1
  | faulted family message => exact (does_fail world hgiven _).start fun _ _ h => h.1

end Candidate

end Lamb.Daemon
