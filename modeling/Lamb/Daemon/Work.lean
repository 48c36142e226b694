import Lamb.Daemon.Install

/-!
What the operation worker does with a job. Each of the commands begins an operation and
settles what it owes in the end; a retry or a runtime fault that was overtaken changes
nothing.
-/

namespace Lamb.Daemon

open Lamb.Control (DaemonState CaptureState ErrorClass)
open Lamb.Lib

/-! ### Commands -/

section Commands

variable {ctx : Context} {token generation : ℕ}

theorem does_reloadDaemonConfig (world : World) (requestedProfile : Option String) :
    Does (At [] (Unless Context.Settled)) (reloadDaemonConfig world requestedProfile)
      fun _ => At [] (Unless Context.Settled) := by
  refine does_beginNewOperationGeneration.bind fun begun => ?_
  cases begun with
  | error error => exact does_commandFailureWithoutStateMutation framed_settled.steady error
  | ok operation =>
      have hgiven : ∀ given, some operation.generation = some given →
          given = operation.generation := fun given h => (Option.some.inj h).symm
      have hfail : ∀ error, Does (At [] (Unless (Context.Debt operation.token operation.generation)))
          (commandAttemptFailureWithGeneration world operation.token (some operation.generation)
            error true) fun _ => At [] (Unless Context.Settled) := fun error =>
        (does_commandAttemptFailureWithGeneration world hgiven error true).start
          fun ctx _ h => ⟨h, by rintro ⟨⟩⟩
      cases prepareConfigFromDisk world requestedProfile with
      | error error => exact hfail error
      | ok candidate =>
          refine (Does.start (does_operationIsCurrent [] operation.token operation.generation
            (Steady.const True)) fun ctx _ h => ⟨h, trivial⟩).bind fun current => ?_
          refine .ite (fun hcurrent => ?_) fun _ => ?_
          · exact (does_supersededResponse framed_settled.steady).start
              fun ctx _ h => .inl (h.2 hcurrent)
          cases validateCandidateSocket world candidate with
          | error error => exact (hfail error).start fun ctx _ h => h.1.1
          | ok _ =>
              exact (does_installPrepared world hgiven candidate.prepared false false).start
                fun ctx _ h => ⟨h.1.1, by rintro ⟨⟩⟩

/-- What is known after an attempt to take out the old capture for a start. -/
def AfterDetach (token generation : ℕ) : Option (Option CaptureBackend) → Context → Prop
  | none, ctx => ctx.Held ∧ Unless Context.Settled ctx
  | some old, ctx => ctx.Held ∧ old = none ∧ ctx.Owing token generation true

theorem steady_afterDetach (token generation : ℕ) (detached : Option (Option CaptureBackend)) :
    Steady (AfterDetach token generation detached) := by
  cases detached with
  | none => exact steady_held.and framed_settled.steady
  | some old => exact steady_held.and ((Steady.const _).and (open_owing _ _ _).steady)

/-- What is owed does not depend on the runtime once it has no capture. -/
theorem Context.Debt.detached {runtime : AppRuntimeState}
    (hgeneration : runtime.lifecycle.generation =
      ctx.runtime.lifecycle.generation) (hhealth : runtime.captureHealth = none)
    (h : ctx.Debt token generation) : (ctx.setRuntime runtime).Debt token generation := by
  obtain ⟨hepoch, ⟨hsame, hscheduled, -⟩, hnoRetry⟩ := h
  refine ⟨hepoch, ⟨hgeneration.trans hsame, hscheduled, fun _ attemptId hsome => ?_⟩, hnoRetry⟩
  rw [show (ctx.setRuntime runtime).runtime.captureHealth = none from hhealth] at hsome
  cases hsome

theorem does_detachForStart (requestedProfile : Option String) :
    Does (At [] fun ctx => ctx.Holds token ∧ ctx.Owing token generation true)
      (Thread.atomic runtimeFree fun ctx => ctx.detachForStart generation requestedProfile)
      fun detached => At [] (AfterDetach token generation detached) := by
  refine Does.step ((steady_holds token).and (open_owing token generation true).steady)
    (steady_afterDetach token generation) fun ctx hown hctx _ => ?_
  obtain ⟨hholds, hdebt, hvacant⟩ := hctx
  have hvacant := hvacant rfl
  unfold Context.detachForStart
  simp only
  split_ifs with hsame
  · have hinv : (ctx.setRuntime { ctx.runtime.detached with
        lifecycle := ctx.runtime.lifecycle.markStarting
          (requestedProfile.or ctx.runtime.lifecycle.activeProfile) }).Inv :=
      hown.inv.setRuntime (by rintro ⟨⟩) le_rfl
        (.of_vacant rfl rfl rfl (by rintro ⟨⟩)) (by rintro _ ⟨⟩)
    refine ⟨workerStep_setRuntime hinv hholds.2.1 le_rfl, ⟨hinv, hown.runtimeLock, ?_⟩, hholds.1,
      hvacant,
      hdebt.imp (ctx.over_setRuntime le_rfl) fun hdebt => hdebt.detached rfl rfl, fun _ => rfl⟩
    intro attemptId hlive
    exact absurd (hlive.symm.trans (hown.no_live hvacant attemptId)) (by simp)
  · refine ⟨.refl ctx, hown, hholds.1, .inl ?_⟩
    rcases hdebt with hover | hdebt
    · exact hover
    · exact (hsame hdebt.2.1.1).elim

theorem does_startDetached (world : World) (operation : BegunOperation) (candidate : Bootstrap)
    (requestedProfile : Option String) (activate : Bool) :
    Does (At [] (Context.Owing operation.token operation.generation true))
      (startDetached world operation candidate requestedProfile activate)
      fun _ => At [] (Unless Context.Settled) := by
  have hgiven : ∀ given, some operation.generation = some given → given = operation.generation :=
    fun given h => (Option.some.inj h).symm
  refine (does_lockOperationAuthority (open_owing _ _ true).toFloating).bind fun _ => ?_
  refine (does_operationIsCurrent_held steady_vacant.imp).bind fun current => ?_
  refine .ite (fun hcurrent => ?_) fun hcurrent => ?_
  · exact does_unlock_superseded.start fun ctx _ h => ⟨h.1.1, .inl (h.2.1 hcurrent)⟩
  refine (Does.start (does_detachForStart requestedProfile) fun ctx _ h =>
    ⟨h.2.2 (by simpa using hcurrent), h.1.2⟩).bind fun detached => ?_
  cases detached with
  | none => exact does_unlock_superseded
  | some old =>
      have howing := open_owing operation.token operation.generation true
      have hold : Floating fun ctx => old = none ∧
          ctx.Owing operation.token operation.generation true :=
        ⟨(Steady.const _).and howing.steady, fun ctx authority nextAttempt h =>
          ⟨h.1, howing.control ctx authority nextAttempt h.2⟩⟩
      refine (does_unlockOperationAuthority hold).bind fun _ => ?_
      cases old with
      | some backend => exact Thread.Spec.absurd fun ctx h => by cases h.2.1
      | none =>
          have hnothing : Does (At [] fun ctx => (none : Option CaptureBackend) = none ∧
              ctx.Owing operation.token operation.generation true) (dropCaptureThenSession none)
              fun _ => At [] (Context.Owing operation.token operation.generation true) :=
            Does.done hold.steady fun _ _ h => h.2
          refine hnothing.bind fun _ => ?_
          refine (does_operationIsCurrent [] operation.token operation.generation
            steady_vacant.imp).bind fun current => ?_
          refine .ite (fun hcurrent => ?_) fun _ => ?_
          · exact (does_supersededResponse framed_settled.steady).start
              fun ctx _ h => .inl (h.2 hcurrent)
          refine (Does.start (does_installPrepared world hgiven candidate.prepared true activate)
            fun _ _ h => h.1).bind fun response => ?_
          exact Does.done framed_settled.steady fun _ _ h => h

theorem does_startCaptureTransaction (world : World) (requestedProfile : Option String)
    (activate : Bool) :
    Does (At [] (Unless Context.Settled))
      (startCaptureTransaction world requestedProfile activate)
      fun _ => At [] (Unless Context.Settled) := by
  refine does_beginNewOperationGeneration.bind fun begun => ?_
  cases begun with
  | error error => exact does_commandFailureWithoutStateMutation framed_settled.steady error
  | ok operation =>
      have hgiven : ∀ given, some operation.generation = some given →
          given = operation.generation := fun given h => (Option.some.inj h).symm
      have hdebt := open_debt operation.token operation.generation
      have howing := open_owing operation.token operation.generation true
      refine (does_lockOperationAuthority hdebt.toFloating).bind fun _ => ?_
      refine (Does.start (does_operationIsCurrent_held (Steady.const True))
        fun ctx _ h => ⟨h.1, h.2, trivial⟩).bind fun current => ?_
      refine .ite (fun hcurrent => ?_) fun hcurrent => ?_
      · exact does_unlock_superseded.start fun ctx _ h => ⟨h.1.1, .inl (h.2.1 hcurrent)⟩
      refine (Does.start does_currentCaptureIsRunning fun ctx _ h =>
        ⟨h.2.2 (by simpa using hcurrent), h.1.2.1⟩).bind fun running => ?_
      refine .ite (fun hrunning => ?_) fun hrunning => ?_
      · -- the capture runs, and nothing is to be done
        refine (Does.start (does_operationIsCurrent_held framed_settled.steady)
          fun ctx _ h => ⟨h.1.1.1, h.1.2, h.2.1 hrunning⟩).bind fun current => ?_
        refine .ite (fun _ => ?_) fun _ => ?_
        · exact does_unlock_superseded.start fun ctx _ h => ⟨h.1.1, h.1.2.2⟩
        have hsettled := steady_held.and framed_settled.steady
        refine (Does.start (Does.lookRuntime hsettled (fun _ => hsettled) fun _ _ h => h)
          fun ctx _ h => ⟨h.1.1, h.1.2.2⟩).bind fun _ => ?_
        exact (does_unlockOperationAuthority floating_settled).bind fun _ =>
          Does.done framed_settled.steady fun _ _ h => h
      refine (Does.start (does_unlockOperationAuthority howing.toFloating) fun ctx _ h =>
        ⟨h.1.1.1, h.1.2, fun _ => h.2.2 (by simpa using hrunning)⟩).bind fun _ => ?_
      have hfail : ∀ error, Does (At [] (Context.Owing operation.token operation.generation true))
          (commandAttemptFailureWithGeneration world operation.token (some operation.generation)
            error false) fun _ => At [] (Unless Context.Settled) :=
        fun error => does_fail world hgiven error
      cases prepareConfigFromDisk world requestedProfile with
      | error error => exact hfail error
      | ok candidate =>
          refine (does_operationIsCurrent [] operation.token operation.generation
            steady_vacant.imp).bind fun current => ?_
          refine .ite (fun hcurrent => ?_) fun _ => ?_
          · exact (does_supersededResponse framed_settled.steady).start
              fun ctx _ h => .inl (h.2 hcurrent)
          cases validateCandidateSocket world candidate with
          | error error => exact (hfail error).start fun _ _ h => h.1
          | ok _ =>
              exact (does_startDetached world operation candidate requestedProfile
                activate).start fun _ _ h => h.1

/-- What is known after an attempt to take out the capture for a stop. -/
def AfterStop : Option (Option CaptureBackend) → Context → Prop
  | none, ctx => ctx.Held ∧ Unless Context.Settled ctx
  | some old, ctx => ctx.Held ∧ ctx.Apart old ∧ Unless Context.Settled ctx

theorem steady_afterStop (detached : Option (Option CaptureBackend)) :
    Steady (AfterStop detached) := by
  cases detached with
  | none => exact steady_held.and framed_settled.steady
  | some old => exact steady_held.and ((open_apart old).steady.and framed_settled.steady)

/-- The captures the worker holds once the old one is taken out. -/
def looseDetached : Option (Option CaptureBackend) → List ℕ
  | none => []
  | some old => looseOf old

/-- The worker takes the capture out of the runtime. -/
theorem Own.detach (hown : Own [] ctx) {runtime : AppRuntimeState}
    (hinv : (ctx.setRuntime runtime).Inv) :
    Own (looseOf ctx.runtime.capture) (ctx.setRuntime runtime) := by
  refine ⟨hinv, hown.runtimeLock, fun attemptId hlive => .inr ?_⟩
  rcases hown.loose attemptId hlive with ⟨backend, hcapture, rfl⟩ | hmem
  · rw [hcapture]
    exact List.mem_singleton_self _
  · cases hmem

/-- Nothing is installed that could be the one that was taken out. -/
theorem Context.apart_of_vacant (hvacant : ctx.runtime.capture = none)
    (old : Option CaptureBackend) : ctx.Apart old := by
  intro attemptId _ backend hcapture
  rw [hvacant] at hcapture
  cases hcapture

theorem does_detachForStop :
    Does (At [] fun ctx => ctx.Holds token ∧ Unless (Context.Debt token generation) ctx)
      (Thread.atomic runtimeFree fun ctx => ctx.detachForStop generation)
      fun detached => At (looseDetached detached) (AfterStop detached) := by
  refine Does.step ((steady_holds token).and (open_debt token generation).steady)
    steady_afterStop fun ctx hown hctx _ => ?_
  obtain ⟨hholds, hdebt⟩ := hctx
  unfold Context.detachForStop
  split_ifs with hsame
  · have hinv : (ctx.setRuntime ctx.runtime.stopped).Inv :=
      hown.inv.setRuntime (by rintro ⟨⟩) le_rfl
        (.of_vacant rfl rfl rfl (by rintro ⟨⟩)) (by rintro _ ⟨⟩)
    refine ⟨workerStep_setRuntime hinv hholds.2.1 le_rfl, hown.detach hinv, hholds.1,
      Context.apart_of_vacant rfl _, hdebt.imp (ctx.over_setRuntime le_rfl) fun hdebt => ?_⟩
    have hafter : (ctx.setRuntime ctx.runtime.stopped).Debt token generation :=
      hdebt.detached rfl rfl
    exact hafter.settled rfl
  · refine ⟨.refl ctx, hown, hholds.1, .inl ?_⟩
    rcases hdebt with hover | hdebt
    · exact hover
    · exact (hsame hdebt.2.1.1).elim

theorem does_stopCaptureTransaction :
    Does (At [] (Unless Context.Settled)) stopCaptureTransaction
      fun _ => At [] (Unless Context.Settled) := by
  refine does_beginNewOperationGeneration.bind fun begun => ?_
  cases begun with
  | error error => exact does_commandFailureWithoutStateMutation framed_settled.steady error
  | ok operation =>
      refine (does_lockOperationAuthority (open_debt _ _).toFloating).bind fun _ => ?_
      refine (Does.start (does_operationIsCurrent_held (Steady.const True))
        fun ctx _ h => ⟨h.1, h.2, trivial⟩).bind fun current => ?_
      refine .ite (fun hcurrent => ?_) fun hcurrent => ?_
      · exact does_unlock_superseded.start fun ctx _ h => ⟨h.1.1, .inl (h.2.1 hcurrent)⟩
      refine (Does.start does_detachForStop fun ctx _ h =>
        ⟨h.2.2 (by simpa using hcurrent), h.1.2.1⟩).bind fun detached => ?_
      cases detached with
      | none => exact does_unlock_superseded
      | some old =>
          have hold : Floating fun ctx => ctx.Apart old ∧ Unless Context.Settled ctx :=
            (open_apart old).toFloating.and floating_settled
          refine (Does.lookRuntime (steady_held.and hold.steady)
            (fun _ => steady_held.and hold.steady) fun _ _ h => h).bind fun _ => ?_
          exact (does_unlockOperationAuthority hold).bind fun _ =>
            (does_dropCaptureThenSession framed_settled old).bind fun _ =>
              Does.done framed_settled.steady fun _ _ h => h

end Commands

/-! ### Scheduled operations -/

/-- A fact that only counts while the runtime is in a certain way. -/
theorem Fact.given {F : Context → Prop} (p : AppRuntimeState → Prop) (h : Fact F) :
    Fact fun ctx => p ctx.runtime → F ctx where
  requests ctx ctx' hF hepoch hruntime hscheduler hcaptures hhealths hstrays hqueue := by
    rw [hruntime]
    exact fun hp => h.requests ctx ctx' (hF hp) hepoch hruntime hscheduler hcaptures hhealths
      hstrays hqueue
  scheduler ctx ctx' hinv hstep hF := by
    rw [(hstep.same hinv).runtime]
    exact fun hp => h.scheduler ctx ctx' hinv hstep (hF hp)
  captures ctx ctx' hinv hover hstep hF := by
    rw [hstep.same.runtime]
    exact fun hp => h.captures ctx ctx' hinv hover hstep (hF hp)

/-- What the worker knows when it has taken a retry from the lane: if it is of the current
generation, then there is no capture and no other retry of it, and if not then all is settled. -/
def Context.Retries (generation : ℕ) (ctx : Context) : Prop :=
  (ctx.runtime.lifecycle.generation = generation →
    (ctx.Attentive none generation ∧ ctx.NoRetry generation) ∧ ctx.runtime.capture = none) ∧
  (ctx.runtime.lifecycle.generation ≠ generation → ctx.Settled)

theorem fact_retries (generation : ℕ) : Fact (Context.Retries generation) :=
  (Fact.given (fun runtime => runtime.lifecycle.generation = generation)
    (((fact_attentive none generation).and (fact_noRetry generation)).and
      (Fact.runtime fun _ runtime => runtime.capture = none))).and
    (Fact.given (fun runtime => runtime.lifecycle.generation ≠ generation) fact_settled)

/-- What it knows when it has taken a fault of a capture from the lane: if that is the
installed one then its fault may have been the one it was listened to for. -/
def Context.Overdue (generation attemptId : ℕ) (ctx : Context) : Prop :=
  ctx.Paired ∧
  (ctx.runtime.lifecycle.generation = generation →
    ctx.Attentive (some attemptId) generation) ∧
  (ctx.runtime.lifecycle.generation ≠ generation → ctx.Settled)

theorem fact_overdue (generation attemptId : ℕ) : Fact (Context.Overdue generation attemptId) :=
  fact_paired.and ((Fact.given (fun runtime => runtime.lifecycle.generation = generation)
    (fact_attentive (some attemptId) generation)).and
      (Fact.given (fun runtime => runtime.lifecycle.generation ≠ generation) fact_settled))

section Scheduled

variable {P : Context → Prop} {token generation attemptId : ℕ}

/-- What a decision says about the generation of the runtime. -/
def Context.Decided (generation : ℕ) (decision : ScheduledGenerationDecision) (ctx : Context) :
    Prop :=
  Unless (fun ctx => decision = .current ∧ ctx.runtime.lifecycle.generation = generation ∨
    decision = .stale ∧ ctx.runtime.lifecycle.generation ≠ generation) ctx

theorem floating_decided (generation : ℕ) (decision : ScheduledGenerationDecision) :
    Floating (Context.Decided generation decision) :=
  ⟨(Fact.runtime fun _ runtime => decision = .current ∧
      runtime.lifecycle.generation = generation ∨
    decision = .stale ∧ runtime.lifecycle.generation ≠ generation).steady, fun _ _ _ h => h⟩

theorem does_scheduledGenerationDecision (hP : Floating P) :
    Does (At [] P) (scheduledGenerationDecision generation) fun decision =>
      At [] fun ctx => P ctx ∧ ctx.Decided generation decision := by
  have hdecided := fun decision => hP.and (floating_decided generation decision)
  refine (does_lockOperationAuthority hP).bind fun _ => ?_
  refine (Does.lookRuntime (Q := fun decision ctx =>
    ctx.Held ∧ P ctx ∧ ctx.Decided generation decision) (steady_held.and hP.steady)
    (fun decision => steady_held.and (hdecided decision).steady)
    fun ctx hown hctx => ⟨hctx.1, hctx.2, ?_⟩).bind fun decision => ?_
  · split_ifs with hstopped hsame
    · exact .inl (.inl (.inl (hown.inv.stopped hstopped)))
    · exact .inr (.inl ⟨rfl, hsame⟩)
    · exact .inr (.inr ⟨rfl, hsame⟩)
  · exact (does_unlockOperationAuthority (hdecided decision)).bind fun _ =>
      Does.done (hdecided decision).steady fun _ _ h => h

theorem Context.Decided.current {ctx : Context} {decision : ScheduledGenerationDecision}
    (h : ctx.Decided generation decision) (hdecision : decision = .current) :
    Unless (fun ctx => ctx.runtime.lifecycle.generation = generation) ctx := by
  subst hdecision
  exact h.mono fun h => by simpa using h

theorem Context.Decided.stale {ctx : Context} {decision : ScheduledGenerationDecision}
    (h : ctx.Decided generation decision) (hdecision : decision ≠ .current) :
    Unless (fun ctx => ctx.runtime.lifecycle.generation ≠ generation) ctx :=
  h.mono fun h => h.elim (fun h => (hdecision h.1).elim) fun h => h.2

/-- What is owed once a retry has begun. -/
def Context.Retrying (token generation : ℕ) (ctx : Context) : Prop :=
  Unless (Context.Debt token generation) ctx ∧
    Unless (fun ctx => ctx.runtime.capture = none) ctx

theorem floating_retrying (token generation : ℕ) : Floating (Context.Retrying token generation) :=
  (open_debt token generation).toFloating.and
    ⟨(Fact.runtime fun _ runtime => runtime.capture = none).steady, fun _ _ _ h => h⟩

/-- What is known after an attempt to begin a retry: an error that is not fatal is that of a
daemon that stops. -/
def AfterCommand (generation : ℕ) : Except CaptureAttemptError ℕ → Context → Prop
  | .error error, ctx => error.errorClass = .fatal ∨ ctx.Over
  | .ok token, ctx => ctx.Retrying token generation

theorem floating_afterCommand (generation : ℕ) (begun : Except CaptureAttemptError ℕ) :
    Floating (AfterCommand generation begun) := by
  cases begun with
  | error error =>
      refine ⟨fun ctx ctx' hinv hstep h => ?_, fun _ _ _ h => h⟩
      exact h.imp id (steady_over ctx ctx' hinv hstep)
  | ok token => exact floating_retrying token generation

/-- What is known once the worker has tried to take the next epoch. -/
def AfterEpoch (generation : ℕ) : Option ℕ → Context → Prop
  | none, _ => True
  | some token, ctx => ctx.Retrying token generation

theorem floating_afterEpoch (generation : ℕ) (token : Option ℕ) :
    Floating (AfterEpoch generation token) := by
  cases token with
  | none => exact ⟨Steady.const True, fun _ _ _ h => h⟩
  | some token => exact floating_retrying token generation

theorem does_beginCommandOperation :
    Does (At [] fun ctx => Unless (fun ctx => (ctx.Attentive none generation ∧
        ctx.NoRetry generation) ∧ ctx.runtime.capture = none) ctx)
      beginCommandOperation fun begun => At [] (AfterCommand generation begun) := by
  have hbefore : Floating fun ctx => Unless (fun ctx => (ctx.Attentive none generation ∧
      ctx.NoRetry generation) ∧ ctx.runtime.capture = none) ctx :=
    ⟨(((fact_attentive none generation).and (fact_noRetry generation)).and
      (Fact.runtime fun _ runtime => runtime.capture = none)).steady, fun _ _ _ h => h⟩
  refine (does_lockOperationAuthority hbefore).bind fun _ => ?_
  refine (Does.look (Q := fun stop ctx => (ctx.Held ∧ Unless (fun ctx =>
    (ctx.Attentive none generation ∧ ctx.NoRetry generation) ∧ ctx.runtime.capture = none) ctx) ∧
      (stop = true → ctx.stop = true)) (steady_held.and hbefore.steady)
    (fun stop => (steady_held.and hbefore.steady).and steady_stop.imp)
    fun ctx _ hctx => ⟨hctx, id⟩).bind fun stop => ?_
  refine .ite (fun hstop => ?_) fun _ => ?_
  · refine (Does.start (does_unlockOperationAuthority
      (floating_afterCommand generation (.error shutdownAttemptError))) fun ctx _ h =>
        ⟨h.1.1, .inr (.inl (.inl (h.2 hstop)))⟩).bind fun _ => ?_
    exact Does.done (floating_afterCommand generation (.error shutdownAttemptError)).steady
      fun _ _ h => h
  refine (Does.step (l := fun _ => []) (Q := fun token ctx =>
    ctx.Held ∧ AfterEpoch generation token ctx) ((steady_held.and hbefore.steady).and
      steady_stop.imp) (fun token => steady_held.and (floating_afterEpoch generation token).steady)
    fun ctx hown hctx _ => ?_).bind fun token => ?_
  · cases hnext : checkedAdd ctx.operationEpoch 1 with
    | none =>
        simp only
        exact ⟨.refl ctx, hown, hctx.1.1, trivial⟩
    | some token =>
        simp only
        have hinv : Context.Inv { ctx with operationEpoch := token } :=
          hown.inv.controlled hown.inv.runtimeLock id le_rfl
        refine ⟨⟨fun _ => hinv, id, .rfl, .rfl, fun hstop => ⟨hstop, rfl, rfl, rfl⟩, rfl, le_rfl⟩,
          ⟨hinv, hown.runtimeLock, hown.loose⟩, hctx.1.1, ?_, ?_⟩
        · exact hctx.1.2.imp id fun h => ⟨rfl, h.1⟩
        · exact hctx.1.2.imp id fun h => h.2
  · refine (does_unlockOperationAuthority (floating_afterEpoch generation token)).bind fun _ => ?_
    cases token with
    | none => exact Does.done (Steady.const True) fun _ _ _ => .inl rfl
    | some token => exact Does.done (floating_retrying token generation).steady fun _ _ h => h

/-- An operation that has begun goes on until a stop. -/
theorem does_retryGoesOn :
    Does (At [] (Context.Retrying token generation)) (retryGoesOn generation token) fun goesOn =>
      At [] fun ctx => ctx.Retrying token generation ∧ (goesOn = false → ctx.Over) := by
  have hretrying := floating_retrying token generation
  refine (does_scheduledGenerationDecision hretrying).bind fun decision => ?_
  have hdecided := hretrying.and (floating_decided generation decision)
  refine (Does.look (Q := fun current ctx => ctx.Retrying token generation ∧
    (decision ≠ .current ∨ current = false → ctx.Over)) hdecided.steady
    (fun current => hretrying.steady.and steady_over.imp) fun ctx _ hctx => ⟨hctx.1, ?_⟩).bind
      fun current => ?_
  · rintro (hdecision | hcurrent)
    · rcases (hctx.2.stale hdecision).and hctx.1.1 with hover | ⟨hother, hdebt⟩
      · exact hover
      · exact (hother hdebt.2.1.1).elim
    · exact hctx.1.1.over_of_superseded hcurrent
  · refine Does.done (hretrying.steady.and steady_over.imp) fun ctx _ h => ⟨h.1, fun hnot => h.2 ?_⟩
    cases hdecision : decision with
    | current => exact .inr (by simpa [hdecision] using hnot)
    | stale => exact .inl (by simp)
    | terminalized => exact .inl (by simp)

/-- A retry that was overtaken changes nothing; any other settles what it owes. -/
theorem does_executeRetryOperation (world : World) :
    Does (At [] (Unless (Context.Retries generation))) (executeRetryOperation world generation)
      fun _ => At [] (Unless Context.Settled) := by
  have hretries : Floating (Unless (Context.Retries generation)) :=
    ⟨(fact_retries generation).steady, fun _ _ _ h => h⟩
  have hsettled := framed_settled.steady
  have hquits : Does (At [] fun ctx => ctx.Over) (pure ())
      fun _ => At [] (Unless Context.Settled) :=
    Does.done steady_over fun _ _ h => .inl h
  refine (does_scheduledGenerationDecision hretries).bind fun decision => ?_
  refine .ite (fun hdecision => ?_) fun hdecision => ?_
  · refine Does.done (hretries.and (floating_decided generation decision)).steady fun ctx _ h => ?_
    exact (h.1.and (h.2.stale hdecision)).mono fun h => h.1.2 h.2
  refine (Does.start does_beginCommandOperation fun ctx _ h =>
    (h.1.and (h.2.current (by simpa using hdecision))).mono fun h => h.1.1 h.2).bind fun begun => ?_
  cases begun with
  | error error =>
      simp only
      refine .ite (fun _ => ?_) fun hnot => ?_
      · exact (does_signalFatal error.message).weaken (fun _ _ _ => trivial) fun _ _ _ => .inl
      · exact hquits.start fun ctx _ h => h.resolve_left hnot
  | ok token =>
      have hfail : ∀ error, Does (At [] (Context.Retrying token generation))
          (do
            let response ← commandAttemptFailure world token error false
            signalFatalResponse response)
          fun _ => At [] (Unless Context.Settled) := fun error =>
        (Does.start (does_commandAttemptFailureWithGeneration world given_none error false)
          fun ctx _ h => ⟨h.1, fun _ => ⟨by rintro _ ⟨⟩, h.2⟩⟩).bind
            fun response => does_signalFatalResponse response
      refine does_retryGoesOn.bind fun goesOn => ?_
      refine .ite (fun hnot => ?_) fun _ => ?_
      · exact hquits.start fun ctx _ h => h.2 hnot
      cases prepareConfigFromDisk world none with
      | error error => exact (hfail error).start fun _ _ h => h.1
      | ok candidate =>
          refine (Does.start does_retryGoesOn fun _ _ h => h.1).bind fun goesOn => ?_
          refine .ite (fun hnot => ?_) fun _ => ?_
          · exact hquits.start fun ctx _ h => h.2 hnot
          cases validateCandidateSocket world candidate with
          | error error => exact (hfail error).start fun _ _ h => h.1
          | ok _ =>
              refine (Does.start does_retryGoesOn fun _ _ h => h.1).bind fun goesOn => ?_
              refine .ite (fun hnot => ?_) fun _ => ?_
              · exact hquits.start fun ctx _ h => h.2 hnot
              exact (Does.start (does_installPrepared world given_none candidate.prepared
                true false) fun ctx _ h => ⟨h.1.1, by rintro ⟨⟩⟩).bind
                  fun response => does_signalFatalResponse response

end Scheduled

/-! ### Runtime faults -/

section Fault

variable {ctx : Context} {generation attemptId : ℕ}

/-- What is known after an attempt to take a fault: a retry is to be announced for it. -/
def AfterFault (generation : ℕ) : Option (Option CaptureBackend × Option ℕ) → Context → Prop
  | none, ctx => ctx.Held ∧ Unless Context.Settled ctx
  | some (old, due), ctx =>
      ctx.Apart old ∧ due ≠ none ∧ ctx.Announceable true generation due fun _ => True

theorem steady_afterFault (generation : ℕ) (taken : Option (Option CaptureBackend × Option ℕ)) :
    Steady (AfterFault generation taken) := by
  cases taken with
  | none => exact steady_held.and framed_settled.steady
  | some taken =>
      exact (open_apart taken.1).steady.and ((Steady.const _).and (steady_announceable _ _ _ _))

def looseFault : Option (Option CaptureBackend × Option ℕ) → List ℕ
  | none => []
  | some (old, _) => looseOf old

/-- A fault that is not taken was not one of the installed capture. -/
theorem Context.Overdue.settled (h : ctx.Overdue generation attemptId)
    (hother : ¬(ctx.runtime.lifecycle.generation = generation ∧
      (ctx.runtime.captureHealth.bind ctx.healths).bind PipeWireHealth.attemptId =
        some attemptId)) : ctx.Settled := by
  by_cases hsame : ctx.runtime.lifecycle.generation = generation
  · obtain ⟨hgeneration, hscheduled, hattended⟩ := h.2.1 hsame
    refine ⟨⟨rfl, hscheduled.trans hsame.symm, fun hzero installed hinstalled => ?_⟩, h.1⟩
    rw [hsame]
    obtain ⟨health, hhealth, hbound, hdue⟩ := hattended hzero installed hinstalled
    refine ⟨health, hhealth, hbound, fun _ => hdue fun hskip => hother ⟨hsame, ?_⟩⟩
    obtain rfl := Option.some.inj hskip
    simp [hinstalled, hhealth, PipeWireHealth.attemptId, hbound.faultSink]
  · exact h.2.2 hsame

theorem does_takeFault (fault : RuntimeCaptureFault) (now : ℕ) :
    Does (At [] fun ctx => ctx.Found true false ∧
        Unless (Context.Overdue generation attemptId) ctx)
      (Thread.atomic runtimeFree fun ctx => ctx.takeFault generation attemptId fault now)
      fun taken => At (looseFault taken) (AfterFault generation taken) := by
  refine Does.step ((steady_found true false).and (fact_overdue generation attemptId).steady)
    (steady_afterFault generation) fun ctx hown hctx _ => ?_
  obtain ⟨⟨hheld, hstop⟩, hoverdue⟩ := hctx
  unfold Context.takeFault
  simp only
  split_ifs with htaken
  · obtain ⟨hsame, hattached⟩ := htaken
    have hsome : ctx.runtime.captureHealth ≠ none := by
      intro hnone
      simp [hnone] at hattached
    have hcapture : ctx.runtime.capture ≠ none := fun hnone =>
      hsome (hown.inv.captureHealth_eq_none hnone)
    have hnext : ctx.runtime.lifecycle.nextRetryAt = none := by
      by_contra hretry
      exact hcapture (hown.inv.owned.retry hretry)
    have hinv : (ctx.setRuntime (ctx.runtime.faultedBy fault now)).Inv := by
      refine hown.inv.setRuntime ?_ ?_ (.of_vacant rfl rfl rfl ?_) (by rintro _ ⟨⟩)
      · rintro ⟨⟩
      · exact le_rfl
      · cases fault with
        | deviceDisconnected message => rintro ⟨⟩
        | backendFault message => rintro ⟨⟩
    refine ⟨workerStep_setRuntime hinv hstop le_rfl, hown.detach hinv,
      Context.apart_of_vacant rfl _, ?_, ⟨hheld, ⟨rfl, hsame, rfl⟩, trivial⟩,
      hoverdue.imp (ctx.over_setRuntime le_rfl) fun hoverdue => ?_⟩
    · exact fun hnone => by cases hnone
    · have hpaired := hoverdue.1
      unfold Context.Paired at hpaired
      rw [hnext] at hpaired
      exact hsame ▸ hpaired
  · exact ⟨.refl ctx, hown, hheld, hoverdue.mono fun h => h.settled htaken⟩

theorem framed_announceable (held : Bool) (generation : ℕ) (due : Option ℕ)
    (R : AppRuntimeState → Prop) : Framed (Context.Announceable held generation due R) where
  steady := steady_announceable held generation due R
  others ctx attemptId thread health _ _ _ h := by
    refine ⟨⟨?_, h.1.2⟩, h.2⟩
    cases held with
    | true => exact h.1.1
    | false => exact h.1.1

/-- A fault of the installed capture is answered by a retry; any other changes nothing. -/
theorem does_publishRuntimeFault (world : World) (fault : RuntimeCaptureFault) :
    Does (At [] (Unless (Context.Overdue generation attemptId)))
      (publishRuntimeFault world generation attemptId fault)
      fun _ => At [] (Unless Context.Settled) := by
  have hoverdue : Floating (Unless (Context.Overdue generation attemptId)) :=
    ⟨(fact_overdue generation attemptId).steady, fun _ _ _ h => h⟩
  refine (does_scheduledGenerationDecision hoverdue).bind fun decision => ?_
  refine .ite (fun hdecision => ?_) fun _ => ?_
  · refine Does.done (hoverdue.and (floating_decided generation decision)).steady fun ctx _ h => ?_
    exact (h.1.and (h.2.stale hdecision)).mono fun h => h.1.2.2 h.2
  refine (Does.start (does_lockOperationAuthority hoverdue) fun _ _ h => h.1).bind fun _ => ?_
  refine (Does.look (steady_held.and hoverdue.steady)
    (fun stop => (steady_found true stop).and hoverdue.steady)
    fun ctx _ h => ⟨⟨h.1, rfl⟩, h.2⟩).bind fun stop => ?_
  refine .ite (fun hstop => ?_) fun hstop => ?_
  · exact (does_unlockOperationAuthority floating_settled).start
      fun ctx _ h => ⟨h.1.1, .inl (.inl (.inl (h.1.2.trans hstop)))⟩
  obtain rfl : stop = false := by simpa using hstop
  refine (does_takeFault fault world.now).bind fun taken => ?_
  cases taken with
  | none => exact does_unlockOperationAuthority floating_settled
  | some taken =>
      obtain ⟨old, due⟩ := taken
      cases due with
      | none => exact Thread.Spec.absurd fun ctx h => h.2.2.1 rfl
      | some due =>
          refine (Does.start (does_dropCaptureThenSession
            (framed_announceable true generation (some due) _) old)
            fun ctx _ h => ⟨h.1, h.2.2⟩).bind fun _ => ?_
          exact (does_scheduleRetry due).bind fun _ =>
            (does_unlockOperationAuthority floating_settled).start fun ctx _ h => ⟨h.1.1, h.2⟩

end Fault

/-! ### Jobs -/

section Jobs

theorem does_setAppLastError (lastError : Option String) :
    Does (At [] (Unless Context.Settled)) (setAppLastError lastError)
      fun _ => At [] (Unless Context.Settled) := by
  have hsettled := framed_settled.steady
  cases lastError with
  | none => exact Does.done hsettled fun _ _ h => h
  | some error =>
      refine Does.await hsettled hsettled fun ctx hown hctx _ => ?_
      have hinv : (ctx.setRuntime { ctx.runtime with lastError := some error }).Inv :=
        hown.inv.setRuntime hown.inv.stopping le_rfl ⟨hown.inv.owned.session,
          hown.inv.owned.health, hown.inv.owned.running, hown.inv.owned.retry⟩ hown.inv.installed
      exact ⟨⟨fun _ => hinv, id, .rfl, .rfl, fun hstop => ⟨hstop, rfl, rfl, rfl⟩, rfl, le_rfl⟩,
        ⟨hinv, hown.runtimeLock, hown.loose⟩, hctx⟩

theorem does_executeRequest (world : World) (request : Request) :
    Does (At [] (Unless Context.Settled)) (executeRequest world request)
      fun _ => At [] (Unless Context.Settled) := by
  cases request with
  | startCapture profile activate =>
      exact (does_startCaptureTransaction world profile activate).bind fun response =>
        does_signalFatalResponse response
  | stopCapture =>
      exact does_stopCaptureTransaction.bind fun response => does_signalFatalResponse response
  | reload =>
      exact (does_reloadDaemonConfig world none).bind fun response =>
        does_signalFatalResponse response
  | other lastError => exact does_setAppLastError lastError

/-- What the worker knows when it has taken a job from the lane. -/
def Context.Taken : OperationJob → Context → Prop
  | .client _, ctx => ctx.Settled
  | .internal (.retry generation), ctx => ctx.Retries generation
  | .internal (.runtimeFault generation attemptId _), ctx => ctx.Overdue generation attemptId

theorem fact_taken (job : OperationJob) : Fact (Context.Taken job) := by
  cases job with
  | client request => exact fact_settled
  | internal operation =>
      cases operation with
      | retry generation => exact fact_retries generation
      | runtimeFault generation attemptId fault => exact fact_overdue generation attemptId

/-- Every job leaves a daemon that goes on settled. -/
theorem does_executeOperationJob (world : World) (job : OperationJob) :
    Does (At [] (Unless (Context.Taken job))) (executeOperationJob world job)
      fun _ => At [] (Unless Context.Settled) := by
  have htaken := (fact_taken job).steady
  refine (Does.change (l := []) htaken htaken fun ctx hown hctx => ?_).bind fun _ => ?_
  · have hquiet : Quiet ctx ctx.notifyLaneAvailable :=
      ⟨fun h => h.rescheduled h.stopped h.ahead le_rfl h.pending h.queued,
        rfl, rfl, rfl, rfl, rfl, rfl⟩
    refine ⟨hquiet.workerStep, hquiet.own_same hown rfl, hctx.imp id fun h => ?_⟩
    cases job with
    | client request => exact h
    | internal operation =>
        cases operation with
        | retry generation => exact h
        | runtimeFault generation attemptId fault => exact h
  refine (Does.look (Q := fun stop ctx => Unless (Context.Taken job) ctx ∧
    (stop = true → ctx.Over)) htaken (fun stop => htaken.and steady_over.imp)
    fun ctx _ h => ⟨h, fun hstop => .inl (.inl hstop)⟩).bind fun stop => ?_
  refine .ite (fun hstop => ?_) fun _ => ?_
  · exact Does.done (htaken.and steady_over.imp) fun ctx _ h => .inl (h.2 hstop)
  cases job with
  | client request => exact (does_executeRequest world request).start fun _ _ h => h.1
  | internal operation =>
      cases operation with
      | retry generation => exact (does_executeRetryOperation world).start fun _ _ h => h.1
      | runtimeFault generation attemptId fault =>
          exact (does_publishRuntimeFault world fault).start fun _ _ h => h.1

end Jobs

/-! ### Taking a job from the lane -/

section Pop

variable {ctx : Context} {job : OperationJob} {queue : List OperationJob}

/-- The context once the first job of the lane was taken. -/
abbrev Context.without (ctx : Context) (queue : List OperationJob) : Context :=
  { ctx with lane := { ctx.lane with queue } }

/-- A capture is listened to as before, unless it was its fault that was taken. -/
theorem Context.Attentive.without {skip : Option ℕ} {generation : ℕ}
    (h : ctx.Attentive none generation) (hqueue : ctx.lane.queue = job :: queue)
    (hskip : ∀ attemptId fault, job = .internal (.runtimeFault generation attemptId fault) →
      skip = some attemptId) : (ctx.without queue).Attentive skip generation := by
  obtain ⟨hgeneration, hscheduled, hattended⟩ := h
  refine ⟨hgeneration, hscheduled, fun hzero attemptId hinstalled => ?_⟩
  obtain ⟨health, hhealth, hbound, hdue⟩ := hattended hzero attemptId hinstalled
  refine ⟨health, hhealth, hbound, fun hother hnotified => ?_⟩
  refine (hdue (by simp) hnotified).imp id fun hdue => hdue.imp_right ?_
  rintro ⟨fault, hmem⟩
  rw [hqueue] at hmem
  rcases List.mem_cons.mp hmem with hsame | hmem
  · exact (hother (hskip attemptId fault hsame.symm)).elim
  · exact ⟨fault, hmem⟩

/-- The retry of the current generation is where it was, unless it was taken. -/
theorem Context.Paired.without (h : ctx.Paired) (hqueue : ctx.lane.queue = job :: queue)
    (hjob : job ≠ .internal (.retry ctx.runtime.lifecycle.generation)) :
    (ctx.without queue).Paired := by
  unfold Context.Paired at h ⊢
  cases hnext : ctx.runtime.lifecycle.nextRetryAt with
  | none =>
      simp only [hnext, Context.NoRetry, hqueue, List.mem_cons, not_or] at h ⊢
      exact ⟨h.1, h.2.2⟩
  | some due =>
      simp only [hnext, hqueue, List.mem_cons, not_or] at h ⊢
      refine ⟨h.1, h.2.imp (fun h => ⟨h.1, h.2.2⟩) fun h => ⟨h.1, ?_⟩⟩
      rw [← h.2, List.count_cons_of_ne hjob]

/-- A retry of the current generation that was taken was the only one. -/
theorem Context.Paired.taken (h : ctx.Paired)
    (hqueue : ctx.lane.queue = .internal (.retry ctx.runtime.lifecycle.generation) :: queue) :
    (ctx.without queue).NoRetry ctx.runtime.lifecycle.generation ∧
      ctx.runtime.lifecycle.nextRetryAt ≠ none := by
  unfold Context.Paired at h
  cases hnext : ctx.runtime.lifecycle.nextRetryAt with
  | none =>
      simp only [hnext] at h
      refine (h.2 ?_).elim
      rw [hqueue]
      exact List.mem_cons_self ..
  | some due =>
      simp only [hnext] at h
      rcases h.2 with ⟨-, hnot⟩ | ⟨hpending, hcount⟩
      · refine (hnot ?_).elim
        rw [hqueue]
        exact List.mem_cons_self ..
      · refine ⟨⟨hpending, List.count_eq_zero.mp ?_⟩, by simp⟩
        rw [hqueue, List.count_cons_self] at hcount
        exact Nat.succ.inj hcount

/-- What is settled tells the worker enough of any job it takes. -/
theorem Context.Settled.taken (h : ctx.Settled) (hinv : ctx.Inv)
    (hqueue : ctx.lane.queue = job :: queue) : (ctx.without queue).Taken job := by
  obtain ⟨hattentive, hpaired⟩ := h
  cases job with
  | client request =>
      exact ⟨hattentive.without hqueue (by rintro _ _ ⟨⟩), hpaired.without hqueue (by rintro ⟨⟩)⟩
  | internal operation =>
      cases operation with
      | retry generation =>
          have hskip : (ctx.without queue).Attentive none ctx.runtime.lifecycle.generation :=
            hattentive.without hqueue (by rintro _ _ ⟨⟩)
          refine ⟨?_, fun hother => ⟨hskip, hpaired.without hqueue ?_⟩⟩
          · rintro rfl
            obtain ⟨hnoRetry, hnext⟩ := hpaired.taken hqueue
            exact ⟨⟨hskip, hnoRetry⟩, hinv.owned.retry hnext⟩
          · rintro ⟨⟩
            exact hother rfl
      | runtimeFault generation attemptId fault =>
          have hkept : (ctx.without queue).Paired := hpaired.without hqueue (by rintro ⟨⟩)
          refine ⟨hkept, ?_, fun hother => ⟨hattentive.without hqueue ?_, hkept⟩⟩
          · rintro rfl
            refine hattentive.without hqueue ?_
            rintro _ _ ⟨⟩
            rfl
          · rintro _ _ ⟨⟩
            exact (hother rfl).elim

end Pop

end Lamb.Daemon
