import Lamb.Daemon.Facts

/-!
The steps of the worker, one by one: what each is allowed to do, what it leaves to the
worker, and what becomes of the facts the worker knows.
-/

namespace Lamb.Daemon

open Lamb.Control (DaemonState CaptureState ErrorClass)
open Lamb.Lib

/-- What the worker does from `P` on, and what it knows after it. -/
abbrev Does {β : Type} (P : Context → Prop) (op : Op β) (Q : β → Context → Prop) : Prop :=
  Thread.Spec WorkerRely WorkerStep P op Q

theorem WorkerStep.refl (ctx : Context) : WorkerStep ctx ctx :=
  ⟨id, id, .rfl, .rfl, fun hstop => ⟨hstop, rfl, rfl, rfl⟩, rfl, le_rfl⟩

/-! ### Rules -/

section Rules

variable {β γ : Type} {loose l : List ℕ} {P P' : Context → Prop} {Q : β → Context → Prop}

theorem Does.done {b : β} (hP : Steady P) (h : ∀ ctx, Own loose ctx → P ctx → Q b ctx) :
    Does (At loose P) (pure b) fun b => At loose (Q b) :=
  Thread.Spec.pure (At.stable hP) fun ctx hat => ⟨hat.1, h ctx hat.1 hat.2⟩

theorem Does.look {f : Context → β} (hP : Steady P) (hQ : ∀ b, Steady (Q b))
    (h : ∀ ctx, Own loose ctx → P ctx → Q (f ctx) ctx) :
    Does (At loose P) (Thread.read f) fun b => At loose (Q b) :=
  Thread.Spec.read (At.stable hP) (fun b => At.stable (hQ b))
    fun ctx hat => ⟨.refl ctx, hat.1, h ctx hat.1 hat.2⟩

theorem Does.lookRuntime {f : Context → β} (hP : Steady P) (hQ : ∀ b, Steady (Q b))
    (h : ∀ ctx, Own loose ctx → P ctx → Q (f ctx) ctx) :
    Does (At loose P) (readRuntime f) fun b => At loose (Q b) :=
  Thread.Spec.atomic (At.stable hP) (fun b => At.stable (hQ b))
    fun ctx hat _ => ⟨.refl ctx, hat.1, h ctx hat.1 hat.2⟩

theorem Does.step {ready : Context → Bool} {f : Context → β × Context}
    {l : β → List ℕ} (hP : Steady P) (hQ : ∀ b, Steady (Q b))
    (h : ∀ ctx, Own loose ctx → P ctx → ready ctx = true →
      WorkerStep ctx (f ctx).2 ∧ At (l (f ctx).1) (Q (f ctx).1) (f ctx).2) :
    Does (At loose P) (Thread.atomic ready f) fun b => At (l b) (Q b) :=
  Thread.Spec.atomic (At.stable hP) (fun b => At.stable (hQ b)) fun ctx hat hready =>
    h ctx hat.1 hat.2 hready

theorem Does.await {ready : Context → Bool} {f : Context → Context} (hP : Steady P)
    (hP' : Steady P') (h : ∀ ctx, Own loose ctx → P ctx → ready ctx = true →
      WorkerStep ctx (f ctx) ∧ At l P' (f ctx)) :
    Does (At loose P) (Thread.await ready f) fun _ => At l P' :=
  Thread.Spec.await (At.stable hP) (At.stable hP') fun ctx hat hready => h ctx hat.1 hat.2 hready

theorem Does.change {f : Context → Context} (hP : Steady P) (hP' : Steady P')
    (h : ∀ ctx, Own loose ctx → P ctx → WorkerStep ctx (f ctx) ∧ At l P' (f ctx)) :
    Does (At loose P) (Thread.modify f) fun _ => At l P' :=
  Thread.Spec.modify (At.stable hP) (At.stable hP') fun ctx hat => h ctx hat.1 hat.2

/-- The worker may know less at the start and need less at the end. -/
theorem Does.weaken {op : Op β} {Q' : β → Context → Prop}
    (h : Does (At loose P) op fun b => At l (Q b))
    (hP : ∀ ctx, Own loose ctx → P' ctx → P ctx)
    (hQ : ∀ b ctx, Own l ctx → Q b ctx → Q' b ctx) :
    Does (At loose P') op fun b => At l (Q' b) :=
  h.mono (fun ctx hat => ⟨hat.1, hP ctx hat.1 hat.2⟩)
    fun b ctx hat => ⟨hat.1, hQ b ctx hat.1 hat.2⟩

/-- The worker may know more at the start. -/
theorem Does.start {op : Op β} {Q : β → Context → Prop} (h : Does (At loose P) op Q)
    (hP : ∀ ctx, Own loose ctx → P' ctx → P ctx) : Does (At loose P') op Q :=
  h.pre fun ctx hat => ⟨hat.1, hP ctx hat.1 hat.2⟩

theorem Does.some {ι : Type} {P : ι → Context → Prop} {op : Op β} {Q : β → Context → Prop}
    (h : ∀ i, Does (At loose (P i)) op Q) : Does (At loose fun ctx => ∃ i, P i ctx) op Q :=
  fun ctx hat => h hat.2.choose ctx ⟨hat.1, hat.2.choose_spec⟩

/-- A look at what the worker knows already. -/
theorem Does.lookKnown {f : Context → β} {g : β → Op γ} {Q : γ → Context → Prop} (b : β)
    (hP : Steady P) (h : ∀ ctx, P ctx → f ctx = b) (hnext : Does (At loose P) (g b) Q) :
    Does (At loose P) (readRuntime f >>= g) Q := by
  have hlook : Does (At loose P) (readRuntime f) fun found =>
      At loose fun ctx => P ctx ∧ found = b :=
    Does.lookRuntime hP (fun _ => hP.and (Steady.const _)) fun ctx _ hctx => ⟨hctx, h ctx hctx⟩
  refine Thread.Spec.bind hlook fun found => ?_
  by_cases hfound : found = b
  · subst hfound
    exact hnext.start fun _ _ h => h.1
  · exact Thread.Spec.absurd fun _ h => hfound h.2.2

end Rules

/-! ### Steps that leave the runtime alone -/

namespace Context.Inv

variable {ctx : Context} (h : ctx.Inv)

include h

/-- Locks, the stop, the epoch and the number of the next attempt. -/
theorem controlled {stop started stopRequested : Bool} {firstFatal : Option String}
    {operationEpoch nextAttempt : ℕ} {authority runtimeLock : Option Party}
    (hlock : ∀ party, runtimeLock = some party → authority = some party)
    (hstop : ctx.stop = true → stop = true) (hattempt : ctx.nextAttempt ≤ nextAttempt) :
    Inv { ctx with
      stop, started, stopRequested, firstFatal, operationEpoch, nextAttempt, authority,
      runtimeLock } where
  runtimeLock := hlock
  stopping hstopping := hstop (h.stopping hstopping)
  stopped hstopped := hstop (h.stopped hstopped)
  laneOpen := h.laneOpen
  ahead := h.ahead
  pending := h.pending
  queued := h.queued
  sinks := h.sinks
  bound := h.bound
  notes := h.notes
  attempts attemptId hlater := h.attempts attemptId (Nat.lt_of_le_of_lt hattempt hlater)
  owned := h.owned
  installed := h.installed

theorem invalidate {generation : ℕ} (hahead : generation ≤ ctx.runtime.lifecycle.generation) :
    (ctx.invalidate generation).Inv := by
  unfold Context.invalidate Scheduler.invalidate
  split_ifs with hlate
  · exact h
  · have hraised := Nat.not_lt.mp hlate
    exact h.rescheduled h.stopped hahead hraised (by rintro _ ⟨⟩)
      fun operation hjob => (h.queued operation hjob).trans hraised

theorem scheduleRetry {generation due : ℕ}
    (hahead : generation ≤ ctx.runtime.lifecycle.generation) :
    (ctx.scheduleRetry generation due).Inv := by
  unfold Context.scheduleRetry Scheduler.scheduleRetry Scheduler.put
  split_ifs with haccepts
  · obtain ⟨-, hraised⟩ := accepts_eq_true.mp haccepts
    exact h.rescheduled h.stopped hahead hraised (by rintro _ ⟨⟩; rfl)
      fun operation hjob => (h.queued operation hjob).trans hraised
  · exact h

end Context.Inv

/-- A step of the worker that leaves the locks, the stop and the runtime alone. -/
structure Quiet (ctx ctx' : Context) : Prop where
  inv : ctx.Inv → ctx'.Inv
  started : ctx'.started = ctx.started
  stop : ctx'.stop = ctx.stop
  authority : ctx'.authority = ctx.authority
  runtimeLock : ctx'.runtimeLock = ctx.runtimeLock
  runtime : ctx'.runtime = ctx.runtime
  stopRequested : ctx'.stopRequested = ctx.stopRequested

section Quiet

variable {ctx ctx' : Context}

theorem Quiet.workerStep (h : Quiet ctx ctx') : WorkerStep ctx ctx' where
  inv := h.inv
  started hstarted := h.started.trans hstarted
  authority := by rw [h.authority]
  runtimeLock := by rw [h.runtimeLock]
  stop hstop := ⟨h.stop.trans hstop, by rw [h.runtime], by rw [h.runtime], by rw [h.runtime]⟩
  stopRequested := h.stopRequested
  generation := by rw [h.runtime]

/-- Where no capture comes to life, the worker owns what it owned. -/
theorem Quiet.own (h : Quiet ctx ctx') {loose : List ℕ} (loose' : List ℕ) (hown : Own loose ctx)
    (hlive : ∀ attemptId, ctx'.live attemptId = true → attemptId ∈ loose' ∨
      ctx.live attemptId = true ∧ (attemptId ∈ loose → attemptId ∈ loose')) : Own loose' ctx' where
  inv := h.inv hown.inv
  runtimeLock := by rw [h.runtimeLock]; exact hown.runtimeLock
  loose := by
    intro attemptId hlive'
    rcases hlive attemptId hlive' with hloose | ⟨hlived, hkept⟩
    · exact .inr hloose
    · rw [h.runtime]
      exact (hown.loose attemptId hlived).imp_right hkept

theorem Quiet.own_same (h : Quiet ctx ctx') {loose : List ℕ} (hown : Own loose ctx)
    (hlive : ctx'.captures = ctx.captures) : Own loose ctx' :=
  h.own loose hown fun attemptId hlive' => .inr ⟨by rwa [Context.live, ← hlive], id⟩

end Quiet

/-! ### What the worker knows -/

/-- What lasts while the worker takes and gives back the authority and counts its
attempts. -/
structure Floating (P : Context → Prop) : Prop where
  steady : Steady P
  control : ∀ ctx (authority : Option Party) (nextAttempt : ℕ), P ctx →
    P { ctx with authority, nextAttempt }

/-- What lasts while the worker stops a capture that is not installed. -/
structure Framed (P : Context → Prop) : Prop where
  steady : Steady P
  others : ∀ ctx attemptId thread health, ctx.Inv →
    (∀ backend, ctx.runtime.capture = some backend → backend.attemptId ≠ attemptId) →
    (thread.live = true → ctx.live attemptId = true) → P ctx →
    P { ctx with
      captures := Function.update ctx.captures attemptId thread
      healths := Function.update ctx.healths attemptId health }

/-- What lasts while the worker starts one, too. -/
structure Open (P : Context → Prop) : Prop extends Floating P where
  opens : ∀ ctx attemptId thread health, ctx.Inv →
    (∀ backend, ctx.runtime.capture = some backend → backend.attemptId ≠ attemptId) → P ctx →
    P { ctx with
      captures := Function.update ctx.captures attemptId thread
      healths := Function.update ctx.healths attemptId health }

section Floating

variable {p : Prop} {P P' : Context → Prop}

theorem Floating.and (h : Floating P) (h' : Floating P') : Floating fun ctx => P ctx ∧ P' ctx where
  steady := h.steady.and h'.steady
  control ctx authority nextAttempt hP :=
    ⟨h.control ctx authority nextAttempt hP.1, h'.control ctx authority nextAttempt hP.2⟩

theorem Floating.imp (h : Floating P) : Floating fun ctx => p → P ctx where
  steady := h.steady.imp
  control ctx authority nextAttempt hP hp := h.control ctx authority nextAttempt (hP hp)

theorem Framed.and (h : Framed P) (h' : Framed P') : Framed fun ctx => P ctx ∧ P' ctx where
  steady := h.steady.and h'.steady
  others ctx attemptId thread health hinv hother hlive hP :=
    ⟨h.others ctx attemptId thread health hinv hother hlive hP.1,
      h'.others ctx attemptId thread health hinv hother hlive hP.2⟩

theorem Open.framed (h : Open P) : Framed P :=
  ⟨h.steady, fun ctx attemptId thread health hinv hother _ =>
    h.opens ctx attemptId thread health hinv hother⟩

theorem Open.and (h : Open P) (h' : Open P') : Open fun ctx => P ctx ∧ P' ctx where
  toFloating := h.toFloating.and h'.toFloating
  opens ctx attemptId thread health hinv hother hP :=
    ⟨h.opens ctx attemptId thread health hinv hother hP.1,
      h'.opens ctx attemptId thread health hinv hother hP.2⟩

theorem Open.imp (h : Open P) : Open fun ctx => p → P ctx where
  toFloating := h.toFloating.imp
  opens ctx attemptId thread health hinv hother hP hp :=
    h.opens ctx attemptId thread health hinv hother (hP hp)

end Floating

/-- The operation `token` is in debt: it has begun the generation, at which nothing has
been announced yet. -/
def Context.Debt (token generation : ℕ) (ctx : Context) : Prop :=
  ctx.operationEpoch = token ∧ ctx.Attentive none generation ∧ ctx.NoRetry generation

/-- Between operations the lifecycle and the scheduler agree, and no fault was lost. -/
def Context.Settled (ctx : Context) : Prop :=
  ctx.Attentive none ctx.runtime.lifecycle.generation ∧ ctx.Paired

theorem fact_debt (token generation : ℕ) : Fact (Context.Debt token generation) :=
  (Fact.runtime fun epoch _ => epoch = token).and
    ((fact_attentive none generation).and (fact_noRetry generation))

/-- The generation of the runtime may stand for itself. -/
theorem fact_settled : Fact Context.Settled := by
  have hattentive : Fact fun ctx => ctx.Attentive none ctx.runtime.lifecycle.generation :=
    { requests := fun ctx ctx' hF hepoch hruntime hscheduler hcaptures hhealths hstrays hqueue => by
        rw [hruntime]
        exact (fact_attentive none _).requests ctx ctx' hF hepoch hruntime hscheduler hcaptures
          hhealths hstrays hqueue
      scheduler := fun ctx ctx' hinv hstep hF => by
        rw [(hstep.same hinv).runtime]
        exact (fact_attentive none _).scheduler ctx ctx' hinv hstep hF
      captures := fun ctx ctx' hinv hover hstep hF => by
        rw [hstep.same.runtime]
        exact (fact_attentive none _).captures ctx ctx' hinv hover hstep hF }
  exact hattentive.and fact_paired

theorem Context.Debt.settled {ctx : Context} {token generation : ℕ}
    (h : ctx.Debt token generation) (hnext : ctx.runtime.lifecycle.nextRetryAt = none) :
    ctx.Settled := by
  obtain ⟨-, hattentive, hnoRetry⟩ := h
  obtain rfl := hattentive.1
  refine ⟨hattentive, ?_⟩
  unfold Context.Paired
  rw [hnext]
  exact hnoRetry

/-- An operation that is not the current one any more has lost its debt to a stop. -/
theorem Unless.over_of_superseded {ctx : Context} {token generation : ℕ}
    (h : Unless (Context.Debt token generation) ctx) (hcurrent : ctx.isCurrent token = false) :
    ctx.Over := by
  rcases h with hover | ⟨htoken, -, -⟩
  · exact hover
  · have hstop : ctx.stop = true := by simpa [Context.isCurrent, htoken] using hcurrent
    exact .inl (.inl hstop)

/-! ### Frames -/

/-- The capture `attemptId` is not the installed one. -/
def Context.Distinct (attemptId : ℕ) (ctx : Context) : Prop :=
  ∀ backend, ctx.runtime.capture = some backend → backend.attemptId ≠ attemptId

section Frames

variable {ctx : Context} {attemptId : ℕ} {thread : CaptureThread} {health : Option PipeWireHealth}

/-- The installed capture is listened to as before when another one changes. -/
theorem Context.Attentive.others {skip : Option ℕ} {generation : ℕ} (hinv : ctx.Inv)
    (hother : ctx.Distinct attemptId) (h : ctx.Attentive skip generation) :
    Context.Attentive skip generation
      { ctx with
        captures := Function.update ctx.captures attemptId thread
        healths := Function.update ctx.healths attemptId health } := by
  obtain ⟨hgeneration, hscheduled, hattended⟩ := h
  refine ⟨hgeneration, hscheduled, fun hzero installed hinstalled => ?_⟩
  obtain ⟨backend, hcapture, rfl, -⟩ := hinv.owned.captureHealth_eq hinstalled
  have hne := hother backend hcapture
  obtain ⟨health, hhealth, hbound, hdue⟩ := hattended hzero _ hinstalled
  refine ⟨health, (Function.update_of_ne hne ..).trans hhealth, hbound, fun hskip hnotified => ?_⟩
  refine (hdue hskip hnotified).imp_left ?_
  rintro ⟨fault, hflight⟩
  refine ⟨fault, ?_⟩
  exact (Function.update_of_ne hne ..).trans hflight

theorem Context.Debt.others {token generation : ℕ} (hinv : ctx.Inv)
    (hother : ctx.Distinct attemptId) (h : ctx.Debt token generation) :
    Context.Debt token generation
      { ctx with
        captures := Function.update ctx.captures attemptId thread
        healths := Function.update ctx.healths attemptId health } :=
  ⟨h.1, h.2.1.others hinv hother, h.2.2⟩

theorem open_debt (token generation : ℕ) : Open (Unless (Context.Debt token generation)) :=
  ⟨⟨(fact_debt token generation).steady, fun _ _ _ h => h⟩, fun _ _ _ _ hinv hother h =>
    h.imp id fun hdebt => hdebt.others hinv hother⟩

theorem floating_settled : Floating (Unless Context.Settled) :=
  ⟨fact_settled.steady, fun _ _ _ h => h⟩

theorem framed_settled : Framed (Unless Context.Settled) where
  steady := fact_settled.steady
  others ctx attemptId thread health hinv hother hlive h := by
    refine h.imp id ?_
    rintro ⟨hattentive, hpaired⟩
    refine ⟨hattentive.others hinv hother, ?_⟩
    unfold Context.Paired at hpaired ⊢
    cases hnext : ctx.runtime.lifecycle.nextRetryAt with
    | none =>
        simp only [hnext] at hpaired ⊢
        exact hpaired
    | some due =>
        simp only [hnext] at hpaired ⊢
        refine ⟨fun other => ?_, hpaired.2⟩
        rcases eq_or_ne other attemptId with rfl | hne
        · simp only [Context.live, Function.update_self]
          cases hthread : thread.live with
          | false => rfl
          | true => exact (hlive hthread).symm.trans (hpaired.1 other)
        · simp only [Context.live, Function.update_of_ne hne]
          exact hpaired.1 other

theorem open_vacant : Open fun ctx => ctx.runtime.capture = none :=
  ⟨⟨steady_vacant, fun _ _ _ h => h⟩, fun _ _ _ _ _ _ h => h⟩

theorem open_distinct (attemptId : ℕ) : Open (Context.Distinct attemptId) := by
  refine ⟨⟨fun ctx ctx' hinv hstep h => ?_, fun _ _ _ h => h⟩, fun _ _ _ _ _ _ h => h⟩
  unfold Context.Distinct
  rw [(hstep.kept hinv).capture]
  exact h

theorem steady_over : Steady Context.Over := by
  intro ctx ctx' hinv hstep hover
  have hkept := hstep.kept hinv
  exact hover.imp hkept.closing fun hspent => hspent.trans hkept.generation

end Frames

/-! ### The authority -/

section Authority

variable {loose : List ℕ} {P : Context → Prop} {token generation : ℕ}

theorem does_lockOperationAuthority (hP : Floating P) :
    Does (At loose P) (lockOperationAuthority .worker) fun _ =>
      At loose fun ctx => ctx.Held ∧ P ctx := by
  refine Does.await hP.steady (steady_held.and hP.steady) fun ctx hown hctx hready => ?_
  have hfree : ctx.authority = none := Option.isNone_iff_eq_none.mp hready
  have hlock : ctx.runtimeLock = none := by
    cases hlock : ctx.runtimeLock with
    | none => rfl
    | some party =>
        have hheld := hown.inv.runtimeLock party hlock
        rw [hfree] at hheld
        cases hheld
  have hinv : Context.Inv { ctx with authority := some .worker } :=
    hown.inv.controlled (by rw [hlock]; rintro _ ⟨⟩) id le_rfl
  refine ⟨⟨fun _ => hinv, id, by simp [hfree], .rfl, fun hstop => ⟨hstop, rfl, rfl, rfl⟩, rfl,
    le_rfl⟩, ?_⟩
  exact ⟨⟨hinv, hown.runtimeLock, hown.loose⟩, rfl, hP.control ctx _ _ hctx⟩

theorem does_unlockOperationAuthority (hP : Floating P) :
    Does (At loose fun ctx => ctx.Held ∧ P ctx) unlockOperationAuthority fun _ => At loose P := by
  refine Does.change (steady_held.and hP.steady) hP.steady fun ctx hown hctx => ?_
  obtain ⟨hheld, hctx⟩ := hctx
  have hlock : ∀ party, ctx.runtimeLock ≠ some party := by
    intro party hlock
    have hsame := hown.inv.runtimeLock party hlock
    rw [hheld] at hsame
    cases hsame
    exact hown.runtimeLock hlock
  have hinv : Context.Inv { ctx with authority := none } :=
    hown.inv.controlled (fun party hparty => (hlock party hparty).elim) id le_rfl
  refine ⟨⟨fun _ => hinv, id, ?_, .rfl, fun hstop => ⟨hstop, rfl, rfl, rfl⟩, rfl, le_rfl⟩, ?_⟩
  · rw [show ctx.authority = some .worker from hheld]
    simp
  · exact ⟨⟨hinv, hown.runtimeLock, hown.loose⟩, hP.control ctx _ _ hctx⟩

/-- Only a stop makes an operation lose its debt. -/
theorem does_operationIsCurrent (loose : List ℕ) (token generation : ℕ) (hP : Steady P) :
    Does (At loose fun ctx => Unless (Context.Debt token generation) ctx ∧ P ctx)
      (operationIsCurrent token) fun current =>
        At loose fun ctx => (Unless (Context.Debt token generation) ctx ∧ P ctx) ∧
          (current = false → ctx.Over) := by
  have hbefore := (open_debt token generation).steady.and hP
  refine Does.look hbefore (fun current => hbefore.and steady_over.imp) fun ctx _ hctx => ?_
  exact ⟨hctx, hctx.1.over_of_superseded⟩

/-- Under the authority it stays the current one. -/
theorem does_operationIsCurrent_held (hP : Steady P) :
    Does (At loose fun ctx => ctx.Held ∧ Unless (Context.Debt token generation) ctx ∧ P ctx)
      (operationIsCurrent token) fun current =>
        At loose fun ctx => (ctx.Held ∧ Unless (Context.Debt token generation) ctx ∧ P ctx) ∧
          (current = false → ctx.Over) ∧ (current = true → ctx.Holds token) := by
  have hbefore := steady_held.and ((open_debt token generation).steady.and hP)
  refine Does.look hbefore
    (fun current => hbefore.and (steady_over.imp.and (steady_holds token).imp))
    fun ctx _ hctx => ?_
  refine ⟨hctx, hctx.2.1.over_of_superseded, fun hcurrent => ⟨hctx.1, ?_⟩⟩
  simpa [Context.isCurrent] using hcurrent

end Authority

/-! ### Responses and the fatal end -/

section Responses

variable {loose : List ℕ} {P : Context → Prop}

theorem does_supersededResponse (hP : Steady P) :
    Does (At loose P) supersededResponse fun _ => At loose P :=
  (Does.lookRuntime hP (fun _ => hP) fun _ _ h => h).bind fun _ =>
    (Does.look hP (fun _ => hP) fun _ _ h => h).bind fun _ => Does.done hP fun _ _ h => h

theorem does_commandFailureWithoutStateMutation (hP : Steady P) (error : CaptureAttemptError) :
    Does (At loose P) (commandFailureWithoutStateMutation error) fun _ => At loose P :=
  (Does.lookRuntime hP (fun _ => hP) fun _ _ h => h).bind fun _ =>
    (Does.lookRuntime hP (fun _ => hP) fun _ _ h => h).bind fun _ =>
      Does.done hP fun _ _ h => h

theorem does_fatalFailureResponse (hP : Steady P) (message : String) :
    Does (At loose P) (fatalFailureResponse message) fun _ => At loose P :=
  (Does.lookRuntime hP (fun _ => hP) fun _ _ h => h).bind fun _ => Does.done hP fun _ _ h => h

theorem does_currentFailureResponse (hP : Steady P) :
    Does (At loose P) currentFailureResponse fun _ => At loose P :=
  (Does.lookRuntime hP (fun _ => hP) fun _ _ h => h).bind fun _ =>
    (Does.lookRuntime hP (fun _ => hP) fun _ _ h => h).bind fun _ =>
      Does.done hP fun _ _ h => h

/-- A fatal error brings the daemon down, and nothing is owed any more. -/
theorem does_signalFatal (message : String) :
    Does (At loose fun _ => True) (signalFatal message) fun _ => At loose Context.Over := by
  have hany : Steady fun _ => True := fun _ _ _ _ _ => trivial
  refine (Does.change (l := loose) hany hany fun ctx hown _ => ?_).bind fun _ =>
    (Does.change (l := loose) hany steady_stop fun ctx hown _ => ?_).bind fun _ =>
      Does.change steady_stop steady_over fun ctx hown hstop => ?_
  · have hinv : Context.Inv { ctx with firstFatal := ctx.firstFatal.or (some message) } :=
      hown.inv.controlled hown.inv.runtimeLock id le_rfl
    exact ⟨⟨fun _ => hinv, id, .rfl, .rfl, fun hstop => ⟨hstop, rfl, rfl, rfl⟩, rfl, le_rfl⟩,
      ⟨hinv, hown.runtimeLock, hown.loose⟩, trivial⟩
  · have hinv : Context.Inv { ctx with stop := true } :=
      hown.inv.controlled hown.inv.runtimeLock (fun _ => rfl) le_rfl
    exact ⟨⟨fun _ => hinv, id, .rfl, .rfl, fun _ => ⟨rfl, rfl, rfl, rfl⟩, rfl, le_rfl⟩,
      ⟨hinv, hown.runtimeLock, hown.loose⟩, rfl⟩
  · have hquiet : Quiet ctx ctx.stopScheduler :=
      ⟨fun hinv => hinv.rescheduled (fun _ => hstop) hinv.ahead le_rfl (by rintro _ ⟨⟩) hinv.queued,
        rfl, rfl, rfl, rfl, rfl, rfl⟩
    exact ⟨hquiet.workerStep, hquiet.own_same hown rfl, .inl (.inl hstop)⟩

theorem does_signalFatalResponse (response : Response) :
    Does (At loose (Unless Context.Settled)) (signalFatalResponse response) fun _ =>
      At loose (Unless Context.Settled) := by
  unfold signalFatalResponse
  refine .ite (fun _ => ?_) fun _ => Does.done framed_settled.steady fun _ _ h => h
  exact (does_signalFatal response.message).weaken (fun _ _ _ => trivial) fun _ _ _ => .inl

end Responses

/-! ### Captures -/

section Captures

variable {ctx : Context} {loose : List ℕ} {P : Context → Prop} {attemptId : ℕ}

/-- A capture that is not the installed one may change in every way. -/
theorem Context.Inv.setOther (h : ctx.Inv) (hother : ctx.Distinct attemptId)
    {thread : CaptureThread} {health : Option PipeWireHealth}
    (hknown : attemptId ≤ ctx.nextAttempt)
    (hsinks : ∀ found sink, health = some found →
      (found.notifiedSink = some sink ∨ found.armed = true ∧ found.faultSink = some sink) →
      sink.generation ≤ ctx.scheduler.state.generation)
    (hbound : ∀ found sink, health = some found → found.faultSink = some sink →
      sink.attemptId = attemptId)
    (hnotes : ∀ notification, thread = .running (some notification) →
      notification.1.generation ≤ ctx.scheduler.state.generation ∧
        notification.1.attemptId = attemptId) :
    Context.Inv { ctx with
      captures := Function.update ctx.captures attemptId thread
      healths := Function.update ctx.healths attemptId health } :=
  h.setCapture _ _ _ hknown hsinks hbound hnotes fun backend hcapture hsame =>
    (hother backend hcapture hsame).elim

theorem does_dropCapture (hP : Framed P) :
    Does (At (attemptId :: loose) fun ctx => ctx.Distinct attemptId ∧ P ctx)
      (dropCapture attemptId) fun _ => At loose P := by
  have hframed := (open_distinct attemptId).framed.and hP
  refine (Does.change (l := attemptId :: loose) hframed.steady hframed.steady
    fun ctx hown hctx => ?_).bind fun _ =>
      Does.await hframed.steady hP.steady fun ctx hown hctx hready => ?_
  · cases hhealth : ctx.healths attemptId with
    | none =>
        simp only [Context.callHealth, hhealth]
        exact ⟨.refl ctx, hown, hctx⟩
    | some health =>
        simp only [Context.callHealth, hhealth, Context.setHealth]
        have hknown : attemptId ≤ ctx.nextAttempt := by
          by_contra hlater
          have habsent := (hown.inv.attempts attemptId (Nat.lt_of_not_le hlater)).2
          rw [hhealth] at habsent
          cases habsent
        have hquiet : Quiet ctx { ctx with
            captures := Function.update ctx.captures attemptId (ctx.captures attemptId)
            healths := Function.update ctx.healths attemptId (some health.markNormalStop) } := by
          refine ⟨fun hinv => hinv.setOther hctx.1 hknown ?_ ?_ ?_, rfl, rfl, rfl, rfl, rfl, rfl⟩
          · rintro _ sink ⟨⟩ (hnotified | ⟨⟨⟩, -⟩)
            exact hinv.sinks attemptId sink ⟨health, hhealth, .inl hnotified⟩
          · rintro _ sink ⟨⟩ ⟨⟩
          · exact fun notification hnote => hinv.notes attemptId notification hnote
        have hafter := hframed.others ctx attemptId (ctx.captures attemptId)
          (some health.markNormalStop) hown.inv hctx.1 id hctx
        rw [Function.update_eq_self] at hquiet hafter
        exact ⟨hquiet.workerStep, hquiet.own_same hown rfl, hafter⟩
  · have hrunning : ctx.captures attemptId = .running none := by simpa using hready
    have hquiet : Quiet ctx { ctx with
        captures := Function.update ctx.captures attemptId .joined
        healths := Function.update ctx.healths attemptId (ctx.healths attemptId) } := by
      refine ⟨fun hinv => hinv.setOther hctx.1 (hinv.known (by simp [hrunning])) ?_ ?_ ?_,
        rfl, rfl, rfl, rfl, rfl, rfl⟩
      · exact fun found sink hfound hsink => hinv.sinks attemptId sink ⟨found, hfound, hsink⟩
      · exact fun found sink hfound hsink => hinv.bound attemptId found sink hfound hsink
      · rintro _ ⟨⟩
    have hafter := hframed.others ctx attemptId .joined (ctx.healths attemptId) hown.inv hctx.1
      (by rintro ⟨⟩) hctx
    have hown' := hquiet.own loose hown fun other hlive => ?_
    · rw [Function.update_eq_self] at hquiet hafter hown'
      exact ⟨hquiet.workerStep, hown', hafter.2⟩
    · rcases eq_or_ne other attemptId with rfl | hne
      · simp [Context.live, CaptureThread.live] at hlive
      · simp only [Context.live, Function.update_of_ne hne] at hlive
        exact .inr ⟨hlive, fun hmem => (List.mem_cons.mp hmem).resolve_left hne⟩

/-- The captures the worker holds itself if it holds this one. -/
def looseOf (backend : Option CaptureBackend) : List ℕ :=
  backend.toList.map CaptureBackend.attemptId

/-- None of these captures is the installed one. -/
def Context.Apart (backend : Option CaptureBackend) (ctx : Context) : Prop :=
  ∀ attemptId ∈ looseOf backend, ctx.Distinct attemptId

theorem open_apart (backend : Option CaptureBackend) : Open (Context.Apart backend) := by
  refine ⟨⟨fun ctx ctx' hinv hstep h attemptId hmem => ?_, fun _ _ _ h => h⟩,
    fun _ _ _ _ _ _ h => h⟩
  exact (open_distinct attemptId).steady ctx ctx' hinv hstep (h attemptId hmem)

theorem does_dropCaptureThenSession (hP : Framed P) (backend : Option CaptureBackend) :
    Does (At (looseOf backend) fun ctx => ctx.Apart backend ∧ P ctx)
      (dropCaptureThenSession backend) fun _ => At [] P := by
  cases backend with
  | none => exact (Does.done hP.steady fun _ _ h => h).weaken (fun _ _ h => h.2) fun _ _ _ h => h
  | some backend =>
      exact (does_dropCapture hP).weaken
        (fun ctx _ h => ⟨h.1 backend.attemptId (List.mem_singleton_self _), h.2⟩)
        fun _ _ _ h => h

/-- The number of an attempt that no capture has yet. -/
def Context.Fresh (attemptId : ℕ) (ctx : Context) : Prop :=
  ctx.live attemptId = false ∧ attemptId ≤ ctx.nextAttempt

theorem steady_fresh (attemptId : ℕ) : Steady (Context.Fresh attemptId) := by
  rintro ctx ctx' hinv hstep ⟨hdead, hknown⟩
  have hkept := hstep.kept hinv
  exact ⟨(hkept.live attemptId).trans hdead, hkept.nextAttempt.symm ▸ hknown⟩

theorem does_allocateCaptureAttemptId (hP : Floating P) :
    Does (At loose P) allocateCaptureAttemptId fun attempt =>
      At loose fun ctx => P ctx ∧ ∀ attemptId, attempt = .ok attemptId → ctx.Fresh attemptId := by
  refine Does.step hP.steady
    (fun attempt => hP.steady.and fun ctx ctx' hinv hstep h attemptId hok =>
      steady_fresh attemptId ctx ctx' hinv hstep (h attemptId hok))
    fun ctx hown hctx _ => ?_
  cases hnext : checkedAdd ctx.nextAttempt 1 with
  | none =>
      simp only
      exact ⟨.refl ctx, hown, hctx, by rintro _ ⟨⟩⟩
  | some next =>
      obtain ⟨rfl, -⟩ := checkedAdd_eq_some.mp hnext
      simp only
      have hinv : Context.Inv { ctx with nextAttempt := ctx.nextAttempt + 1 } :=
        hown.inv.controlled hown.inv.runtimeLock id (Nat.le_succ _)
      refine ⟨⟨fun _ => hinv, id, .rfl, .rfl, fun hstop => ⟨hstop, rfl, rfl, rfl⟩, rfl, le_rfl⟩,
        ⟨hinv, hown.runtimeLock, hown.loose⟩, hP.control ctx _ _ hctx, ?_⟩
      rintro _ ⟨⟩
      refine ⟨?_, le_rfl⟩
      rw [Context.live, (hown.inv.attempts _ (Nat.lt_succ_self _)).1]
      rfl

end Captures

/-! ### Starting a capture -/

/-- The candidate the worker has started lives, is not installed, and if it has a health
then that waits for the sink. -/
def Context.Ready (sink : RuntimeFaultSink) (candidate : Option CaptureBackend)
    (ctx : Context) : Prop :=
  ∀ backend, candidate = some backend → backend.attemptId = sink.attemptId ∧
    ctx.live backend.attemptId = true ∧ ctx.Distinct backend.attemptId ∧
    (backend.health ≠ none → ctx.Awaiting sink)

theorem floating_ready (sink : RuntimeFaultSink) (candidate : Option CaptureBackend) :
    Floating (Context.Ready sink candidate) where
  steady := by
    intro ctx ctx' hinv hstep h backend hcandidate
    obtain ⟨hsink, hlive, hdistinct, hawaiting⟩ := h backend hcandidate
    refine ⟨hsink, ?_, (open_distinct _).steady ctx ctx' hinv hstep hdistinct, fun hhealth => ?_⟩
    · rw [(hstep.kept hinv).live]
      exact hlive
    · exact steady_awaiting sink ctx ctx' hinv hstep (hawaiting hhealth)
  control _ _ _ h := h

theorem Context.Ready.apart {ctx : Context} {sink : RuntimeFaultSink}
    {candidate : Option CaptureBackend} (h : ctx.Ready sink candidate) : ctx.Apart candidate := by
  intro attemptId hmem
  cases candidate with
  | none => cases hmem
  | some backend =>
      obtain rfl := List.mem_singleton.mp hmem
      exact (h backend rfl).2.2.1

section Starting

variable {ctx : Context} {P : Context → Prop}

theorem Context.Fresh.distinct {attemptId : ℕ} (hinv : ctx.Inv) (h : ctx.Fresh attemptId) :
    ctx.Distinct attemptId := by
  rintro backend hcapture rfl
  have hlive := hinv.installed backend hcapture
  rw [h.1] at hlive
  cases hlive

/-- A capture that starts gets a health if it is one of PipeWire's. -/
theorem Context.startCapture_eq (ctx : Context) (backend : CaptureBackend)
    (sink : RuntimeFaultSink) :
    ctx.startCapture backend sink =
      { ctx with
        captures := Function.update ctx.captures backend.attemptId (.running none)
        healths := Function.update ctx.healths backend.attemptId
          (if backend.health = none then ctx.healths backend.attemptId
          else some (.unarmedWithFaultSink sink)) } := by
  unfold Context.startCapture
  cases hhealth : backend.health with
  | none => simp [Context.setCapture]
  | some attemptId =>
      obtain rfl := CaptureBackend.health_eq hhealth
      simp [Context.setCapture, Context.setHealth]

theorem does_startCapture (hP : Open P) (backend : CaptureBackend) (sink : RuntimeFaultSink)
    (hsink : backend.attemptId = sink.attemptId) :
    Does (At [] fun ctx => P ctx ∧ ctx.Fresh backend.attemptId)
      (Thread.modify fun ctx => ctx.startCapture backend sink) fun _ =>
        At (looseOf (some backend)) fun ctx => P ctx ∧ ctx.Ready sink (some backend) := by
  refine Does.change (hP.steady.and (steady_fresh _))
    (hP.steady.and (floating_ready sink _).steady) fun ctx hown hctx => ?_
  obtain ⟨hctx, hfresh⟩ := hctx
  have hdistinct := hfresh.distinct hown.inv
  have hquiet : Quiet ctx (ctx.startCapture backend sink) := by
    rw [ctx.startCapture_eq]
    refine ⟨fun hinv => hinv.setOther hdistinct hfresh.2 ?_ ?_ ?_, rfl, rfl, rfl, rfl, rfl, rfl⟩
    · intro found reported hfound hreported
      split_ifs at hfound
      · exact hinv.sinks _ reported ⟨found, hfound, hreported⟩
      · cases hfound
        rcases hreported with ⟨⟨⟩⟩ | ⟨⟨⟩, -⟩
    · intro found reported hfound hreported
      split_ifs at hfound
      · exact hinv.bound _ found reported hfound hreported
      · cases hfound
        cases hreported
        exact hsink.symm
    · rintro _ ⟨⟩
  have hlive : (ctx.startCapture backend sink).live backend.attemptId = true := by
    rw [ctx.startCapture_eq]
    simp only [Context.live, Function.update_self, CaptureThread.live]
  refine ⟨hquiet.workerStep, hquiet.own _ hown fun other hother => ?_, ?_, ?_⟩
  · rw [ctx.startCapture_eq] at hother
    rcases eq_or_ne other backend.attemptId with rfl | hne
    · exact .inl (List.mem_singleton_self _)
    · simp only [Context.live, Function.update_of_ne hne] at hother
      exact .inr ⟨hother, by rintro ⟨⟩⟩
  · rw [ctx.startCapture_eq]
    exact hP.opens ctx _ _ _ hown.inv hdistinct hctx
  · rintro _ ⟨⟩
    refine ⟨hsink, hlive, ?_, fun hhealth => ?_⟩
    · rw [ctx.startCapture_eq]
      exact hdistinct
    · refine ⟨.unarmedWithFaultSink sink, ?_, rfl, rfl, rfl, rfl⟩
      rw [ctx.startCapture_eq]
      simp only [← hsink, Function.update_self, if_neg hhealth]

end Starting

/-! ### The sink of an attempt -/

/-- The generation at which an attempt is going to be published. -/
def publishedAt (operationGeneration : Option ℕ) (generation : ℕ) : ℕ :=
  operationGeneration.getD (generation + 1)

/-- Without a generation of its own an operation makes no promise of one. -/
theorem given_none {generation : ℕ} : ∀ given, (none : Option ℕ) = some given →
    given = generation := by
  rintro _ ⟨⟩

/-- The sink of an attempt is not ahead of its publication, and is of the same generation
if there is one. -/
def Context.SinkFor (operationGeneration : Option ℕ) (generation : ℕ) (sink : RuntimeFaultSink)
    (ctx : Context) : Prop :=
  (∀ given, operationGeneration = some given → sink.generation = given) ∧
    (operationGeneration = none → sink.generation ≤ ctx.runtime.lifecycle.generation + 1) ∧
    Unless (fun _ => sink.generation = publishedAt operationGeneration generation) ctx

theorem open_sinkFor (operationGeneration : Option ℕ) (generation : ℕ)
    (sink : RuntimeFaultSink) : Open (Context.SinkFor operationGeneration generation sink) := by
  refine ⟨⟨?_, fun _ _ _ h => h⟩, fun _ _ _ _ _ _ h => h⟩
  rintro ctx ctx' hinv hstep ⟨hgiven, hnext, hsame⟩
  refine ⟨hgiven, fun hnone => ?_, ?_⟩
  · have hlater := (hstep.kept hinv).generation
    have hsink := hnext hnone
    omega
  · exact (Fact.runtime fun _ _ => sink.generation =
      publishedAt operationGeneration generation).steady ctx ctx' hinv hstep hsame

section Sinks

variable {P : Context → Prop} {operationGeneration : Option ℕ} {token generation : ℕ}

theorem does_runtimeFaultSinkForAttempt (hP : Floating P)
    (hgiven : ∀ given, operationGeneration = some given → given = generation) :
    Does (At [] fun ctx => Unless (Context.Debt token generation) ctx ∧ P ctx)
      (runtimeFaultSinkForAttempt operationGeneration) fun result =>
        At [] fun ctx => (Unless (Context.Debt token generation) ctx ∧ P ctx) ∧
          ∀ sink, result = .ok sink → ctx.SinkFor operationGeneration generation sink ∧
            ctx.Fresh sink.attemptId := by
  have hbefore := (open_debt token generation).toFloating.and hP
  have hsinkFor : ∀ sink, Floating (Context.SinkFor operationGeneration generation sink) :=
    fun sink => (open_sinkFor operationGeneration generation sink).toFloating
  have hchosen : Does (At [] fun ctx => Unless (Context.Debt token generation) ctx ∧ P ctx)
      (sinkGeneration operationGeneration) fun chosen =>
        At [] fun ctx => (Unless (Context.Debt token generation) ctx ∧ P ctx) ∧
          ∀ sink : RuntimeFaultSink, chosen = some sink.generation →
            ctx.SinkFor operationGeneration generation sink := by
    have hafter : ∀ chosen : Option ℕ, Steady fun ctx =>
        (Unless (Context.Debt token generation) ctx ∧ P ctx) ∧
          ∀ sink : RuntimeFaultSink, chosen = some sink.generation →
            ctx.SinkFor operationGeneration generation sink := fun chosen =>
      hbefore.steady.and fun ctx ctx' hinv hstep h sink hsink =>
        (hsinkFor sink).steady ctx ctx' hinv hstep (h sink hsink)
    cases operationGeneration with
    | some given =>
        refine Does.done hbefore.steady fun ctx _ hctx => ⟨hctx, fun sink hsink => ?_⟩
        cases hsink
        exact ⟨fun _ h => Option.some.inj h, by rintro ⟨⟩, .inr rfl⟩
    | none =>
        refine Does.lookRuntime hbefore.steady hafter fun ctx _ hctx => ⟨hctx, fun sink hsink => ?_⟩
        obtain ⟨hnext, -⟩ := checkedAdd_eq_some.mp hsink
        refine ⟨by rintro _ ⟨⟩, fun _ => hnext.le, hctx.1.mono fun hdebt => ?_⟩
        rw [hnext, hdebt.2.1.1]
        rfl
  refine hchosen.bind fun chosen => ?_
  cases chosen with
  | none =>
      refine (Does.done (Q := fun result ctx => _ ∧ ∀ sink, result = .ok sink → _) hbefore.steady
        fun ctx _ hctx => ⟨hctx, by rintro _ ⟨⟩⟩).weaken (fun _ _ h => h.1) fun _ _ _ h => h
  | some chosen =>
      have hfloating : Floating fun ctx => (Unless (Context.Debt token generation) ctx ∧ P ctx) ∧
          ∀ sink : RuntimeFaultSink, some chosen = some sink.generation →
            ctx.SinkFor operationGeneration generation sink :=
        hbefore.and ⟨fun ctx ctx' hinv hstep h sink hsink =>
          (hsinkFor sink).steady ctx ctx' hinv hstep (h sink hsink),
          fun ctx authority nextAttempt h sink hsink =>
            (hsinkFor sink).control ctx authority nextAttempt (h sink hsink)⟩
      refine (does_allocateCaptureAttemptId hfloating).bind fun attempt => ?_
      refine Does.done (hfloating.steady.and fun ctx ctx' hinv hstep h attemptId hok =>
        steady_fresh attemptId ctx ctx' hinv hstep (h attemptId hok)) fun ctx _ hctx => ?_
      refine ⟨hctx.1.1, fun sink hsink => ?_⟩
      cases attempt with
      | error error => cases hsink
      | ok attemptId =>
          cases hsink
          exact ⟨hctx.1.2 _ rfl, hctx.2 _ rfl⟩

end Sinks

end Lamb.Daemon
