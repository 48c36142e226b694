import Lamb.Daemon.Shutdown

/-!
The threads of the daemon together. Each keeps to what the others rely on, so in every
order of turns the context keeps its invariant, the worker leaves it settled whenever it
has nothing to do, and the listener leaves it stopping once it was asked to stop it.
-/

namespace Lamb.Daemon

open Lamb.Control (DaemonState CaptureState ErrorClass)
open Lamb.Lib

/-! ### The threads -/

/-- What each thread relies on between its own steps. -/
def relies : Party → Context → Context → Prop
  | .worker => WorkerRely
  | .listener => ListenerRely
  | .scheduler | .captures => fun ctx ctx' => ctx.Inv → ctx'.Inv

/-- What each thread does. -/
def does : Party → Context → Context → Prop
  | .worker => WorkerStep
  | .listener => ListenerStep
  | .scheduler => SchedulerStep
  | .captures => CaptureStep

/-- What each thread leaves behind whenever it has nothing to do. -/
def leaves : Party → Context → Prop
  | .worker => Context.Idle
  | .listener => Context.Listened
  | .scheduler | .captures => Context.Inv

section Compatible

variable {ctx ctx' : Context}

theorem does_inv {party : Party} (hstep : does party ctx ctx') (h : ctx.Inv) : ctx'.Inv := by
  cases party with
  | worker => exact WorkerStep.inv hstep h
  | listener => exact ListenerStep.inv hstep h
  | scheduler => exact SchedulerStep.inv hstep h
  | captures => exact CaptureStep.inv hstep h

theorem relies_of_does {party other : Party} (hother : party ≠ other)
    (hstep : does party ctx ctx') : relies other ctx ctx' := by
  cases other with
  | worker =>
      cases party with
      | worker => exact (hother rfl).elim
      | listener => exact .inl hstep
      | scheduler => exact .inr (.inl hstep)
      | captures => exact .inr (.inr hstep)
  | listener =>
      cases party with
      | worker => exact .inl hstep
      | listener => exact (hother rfl).elim
      | scheduler => exact .inr (.inl hstep)
      | captures => exact .inr (.inr hstep)
  | scheduler => exact does_inv hstep
  | captures => exact does_inv hstep

/-- A thread that is done with its task leaves what it should. -/
theorem meets_done {R G : Context → Context → Prop} {Q : Context → Prop}
    (hQ : Thread.Stable R Q) (h : Q ctx) :
    (Thread.done ()).Meets R G (fun _ => Q) ctx :=
  fun _ hothers => hQ.others hothers h

theorem stable_inv : Thread.Stable (fun ctx ctx' : Context => ctx.Inv → ctx'.Inv) Context.Inv :=
  fun _ _ h hstep => hstep h

/-- The worker takes the first job of the lane. -/
theorem workerStep_pop {job : OperationJob} {queue : List OperationJob} (h : ctx.Inv)
    (hqueue : ctx.lane.queue = job :: queue) : WorkerStep ctx (ctx.without queue) where
  inv _ := h.requeued fun operation hmem =>
    h.queued operation (by rw [hqueue]; exact List.mem_cons_of_mem _ hmem)
  started := id
  authority := .rfl
  runtimeLock := .rfl
  stop hstop := ⟨hstop, rfl, rfl, rfl⟩
  stopRequested := rfl
  generation := le_rfl

theorem launches_worker {world : World} {thread : Thread Context Unit} (h : ctx.Idle)
    (hlaunch : launch .worker (.pop world) ctx = some (thread, ctx')) :
    WorkerStep ctx ctx' ∧ thread.Meets WorkerRely WorkerStep (fun _ => Context.Idle) ctx' := by
  simp only [launch] at hlaunch
  split_ifs at hlaunch with hstarted
  obtain ⟨hown, hsettled⟩ := h hstarted
  cases hqueue : ctx.lane.queue with
  | nil =>
      rw [hqueue] at hlaunch
      cases hlaunch
  | cons job queue =>
      rw [hqueue] at hlaunch
      cases hlaunch
      have hstep := workerStep_pop hown.inv hqueue
      have htaken : Unless (Context.Taken job) (ctx.without queue) :=
        hsettled.imp id fun hsettled => hsettled.taken hown.inv hqueue
      have hjob : Does (At [] (Unless (Context.Taken job))) (executeOperationJob world job)
          fun _ => Context.Idle :=
        (does_executeOperationJob world job).mono (fun _ h => h) fun _ _ h _ => h
      exact ⟨hstep, hjob _ ⟨⟨hstep.inv hown.inv, hown.runtimeLock, hown.loose⟩, htaken⟩⟩

theorem launches_listener {task : Task} {thread : Thread Context Unit} (h : ctx.Listened)
    (hlaunch : launch .listener task ctx = some (thread, ctx')) :
    ListenerStep ctx ctx' ∧
      thread.Meets ListenerRely ListenerStep (fun _ => Context.Listened) ctx' := by
  cases task with
  | stop =>
      simp only [launch] at hlaunch
      split_ifs at hlaunch with hstarted
      cases hlaunch
      have hinv : Context.Inv { ctx with stopRequested := true } :=
        h.inv.controlled h.inv.runtimeLock id le_rfl
      refine ⟨listenerStep_control hinv hstarted .rfl .rfl id id fun _ => rfl,
        (listens_beginShutdown.mono (fun _ h => h) fun _ _ h => h.listened) _
          ⟨hinv, hstarted, by simp [h.authority], by simp [h.runtimeLock], trivial⟩⟩
  | request request =>
      simp only [launch, alone] at hlaunch
      split_ifs at hlaunch with hready
      cases hlaunch
      exact ⟨listenerStep_enqueue hready.1 request, meets_done stable_listened
        ⟨h.inv.enqueue request, h.authority, h.runtimeLock, h.stopped⟩⟩
  | pop world => cases hlaunch
  | iterate now => cases hlaunch
  | wake => cases hlaunch
  | fault attemptId fault => cases hlaunch
  | deliver attemptId => cases hlaunch

theorem launches_scheduler {task : Task} {thread : Thread Context Unit} (h : ctx.Inv)
    (hlaunch : launch .scheduler task ctx = some (thread, ctx')) :
    SchedulerStep ctx ctx' ∧ thread.Meets (relies .scheduler) SchedulerStep
      (fun _ => Context.Inv) ctx' := by
  cases task with
  | iterate now =>
      simp only [launch, alone] at hlaunch
      split_ifs at hlaunch
      cases hlaunch
      have hstep : SchedulerStep ctx (ctx.iterate now) := .inl ⟨now, rfl⟩
      exact ⟨hstep, meets_done stable_inv (hstep.inv h)⟩
  | wake =>
      cases hlaunch
      have hstep : SchedulerStep ctx { ctx with
          scheduler := { ctx.scheduler with worker := ctx.scheduler.worker.wake } } := .inr rfl
      exact ⟨hstep, meets_done stable_inv (hstep.inv h)⟩
  | pop world => cases hlaunch
  | stop => cases hlaunch
  | request request => cases hlaunch
  | fault attemptId fault => cases hlaunch
  | deliver attemptId => cases hlaunch

theorem launches_captures {task : Task} {thread : Thread Context Unit} (h : ctx.Inv)
    (hlaunch : launch .captures task ctx = some (thread, ctx')) :
    CaptureStep ctx ctx' ∧ thread.Meets (relies .captures) CaptureStep
      (fun _ => Context.Inv) ctx' := by
  cases task with
  | fault attemptId fault =>
      cases hlaunch
      have hstep : CaptureStep ctx (ctx.recordFatal attemptId fault) :=
        ⟨attemptId, .inl ⟨fault, rfl⟩⟩
      exact ⟨hstep, meets_done stable_inv (hstep.inv h)⟩
  | deliver attemptId =>
      cases hlaunch
      have hstep : CaptureStep ctx (ctx.deliver attemptId) := ⟨attemptId, .inr rfl⟩
      exact ⟨hstep, meets_done stable_inv (hstep.inv h)⟩
  | pop world => cases hlaunch
  | stop => cases hlaunch
  | request request => cases hlaunch
  | iterate now => cases hlaunch
  | wake => cases hlaunch

theorem compatible : Pool.Compatible launch relies does leaves where
  relies _ _ hother _ _ hstep := relies_of_does hother hstep
  launches party task ctx thread ctx' h hlaunch := by
    cases party with
    | worker =>
        cases task with
        | pop world => exact launches_worker h hlaunch
        | stop => cases hlaunch
        | request request => cases hlaunch
        | iterate now => cases hlaunch
        | wake => cases hlaunch
        | fault attemptId fault => cases hlaunch
        | deliver attemptId => cases hlaunch
    | listener => exact launches_listener h hlaunch
    | scheduler => exact launches_scheduler h hlaunch
    | captures => exact launches_captures h hlaunch

end Compatible

/-! ### The first state -/

section Start

variable {laneCapacity : ℕ}

theorem inv_initial : (Context.initial laneCapacity).Inv where
  runtimeLock := by rintro _ ⟨⟩
  stopping := by rintro ⟨⟩
  stopped := by rintro ⟨⟩
  laneOpen := rfl
  ahead := le_rfl
  pending := by rintro _ ⟨⟩
  queued := by rintro _ ⟨⟩
  sinks := by
    rintro attemptId sink ⟨health, hhealth, -⟩
    cases hhealth
  bound := by rintro _ _ _ ⟨⟩
  notes := by rintro _ _ ⟨⟩
  attempts _ _ := ⟨rfl, rfl⟩
  owned := .of_vacant rfl rfl rfl (by rintro ⟨⟩)
  installed := by rintro _ ⟨⟩

theorem lawful_start (world : World) (prepared : PreparedBootstrap) :
    (start laneCapacity world prepared).Lawful relies does leaves := by
  intro party
  cases party with
  | worker =>
      refine does_startUp world prepared _ ⟨⟨inv_initial, by rintro ⟨⟩, ?_⟩, ⟨⟨rfl, rfl⟩, rfl⟩,
        .inr ⟨rfl, ⟨rfl, rfl, ?_⟩, ⟨by rintro _ ⟨⟩, by rintro ⟨⟩⟩⟩⟩
      · rintro attemptId ⟨⟩
      · rintro _ attemptId ⟨⟩
  | listener =>
      exact meets_done stable_listened ⟨inv_initial, by rintro ⟨⟩, by rintro ⟨⟩, by rintro ⟨⟩⟩
  | scheduler => exact meets_done stable_inv inv_initial
  | captures => exact meets_done stable_inv inv_initial

end Start

/-! ### A daemon to look at -/

section Sample

/-- Here everything succeeds. -/
def calmWorld : World where
  configPath := "lamb.toml"
  controlSocketPath := "lamb.sock"
  bootstrap := .ok ⟨"lamb.sock", .legacy ⟨"pipewire"⟩⟩
  legacyStart := .ok ⟨2, 48000, none⟩
  jackStart := .ok ()
  pipewireStart := .ok ()
  liveIdentities := .ok ()
  sessionInputs := .ok ()
  activityPolicy := .ok ()
  failedCount := .ok 0
  saveConfig := .ok ()
  now := 5

/-- Here the device is not there. -/
def absentWorld : World :=
  { calmWorld with legacyStart := .error (.resolution (.targetMissing "mic")) }

def steps (party : Party) (count : ℕ) : List (Turn Party Task) :=
  List.replicate count (.advance party)

/-- A daemon that was started for a legacy capture, and some turns after that. -/
def legacyRun (world : World) (turns : List (Turn Party Task)) : Pool Party Context :=
  run 4 world (.legacy ⟨"pipewire"⟩) (steps .worker 14 ++ turns)

/-- The capture 1 meets a fault and reports it. -/
def faultOfFirst : List (Turn Party Task) :=
  [.launch .captures (.fault 1 (.backendFault "gone")), .launch .captures (.deliver 1)]

end Sample

/-! ### Every run -/

section Runs

theorem lawful_run (laneCapacity : ℕ) (world : World) (prepared : PreparedBootstrap)
    (turns : List (Turn Party Task)) :
    (run laneCapacity world prepared turns).Lawful relies does leaves :=
  (lawful_start world prepared).run compatible turns

theorem inv_run (laneCapacity : ℕ) (world : World) (prepared : PreparedBootstrap)
    (turns : List (Turn Party Task)) : (run laneCapacity world prepared turns).shared.Inv :=
  (lawful_start world prepared).preserves compatible
    (fun _ _ _ h hstep => does_inv hstep h) turns inv_initial

/-- The state of a run that goes on later. -/
theorem run_append (laneCapacity : ℕ) (world : World) (prepared : PreparedBootstrap)
    (turns later : List (Turn Party Task)) :
    run laneCapacity world prepared (turns ++ later) =
      (run laneCapacity world prepared turns).run launch later :=
  Pool.run_append ..

/-- The runtime has a capture and its session exactly while the lifecycle says that the
capture runs, and a capture it has is alive, whatever the worker is in the middle of. -/
theorem capture_present_iff_running (laneCapacity : ℕ) (world : World)
    (prepared : PreparedBootstrap) (turns : List (Turn Party Task)) :
    let ctx := (run laneCapacity world prepared turns).shared
    (ctx.runtime.lifecycle.daemonState ≠ .stopping →
        (ctx.runtime.capture.isSome ↔ ctx.runtime.lifecycle.captureState = .running) ∧
        (ctx.runtime.session.isSome ↔ ctx.runtime.lifecycle.captureState = .running)) ∧
      ctx.runtime.session = ctx.runtime.capture.map CaptureBackend.attemptId ∧
      ctx.runtime.captureHealth = ctx.runtime.capture.bind CaptureBackend.health ∧
      ∀ backend, ctx.runtime.capture = some backend → ctx.live backend.attemptId = true := by
  have hinv := inv_run laneCapacity world prepared turns
  refine ⟨fun hrunning => ?_, hinv.owned.session, hinv.owned.health, hinv.installed⟩
  have hiff := hinv.owned.running hrunning
  rw [hinv.owned.session, Option.isSome_map, Option.isSome_iff_ne_none]
  exact ⟨hiff, hiff⟩

/-- Between two jobs no capture is left behind: the one the runtime has is the only one
that lives. -/
theorem no_capture_left_behind (laneCapacity : ℕ) (world : World) (prepared : PreparedBootstrap)
    (turns : List (Turn Party Task))
    (hended : (run laneCapacity world prepared turns).Ended .worker)
    (hstarted : (run laneCapacity world prepared turns).shared.started = true) (attemptId : ℕ) :
    let ctx := (run laneCapacity world prepared turns).shared
    ctx.live attemptId = true ↔
      ∃ backend, ctx.runtime.capture = some backend ∧ backend.attemptId = attemptId := by
  have hidle : Context.Idle _ := (lawful_run laneCapacity world prepared turns).ended hended
  obtain ⟨hown, -⟩ := hidle hstarted
  constructor
  · exact fun hlive => (hown.loose attemptId hlive).resolve_right (by rintro ⟨⟩)
  · rintro ⟨backend, hcapture, rfl⟩
    exact hown.inv.installed backend hcapture

theorem no_capture_left_behind_legacyRun :
    (legacyRun calmWorld []).shared.live 1 = true ↔
      ∃ backend, (legacyRun calmWorld []).shared.runtime.capture = some backend ∧
        backend.attemptId = 1 :=
  no_capture_left_behind 4 calmWorld (.legacy ⟨"pipewire"⟩) (steps .worker 14) ⟨(), rfl⟩ rfl 1

/-- What is settled of a daemon that goes on. -/
theorem settled_run (laneCapacity : ℕ) (world : World) (prepared : PreparedBootstrap)
    (turns : List (Turn Party Task))
    (hended : (run laneCapacity world prepared turns).Ended .worker)
    (hstarted : (run laneCapacity world prepared turns).shared.started = true)
    (hgoing : ¬(run laneCapacity world prepared turns).shared.Over) :
    (run laneCapacity world prepared turns).shared.Settled := by
  have hidle : Context.Idle _ := (lawful_run laneCapacity world prepared turns).ended hended
  exact (hidle hstarted).2.resolve_left hgoing

/-- Between two jobs of a daemon that goes on, no retry is lost and none is left over: the
lifecycle has a time for the next one exactly if one of its generation is pending for that
time or waits in the lane, and then there is just one. -/
theorem retry_due_iff_scheduled (laneCapacity : ℕ) (world : World) (prepared : PreparedBootstrap)
    (turns : List (Turn Party Task))
    (hended : (run laneCapacity world prepared turns).Ended .worker)
    (hstarted : (run laneCapacity world prepared turns).shared.started = true)
    (hgoing : ¬(run laneCapacity world prepared turns).shared.Over) :
    let ctx := (run laneCapacity world prepared turns).shared
    let generation := ctx.runtime.lifecycle.generation
    (ctx.runtime.lifecycle.nextRetryAt = none →
        (∀ due, ctx.scheduler.state.pending ≠ some (.retry generation due)) ∧
        .internal (.retry generation) ∉ ctx.lane.queue) ∧
      ∀ due, ctx.runtime.lifecycle.nextRetryAt = some due →
        ctx.scheduler.state.pending = some (.retry generation due) ∧
            .internal (.retry generation) ∉ ctx.lane.queue ∨
          (∀ other, ctx.scheduler.state.pending ≠ some (.retry generation other)) ∧
            ctx.lane.queue.count (.internal (.retry generation)) = 1 := by
  have hpaired := (settled_run laneCapacity world prepared turns hended hstarted hgoing).2
  unfold Context.Paired at hpaired
  refine ⟨fun hnext => ?_, fun due hnext => ?_⟩
  · rw [hnext] at hpaired
    exact ⟨fun due hpending => hpaired.1 _ hpending rfl, hpaired.2⟩
  · rw [hnext] at hpaired
    exact hpaired.2.imp id fun h => ⟨fun other hpending => h.1 _ hpending rfl, h.2⟩

theorem retry_due_iff_scheduled_legacyRun :
    (legacyRun absentWorld []).shared.scheduler.state.pending = some (.retry 1 1005) ∧
      .internal (.retry 1) ∉ (legacyRun absentWorld []).shared.lane.queue := by
  have hscheduled := (retry_due_iff_scheduled 4 absentWorld (.legacy ⟨"pipewire"⟩)
    (steps .worker 14 ++ []) ⟨(), rfl⟩ rfl (by decide)).2 1005 rfl
  exact hscheduled.resolve_right fun h => absurd h.2 (by decide)

/-- Between two jobs of a daemon that goes on, a fault of the installed capture is on its
way to the worker, unless the scheduler has taken a notification from a capture that was
no longer installed. -/
theorem fault_not_lost (laneCapacity : ℕ) (world : World) (prepared : PreparedBootstrap)
    (turns : List (Turn Party Task))
    (hended : (run laneCapacity world prepared turns).Ended .worker)
    (hstarted : (run laneCapacity world prepared turns).shared.started = true)
    (hgoing : ¬(run laneCapacity world prepared turns).shared.Over)
    (hstrays : (run laneCapacity world prepared turns).shared.strays = 0) {attemptId : ℕ}
    (hinstalled : (run laneCapacity world prepared turns).shared.runtime.captureHealth =
      some attemptId) {health : PipeWireHealth}
    (hhealth : (run laneCapacity world prepared turns).shared.healths attemptId = some health)
    (hfault : health.fault.isSome)
    (hquiet : (run laneCapacity world prepared turns).shared.captures attemptId = .running none) :
    let ctx := (run laneCapacity world prepared turns).shared
    ctx.FaultDue ⟨ctx.runtime.lifecycle.generation, attemptId⟩ := by
  obtain ⟨-, -, hattended⟩ :=
    (settled_run laneCapacity world prepared turns hended hstarted hgoing).1
  obtain ⟨found, hfound, hbound, hdue⟩ := hattended hstrays attemptId hinstalled
  obtain rfl : found = health := Option.some.inj (hfound.symm.trans hhealth)
  rcases hdue (by simp) (hbound.reported hfault) with ⟨fault, hflight⟩ | hdue
  · rw [hquiet] at hflight
    cases hflight
  · exact hdue

theorem fault_not_lost_legacyRun :
    (legacyRun calmWorld faultOfFirst).shared.FaultDue ⟨1, 1⟩ :=
  fault_not_lost 4 calmWorld (.legacy ⟨"pipewire"⟩) (steps .worker 14 ++ faultOfFirst)
    ⟨(), rfl⟩ rfl (by decide) rfl rfl rfl rfl rfl

/-- A reload has just installed the capture 2. That one meets a fault; the capture 1, which
was bound to the same generation when the reload began, has met one too and reports it
last. -/
def strayRun : Pool Party Context :=
  legacyRun calmWorld
    ([.launch .listener (.request .reload), .launch .worker (.pop calmWorld)] ++
      steps .worker 24 ++ [.launch .captures (.fault 1 (.backendFault "gone")),
        .launch .captures (.fault 2 (.backendFault "gone")), .launch .captures (.deliver 2),
        .launch .captures (.deliver 1)] ++ steps .worker 3)

/-- The notification of a capture that is no longer installed takes the place of one that
matters: the capture is dead, and the daemon says that it runs and does nothing about it. -/
example :
    strayRun.Ended .worker ∧ strayRun.shared.strays = 1 ∧
      strayRun.shared.runtime.captureHealth = some 2 ∧
      ((strayRun.shared.healths 2).bind PipeWireHealth.fault).isSome ∧
      strayRun.shared.captures 2 = .running none ∧
      strayRun.shared.runtime.lifecycle.captureState = .running ∧
      ¬strayRun.shared.FaultDue ⟨2, 2⟩ := by
  refine ⟨⟨(), rfl⟩, rfl, rfl, rfl, rfl, rfl, ?_⟩
  have hpending : strayRun.shared.scheduler.state.pending =
      some (.immediate (.runtimeFault 2 1 (.backendFault "gone"))) := rfl
  have hqueue : strayRun.shared.lane.queue = [] := rfl
  rintro (⟨fault, hfault⟩ | ⟨fault, hfault⟩)
  · rw [hpending] at hfault
    cases hfault
  · rw [hqueue] at hfault
    cases hfault

end Runs

/-! ### The stop -/

section Stop

/-- What is final of a daemon that is to stop, whoever goes on. -/
structure Context.Final (capture : Option CaptureBackend) (ctx : Context) : Prop where
  inv : ctx.Inv
  stop : ctx.stop = true
  capture : ctx.runtime.capture = capture

theorem Context.Final.step {capture : Option CaptureBackend} {ctx ctx' : Context} {party : Party}
    (h : ctx.Final capture) (hstep : does party ctx ctx') : ctx'.Final capture := by
  have hinv := does_inv hstep h.inv
  have hsame : ctx.Same ctx' → ctx'.Final capture := fun hsame =>
    ⟨hinv, hsame.stop.trans h.stop, by rw [hsame.runtime]; exact h.capture⟩
  cases party with
  | worker =>
      obtain ⟨hstop, -, hcapture, -⟩ := WorkerStep.stop hstep h.stop
      exact ⟨hinv, hstop, hcapture.trans h.capture⟩
  | listener =>
      exact ⟨hinv, ListenerStep.stop hstep h.stop, (ListenerStep.capture hstep).trans h.capture⟩
  | scheduler => exact hsame (SchedulerStep.same hstep h.inv)
  | captures => exact hsame (CaptureStep.same hstep)

/-- With the capture the session is the same. -/
theorem Context.Final.session {ctx ctx' : Context} (h : ctx'.Final ctx.runtime.capture)
    (hinv : ctx.Inv) : ctx'.runtime.session = ctx.runtime.session := by
  rw [h.inv.owned.session, hinv.owned.session, h.capture]

end Stop

/-! ### Work that was overtaken -/

/-- What the daemon is about is as it was. The locks may have changed, and the scheduler
may have been woken. -/
structure Context.Untouched (ctx ctx' : Context) : Prop where
  runtime : ctx'.runtime = ctx.runtime
  captures : ctx'.captures = ctx.captures
  healths : ctx'.healths = ctx.healths
  stop : ctx'.stop = ctx.stop
  operationEpoch : ctx'.operationEpoch = ctx.operationEpoch
  nextAttempt : ctx'.nextAttempt = ctx.nextAttempt
  lane : ctx'.lane = ctx.lane
  pending : ctx'.scheduler.state.pending = ctx.scheduler.state.pending
  generation : ctx'.scheduler.state.generation = ctx.scheduler.state.generation

theorem Context.Untouched.refl (ctx : Context) : ctx.Untouched ctx :=
  ⟨rfl, rfl, rfl, rfl, rfl, rfl, rfl, rfl, rfl⟩

/-- The generation was overtaken. -/
def Context.Overtaken (generation : ℕ) (ctx : Context) : Prop :=
  generation < ctx.runtime.lifecycle.generation

theorem runtime_iterate (ctx : Context) (now : ℕ) : (ctx.iterate now).runtime = ctx.runtime := by
  unfold Context.iterate
  simp only
  split
  · rfl
  · rfl

section Overtaken

variable {generation : ℕ}

/-- Generations only grow. -/
theorem stable_overtaken (generation : ℕ) :
    Thread.Stable WorkerRely (Context.Overtaken generation) := by
  intro ctx ctx' h hstep
  unfold Context.Overtaken at h ⊢
  rcases hstep with hlistener | (⟨now, rfl⟩ | rfl) | hcapture
  · exact h.trans_le hlistener.generation
  · rw [runtime_iterate]
    exact h
  · exact h
  · rw [hcapture.same.runtime]
    exact h

/-- The operation is found to be overtaken. -/
theorem leaves_scheduledGenerationDecision (generation : ℕ) :
    Thread.Spec WorkerRely Context.Untouched (Context.Overtaken generation)
      (scheduledGenerationDecision generation) fun decision ctx =>
        ctx.Overtaken generation ∧ decision ≠ .current := by
  have hstable := stable_overtaken generation
  have hdecided : ∀ decision : ScheduledGenerationDecision, Thread.Stable WorkerRely
      fun ctx => ctx.Overtaken generation ∧ decision ≠ .current := fun decision =>
    hstable.and fun _ _ h _ => h
  have hlock : Thread.Spec WorkerRely Context.Untouched (Context.Overtaken generation)
      (lockOperationAuthority .worker) fun _ => Context.Overtaken generation :=
    Thread.Spec.await hstable hstable fun ctx h _ =>
      ⟨⟨rfl, rfl, rfl, rfl, rfl, rfl, rfl, rfl, rfl⟩, h⟩
  have hunlock : ∀ decision : ScheduledGenerationDecision, Thread.Spec WorkerRely
      Context.Untouched (fun ctx => ctx.Overtaken generation ∧ decision ≠ .current)
      unlockOperationAuthority fun _ ctx => ctx.Overtaken generation ∧ decision ≠ .current :=
    fun decision => Thread.Spec.modify (hdecided decision) (hdecided decision) fun ctx h =>
      ⟨⟨rfl, rfl, rfl, rfl, rfl, rfl, rfl, rfl, rfl⟩, h⟩
  refine hlock.bind fun _ => ?_
  refine (Thread.Spec.atomic hstable hdecided fun ctx h _ => ⟨.refl ctx, h, ?_⟩).bind
    fun decision => ?_
  · have hother : ctx.runtime.lifecycle.generation ≠ generation := Nat.ne_of_gt h
    simp only [if_neg hother]
    split_ifs <;> rintro ⟨⟩
  · exact (hunlock decision).bind fun _ => Thread.Spec.pure (hdecided decision) fun _ h => h

/-- A retry or a fault that was overtaken touches nothing. -/
theorem leaves_executeOperationJob (world : World) (operation : ScheduledOperation) :
    Thread.Spec WorkerRely Context.Untouched (Context.Overtaken operation.generation)
      (executeOperationJob world (.internal operation)) fun _ _ => True := by
  have hstable := stable_overtaken operation.generation
  have hdone : Thread.Spec WorkerRely Context.Untouched
      (Context.Overtaken operation.generation) (pure ()) fun _ _ => True :=
    Thread.Spec.pure hstable fun _ _ => trivial
  have hdecided := leaves_scheduledGenerationDecision operation.generation
  have hnotify : Thread.Spec WorkerRely Context.Untouched
      (Context.Overtaken operation.generation) (Thread.modify Context.notifyLaneAvailable)
      fun _ => Context.Overtaken operation.generation :=
    Thread.Spec.modify hstable hstable fun ctx h =>
      ⟨⟨rfl, rfl, rfl, rfl, rfl, rfl, rfl, rfl, rfl⟩, h⟩
  refine hnotify.bind fun _ => ?_
  refine (Thread.Spec.read hstable (fun _ => hstable) fun ctx h => ⟨.refl ctx, h⟩).bind
    fun stop => ?_
  refine .ite (fun _ => hdone) fun _ => ?_
  cases operation with
  | retry generation =>
      refine hdecided.bind fun decision => .ite (fun _ => hdone.pre fun _ h => h.1)
        fun hcurrent => ?_
      exact Thread.Spec.absurd fun ctx h => hcurrent h.2
  | runtimeFault generation attemptId fault =>
      refine hdecided.bind fun decision => .ite (fun _ => hdone.pre fun _ h => h.1)
        fun hcurrent => ?_
      exact Thread.Spec.absurd fun ctx h => hcurrent h.2

/-- The worker takes a job of the lane. -/
theorem turn_pop {pool : Pool Party Context} {job : OperationJob} {queue : List OperationJob}
    (hended : pool.Ended .worker)
    (hstarted : pool.shared.started = true) (hqueue : pool.shared.lane.queue = job :: queue)
    (world : World) :
    pool.turn launch (.launch .worker (.pop world)) =
      { shared := pool.shared.without queue
        threads := Function.update pool.threads .worker (executeOperationJob world job) } := by
  obtain ⟨u, hthread⟩ := hended
  simp only [Pool.turn, hthread, launch, hqueue]
  rw [if_pos hstarted]

/-- A retry or a runtime fault of a generation that is not the current one any more, once
the worker has taken it, touches nothing with any of its steps, whatever comes between. -/
theorem overtaken_job_touches_nothing (laneCapacity : ℕ) (world : World)
    (prepared : PreparedBootstrap) (turns : List (Turn Party Task))
    {operation : ScheduledOperation} {queue : List OperationJob}
    (hended : (run laneCapacity world prepared turns).Ended .worker)
    (hstarted : (run laneCapacity world prepared turns).shared.started = true)
    (hqueue : (run laneCapacity world prepared turns).shared.lane.queue =
      .internal operation :: queue)
    (hother : operation.generation ≠
      (run laneCapacity world prepared turns).shared.runtime.lifecycle.generation)
    (world' : World) (later : List (Turn Party Task))
    (hlater : ∀ task, .launch .worker task ∉ later) :
    let before := run laneCapacity world prepared (turns ++ .launch .worker (.pop world') :: later)
    before.shared.Untouched (before.turn launch (.advance .worker)).shared := by
  have hlawful := lawful_run laneCapacity world prepared turns
  have hinv := inv_run laneCapacity world prepared turns
  have hpop := turn_pop hended hstarted hqueue world'
  have hovertaken : Context.Overtaken operation.generation
      ((run laneCapacity world prepared turns).shared.without queue) := by
    have hqueued := hinv.queued operation (by rw [hqueue]; exact List.mem_cons_self ..)
    exact Nat.lt_of_le_of_ne (hqueued.trans hinv.ahead) hother
  have hmeets := Pool.Lawful.besides (hlawful.turn compatible (.launch .worker (.pop world'))).1
    compatible (i := .worker) (by
      rw [hpop]
      simp only [Function.update_self]
      exact leaves_executeOperationJob world' operation _ hovertaken) later hlater
  have hrun : run laneCapacity world prepared (turns ++ .launch .worker (.pop world') :: later) =
      ((run laneCapacity world prepared turns).turn launch
        (.launch .worker (.pop world'))).run launch later := by
    rw [run_append]
    rfl
  simp only [hrun]
  rcases Pool.advance_of_meets hmeets with hsame | hstep
  · rw [hsame]
    exact .refl _
  · exact hstep

/-- A stop of the capture comes before the fault that was reported. -/
def overtakenTurns : List (Turn Party Task) :=
  faultOfFirst ++ [.launch .listener (.request .stopCapture), .launch .scheduler (.iterate 5),
    .launch .worker (.pop calmWorld)] ++ steps .worker 22

theorem overtaken_job_touches_nothing_legacyRun :
    let before := legacyRun calmWorld (overtakenTurns ++
      .launch .worker (.pop calmWorld) :: steps .worker 2)
    before.shared.Untouched (before.turn launch (.advance .worker)).shared :=
  overtaken_job_touches_nothing 4 calmWorld (.legacy ⟨"pipewire"⟩)
    (steps .worker 14 ++ overtakenTurns) ⟨(), rfl⟩ rfl rfl (by decide) calmWorld
    (steps .worker 2) (by simp [steps])

end Overtaken

end Lamb.Daemon
