import Mathlib.Algebra.Ring.Nat
import Mathlib.Data.List.Induction
import Mathlib.Data.List.Nodup

/-!
The retry scheduler of the daemon. Handles put one operation into a shared slot;
a worker waits until it is due and hands it to the operation lane. Everything
happens under one lock: a call of a handle is one step, and the worker holds the
lock from the check of the slot to the answer of the lane and gives it up only to
wait. The clock and the lane answer as they like, and a wait may end at any time.
-/

namespace Lamb.Daemon

/-! ### The shared state -/

inductive RuntimeCaptureFault
  | deviceDisconnected (message : String)
  | backendFault (message : String)
  deriving DecidableEq, Repr

inductive ScheduledOperation
  | retry (generation : ℕ)
  | runtimeFault (generation attemptId : ℕ) (fault : RuntimeCaptureFault)
  deriving DecidableEq, Repr

def ScheduledOperation.generation : ScheduledOperation → ℕ
  | .retry generation => generation
  | .runtimeFault generation _ _ => generation

inductive PendingOperation
  | retry (generation due : ℕ)
  | immediate (operation : ScheduledOperation)
  deriving DecidableEq, Repr

def PendingOperation.generation : PendingOperation → ℕ
  | .retry generation _ => generation
  | .immediate operation => operation.generation

def PendingOperation.operation : PendingOperation → ScheduledOperation
  | .retry generation _ => .retry generation
  | .immediate operation => operation

structure SchedulerState where
  generation : ℕ
  pending : Option PendingOperation
  stopped : Bool
  wakeEpoch : ℕ
  deriving DecidableEq, Repr

inductive EnqueueError
  | full
  | closed
  deriving DecidableEq, Repr

/-- What the worker thread is doing: in its loop, in `Condvar::wait`, in
`Condvar::wait_timeout`, or at its end. -/
inductive Worker
  | running
  | parked
  | parkedFor (millis : ℕ)
  | returned
  deriving DecidableEq, Repr

structure Scheduler where
  state : SchedulerState
  worker : Worker
  deriving DecidableEq, Repr

def Scheduler.new : Scheduler where
  state := ⟨0, none, false, 0⟩
  worker := .running

/-- `Condvar::notify_all`, and the end of a wait for no reason. -/
def Worker.wake : Worker → Worker
  | .returned => .returned
  | _ => .running

/-! ### The handles -/

/-- The common part of `schedule_retry` and `notify_fault`. -/
def Scheduler.accepts (scheduler : Scheduler) (generation : ℕ) : Bool :=
  !(scheduler.state.stopped || generation < scheduler.state.generation)

def Scheduler.put (scheduler : Scheduler) (generation : ℕ) (pending : PendingOperation) :
    Scheduler :=
  if scheduler.accepts generation then
    { state :=
        { scheduler.state with
          generation := generation
          pending := some pending
          wakeEpoch := (scheduler.state.wakeEpoch + 1) % 2 ^ 64 }
      worker := scheduler.worker.wake }
  else scheduler

def Scheduler.scheduleRetry (scheduler : Scheduler) (generation due : ℕ) : Scheduler :=
  scheduler.put generation (.retry generation due)

def Scheduler.notifyFault (scheduler : Scheduler) (generation attemptId : ℕ)
    (fault : RuntimeCaptureFault) : Scheduler :=
  scheduler.put generation (.immediate (.runtimeFault generation attemptId fault))

def Scheduler.invalidate (scheduler : Scheduler) (generation : ℕ) : Scheduler :=
  if generation < scheduler.state.generation then scheduler
  else
    { state :=
        { scheduler.state with
          generation := generation
          pending := none
          wakeEpoch := (scheduler.state.wakeEpoch + 1) % 2 ^ 64 }
      worker := scheduler.worker.wake }

def Scheduler.notifyLaneAvailable (scheduler : Scheduler) : Scheduler where
  state := { scheduler.state with wakeEpoch := (scheduler.state.wakeEpoch + 1) % 2 ^ 64 }
  worker := scheduler.worker.wake

def Scheduler.stop (scheduler : Scheduler) : Scheduler where
  state :=
    { scheduler.state with
      stopped := true
      pending := none
      wakeEpoch := (scheduler.state.wakeEpoch + 1) % 2 ^ 64 }
  worker := scheduler.worker.wake

/-! ### The worker -/

/-- What is left of a wait when the pending operation is a retry that is not due. -/
def PendingOperation.remaining (now : ℕ) : PendingOperation → Option ℕ
  | .retry _ due => if now < due then some (due - now) else none
  | .immediate _ => none

/-- Hands an operation to the lane. The lock is held, so the wake epoch after the
answer is the one before it. -/
def Scheduler.submit (scheduler : Scheduler) (wakeEpoch : ℕ) :
    Except EnqueueError Unit → Scheduler
  | .ok () => { scheduler with state := { scheduler.state with pending := none } }
  | .error .closed => { scheduler with state := { scheduler.state with pending := none } }
  | .error .full =>
      if scheduler.state.wakeEpoch = wakeEpoch then { scheduler with worker := .parked }
      else scheduler

/-- One round of the worker's loop, and what it submitted. -/
def Scheduler.iterate (scheduler : Scheduler) (now : ℕ) (answer : Except EnqueueError Unit) :
    Scheduler × Option ScheduledOperation :=
  if scheduler.worker ≠ .running then (scheduler, none)
  else if scheduler.state.stopped then ({ scheduler with worker := .returned }, none)
  else
    match scheduler.state.pending with
    | none => ({ scheduler with worker := .parked }, none)
    | some pending =>
        if pending.generation ≠ scheduler.state.generation then
          ({ scheduler with state := { scheduler.state with pending := none } }, none)
        else
          match pending.remaining now with
          | some wait => ({ scheduler with worker := .parkedFor wait }, none)
          | none =>
              (scheduler.submit scheduler.state.wakeEpoch answer, some pending.operation)

/-! ### Runs -/

inductive Event
  | scheduleRetry (generation due : ℕ)
  | notifyFault (generation attemptId : ℕ) (fault : RuntimeCaptureFault)
  | invalidate (generation : ℕ)
  | notifyLaneAvailable
  | stop
  /-- A round of the worker at the clock reading `now`, with the answer of the lane
  should it be asked. -/
  | iterate (now : ℕ) (answer : Except EnqueueError Unit)
  /-- A wait of the worker ends, by its timeout or for no reason. -/
  | wake

def Scheduler.step (scheduler : Scheduler) : Event → Scheduler
  | .scheduleRetry generation due => scheduler.scheduleRetry generation due
  | .notifyFault generation attemptId fault => scheduler.notifyFault generation attemptId fault
  | .invalidate generation => scheduler.invalidate generation
  | .notifyLaneAvailable => scheduler.notifyLaneAvailable
  | .stop => scheduler.stop
  | .iterate now answer => (scheduler.iterate now answer).1
  | .wake => { scheduler with worker := scheduler.worker.wake }

/-- The operation a call schedules, if it is heard. -/
def Event.pending : Event → Option PendingOperation
  | .scheduleRetry generation due => some (.retry generation due)
  | .notifyFault generation attemptId fault =>
      some (.immediate (.runtimeFault generation attemptId fault))
  | _ => none

/-- The generation a call carries. -/
def Event.generation : Event → Option ℕ
  | .scheduleRetry generation _ => some generation
  | .notifyFault generation _ _ => some generation
  | .invalidate generation => some generation
  | _ => none

/-- Whether an event wakes the worker up. -/
def Scheduler.wakesOn (scheduler : Scheduler) : Event → Bool
  | .scheduleRetry generation _ => scheduler.accepts generation
  | .notifyFault generation _ _ => scheduler.accepts generation
  | .invalidate generation => !(generation < scheduler.state.generation)
  | .notifyLaneAvailable => true
  | .stop => true
  | .iterate _ _ => false
  | .wake => true

/-- An operation that was handed to the lane in the round `index` of a run: the call
that had scheduled it, the clock, the answer, and how often the worker had been
woken up by then. -/
structure Submission where
  index : ℕ
  ticket : Option ℕ
  operation : ScheduledOperation
  now : ℕ
  answer : Except EnqueueError Unit
  wakeUps : ℕ

/-- A run with its history: `ticket` is the call that scheduled what is pending. -/
structure History where
  scheduler : Scheduler
  events : List Event
  ticket : Option ℕ
  wakeUps : ℕ
  submissions : List Submission

def History.new : History where
  scheduler := .new
  events := []
  ticket := none
  wakeUps := 0
  submissions := []

/-- The call that has scheduled what is pending after an event. -/
def History.ticketAfter (history : History) (event : Event) : Option ℕ :=
  match event.pending, event.generation with
  | some _, some generation =>
      if history.scheduler.accepts generation then some history.events.length
      else history.ticket
  | _, _ => history.ticket

def History.submissionsOf (history : History) : Event → List Submission
  | .iterate now answer =>
      match (history.scheduler.iterate now answer).2 with
      | some operation =>
          [⟨history.events.length, history.ticket, operation, now, answer, history.wakeUps⟩]
      | none => []
  | _ => []

def History.step (history : History) (event : Event) : History where
  scheduler := history.scheduler.step event
  events := history.events ++ [event]
  ticket := history.ticketAfter event
  wakeUps := history.wakeUps + if history.scheduler.wakesOn event then 1 else 0
  submissions := history.submissions ++ history.submissionsOf event

def History.run (events : List Event) : History :=
  events.foldl History.step .new

/-! ### What holds in every run -/

/-- What a submission may be: an operation that was scheduled and has not been
overtaken, invalidated or stopped since, and a retry only when it is due. -/
structure Submission.Lawful (events : List Event) (submission : Submission) : Prop where
  happened : events[submission.index]? = some (.iterate submission.now submission.answer)
  scheduled : ∃ ticket event pending, submission.ticket = some ticket ∧
    ticket < submission.index ∧ events[ticket]? = some event ∧ event.pending = some pending ∧
    submission.operation = pending.operation ∧
    (∀ generation due, pending = .retry generation due → due ≤ submission.now) ∧
    ∀ generation, .invalidate generation ∈ (events.take submission.index).drop (ticket + 1) →
      generation < submission.operation.generation
  newest : ∀ event ∈ events.take submission.index, ∀ generation ∈ event.generation,
    generation ≤ submission.operation.generation
  notStopped : .stop ∉ events.take submission.index

/-- The submissions the lane took. -/
def History.accepted (history : History) : List Submission :=
  history.submissions.filter fun submission => submission.answer = .ok ()

/-- What is pending: the operation of the call `ticket`, of the highest generation,
not invalidated and not yet taken by the lane. -/
structure History.Pending (history : History) (pending : PendingOperation) (ticket : ℕ) :
    Prop where
  ticket_eq : history.ticket = some ticket
  scheduled : ∃ event, history.events[ticket]? = some event ∧ event.pending = some pending
  current : pending.generation = history.scheduler.state.generation
  running : history.scheduler.state.stopped = false
  valid : ∀ generation, .invalidate generation ∈ history.events.drop (ticket + 1) →
    generation < pending.generation
  open_ : some ticket ∉ history.accepted.map Submission.ticket

structure History.Sound (history : History) : Prop where
  seen : history.scheduler.state.stopped = false → ∀ event ∈ history.events,
    ∀ generation ∈ event.generation, generation ≤ history.scheduler.state.generation
  stopped : history.scheduler.state.stopped = true ↔ .stop ∈ history.events
  pending : ∀ pending, history.scheduler.state.pending = some pending →
    ∃ ticket, history.Pending pending ticket
  lawful : ∀ submission ∈ history.submissions, submission.Lawful history.events
  once : (history.accepted.map Submission.ticket).Nodup
  parked : history.scheduler.worker = .parked → history.scheduler.state.pending ≠ none →
    ∃ submission, history.submissions.getLast? = some submission ∧
      submission.answer = .error .full ∧ submission.ticket = history.ticket ∧
      submission.wakeUps = history.wakeUps

section Sound

variable {history : History} {events : List Event} {event : Event}

theorem Submission.Lawful.index_lt {submission : Submission} (h : submission.Lawful events) :
    submission.index < events.length :=
  (List.getElem?_eq_some_iff.mp h.happened).1

/-- Later events do not touch a submission. -/
theorem Submission.Lawful.append {submission : Submission} (h : submission.Lawful events)
    (more : List Event) : submission.Lawful (events ++ more) := by
  have hlt := h.index_lt
  have htake : (events ++ more).take submission.index = events.take submission.index :=
    List.take_append_of_le_length (Nat.le_of_lt hlt)
  refine ⟨?_, ?_, ?_, ?_⟩
  · rw [List.getElem?_append_left hlt]
    exact h.happened
  · obtain ⟨ticket, event, pending, hticket, hbefore, hevent, hrest⟩ := h.scheduled
    refine ⟨ticket, event, pending, hticket, hbefore, ?_, ?_⟩
    · rw [List.getElem?_append_left (Nat.lt_trans hbefore hlt)]
      exact hevent
    · rw [htake]
      exact hrest
  · rw [htake]
    exact h.newest
  · rw [htake]
    exact h.notStopped

theorem History.step_accepted (history : History) (event : Event) :
    (history.step event).accepted = history.accepted ++
      (history.submissionsOf event).filter fun submission => submission.answer = .ok () := by
  unfold History.accepted History.step
  rw [List.filter_append]

theorem History.Pending.ticket_lt {pending : PendingOperation} {ticket : ℕ}
    (h : history.Pending pending ticket) : ticket < history.events.length := by
  obtain ⟨event, hevent, -⟩ := h.scheduled
  exact (List.getElem?_eq_some_iff.mp hevent).1

theorem History.Pending.append {pending : PendingOperation} {ticket : ℕ} {history' : History}
    (h : history.Pending pending ticket)
    (hticket : history'.ticket = history.ticket) (hevents : history'.events = history.events ++ [event])
    (hgeneration : history'.scheduler.state.generation = history.scheduler.state.generation)
    (hstopped : history'.scheduler.state.stopped = history.scheduler.state.stopped)
    (haccepted : history'.accepted = history.accepted)
    (hvalid : ∀ generation, event = .invalidate generation →
      generation < history.scheduler.state.generation) :
    history'.Pending pending ticket := by
  have hlt := h.ticket_lt
  refine ⟨hticket.trans h.ticket_eq, ?_, ?_, hstopped.trans h.running, ?_, ?_⟩
  · obtain ⟨scheduling, hscheduling, hpending⟩ := h.scheduled
    refine ⟨scheduling, ?_, hpending⟩
    rw [hevents, List.getElem?_append_left hlt]
    exact hscheduling
  · rw [hgeneration]
    exact h.current
  · intro generation hmem
    rw [hevents, List.drop_append_of_le_length (by omega)] at hmem
    rcases List.mem_append.mp hmem with hbefore | hnew
    · exact h.valid generation hbefore
    · rw [h.current]
      exact hvalid generation (List.mem_singleton.mp hnew).symm
  · rw [haccepted]
    exact h.open_

/-- An event that leaves the slot as it is and hands nothing to the lane. -/
structure History.Quiet (history : History) (event : Event) : Prop where
  generation : (history.scheduler.step event).state.generation =
    history.scheduler.state.generation
  pending : (history.scheduler.step event).state.pending = history.scheduler.state.pending
  stopped : (history.scheduler.step event).state.stopped = history.scheduler.state.stopped
  ticket : history.ticketAfter event = history.ticket
  submissions : history.submissionsOf event = []
  seen : history.scheduler.state.stopped = false → ∀ generation ∈ event.generation,
    generation ≤ history.scheduler.state.generation
  noStop : event ≠ .stop
  noInvalidate : ∀ generation, event = .invalidate generation →
    generation < history.scheduler.state.generation
  parked : (history.scheduler.step event).worker = .parked →
    history.scheduler.state.pending ≠ none →
      history.scheduler.worker = .parked ∧ history.scheduler.wakesOn event = false

theorem History.Quiet.sound (hquiet : history.Quiet event) (h : history.Sound) :
    (history.step event).Sound := by
  have haccepted : (history.step event).accepted = history.accepted := by
    rw [History.step_accepted, hquiet.submissions]
    simp
  have hsubmissions : (history.step event).submissions = history.submissions := by
    unfold History.step
    rw [hquiet.submissions, List.append_nil]
  refine ⟨?_, ?_, ?_, ?_, ?_, ?_⟩
  · intro hrunning other hother generation hgeneration
    have hrunning : history.scheduler.state.stopped = false := hquiet.stopped ▸ hrunning
    have hgoal : generation ≤ history.scheduler.state.generation := by
      rcases List.mem_append.mp hother with hbefore | hnew
      · exact h.seen hrunning other hbefore generation hgeneration
      · rw [List.mem_singleton.mp hnew] at hgeneration
        exact hquiet.seen hrunning generation hgeneration
    change generation ≤ (history.scheduler.step event).state.generation
    rw [hquiet.generation]
    exact hgoal
  · change (history.scheduler.step event).state.stopped = true ↔ .stop ∈ history.events ++ [event]
    rw [hquiet.stopped, h.stopped, List.mem_append, List.mem_singleton]
    exact (or_iff_left fun hstop => hquiet.noStop hstop.symm).symm
  · intro pending hpending
    obtain ⟨ticket, hticket⟩ := h.pending pending (hquiet.pending ▸ hpending)
    exact ⟨ticket, hticket.append hquiet.ticket rfl hquiet.generation hquiet.stopped haccepted
      hquiet.noInvalidate⟩
  · intro submission hsubmission
    rw [hsubmissions] at hsubmission
    exact (h.lawful submission hsubmission).append [event]
  · rw [haccepted]
    exact h.once
  · intro hparked hpending
    have hpending : history.scheduler.state.pending ≠ none := hquiet.pending ▸ hpending
    obtain ⟨hbefore, hnoWake⟩ := hquiet.parked hparked hpending
    obtain ⟨submission, hlast, hfull, hticket, hwakeUps⟩ := h.parked hbefore hpending
    refine ⟨submission, ?_, hfull, ?_, ?_⟩
    · rw [hsubmissions]
      exact hlast
    · rw [hticket]
      exact hquiet.ticket.symm
    · rw [hwakeUps]
      unfold History.step
      rw [hnoWake]
      rfl

/-- After an event that empties the slot nothing is left to submit. -/
theorem History.Sound.emptied (h : history.Sound)
    (hpending : (history.scheduler.step event).state.pending = none)
    (hseen : (history.scheduler.step event).state.stopped = false →
      history.scheduler.state.stopped = false ∧
      history.scheduler.state.generation ≤ (history.scheduler.step event).state.generation ∧
      ∀ generation ∈ event.generation,
        generation ≤ (history.scheduler.step event).state.generation)
    (hstopped : (history.scheduler.step event).state.stopped = true ↔
      history.scheduler.state.stopped = true ∨ event = .stop)
    (hlawful : ∀ submission ∈ history.submissionsOf event,
      submission.Lawful (history.events ++ [event]))
    (honce : ((history.step event).accepted.map Submission.ticket).Nodup) :
    (history.step event).Sound := by
  refine ⟨?_, ?_, ?_, ?_, honce, ?_⟩
  · intro hrunning other hother generation hgeneration
    obtain ⟨hbefore, hraised, hnew⟩ := hseen hrunning
    rcases List.mem_append.mp hother with hold | hlast
    · exact Nat.le_trans (h.seen hbefore other hold generation hgeneration) hraised
    · rw [List.mem_singleton.mp hlast] at hgeneration
      exact hnew generation hgeneration
  · change (history.scheduler.step event).state.stopped = true ↔ .stop ∈ history.events ++ [event]
    rw [hstopped, h.stopped, List.mem_append, List.mem_singleton, eq_comm]
  · intro pending hsome
    have hnone : (history.scheduler.step event).state.pending = some pending := hsome
    rw [hpending] at hnone
    cases hnone
  · intro submission hsubmission
    rcases List.mem_append.mp hsubmission with hold | hnew
    · exact (h.lawful submission hold).append [event]
    · exact hlawful submission hnew
  · intro _ hsome
    exact absurd hpending hsome

/-- A call that schedules an operation, with the operation and its generation. -/
structure Event.Puts (event : Event) (generation : ℕ) (pending : PendingOperation) : Prop where
  step : ∀ scheduler : Scheduler, scheduler.step event = scheduler.put generation pending
  pending_eq : event.pending = some pending
  generation_eq : event.generation = some generation
  wakesOn : ∀ scheduler : Scheduler, scheduler.wakesOn event = scheduler.accepts generation
  submissions : ∀ history : History, history.submissionsOf event = []
  of_pending : pending.generation = generation

theorem Event.Puts.ticketAfter {generation : ℕ} {pending : PendingOperation}
    (h : event.Puts generation pending) (history : History) :
    history.ticketAfter event = if history.scheduler.accepts generation then
      some history.events.length else history.ticket := by
  unfold History.ticketAfter
  rw [h.pending_eq, h.generation_eq]

theorem Event.Puts.ne_stop {generation : ℕ} {pending : PendingOperation}
    (h : event.Puts generation pending) : event ≠ .stop := by
  rintro rfl
  cases h.pending_eq

theorem Event.Puts.ne_invalidate {generation generation' : ℕ} {pending : PendingOperation}
    (h : event.Puts generation pending) : event ≠ .invalidate generation' := by
  rintro rfl
  cases h.pending_eq

theorem accepts_eq_true {scheduler : Scheduler} {generation : ℕ} :
    scheduler.accepts generation = true ↔
      scheduler.state.stopped = false ∧ scheduler.state.generation ≤ generation := by
  simp [Scheduler.accepts]

theorem Event.Puts.sound {generation : ℕ} {pending : PendingOperation}
    (hputs : event.Puts generation pending) (h : history.Sound) : (history.step event).Sound := by
  cases haccepts : history.scheduler.accepts generation with
  | false =>
      have hstep : history.scheduler.step event = history.scheduler := by
        rw [hputs.step, Scheduler.put, haccepts]
        rfl
      refine History.Quiet.sound ⟨by rw [hstep], by rw [hstep], by rw [hstep], ?_,
        hputs.submissions history, ?_, hputs.ne_stop, fun _ h => absurd h hputs.ne_invalidate,
        ?_⟩ h
      · rw [hputs.ticketAfter, haccepts]
        rfl
      · intro hrunning generation' hgeneration'
        rw [hputs.generation_eq] at hgeneration'
        cases hgeneration'
        by_contra hlt
        have hyes := accepts_eq_true.mpr ⟨hrunning, Nat.le_of_not_le fun h => hlt h⟩
        rw [haccepts] at hyes
        cases hyes
      · rw [hstep, hputs.wakesOn]
        exact fun hparked _ => ⟨hparked, haccepts⟩
  | true =>
      obtain ⟨hrunning, hraised⟩ := accepts_eq_true.mp haccepts
      have hstep : history.scheduler.step event =
          { state :=
              { history.scheduler.state with
                generation := generation
                pending := some pending
                wakeEpoch := (history.scheduler.state.wakeEpoch + 1) % 2 ^ 64 }
            worker := history.scheduler.worker.wake } := by
        rw [hputs.step, Scheduler.put, haccepts]
        rfl
      have haccepted : (history.step event).accepted = history.accepted := by
        rw [History.step_accepted, hputs.submissions]
        simp
      have hworker : (history.step event).scheduler.worker ≠ .parked := by
        change (history.scheduler.step event).worker ≠ .parked
        rw [hstep]
        cases history.scheduler.worker <;> simp [Worker.wake]
      refine ⟨?_, ?_, ?_, ?_, ?_, fun hparked => absurd hparked hworker⟩
      · intro _ other hother generation' hgeneration'
        change generation' ≤ (history.scheduler.step event).state.generation
        rw [hstep]
        rcases List.mem_append.mp hother with hbefore | hnew
        · exact Nat.le_trans (h.seen hrunning other hbefore generation' hgeneration') hraised
        · rw [List.mem_singleton.mp hnew, hputs.generation_eq] at hgeneration'
          exact Nat.le_of_eq (Option.some.inj hgeneration').symm
      · change (history.scheduler.step event).state.stopped = true ↔
          .stop ∈ history.events ++ [event]
        rw [hstep, List.mem_append, List.mem_singleton]
        exact h.stopped.trans (or_iff_left fun hstop => hputs.ne_stop hstop.symm).symm
      · intro pending' hpending'
        have hpending' : (history.scheduler.step event).state.pending = some pending' := hpending'
        rw [hstep] at hpending'
        cases hpending'
        refine ⟨history.events.length, ?_, ⟨event, ?_, hputs.pending_eq⟩, ?_, ?_, ?_, ?_⟩
        · change history.ticketAfter event = _
          rw [hputs.ticketAfter, haccepts]
          rfl
        · exact List.getElem?_concat_length
        · change pending.generation = (history.scheduler.step event).state.generation
          rw [hstep, hputs.of_pending]
        · change (history.scheduler.step event).state.stopped = false
          rw [hstep]
          exact hrunning
        · intro generation' hmem
          change Event.invalidate generation' ∈
            (history.events ++ [event]).drop (history.events.length + 1) at hmem
          rw [List.drop_of_length_le (by simp)] at hmem
          cases hmem
        · rw [haccepted]
          intro hmem
          obtain ⟨submission, hsubmission, hticket⟩ := List.mem_map.mp hmem
          have hlawful := h.lawful submission (List.mem_of_mem_filter hsubmission)
          obtain ⟨ticket, -, -, hsome, hbefore, -⟩ := hlawful.scheduled
          rw [hticket] at hsome
          cases hsome
          exact absurd (Nat.lt_trans hbefore hlawful.index_lt) (Nat.lt_irrefl _)
      · intro submission hsubmission
        have hsubmission : submission ∈ history.submissions ++ history.submissionsOf event :=
          hsubmission
        rw [hputs.submissions, List.append_nil] at hsubmission
        exact (h.lawful submission hsubmission).append [event]
      · rw [haccepted]
        exact h.once

theorem Worker.wake_ne_parked (worker : Worker) : worker.wake ≠ .parked := by
  cases worker <;> simp [Worker.wake]

/-- An event that submits nothing keeps what the lane has taken. -/
theorem History.once_of_no_submission (h : history.Sound)
    (hnone : history.submissionsOf event = []) :
    ((history.step event).accepted.map Submission.ticket).Nodup := by
  rw [History.step_accepted, hnone, List.filter_nil, List.append_nil]
  exact h.once

theorem History.Sound.invalidate (h : history.Sound) (generation : ℕ) :
    (history.step (.invalidate generation)).Sound := by
  by_cases hlt : generation < history.scheduler.state.generation
  · have hstep : history.scheduler.step (.invalidate generation) = history.scheduler := by
      simp [Scheduler.step, Scheduler.invalidate, hlt]
    refine History.Quiet.sound ⟨by rw [hstep], by rw [hstep], by rw [hstep], rfl, rfl, ?_,
      by simp, ?_, ?_⟩ h
    · intro _ generation' hgeneration'
      cases hgeneration'
      exact Nat.le_of_lt hlt
    · intro generation' heq
      cases heq
      exact hlt
    · rw [hstep]
      exact fun hparked _ => ⟨hparked, by simp [Scheduler.wakesOn, hlt]⟩
  · refine h.emptied ?_ ?_ ?_ (by simp [History.submissionsOf])
      (History.once_of_no_submission h rfl)
    · simp [Scheduler.step, Scheduler.invalidate, hlt]
    · simp only [Scheduler.step, Scheduler.invalidate, if_neg hlt, Event.generation,
        Option.mem_some]
      exact fun hrunning => ⟨hrunning, by omega, fun _ h => by omega⟩
    · simp [Scheduler.step, Scheduler.invalidate, hlt]

theorem History.Sound.stop (h : history.Sound) : (history.step .stop).Sound := by
  refine h.emptied rfl ?_ ?_ (by simp [History.submissionsOf])
    (History.once_of_no_submission h rfl)
  · intro hrunning
    cases hrunning
  · simp [Scheduler.step, Scheduler.stop]

theorem History.Sound.notifyLaneAvailable (h : history.Sound) :
    (history.step .notifyLaneAvailable).Sound := by
  refine History.Quiet.sound ⟨rfl, rfl, rfl, rfl, rfl, ?_, by simp, by simp, ?_⟩ h
  · intro _ _ hgeneration
    cases hgeneration
  · exact fun hparked => absurd hparked (Worker.wake_ne_parked _)

theorem History.Sound.wake (h : history.Sound) : (history.step .wake).Sound := by
  refine History.Quiet.sound ⟨rfl, rfl, rfl, rfl, rfl, ?_, by simp, by simp, ?_⟩ h
  · intro _ _ hgeneration
    cases hgeneration
  · exact fun hparked => absurd hparked (Worker.wake_ne_parked _)

variable {now : ℕ} {answer : Except EnqueueError Unit}

/-- What a round of the worker can do: change only what the worker does, or submit the
pending operation. -/
theorem Scheduler.iterate_cases (scheduler : Scheduler) (now : ℕ)
    (answer : Except EnqueueError Unit)
    (hcurrent : ∀ pending, scheduler.state.pending = some pending →
      pending.generation = scheduler.state.generation) :
    (∃ worker, scheduler.iterate now answer = ({ scheduler with worker := worker }, none) ∧
      (worker = .parked → scheduler.worker = .parked ∨ scheduler.state.pending = none)) ∨
    ∃ pending, scheduler.state.pending = some pending ∧ pending.remaining now = none ∧
      scheduler.state.stopped = false ∧
      scheduler.iterate now answer =
        (scheduler.submit scheduler.state.wakeEpoch answer, some pending.operation) := by
  unfold Scheduler.iterate
  split
  next hworker => exact .inl ⟨scheduler.worker, rfl, .inl⟩
  next hworker =>
    split
    next hstopped => exact .inl ⟨.returned, rfl, by simp⟩
    next hrunning =>
      split
      next hnone => exact .inl ⟨.parked, rfl, fun _ => .inr hnone⟩
      next pending hpending =>
        rw [if_neg (not_not.mpr (hcurrent pending hpending))]
        split
        next wait _ => exact .inl ⟨.parkedFor wait, rfl, by simp⟩
        next hdue => exact .inr ⟨pending, hpending, hdue, by simpa using hrunning, rfl⟩

theorem remaining_eq_none {pending : PendingOperation} (h : pending.remaining now = none)
    {generation due : ℕ} (hretry : pending = .retry generation due) : due ≤ now := by
  subst hretry
  dsimp only [PendingOperation.remaining] at h
  split at h
  · cases h
  · omega

theorem PendingOperation.generation_operation (pending : PendingOperation) :
    pending.operation.generation = pending.generation := by
  cases pending <;> rfl

/-- The submission of what is pending is lawful. -/
theorem History.Sound.lawful_submission (h : history.Sound) {pending : PendingOperation}
    {ticket : ℕ} (hpending : history.Pending pending ticket)
    (hdue : pending.remaining now = none) :
    Submission.Lawful (history.events ++ [.iterate now answer])
      ⟨history.events.length, history.ticket, pending.operation, now, answer, history.wakeUps⟩ := by
  have htake : (history.events ++ [Event.iterate now answer]).take history.events.length =
      history.events := List.take_left
  obtain ⟨event, hevent, hscheduled⟩ := hpending.scheduled
  have hlt := hpending.ticket_lt
  refine ⟨List.getElem?_concat_length, ⟨ticket, event, pending, hpending.ticket_eq, hlt, ?_,
    hscheduled, rfl, ?_, ?_⟩, ?_, ?_⟩
  · rw [List.getElem?_append_left hlt]
    exact hevent
  · intro generation due hretry
    exact remaining_eq_none hdue hretry
  · rw [htake, PendingOperation.generation_operation]
    exact hpending.valid
  · rw [htake, PendingOperation.generation_operation, hpending.current]
    exact h.seen hpending.running
  · rw [htake, ← h.stopped, hpending.running]
    simp

theorem History.Sound.iterate (h : history.Sound) (now : ℕ) (answer : Except EnqueueError Unit) :
    (history.step (.iterate now answer)).Sound := by
  have hcurrent (pending : PendingOperation)
      (hpending : history.scheduler.state.pending = some pending) :
      pending.generation = history.scheduler.state.generation := by
    obtain ⟨ticket, hticket⟩ := h.pending pending hpending
    exact hticket.current
  rcases history.scheduler.iterate_cases now answer hcurrent with
    ⟨worker, hiterate, hparked⟩ | ⟨pending, hpending, hdue, hrunning, hiterate⟩
  · have hstep : history.scheduler.step (.iterate now answer) =
        { history.scheduler with worker := worker } := by
      simp [Scheduler.step, hiterate]
    refine History.Quiet.sound ⟨by rw [hstep], by rw [hstep], by rw [hstep], rfl, ?_, ?_, by simp,
      by simp, ?_⟩ h
    · simp [History.submissionsOf, hiterate]
    · intro _ _ hgeneration
      cases hgeneration
    · rw [hstep]
      exact fun hworker hsome => ⟨(hparked hworker).resolve_right hsome, rfl⟩
  · obtain ⟨ticket, hticket⟩ := h.pending pending hpending
    have hlawful := @History.Sound.lawful_submission history now answer h pending ticket hticket hdue
    have hsubmissions : history.submissionsOf (.iterate now answer) =
        [⟨history.events.length, history.ticket, pending.operation, now, answer,
          history.wakeUps⟩] := by
      simp [History.submissionsOf, hiterate]
    have hstep : history.scheduler.step (.iterate now answer) =
        history.scheduler.submit history.scheduler.state.wakeEpoch answer := by
      simp [Scheduler.step, hiterate]
    have hlawful' : ∀ submission ∈ history.submissionsOf (.iterate now answer),
        submission.Lawful (history.events ++ [.iterate now answer]) := by
      rw [hsubmissions, List.forall_mem_singleton]
      exact hlawful
    have hempties (hpending : (history.scheduler.step (.iterate now answer)).state =
          { history.scheduler.state with pending := none })
        (honce : ((history.step (.iterate now answer)).accepted.map Submission.ticket).Nodup) :
        (history.step (.iterate now answer)).Sound := by
      refine h.emptied (by rw [hpending]) ?_ ?_ hlawful' honce
      · rw [hpending]
        refine fun hrunning => ⟨hrunning, Nat.le_refl _, ?_⟩
        intro _ hgeneration
        cases hgeneration
      · rw [hpending]
        simp
    -- Taken or refused for good, the operation leaves the slot; a full lane keeps it there.
    cases answer with
    | ok taken =>
        refine hempties (by rw [hstep]; rfl) ?_
        rw [History.step_accepted, hsubmissions, List.filter_cons_of_pos (by simp), List.filter_nil,
          List.map_append, List.nodup_append]
        refine ⟨h.once, List.nodup_singleton _, ?_⟩
        intro before hbefore this hthis heq
        rw [List.map_singleton, List.mem_singleton] at hthis
        rw [heq, hthis, hticket.ticket_eq] at hbefore
        exact hticket.open_ hbefore
    | error refused =>
        have haccepted : (history.step (.iterate now (.error refused))).accepted =
            history.accepted := by
          rw [History.step_accepted, hsubmissions, List.filter_cons_of_neg (by simp),
            List.filter_nil, List.append_nil]
        cases refused with
        | closed =>
            refine hempties (by rw [hstep]; rfl) ?_
            rw [haccepted]
            exact h.once
        | full =>
            have hfull : history.scheduler.step (.iterate now (.error .full)) =
                { history.scheduler with worker := .parked } := by
              rw [hstep, Scheduler.submit, if_pos rfl]
            refine ⟨?_, ?_, ?_, ?_, by rw [haccepted]; exact h.once, ?_⟩
            · intro _ other hother generation hgeneration
              change generation ≤ (history.scheduler.step (.iterate now (.error .full))).state.generation
              rw [hfull]
              rcases List.mem_append.mp hother with hbefore | hnew
              · exact h.seen hrunning other hbefore generation hgeneration
              · rw [List.mem_singleton.mp hnew] at hgeneration
                cases hgeneration
            · change (history.scheduler.step (.iterate now (.error .full))).state.stopped = true ↔
                .stop ∈ history.events ++ [.iterate now (.error .full)]
              rw [hfull, List.mem_append, List.mem_singleton]
              exact h.stopped.trans (or_iff_left (by simp)).symm
            · intro pending' hpending'
              have hpending' : (history.scheduler.step (.iterate now (.error .full))).state.pending =
                  some pending' := hpending'
              rw [hfull] at hpending'
              obtain ⟨ticket', hticket'⟩ := h.pending pending' hpending'
              refine ⟨ticket', hticket'.append rfl rfl ?_ ?_ haccepted (by simp)⟩
              · exact congrArg (fun scheduler => scheduler.state.generation) hfull
              · exact congrArg (fun scheduler => scheduler.state.stopped) hfull
            · intro submission hsubmission
              rcases List.mem_append.mp hsubmission with hold | hnew
              · exact (h.lawful submission hold).append _
              · exact hlawful' submission hnew
            · intro _ _
              refine ⟨⟨history.events.length, history.ticket, pending.operation, now, .error .full,
                history.wakeUps⟩, ?_, rfl, rfl, rfl⟩
              change (history.submissions ++ history.submissionsOf _).getLast? = _
              rw [hsubmissions, List.getLast?_concat]

theorem History.sound_new : History.new.Sound where
  seen := by simp [History.new]
  stopped := by simp [History.new, Scheduler.new]
  pending := by simp [History.new, Scheduler.new]
  lawful := by simp [History.new]
  once := by simp [History.accepted, History.new]
  parked := by simp [History.new, Scheduler.new]

theorem History.Sound.step (h : history.Sound) (event : Event) : (history.step event).Sound := by
  cases event with
  | scheduleRetry generation due =>
      exact Event.Puts.sound ⟨fun _ => rfl, rfl, rfl, fun _ => rfl, fun _ => rfl, rfl⟩ h
  | notifyFault generation attemptId fault =>
      exact Event.Puts.sound ⟨fun _ => rfl, rfl, rfl, fun _ => rfl, fun _ => rfl, rfl⟩ h
  | invalidate generation => exact h.invalidate generation
  | notifyLaneAvailable => exact h.notifyLaneAvailable
  | stop => exact h.stop
  | iterate now answer => exact h.iterate now answer
  | wake => exact h.wake

/-- A run and its history: the scheduler takes the same steps, and nothing of the run is
forgotten. -/
theorem History.run_spec (events : List Event) :
    (History.run events).scheduler = events.foldl Scheduler.step .new ∧
      (History.run events).events = events ∧ (History.run events).Sound := by
  induction events using List.reverseRecOn with
  | nil => exact ⟨rfl, rfl, History.sound_new⟩
  | append_singleton events event ih =>
      obtain ⟨hscheduler, hevents, hsound⟩ := ih
      have hrun : History.run (events ++ [event]) = (History.run events).step event := by
        simp [History.run]
      rw [hrun, List.foldl_append, ← hscheduler]
      exact ⟨rfl, by rw [History.step, hevents], hsound.step event⟩

end Sound

/-- In every run of the scheduler: whatever is handed to the lane was scheduled, is of the
highest generation seen, has not been invalidated and is due, and nothing was stopped
before it; the lane takes nothing twice; and the worker waits without a timeout over a
pending operation only if the lane was full when it last asked and nothing has woken it
up since. -/
theorem retry_scheduler (events : List Event) :
    (History.run events).scheduler = events.foldl Scheduler.step .new ∧
      (∀ submission ∈ (History.run events).submissions, submission.Lawful events) ∧
      ((History.run events).accepted.map Submission.ticket).Nodup ∧
      ((History.run events).scheduler.worker = .parked →
        (History.run events).scheduler.state.pending ≠ none →
        ∃ submission, (History.run events).submissions.getLast? = some submission ∧
          submission.answer = .error .full ∧
          submission.ticket = (History.run events).ticket ∧
          submission.wakeUps = (History.run events).wakeUps) := by
  obtain ⟨hscheduler, hevents, hsound⟩ := History.run_spec events
  refine ⟨hscheduler, ?_, hsound.once, hsound.parked⟩
  intro submission hsubmission
  rw [← hevents]
  exact hsound.lawful submission hsubmission

end Lamb.Daemon
