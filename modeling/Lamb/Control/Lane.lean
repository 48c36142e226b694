import Mathlib.Algebra.Ring.Nat
import Mathlib.Data.List.Basic

/-!
The operation lane: a bounded queue under a mutex, callers that enqueue, the
one worker that pops, and a close. The flag `closed` is read by callers and
worker under the mutex and set by the close without it. Waiting releases the
mutex and parks in one step, and a notification wakes only a worker that is
parked already.
-/

namespace Lamb.Control

variable {T : Type}

inductive EnqueueError
  | full
  | closed
  deriving DecidableEq, Repr

structure LaneState (T : Type) where
  queue : List T
  capacity : ℕ
  closed : Bool

/-! ### The threads -/

/-- Where a `try_enqueue` that holds the mutex stands. -/
inductive EnqueuePc
  | loadClosed
  | pushBack
  | notifyOne
  deriving DecidableEq, Repr

inductive LaneHolder (T : Type)
  | caller (job : T) (pc : EnqueuePc)
  | worker
  deriving DecidableEq

/-- Where the worker stands: in `pop`, or between two of them with a job. -/
inductive WorkerPc (T : Type)
  | lock
  | popFront
  | loadClosed
  | wait
  | parked
  | isClosed (job : T)
  | exited
  deriving DecidableEq

/-- Where the one call of `close` stands. -/
inductive ClosePc
  | storeClosed
  | notifyAll
  | done
  deriving DecidableEq, Repr

/-- A lane with its threads, the jobs that were accepted, those that were
rejected, and the jobs handed to the worker's callbacks: `true` if to
`cancel`. -/
structure LaneRun (T : Type) where
  lane : LaneState T
  holder : Option (LaneHolder T)
  worker : WorkerPc T
  close : ClosePc
  accepted : List T
  rejected : List (EnqueueError × T)
  handed : List (T × Bool)

def LaneRun.start (capacity : ℕ) : LaneRun T where
  lane := ⟨[], capacity, false⟩
  holder := none
  worker := .lock
  close := .storeClosed
  accepted := []
  rejected := []
  handed := []

/-- A notification of the condition variable. -/
def LaneRun.notify (run : LaneRun T) : LaneRun T :=
  match run.worker with
  | .parked => { run with worker := .lock }
  | _ => run

/-- One step of the `try_enqueue` that holds the mutex. -/
def LaneRun.tryEnqueue (run : LaneRun T) (job : T) : EnqueuePc → LaneRun T
  | .loadClosed =>
      if run.lane.closed then
        { run with holder := none, rejected := run.rejected ++ [(.closed, job)] }
      else { run with holder := some (.caller job .pushBack) }
  | .pushBack =>
      if run.lane.capacity ≤ run.lane.queue.length then
        { run with holder := none, rejected := run.rejected ++ [(.full, job)] }
      else
        { run with
          lane := { run.lane with queue := run.lane.queue ++ [job] }
          holder := some (.caller job .notifyOne)
          accepted := run.accepted ++ [job] }
  | .notifyOne => { run.notify with holder := none }

/-- One step of the worker's loop. -/
def LaneRun.work (run : LaneRun T) : LaneRun T :=
  match run.worker with
  | .lock =>
      match run.holder with
      | none => { run with holder := some .worker, worker := .popFront }
      | some _ => run
  | .popFront =>
      match run.lane.queue with
      | job :: queue =>
          { run with
            lane := { run.lane with queue }, holder := none, worker := .isClosed job }
      | [] => { run with worker := .loadClosed }
  | .loadClosed =>
      if run.lane.closed then { run with holder := none, worker := .exited }
      else { run with worker := .wait }
  | .wait => { run with holder := none, worker := .parked }
  | .parked => run
  | .isClosed job =>
      { run with worker := .lock, handed := run.handed ++ [(job, run.lane.closed)] }
  | .exited => run

/-- One step of `close`. -/
def LaneRun.closing (run : LaneRun T) : LaneRun T :=
  match run.close with
  | .storeClosed => { run with lane := { run.lane with closed := true }, close := .notifyAll }
  | .notifyAll => { run.notify with close := .done }
  | .done => run

/-- `enqueue` is a caller that gets the mutex and `spurious` a wake-up that
nobody asked for. -/
inductive LaneEvent (T : Type)
  | enqueue (job : T)
  | caller
  | worker
  | close
  | spurious
  deriving DecidableEq

def LaneRun.step (run : LaneRun T) : LaneEvent T → LaneRun T
  | .enqueue job =>
      match run.holder with
      | none => { run with holder := some (.caller job .loadClosed) }
      | some _ => run
  | .caller =>
      match run.holder with
      | some (.caller job pc) => run.tryEnqueue job pc
      | _ => run
  | .worker => run.work
  | .close => run.closing
  | .spurious => run.notify

def LaneRun.steps (run : LaneRun T) (events : List (LaneEvent T)) : LaneRun T :=
  events.foldl LaneRun.step run

/-! ### Jobs -/

/-- The job the worker has popped and not handed on yet. -/
def WorkerPc.job : WorkerPc T → List T
  | .isClosed job => [job]
  | _ => []

/-- The worker is inside `pop` with the mutex. -/
def WorkerPc.Holds : WorkerPc T → Prop
  | .popFront | .loadClosed | .wait => True
  | _ => False

structure LaneRun.Inv (run : LaneRun T) : Prop where
  flow : run.handed.map Prod.fst ++ run.worker.job ++ run.lane.queue = run.accepted
  bounded : run.lane.queue.length ≤ run.lane.capacity
  holds : run.worker.Holds ↔ run.holder = some .worker
  empty : run.worker = .loadClosed ∨ run.worker = .wait → run.lane.queue = []
  exited : run.worker = .exited → run.lane.closed = true ∧ run.lane.queue = [] ∧
    ∀ job pc, run.holder = some (.caller job pc) → pc = .loadClosed

theorem LaneRun.Inv.start (capacity : ℕ) : (LaneRun.start capacity : LaneRun T).Inv where
  flow := rfl
  bounded := Nat.zero_le _
  holds := by simp [LaneRun.start, WorkerPc.Holds]
  empty := fun _ => rfl
  exited := by simp [LaneRun.start]

section Inv

variable {run : LaneRun T}

theorem LaneRun.Inv.notify (h : run.Inv) : run.notify.Inv := by
  unfold LaneRun.notify
  cases hworker : run.worker with
  | parked =>
      have hflow := h.flow
      have hholds := h.holds
      rw [hworker] at hflow hholds
      exact ⟨hflow, h.bounded, hholds, by simp, by simp⟩
  | _ => exact h

/-- While a caller holds the mutex the worker does not. -/
theorem LaneRun.Inv.outside (h : run.Inv) {job : T} {pc : EnqueuePc}
    (hholder : run.holder = some (.caller job pc)) : ¬run.worker.Holds := by
  rw [h.holds, hholder]
  simp

theorem LaneRun.Inv.tryEnqueue (h : run.Inv) {job : T} {pc : EnqueuePc}
    (hholder : run.holder = some (.caller job pc)) : (run.tryEnqueue job pc).Inv := by
  have houtside := h.outside hholder
  have hnot : run.worker ≠ .loadClosed ∧ run.worker ≠ .wait := by
    constructor <;> rintro heq <;> rw [heq] at houtside <;> exact houtside trivial
  cases pc with
  | loadClosed =>
      simp only [LaneRun.tryEnqueue]
      split
      · exact ⟨h.flow, h.bounded, by simp [houtside], h.empty,
          fun hexited => ⟨(h.exited hexited).1, (h.exited hexited).2.1, by simp⟩⟩
      · rename_i hopen
        refine ⟨h.flow, h.bounded, by simp [houtside], h.empty, fun hexited => ?_⟩
        exact absurd (h.exited hexited).1 hopen
  | pushBack =>
      have hrunning : run.worker ≠ .exited := by
        intro hexited
        cases (h.exited hexited).2.2 job .pushBack hholder
      simp only [LaneRun.tryEnqueue]
      split
      · exact ⟨h.flow, h.bounded, by simp [houtside], h.empty,
          fun hexited => absurd hexited hrunning⟩
      · rename_i hroom
        refine ⟨?_, ?_, by simp [houtside], ?_, fun hexited => absurd hexited hrunning⟩
        · simp only
          rw [← List.append_assoc, h.flow]
        · simp only [List.length_append, List.length_singleton]
          omega
        · rintro (hload | hwait)
          · exact absurd hload hnot.1
          · exact absurd hwait hnot.2
  | notifyOne =>
      have hnext := h.notify
      refine ⟨hnext.flow, hnext.bounded, ?_, hnext.empty, fun hexited => ?_⟩
      · simp only [LaneRun.tryEnqueue, reduceCtorEq, iff_false]
        unfold LaneRun.notify
        split
        · exact id
        · exact houtside
      · have hbefore := hnext.exited hexited
        exact ⟨hbefore.1, hbefore.2.1, by simp [LaneRun.tryEnqueue]⟩

theorem LaneRun.Inv.work (h : run.Inv) : run.work.Inv := by
  have hflow := h.flow
  have hholds := h.holds
  unfold LaneRun.work
  cases hworker : run.worker with
  | lock =>
      simp only
      cases hholder : run.holder with
      | none =>
          rw [hworker] at hflow
          exact ⟨hflow, h.bounded, by simp [WorkerPc.Holds], by simp, by simp⟩
      | some holder => exact h
  | popFront =>
      rw [hworker] at hflow
      simp only
      cases hqueue : run.lane.queue with
      | nil =>
          rw [hqueue] at hflow
          refine ⟨by simpa [WorkerPc.job, hqueue] using hflow, h.bounded, ?_, fun _ => hqueue,
            by simp⟩
          rw [hworker] at hholds
          exact hholds
      | cons job queue =>
          have hbounded := h.bounded
          rw [hqueue] at hflow hbounded
          simp only [List.length_cons] at hbounded
          refine ⟨?_, ?_, by simp [WorkerPc.Holds], by simp, by simp⟩
          · simpa [WorkerPc.job] using hflow
          · exact Nat.le_of_succ_le hbounded
  | loadClosed =>
      rw [hworker] at hflow hholds
      have hempty := h.empty (.inl hworker)
      simp only
      split
      · rename_i hclosed
        exact ⟨hflow, h.bounded, by simp [WorkerPc.Holds], by simp,
          fun _ => ⟨hclosed, hempty, by simp⟩⟩
      · exact ⟨hflow, h.bounded, hholds, fun _ => hempty, by simp⟩
  | wait =>
      rw [hworker] at hflow
      exact ⟨hflow, h.bounded, by simp [WorkerPc.Holds], by simp, by simp⟩
  | isClosed job =>
      rw [hworker] at hflow hholds
      refine ⟨?_, h.bounded, hholds, by simp, by simp⟩
      simpa [WorkerPc.job] using hflow
  | parked => exact h
  | exited => exact h

theorem LaneRun.Inv.closing (h : run.Inv) : run.closing.Inv := by
  unfold LaneRun.closing
  cases run.close with
  | storeClosed =>
      exact ⟨h.flow, h.bounded, h.holds, h.empty, fun hexited => ⟨rfl, (h.exited hexited).2⟩⟩
  | notifyAll =>
      have hnext := h.notify
      exact ⟨hnext.flow, hnext.bounded, hnext.holds, hnext.empty, hnext.exited⟩
  | done => exact h

theorem LaneRun.Inv.step (h : run.Inv) (event : LaneEvent T) : (run.step event).Inv := by
  cases event with
  | enqueue job =>
      simp only [LaneRun.step]
      cases hholder : run.holder with
      | none =>
          have hholds := h.holds
          rw [hholder] at hholds
          refine ⟨h.flow, h.bounded, by simpa using hholds, h.empty, fun hexited => ?_⟩
          refine ⟨(h.exited hexited).1, (h.exited hexited).2.1, ?_⟩
          rintro _ _ ⟨⟩
          rfl
      | some holder => exact h
  | caller =>
      simp only [LaneRun.step]
      cases hholder : run.holder with
      | none => exact h
      | some holder =>
          cases holder with
          | caller job pc => exact h.tryEnqueue hholder
          | worker => exact h
  | worker => exact h.work
  | close => exact h.closing
  | spurious => exact h.notify

theorem LaneRun.Inv.steps (h : run.Inv) (events : List (LaneEvent T)) : (run.steps events).Inv :=
  List.foldlRecOn events LaneRun.step h fun _ h event _ => h.step event

end Inv

theorem LaneRun.notify_worker (run : LaneRun T) : run.notify.worker ≠ .parked ∧
    (run.notify.worker = .wait → run.worker = .wait) ∧ run.notify.lane = run.lane ∧
    run.notify.close = run.close := by
  unfold LaneRun.notify
  cases hworker : run.worker <;> simp [hworker]

theorem LaneRun.step_capacity (run : LaneRun T) (event : LaneEvent T) :
    (run.step event).lane.capacity = run.lane.capacity := by
  have hnotify : run.notify.lane.capacity = run.lane.capacity := by
    rw [run.notify_worker.2.2.1]
  cases event with
  | enqueue job =>
      simp only [LaneRun.step]
      split <;> rfl
  | caller =>
      simp only [LaneRun.step]
      split
      · rename_i job pc _
        cases pc with
        | loadClosed =>
            simp only [LaneRun.tryEnqueue]
            split <;> rfl
        | pushBack =>
            simp only [LaneRun.tryEnqueue]
            split <;> rfl
        | notifyOne => exact hnotify
      · rfl
  | worker =>
      simp only [LaneRun.step, LaneRun.work]
      repeat' split
      all_goals rfl
  | close =>
      simp only [LaneRun.step, LaneRun.closing]
      split
      · rfl
      · exact hnotify
      · rfl
  | spurious => exact hnotify

theorem LaneRun.steps_capacity (run : LaneRun T) (events : List (LaneEvent T)) :
    (run.steps events).lane.capacity = run.lane.capacity := by
  induction events generalizing run with
  | nil => rfl
  | cons event events ih => exact (ih (run.step event)).trans (run.step_capacity event)

/-! ### The close -/

/-- The close is over, and the worker is parked at an empty queue with nobody
about to notify it. -/
def LaneRun.Stuck (run : LaneRun T) : Prop :=
  run.close = .done ∧ run.worker = .parked ∧ run.lane.queue = [] ∧
    ∀ job, run.holder ≠ some (.caller job .notifyOne)

/-- The close does not set the flag between the worker's reading it and its
parking. -/
def LaneRun.Guarded : LaneRun T → List (LaneEvent T) → Prop
  | _, [] => True
  | run, event :: events =>
      (event = .close → run.close = .storeClosed → run.worker ≠ .wait) ∧
        (run.step event).Guarded events

/-- A worker that is about to park has read the flag, and one that is parked
is still to be notified. -/
structure LaneRun.Awake (run : LaneRun T) : Prop where
  flag : run.lane.closed = true ↔ run.close ≠ .storeClosed
  wait : run.lane.closed = true → run.worker ≠ .wait
  parked : run.close = .done → run.worker ≠ .parked

section Awake

variable {run : LaneRun T}

theorem LaneRun.Awake.notify (h : run.Awake) : run.notify.Awake := by
  obtain ⟨hparked, hwait, hlane, hclose⟩ := run.notify_worker
  refine ⟨?_, ?_, fun _ => hparked⟩
  · rw [hlane, hclose]
    exact h.flag
  · rw [hlane]
    exact fun hclosed heq => h.wait hclosed (hwait heq)

theorem LaneRun.Awake.tryEnqueue (h : run.Awake) (job : T) (pc : EnqueuePc) :
    (run.tryEnqueue job pc).Awake := by
  cases pc with
  | loadClosed =>
      simp only [LaneRun.tryEnqueue]
      split <;> exact ⟨h.flag, h.wait, h.parked⟩
  | pushBack =>
      simp only [LaneRun.tryEnqueue]
      split <;> exact ⟨h.flag, h.wait, h.parked⟩
  | notifyOne => exact ⟨h.notify.flag, h.notify.wait, h.notify.parked⟩

theorem LaneRun.Awake.work (h : run.Awake) : run.work.Awake := by
  unfold LaneRun.work
  cases hworker : run.worker with
  | lock =>
      simp only
      cases run.holder with
      | none => exact ⟨h.flag, by simp, by simp⟩
      | some holder => exact h
  | popFront =>
      simp only
      cases run.lane.queue with
      | nil => exact ⟨h.flag, by simp, by simp⟩
      | cons job queue => exact ⟨h.flag, by simp, by simp⟩
  | loadClosed =>
      simp only
      split
      · exact ⟨h.flag, by simp, by simp⟩
      · rename_i hopen
        exact ⟨h.flag, fun hclosed => absurd hclosed hopen, by simp⟩
  | wait =>
      refine ⟨h.flag, by simp, fun hdone => ?_⟩
      have hclosed : run.lane.closed = true := by
        rw [h.flag, show run.close = .done from hdone]
        simp
      exact absurd hworker (h.wait hclosed)
  | parked => exact h
  | isClosed job => exact ⟨h.flag, by simp, by simp⟩
  | exited => exact h

theorem LaneRun.Awake.closing (h : run.Awake)
    (hguard : run.close = .storeClosed → run.worker ≠ .wait) : run.closing.Awake := by
  unfold LaneRun.closing
  cases hclose : run.close with
  | storeClosed => exact ⟨by simp, fun _ => hguard hclose, by simp⟩
  | notifyAll =>
      obtain ⟨hparked, hwait, hlane, -⟩ := run.notify_worker
      have hclosed : run.lane.closed = true := by
        rw [h.flag, hclose]
        simp
      refine ⟨by simp [hlane, hclosed], fun _ heq => h.wait hclosed (hwait heq), fun _ => hparked⟩
  | done => exact h

theorem LaneRun.Awake.step (h : run.Awake) {event : LaneEvent T}
    (hguard : event = .close → run.close = .storeClosed → run.worker ≠ .wait) :
    (run.step event).Awake := by
  cases event with
  | enqueue job =>
      simp only [LaneRun.step]
      cases run.holder with
      | none => exact ⟨h.flag, h.wait, h.parked⟩
      | some holder => exact h
  | caller =>
      simp only [LaneRun.step]
      split
      · exact h.tryEnqueue _ _
      · exact h
  | worker => exact h.work
  | close => exact h.closing (hguard rfl)
  | spurious => exact h.notify

theorem LaneRun.Awake.steps (h : run.Awake) {events : List (LaneEvent T)}
    (hguarded : run.Guarded events) : (run.steps events).Awake := by
  induction events generalizing run with
  | nil => exact h
  | cons event events ih => exact ih (h.step hguarded.1) hguarded.2

end Awake

/-- The operation lane over every interleaving of callers, close, worker and
spurious wake-ups. Accepted jobs are handed on once and in the order of their
acceptance, the queue keeps to its capacity, and a worker that has left has
handed on all of them. If the close sets the flag at no moment between the
worker's reading it and its parking, the worker is never left parked behind
the close. -/
theorem operation_lane_drains (capacity : ℕ) (events : List (LaneEvent T)) :
    let run := (LaneRun.start capacity).steps events
    (run.handed.map Prod.fst ++ run.worker.job ++ run.lane.queue = run.accepted) ∧
    run.lane.queue.length ≤ capacity ∧
    (run.worker = .exited → run.handed.map Prod.fst = run.accepted) ∧
    ((LaneRun.start capacity).Guarded events → ¬run.Stuck) := by
  intro run
  have hinv : run.Inv := (LaneRun.Inv.start capacity).steps events
  have hcapacity : run.lane.capacity = capacity := LaneRun.steps_capacity _ events
  refine ⟨hinv.flow, hcapacity ▸ hinv.bounded, fun hexited => ?_, fun hguarded hstuck => ?_⟩
  · have hflow := hinv.flow
    rw [hexited, (hinv.exited hexited).2.1] at hflow
    simpa [WorkerPc.job] using hflow
  · have hawake : (LaneRun.start capacity : LaneRun T).Awake :=
      ⟨by simp [LaneRun.start], by simp [LaneRun.start], by simp [LaneRun.start]⟩
    exact (hawake.steps hguarded).parked hstuck.1 hstuck.2.1

/-- A close that finds the worker parked, with one job accepted before it. -/
theorem operation_lane_drains_parked :
    let events : List (LaneEvent ℕ) := [.worker, .worker, .worker, .worker, .enqueue 7, .caller,
      .caller, .caller, .worker, .worker, .close, .worker, .close, .worker, .worker, .worker]
    (LaneRun.start 1).Guarded events ∧
      ((LaneRun.start 1).steps events).handed = [(7, true)] ∧
      ((LaneRun.start 1).steps events).worker = .exited ∧
      ¬((LaneRun.start 1).steps events).Stuck := by
  intro events
  have hguarded : (LaneRun.start 1).Guarded events := by
    simp [events, LaneRun.Guarded, LaneRun.start, LaneRun.step, LaneRun.work, LaneRun.tryEnqueue,
      LaneRun.notify, LaneRun.closing]
  exact ⟨hguarded, rfl, rfl, (operation_lane_drains 1 events).2.2.2 hguarded⟩

/-- The worker reads the flag, the close sets it and notifies nobody, and the
worker parks. -/
def missedClose : List (LaneEvent ℕ) := [.worker, .worker, .worker, .close, .close, .worker]

theorem operation_lane_misses_close :
    ((LaneRun.start 1 : LaneRun ℕ).steps missedClose).Stuck := by
  refine ⟨rfl, rfl, rfl, ?_⟩
  intro job
  exact fun hholder => by cases hholder

end Lamb.Control
