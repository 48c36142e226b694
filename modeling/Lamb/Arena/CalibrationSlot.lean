import Mathlib.Logic.Function.Basic
import Mathlib.Tactic.Common

/-!
The slot that a calibration passes through. Callers and the worker move one
atomic state, and its buffers belong to whoever the state says. A caller takes
the slot by writing its request, waits for the worker and takes the result as a
lease; any thread may cancel, and a caller gives up when it is told to, when its
time is over or when the worker has gone.

Every step below is one access to shared memory, and the steps of all callers,
of cancelling threads and of the worker are interleaved at will. The mutex of the
waiters only orders some of these steps, so it is left out. A request is named by
its ticket, which numbers the calls in the order in which they took the slot.
-/

namespace Lamb.CalibrationSlot

inductive SlotState
  | idle
  | preparing
  | ready
  | capturing
  | complete
  | leased
  | failed
  | cancelled
  deriving DecidableEq, Repr

/-- Where a call of `calibrate_channel_until` is. -/
inductive CallPc
  /-- Before the first exchange of `begin`. -/
  | absent
  /-- The slot is taken, the request is not written. -/
  | preparing (ticket : ℕ)
  | written (ticket : ℕ)
  /-- The request could not be published; the state will be set to idle. -/
  | rejected (ticket : ℕ)
  /-- At the head of the waiting loop. -/
  | waiting (ticket : ℕ)
  | observed (ticket : ℕ) (state : SlotState)
  /-- In `cancel`. -/
  | cancelling (ticket : ℕ)
  /-- The time is over. -/
  | expiring (ticket : ℕ)
  | expired (ticket : ℕ) (state : SlotState)
  /-- The worker has gone. -/
  | deserted (ticket : ℕ)
  /-- The worker has gone and left the request; the state will be set to idle. -/
  | discarding (ticket : ℕ)
  | holding (ticket result : ℕ)
  | returned
  deriving DecidableEq, Repr

/-- Where the worker is; its loop calls the functions below in any order. -/
inductive WorkerPc
  | loop
  /-- In `cancel_calibration_if_requested`, before and after its look at the
  state. -/
  | polling
  | clearing
  /-- In `start_calibration_if_ready`, after `take_ready`'s exchange and after it
  has read the request. -/
  | took
  | accepted (request : ℕ)
  /-- In `finish_calibration`, before and after the metadata is written. -/
  | finishing (request : ℕ)
  | publishing
  /-- In `fail_calibration`; the last one is followed by the worker's end. -/
  | failing (last : Bool)
  | leaving
  | done
  deriving DecidableEq, Repr

structure SlotRun where
  state : SlotState
  /-- The request cell. -/
  request : Option ℕ
  /-- Whose result the buffers hold. -/
  result : Option ℕ
  worker : WorkerPc
  /-- The request that the worker captures for. -/
  capture : Option ℕ
  calls : ℕ → CallPc
  /-- How many calls have taken the slot, and which was the last. -/
  begun : ℕ
  last : ℕ
  /-- The call that took the last lease. -/
  holder : ℕ

def SlotRun.start : SlotRun where
  state := .idle
  request := none
  result := none
  worker := .loop
  capture := none
  calls _ := .absent
  begun := 0
  last := 0
  holder := 0

def SlotRun.goto (run : SlotRun) (call : ℕ) (pc : CallPc) : SlotRun :=
  { run with calls := Function.update run.calls call pc }

/-- What the exchange of `cancel` puts in place of a state. -/
def SlotState.cancel : SlotState → Option SlotState
  | .preparing | .capturing => some .cancelled
  | .ready => some .idle
  | _ => none

/-- What the exchange of a call whose time is over puts in place of a state. -/
def SlotState.expire : SlotState → Option SlotState
  | .ready => some .idle
  | .capturing => some .cancelled
  | _ => none

/-- What the exchange of `fail_calibration` puts in place of a state. -/
def SlotState.fail : SlotState → Option SlotState
  | .ready | .capturing => some .failed
  | .cancelled => some .idle
  | _ => none

/-- What a call sees of its surroundings: `should_abort` and the clock. -/
structure Circumstances where
  shouldAbort : Bool
  timeIsOver : Bool
  deriving DecidableEq, Repr

/-- The branch of the waiting loop that a loaded state leads to. -/
def SlotRun.attend (run : SlotRun) (call ticket : ℕ) (now : Circumstances) (seen : SlotState) :
    SlotRun :=
  if seen ≠ .complete ∧ seen ≠ .failed ∧ now.shouldAbort then run.goto call (.cancelling ticket)
  else
    match seen with
    | .complete =>
        match run.state, run.result with
        | .complete, some result =>
            { run.goto call (.holding ticket result) with state := .leased, holder := call }
        | _, _ => run.goto call (.waiting ticket)
    | .failed =>
        if run.state = .failed then { run.goto call .returned with state := .idle }
        else run.goto call (.waiting ticket)
    | .idle => run.goto call .returned
    | _ =>
        if (seen = .ready ∨ seen = .capturing) ∧ now.timeIsOver then
          run.goto call (.expiring ticket)
        else if run.worker = .done then run.goto call (.deserted ticket)
        else run.goto call (.waiting ticket)

/-- The next step of a call. -/
def SlotRun.callStep (run : SlotRun) (call : ℕ) (now : Circumstances) : SlotRun :=
  match run.calls call with
  | .absent =>
      if run.state = .idle then
        { run.goto call (.preparing run.begun) with
          state := .preparing, begun := run.begun + 1, last := call }
      else run.goto call .returned
  | .preparing ticket => { run.goto call (.written ticket) with request := some ticket }
  | .written ticket =>
      match run.state with
      | .preparing => { run.goto call (.waiting ticket) with state := .ready }
      | .cancelled | .idle => run.goto call (.rejected ticket)
      | _ => run.goto call .returned
  | .rejected _ => { run.goto call .returned with state := .idle }
  | .waiting ticket => run.goto call (.observed ticket run.state)
  | .observed ticket seen => run.attend call ticket now seen
  | .cancelling ticket =>
      match run.state.cancel with
      | some state => { run.goto call .returned with state }
      | none => run.goto call (.waiting ticket)
  | .expiring ticket => run.goto call (.expired ticket run.state)
  | .expired ticket seen =>
      match seen.expire with
      | some state =>
          if run.state = seen then { run.goto call .returned with state }
          else run.goto call (.waiting ticket)
      | none => run.goto call (.waiting ticket)
  | .deserted ticket =>
      match run.state with
      | .ready | .capturing | .cancelled => run.goto call (.discarding ticket)
      | _ => run.goto call (.waiting ticket)
  | .discarding _ => { run.goto call .returned with state := .idle }
  | .holding _ _ =>
      { run.goto call .returned with state := if run.state = .leased then .idle else run.state }
  | .returned => run

/-- What the worker's loop does next. -/
inductive WorkerChoice
  | poll
  | start
  /-- `copy_calibration_samples`, which may reach the last frame. -/
  | copy (last : Bool)
  | fail
  | exit
  deriving DecidableEq, Repr

/-- `copy_calibration_samples`: the samples that are written belong to the request
that is captured. -/
def SlotRun.copy (run : SlotRun) (last : Bool) : SlotRun :=
  match run.capture with
  | none => run
  | some request =>
      if run.state = .cancelled then { run with worker := .clearing, capture := none }
      else if last then { run with worker := .finishing request, capture := none }
      else run

/-- The next step of the worker. -/
def SlotRun.workerStep (run : SlotRun) (choice : WorkerChoice) : SlotRun :=
  match run.worker with
  | .loop =>
      match choice with
      | .poll => { run with worker := .polling }
      | .start =>
          if run.state = .ready then { run with worker := .took, state := .capturing } else run
      | .copy last => run.copy last
      | .fail => { run with worker := .failing false, capture := none }
      | .exit => { run with worker := .failing true, capture := none }
  | .polling =>
      if run.state = .cancelled then { run with worker := .clearing, capture := none }
      else { run with worker := .loop }
  | .clearing =>
      { run with
        worker := .loop, state := if run.state = .cancelled then .idle else run.state }
  | .took =>
      match run.request with
      | some request => { run with worker := .accepted request }
      | none => run
  | .accepted request =>
      if run.state = .capturing then { run with worker := .loop, capture := some request }
      else { run with worker := .polling }
  | .finishing request => { run with worker := .publishing, result := some request }
  | .publishing =>
      match run.state with
      | .capturing => { run with worker := .loop, state := .complete }
      | .cancelled => { run with worker := .clearing }
      | _ => { run with worker := .loop }
  | .failing last =>
      { run with
        worker := if last then .leaving else .loop, state := run.state.fail.getD run.state }
  | .leaving => { run with worker := .done }
  | .done => run

inductive Action
  | call (call : ℕ) (now : Circumstances)
  /-- `cancel_calibration` of any thread. -/
  | cancel
  | worker (choice : WorkerChoice)
  deriving DecidableEq, Repr

def SlotRun.step (run : SlotRun) : Action → SlotRun
  | .call call now => run.callStep call now
  | .cancel => { run with state := run.state.cancel.getD run.state }
  | .worker choice => run.workerStep choice

def SlotRun.steps (run : SlotRun) (actions : List Action) : SlotRun :=
  actions.foldl SlotRun.step run

end Lamb.CalibrationSlot
