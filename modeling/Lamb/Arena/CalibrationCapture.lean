import Lamb.Ring.Snapshot
import Lamb.Arena.Ingress
import Lamb.Arena.CalibrationSlot

/-!
What a calibration captures. The worker reads the end of the queue and the drop
counter between two looks at the producers, takes the request from the slot, and
from then on copies the selected channel of the blocks behind that boundary until
it has the frames that were asked for. What was dropped meanwhile is the growth of
the counter.

A push takes an admission first, and leaves it by counting a generation. The
callers' side of the slot is in `CalibrationSlot`; here its state and its request
may be changed by them at any time and to anything they may write. Whether the
rings can write a block is left open. Statistics are folded over the same samples
in the same order and are not repeated here.
-/

namespace Lamb.Arena

open Lamb.CalibrationSlot

variable {α : Type}

structure CalibrationRequest where
  channel : ℕ
  frames : ℕ
  deriving DecidableEq, Repr

/-- Where the producer's thread is: outside, inside `try_push`, and before and
after the generation is counted. -/
inductive Admission
  | outside
  | inside
  | leaving
  | left
  deriving DecidableEq, Repr

/-- A capture; `begun` is how many pushes had begun when the request was taken,
and is read by no step. -/
structure CalibrationCapture (α : Type) where
  request : CalibrationRequest
  firstSequence : ℕ
  droppedAtAcceptance : ℕ
  begun : ℕ
  samples : List α
  deriving DecidableEq, Repr

/-- What the buffers and the metadata of the slot hold. -/
structure CalibrationResult (α : Type) where
  request : CalibrationRequest
  droppedFrames : ℕ
  begun : ℕ
  samples : List α
  deriving DecidableEq, Repr

/-- Where the worker is in `calibration_boundary`, `start_calibration_if_ready`
and `finish_calibration`; the arguments are the local variables. -/
inductive CapturePc (α : Type)
  | off
  | loadExhausted
  | loadGeneration
  | checkAdmitted (generation : ℕ)
  | loadHead (generation : ℕ)
  | loadDropped (generation first : ℕ)
  | recheckAdmitted (generation first dropped : ℕ)
  | recheckGeneration (generation first dropped : ℕ)
  | takeReady (first dropped : ℕ)
  | lookAgain (capture : CalibrationCapture α)
  | loadFinalDropped
  | publish (dropped : ℕ)
  deriving DecidableEq, Repr

structure CaptureRun (α : Type) where
  ingress : IngressRun α
  admission : Admission
  generation : ℕ
  generationExhausted : Bool
  slot : SlotState
  request : CalibrationRequest
  pc : CapturePc α
  /-- The samples read out of the slot that the worker is at. -/
  block : List α
  capture : Option (CalibrationCapture α)
  result : Option (CalibrationResult α)

def CaptureRun.start (cfg : QueueConfig) (zero : α) : CaptureRun α where
  ingress := .start cfg zero
  admission := .outside
  generation := 0
  generationExhausted := false
  slot := .idle
  request := ⟨0, 0⟩
  pc := .off
  block := []
  capture := none
  result := none

/-- How many pushes have begun. -/
def CaptureRun.begun (run : CaptureRun α) : ℕ :=
  run.ingress.finished.length + run.ingress.producer.elim 0 fun _ => 1

/-! ### The producer -/

def CaptureRun.push (run : CaptureRun α) (samples : List α) (channels : ℕ) : CaptureRun α :=
  match run.admission with
  | .outside =>
      { run with ingress := run.ingress.step (.push samples channels), admission := .inside }
  | _ => run

/-- The next step of the producer's thread. -/
def CaptureRun.produce (run : CaptureRun α) : CaptureRun α :=
  match run.admission with
  | .outside => run
  | .inside =>
      let ingress := run.ingress.step .producer
      { run with ingress, admission := if ingress.producer.isNone then .leaving else .inside }
  | .leaving =>
      match checkedAdd run.generation 1 with
      | none => { run with generationExhausted := true, admission := .left }
      | some generation => { run with generation, admission := .left }
  | .left => { run with admission := .outside }

/-! ### The worker -/

/-- `fail_calibration`. -/
def CaptureRun.fail (run : CaptureRun α) : CaptureRun α :=
  { run with capture := none, slot := run.slot.fail.getD run.slot }

/-- `cancel_calibration_if_requested`. -/
def CaptureRun.poll (run : CaptureRun α) : CaptureRun α :=
  if run.slot = .cancelled then { run with capture := none, slot := .idle } else run

/-- The samples of one channel, copied until `limit` are there. -/
def copyChannel (channels channel limit : ℕ) (block copied : List α) : List α :=
  (List.range (block.length / channels)).foldl
    (fun copied frame =>
      if copied.length = limit then copied
      else copied ++ block[frame * channels + channel]?.toList)
    copied

/-- `copy_calibration_samples`. -/
def CaptureRun.copySamples (run : CaptureRun α) (block : List α) (sequence : ℕ) :
    CaptureRun α :=
  match run.capture with
  | none => run
  | some capture =>
      if run.slot = .cancelled then { run with capture := none, slot := .idle }
      else if sequence < capture.firstSequence then run
      else
        let samples := copyChannel run.ingress.queue.cfg.channels capture.request.channel
          capture.request.frames block capture.samples
        let run := { run with capture := some { capture with samples } }
        if samples.length = capture.request.frames then { run with pc := .loadFinalDropped }
        else run

/-- What becomes of a block in `consume_samples`. -/
inductive WriteOutcome
  | written
  /-- The rings cannot take it: `drop_worker_frames`. -/
  | dropped
  /-- The worker has a fault. -/
  | faulted
  deriving DecidableEq, Repr

/-- `consume_samples`. -/
def CaptureRun.consumeSamples (run : CaptureRun α) (block : List α) (sequence : ℕ) :
    WriteOutcome → CaptureRun α
  | .written => run.copySamples block sequence
  | .dropped =>
      let frames := block.length / run.ingress.queue.cfg.channels
      if run.ingress.queue.dropCounterExhausted ∨
          checkedAdd run.ingress.queue.cumulativeDroppedFrames frames = none then
        { run with ingress := run.ingress.dropWorkerFrames frames }.fail
      else { run with ingress := run.ingress.dropWorkerFrames frames }
  | .faulted =>
      let frames := block.length / run.ingress.queue.cfg.channels
      { run with ingress := run.ingress.dropWorkerFrames frames }.fail

/-- A step of `consume_next`; the callback runs once the last sample of the slot
has been read. -/
def CaptureRun.consume (run : CaptureRun α) (outcome : WriteOutcome) : CaptureRun α :=
  let (_, consumer, sample) := run.ingress.queue.consumeNext run.ingress.consumer
  let block := run.block ++ sample.toList
  match consumer with
  | .storeConsumed sequence =>
      { run with ingress := run.ingress.consume, block := [] }.consumeSamples block sequence
        outcome
  | _ => { run with ingress := run.ingress.consume, block }

/-- `take_ready` and the capture that a taken request starts. -/
def CaptureRun.takeReady (run : CaptureRun α) (first dropped : ℕ) : CaptureRun α :=
  if run.slot = .ready then
    { run with
      slot := .capturing
      pc := .lookAgain ⟨run.request, first, dropped, run.begun, []⟩ }
  else { run with pc := .off }

/-- `finish_calibration` after its look at the counter. -/
def CaptureRun.publish (run : CaptureRun α) (dropped : ℕ) : CaptureRun α :=
  match run.capture with
  | none => { run with pc := .off }
  | some capture =>
      { run with
        pc := .off
        capture := none
        result := some ⟨capture.request, dropped - capture.droppedAtAcceptance, capture.begun,
          capture.samples⟩
        slot :=
          match run.slot with
          | .capturing => .complete
          | .cancelled => .idle
          | slot => slot }

/-- What the worker's loop does next; the outcome is that of a block. -/
inductive CaptureChoice
  | poll
  | start
  | consume (outcome : WriteOutcome)
  | fail
  deriving DecidableEq, Repr

/-- The next step of the worker. -/
def CaptureRun.work (run : CaptureRun α) (choice : CaptureChoice) : CaptureRun α :=
  match run.pc with
  | .off =>
      match choice, run.ingress.consumer with
      | .poll, .idle => run.poll
      | .fail, .idle => run.fail
      | .start, .idle => { run with pc := .loadExhausted }
      | .consume outcome, _ => run.consume outcome
      | _, _ => run
  | .loadExhausted =>
      if run.generationExhausted then { run with pc := .off }.fail
      else { run with pc := .loadGeneration }
  | .loadGeneration => { run with pc := .checkAdmitted run.generation }
  | .checkAdmitted generation =>
      { run with pc := if run.admission = .outside then .loadHead generation else .off }
  | .loadHead generation =>
      { run with pc := .loadDropped generation run.ingress.queue.publishedSequence }
  | .loadDropped generation first =>
      { run with
        pc := .recheckAdmitted generation first run.ingress.queue.cumulativeDroppedFrames }
  | .recheckAdmitted generation first dropped =>
      { run with
        pc := if run.admission = .outside then .recheckGeneration generation first dropped
          else .off }
  | .recheckGeneration generation first dropped =>
      { run with pc := if run.generation = generation then .takeReady first dropped else .off }
  | .takeReady first dropped => run.takeReady first dropped
  | .lookAgain capture =>
      if run.slot = .capturing then { run with pc := .off, capture := some capture }
      else { run with pc := .off }.poll
  | .loadFinalDropped =>
      { run with pc := .publish run.ingress.queue.cumulativeDroppedFrames }
  | .publish dropped => run.publish dropped

/-! ### Interleavings -/

inductive CaptureEvent (α : Type)
  | push (samples : List α) (channels : ℕ)
  | producer
  /-- The callers leave the slot in a state and with a request. -/
  | callers (slot : SlotState) (request : CalibrationRequest)
  | worker (choice : CaptureChoice)

def CaptureRun.step (run : CaptureRun α) : CaptureEvent α → CaptureRun α
  | .push samples channels => run.push samples channels
  | .producer => run.produce
  | .callers slot request =>
      -- `calibrate_channel_until` refuses a channel that does not exist
      if request.channel < run.ingress.queue.cfg.channels then { run with slot, request } else run
  | .worker choice => run.work choice

def CaptureRun.steps (run : CaptureRun α) (events : List (CaptureEvent α)) : CaptureRun α :=
  events.foldl CaptureRun.step run

/-- The frames that a push that has returned pushed: all of them, or those before
its error. -/
def PushRecord.pushed (record : PushRecord α) : List α :=
  match record.result with
  | .ok _ => record.push.samples
  | .error _ => record.push.acceptedSamples

/-- What each push pushed so far, in the order in which they began. -/
def IngressRun.pushes (run : IngressRun α) : List (List α) :=
  run.finished.map PushRecord.pushed ++ (run.producer.map Push.acceptedSamples).toList

/-- The samples of one channel. -/
def channelOf (channels channel : ℕ) (samples : List α) : List α :=
  Ring.deinterleave channels channel (samples.length / channels) samples

end Lamb.Arena
