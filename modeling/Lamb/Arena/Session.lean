import Lamb.Arena.Client
import Lamb.Arena.Ingress

/-!
A capture session: the ingress queue, the worker that empties it, and the
commands the worker executes between two blocks. The producer's pushes and the
worker's reads go step by step, in any order. For the specification a session
also remembers what the rings accepted out of each block and which frozen
epoch was granted and not released yet.
-/

namespace Lamb.Arena

open Lamb.Ring Lamb.Lib

variable {α : Type}

/-- The counters of the queue, as the worker sees them. -/
def IngressQueue.counters (queue : IngressQueue α) : DropCounters where
  enqueuedFrames := queue.enqueuedFrames
  droppedFrames := queue.droppedFrames
  cumulativeDroppedFrames := queue.cumulativeDroppedFrames
  dropCounterExhausted := queue.dropCounterExhausted
  pendingDrop := none

def IngressQueue.setCounters (queue : IngressQueue α) (counters : DropCounters) :
    IngressQueue α :=
  { queue with
    enqueuedFrames := counters.enqueuedFrames
    droppedFrames := counters.droppedFrames
    cumulativeDroppedFrames := counters.cumulativeDroppedFrames
    dropCounterExhausted := counters.dropCounterExhausted }

/-- The callback has offered `frames` frames to the drop counters and left
them as `counters`. -/
def IngressRun.count (run : IngressRun α) (counters : DropCounters) (frames : ℕ) :
    IngressRun α :=
  { run with
    queue := run.queue.setCounters counters
    workerDropped := run.workerDropped +
      (counters.cumulativeDroppedFrames - run.queue.cumulativeDroppedFrames)
    workerOffered := run.workerOffered + frames }

/-- `block` are the samples the callback has read out of the slot it is at;
`accepted` and `granted` are read by no step. -/
structure ArenaRun (α : Type) where
  ingress : IngressRun α
  worker : WorkerState α
  block : List α
  accepted : List (List α)
  granted : Option FrozenDescriptor

def ArenaRun.channels (run : ArenaRun α) : ℕ := run.worker.cfg.ring.channels

/-- The interleaved samples the rings have accepted. -/
def ArenaRun.history (run : ArenaRun α) : List α := run.accepted.flatten

def ArenaRun.start (worker : WorkerState α) (slotCount : ℕ)
    (hpos : 0 < worker.cfg.slotFrames) (zero : α) : ArenaRun α where
  ingress := .start ⟨worker.cfg.ring.channels, slotCount, worker.cfg.slotFrames, hpos⟩ zero
  worker := worker
  block := []
  accepted := []
  granted := none

inductive SessionEvent (α : Type)
  | push (samples : List α) (channels : ℕ)
  | producer
  | worker (now : ℕ)
  | command (command : WorkerCommand)

/-- The callback of `consume_next` hands the block it was given to
`consume_samples`. -/
def ArenaRun.deliver (run : ArenaRun α) (ingress : IngressRun α) (now : ℕ) (block : List α) :
    ArenaRun α :=
  let (worker, counters) := run.worker.consumeSamples ingress.queue.counters now block
  let frames := worker.absoluteHead - run.worker.absoluteHead
  { run with
    ingress := ingress.count counters (block.length / run.channels - frames)
    worker
    block := []
    accepted := run.accepted ++ [block.take (frames * run.channels)] }

/-- A step of `consume_next`; the callback runs once the last sample of the
slot has been read. -/
def ArenaRun.consume (run : ArenaRun α) (now : ℕ) : ArenaRun α :=
  let (_, consumer, sample) := run.ingress.queue.consumeNext run.ingress.consumer
  let block := run.block ++ sample.toList
  match consumer with
  | .storeConsumed _ => run.deliver run.ingress.consume now block
  | _ => { run with ingress := run.ingress.consume, block }

/-- The grant a reply leaves standing. -/
def WorkerReply.regrant (granted : Option FrozenDescriptor) :
    Result WorkerReply → Option FrozenDescriptor
  | .ok (.frozen (some descriptor)) => some descriptor
  | .ok .released => none
  | _ => granted

def ArenaRun.execute (run : ArenaRun α) (command : WorkerCommand) : ArenaRun α :=
  let (result, worker) := run.worker.processCommand run.ingress.queue.counters command
  { run with worker, granted := WorkerReply.regrant run.granted result }

/-- The worker is one thread: it executes a command only between two blocks. -/
def ArenaRun.step (run : ArenaRun α) : SessionEvent α → ArenaRun α
  | .push samples channels => { run with ingress := run.ingress.step (.push samples channels) }
  | .producer => { run with ingress := run.ingress.step .producer }
  | .worker now => run.consume now
  | .command command =>
      match run.ingress.consumer with
      | .idle => run.execute command
      | _ => run

def ArenaRun.steps (run : ArenaRun α) (events : List (SessionEvent α)) : ArenaRun α :=
  events.foldl ArenaRun.step run

/-! ### Reading a frozen epoch -/

def FrozenCaptureEpoch.totalFrames (frozen : FrozenCaptureEpoch) : ℕ :=
  frozen.absoluteRange.stop - frozen.absoluteRange.start

/-- `copy_interleaved_range_into` of an epoch whose ring is `ring`. -/
def FrozenCaptureEpoch.copyInterleavedRangeInto (frozen : FrozenCaptureEpoch)
    (ring : SampleRing α) (absoluteRange : Range) (destination : List α) :
    Result (ℕ × List α) :=
  if frozen.released then
    .error (.exportInvariant "frozen capture epoch was released")
  else if frozen.releasePending then
    .error (.exportInvariant "frozen capture release is pending")
  else if absoluteRange.start < frozen.absoluteRange.start ∨
      frozen.absoluteRange.stop < absoluteRange.stop ∨
      absoluteRange.stop < absoluteRange.start then
    .error (.exportInvariant "requested absolute range is outside frozen range")
  else
    ring.copyInterleavedRangeInto
      ⟨absoluteRange.start - frozen.descriptor.base, absoluteRange.stop - frozen.descriptor.base⟩
      destination

end Lamb.Arena
