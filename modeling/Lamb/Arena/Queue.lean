import Lamb.Error
import Lamb.Lib.Blocks
import Mathlib.Logic.Function.Basic

/-!
The ingress queue between the audio callback and the capture worker: one
producer inside `try_push`, one consumer inside `consume_next`, and every
shared access of either a step of its own. Each sequence number has a single
writer and is published with release and read with acquire ordering, so the
interleavings of the steps are the executions of the source. The copies in
and out of a slot go sample by sample.
-/

namespace Lamb.Arena

variable {α : Type}

/-- The memory plan refuses a slot of no frames. -/
structure QueueConfig where
  channels : ℕ
  slotCount : ℕ
  slotFrames : ℕ
  slotFrames_pos : 0 < slotFrames

structure IngressSlot (α : Type) where
  frames : ℕ
  samples : ℕ → α

structure IngressQueue (α : Type) where
  cfg : QueueConfig
  slots : ℕ → IngressSlot α
  publishedSequence : ℕ
  consumedSequence : ℕ
  enqueuedFrames : ℕ
  droppedFrames : ℕ
  cumulativeDroppedFrames : ℕ
  dropCounterExhausted : Bool

def IngressQueue.new (cfg : QueueConfig) (zero : α) : IngressQueue α where
  cfg := cfg
  slots := fun _ => ⟨0, fun _ => zero⟩
  publishedSequence := 0
  consumedSequence := 0
  enqueuedFrames := 0
  droppedFrames := 0
  cumulativeDroppedFrames := 0
  dropCounterExhausted := false

structure CapturePushOutcome where
  enqueuedFrames : ℕ
  droppedFrames : ℕ
  publishedSequence : ℕ
  deriving DecidableEq, Repr

/-! ### The producer -/

/-- Where a `try_push` stands. A `published` argument is the local variable
of that name. -/
inductive PushPc
  | enter
  | loop
  | loadConsumed (published : ℕ)
  | checkExhausted (published : ℕ)
  | addCumulative (published : ℕ)
  | addDropped (published : ℕ)
  | markExhausted (message : String)
  | addEnqueued (published : ℕ)
  | copySample (published index : ℕ)
  | storeFrames (published : ℕ)
  | storePublished (published : ℕ)
  deriving DecidableEq, Repr

/-- A `try_push` in progress. The `before` fields are the counters when the
call was entered and are read by no step. -/
structure Push (α : Type) where
  samples : List α
  channels : ℕ
  sourceFrame : ℕ
  enqueuedFrames : ℕ
  pc : PushPc
  droppedBefore : ℕ
  cumulativeBefore : ℕ
  workerBefore : ℕ

def Push.totalFrames (push : Push α) : ℕ :=
  push.samples.length / push.channels

/-- The frames of the slot the loop is filling. -/
def Push.slotFrames (push : Push α) (queue : IngressQueue α) : ℕ :=
  min (push.totalFrames - push.sourceFrame) queue.cfg.slotFrames

def Push.acceptedSamples (push : Push α) : List α :=
  push.samples.take (push.sourceFrame * push.channels)

inductive PushStep (α : Type)
  | running (push : Push α)
  | done (result : Result CapturePushOutcome)

def PushStep.fail (message : String) : PushStep α :=
  .done (.error (.captureInvariant message))

/-- The slot a sequence number stands for. -/
def IngressQueue.slotOf (queue : IngressQueue α) (sequence : ℕ) : ℕ :=
  sequence % queue.cfg.slotCount

def IngressQueue.writeSlot (queue : IngressQueue α) (sequence : ℕ) (slot : IngressSlot α) :
    IngressQueue α :=
  { queue with slots := Function.update queue.slots (queue.slotOf sequence) slot }

/-- One step of `try_push`. -/
def IngressQueue.tryPush (queue : IngressQueue α) (push : Push α) :
    IngressQueue α × PushStep α :=
  match push.pc with
  | .enter =>
      if queue.dropCounterExhausted then
        (queue, .fail "cumulative capture dropped frame counter exhausted")
      else if push.channels ≠ queue.cfg.channels then
        (queue, .fail "incoming channels do not match capture ingress channels")
      else if push.channels = 0 ∨ push.samples.length % push.channels ≠ 0 then
        (queue, .fail "input sample length is not whole frames")
      else
        (queue, .running { push with pc := .loop })
  | .loop =>
      if push.sourceFrame < push.totalFrames then
        (queue, .running { push with pc := .loadConsumed queue.publishedSequence })
      else
        (queue, .done (.ok ⟨push.enqueuedFrames, 0, queue.publishedSequence⟩))
  | .loadConsumed published =>
      if published < queue.consumedSequence then
        (queue, .fail "capture queue sequence invariant failed")
      else if queue.cfg.slotCount ≤ published - queue.consumedSequence then
        (queue, .running { push with pc := .checkExhausted published })
      else
        match checkedAdd published 1 with
        | none => (queue, .fail "capture queue sequence exhausted")
        | some _ => (queue, .running { push with pc := .addEnqueued published })
  -- `add_dropped_frames`: the cumulative counter first, then the ingress counter
  | .checkExhausted published =>
      if queue.dropCounterExhausted then
        (queue, .fail "cumulative capture dropped frame counter exhausted")
      else
        (queue, .running { push with pc := .addCumulative published })
  | .addCumulative published =>
      match checkedAdd queue.cumulativeDroppedFrames (push.totalFrames - push.sourceFrame) with
      | none =>
          (queue, .running { push with
            pc := .markExhausted "cumulative capture dropped frame counter exhausted" })
      | some total =>
          ({ queue with cumulativeDroppedFrames := total },
            .running { push with pc := .addDropped published })
  | .addDropped published =>
      match checkedAdd queue.droppedFrames (push.totalFrames - push.sourceFrame) with
      | none =>
          (queue, .running { push with
            pc := .markExhausted "capture ingress dropped frame counter exhausted" })
      | some total =>
          ({ queue with droppedFrames := total },
            .done (.ok ⟨push.enqueuedFrames, push.totalFrames - push.sourceFrame, published⟩))
  | .markExhausted message =>
      ({ queue with dropCounterExhausted := true }, .fail message)
  | .addEnqueued published =>
      match checkedAdd queue.enqueuedFrames (push.slotFrames queue) with
      | none => (queue, .fail "capture ingress enqueued frame counter exhausted")
      | some total =>
          ({ queue with enqueuedFrames := total },
            .running { push with pc := .copySample published 0 })
  | .copySample published index =>
      if index < push.slotFrames queue * push.channels then
        let slot := queue.slots (queue.slotOf published)
        let sample := push.samples.getD (push.sourceFrame * push.channels + index)
          (slot.samples index)
        (queue.writeSlot published
            { slot with samples := Function.update slot.samples index sample },
          .running { push with pc := .copySample published (index + 1) })
      else
        (queue, .running { push with pc := .storeFrames published })
  | .storeFrames published =>
      (queue.writeSlot published
          { queue.slots (queue.slotOf published) with frames := push.slotFrames queue },
        .running { push with pc := .storePublished published })
  | .storePublished published =>
      ({ queue with publishedSequence := published + 1 },
        .running { push with
          sourceFrame := push.sourceFrame + push.slotFrames queue
          enqueuedFrames := push.enqueuedFrames + push.slotFrames queue
          pc := .loop })

/-! ### The consumer -/

/-- Where a `consume_next` stands; `consumed` is the local variable. -/
inductive ConsumePc
  | idle
  | loadPublished (consumed : ℕ)
  | loadFrames (consumed : ℕ)
  | readSample (consumed frames index : ℕ)
  | storeConsumed (consumed : ℕ)
  deriving DecidableEq, Repr

/-- One step of `consume_next`, with the sample the callback reads in it. -/
def IngressQueue.consumeNext (queue : IngressQueue α) :
    ConsumePc → IngressQueue α × ConsumePc × Option α
  | .idle => (queue, .loadPublished queue.consumedSequence, none)
  | .loadPublished consumed =>
      if queue.publishedSequence ≤ consumed then
        (queue, .idle, none)
      else
        (queue, .loadFrames consumed, none)
  | .loadFrames consumed =>
      (queue, .readSample consumed (queue.slots (queue.slotOf consumed)).frames 0, none)
  | .readSample consumed frames index =>
      if index < frames * queue.cfg.channels then
        (queue, .readSample consumed frames (index + 1),
          some ((queue.slots (queue.slotOf consumed)).samples index))
      else
        (queue, .storeConsumed consumed, none)
  | .storeConsumed consumed =>
      ({ queue with consumedSequence := consumed + 1 }, .idle, none)

/-! ### Interleavings -/

/-- A push that has returned, with the counters when it did. -/
structure PushRecord (α : Type) where
  push : Push α
  result : Result CapturePushOutcome
  droppedAfter : ℕ
  cumulativeAfter : ℕ
  workerAfter : ℕ

/-- The queue, both parties, and what the specification speaks about: the
pushes in the order they returned, the samples the callback has read, and the
frames the callback itself has counted as dropped or tried to. -/
structure IngressRun (α : Type) where
  queue : IngressQueue α
  producer : Option (Push α)
  consumer : ConsumePc
  finished : List (PushRecord α)
  delivered : List α
  workerDropped : ℕ
  workerOffered : ℕ

inductive IngressEvent (α : Type)
  | push (samples : List α) (channels : ℕ)
  | producer
  | consumer
  | workerDrop (frames : ℕ)

def IngressRun.start (cfg : QueueConfig) (zero : α) : IngressRun α where
  queue := .new cfg zero
  producer := none
  consumer := .idle
  finished := []
  delivered := []
  workerDropped := 0
  workerOffered := 0

def IngressRun.enter (run : IngressRun α) (samples : List α) (channels : ℕ) : Push α where
  samples := samples
  channels := channels
  sourceFrame := 0
  enqueuedFrames := 0
  pc := .enter
  droppedBefore := run.queue.droppedFrames
  cumulativeBefore := run.queue.cumulativeDroppedFrames
  workerBefore := run.workerDropped

def IngressRun.record (run : IngressRun α) (queue : IngressQueue α) (push : Push α)
    (result : Result CapturePushOutcome) : PushRecord α where
  push := push
  result := result
  droppedAfter := queue.droppedFrames
  cumulativeAfter := queue.cumulativeDroppedFrames
  workerAfter := run.workerDropped

def IngressRun.produce (run : IngressRun α) (push : Push α) : IngressRun α :=
  match run.queue.tryPush push with
  | (queue, .running push) => { run with queue, producer := some push }
  | (queue, .done result) =>
      { run with
        queue
        producer := none
        finished := run.finished ++ [run.record queue push result] }

def IngressRun.consume (run : IngressRun α) : IngressRun α :=
  let (queue, consumer, sample) := run.queue.consumeNext run.consumer
  { run with queue, consumer, delivered := run.delivered ++ sample.toList }

/-- The callback of the worker counts the frames it cannot write. -/
def IngressRun.dropWorkerFrames (run : IngressRun α) (frames : ℕ) : IngressRun α :=
  match checkedAdd run.queue.cumulativeDroppedFrames frames with
  | none =>
      { run with
        queue := { run.queue with dropCounterExhausted := true }
        workerOffered := run.workerOffered + frames }
  | some total =>
      { run with
        queue := { run.queue with cumulativeDroppedFrames := total }
        workerDropped := run.workerDropped + frames
        workerOffered := run.workerOffered + frames }

/-- There is one producer: a push begins only when none is in progress. -/
def IngressRun.step (run : IngressRun α) : IngressEvent α → IngressRun α
  | .push samples channels =>
      match run.producer with
      | none => { run with producer := some (run.enter samples channels) }
      | some _ => run
  | .producer =>
      match run.producer with
      | none => run
      | some push => run.produce push
  | .consumer => run.consume
  | .workerDrop frames => run.dropWorkerFrames frames

def IngressRun.steps (run : IngressRun α) (events : List (IngressEvent α)) : IngressRun α :=
  events.foldl IngressRun.step run

/-- The accepted prefixes of all pushes so far, in order. -/
def IngressRun.accepted (run : IngressRun α) : List α :=
  run.finished.flatMap (fun record => record.push.acceptedSamples) ++
    run.producer.elim [] Push.acceptedSamples

/-- The frames of all pushes so far. -/
def IngressRun.offered (run : IngressRun α) : ℕ :=
  (run.finished.map fun record => record.push.totalFrames).sum +
    run.producer.elim 0 Push.totalFrames

end Lamb.Arena
