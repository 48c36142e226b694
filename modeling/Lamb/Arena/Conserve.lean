import Lamb.Arena.Barrier
import Mathlib.Algebra.BigOperators.Ring.List

/-!
Where the frames go that are offered to the ingress queue. A completed push
has split its frames into accepted and dropped ones; an accepted frame is in
the queue until the worker's callback has written it to a ring or counted it
as dropped; and once the worker has stopped and the producers are gone, what
is left in the queue is counted as dropped, each block once.
-/

namespace Lamb.Arena

open Lamb.Ring Lamb.Lib

variable {α : Type}

/-! ### Completed pushes -/

/-- The frames a completed push has dropped. -/
def PushRecord.dropped (record : PushRecord α) : ℕ :=
  match record.result with
  | .ok outcome => outcome.droppedFrames
  | .error _ => 0

/-- The frames of a completed push; one that failed offered none. -/
def PushRecord.offered (record : PushRecord α) : ℕ :=
  match record.result with
  | .ok _ => record.push.totalFrames
  | .error _ => 0

/-- The frames offered by completed pushes. -/
def IngressRun.completed (run : IngressRun α) : ℕ := (run.finished.map PushRecord.offered).sum

/-- The frames of a push in progress that are accepted or counted already. -/
def Push.handled (push : Push α) : ℕ := push.sourceFrame + push.countedDrop

/-- No counter has run out: a well-shaped push fails for no other reason. -/
structure IngressRun.Unexhausted (run : IngressRun α) : Prop where
  flag : run.queue.dropCounterExhausted = false
  unmarked : ∀ push message, run.producer = some push → push.pc ≠ .markExhausted message
  finished : ∀ record ∈ run.finished, record.push.Shaped run.queue.cfg →
    ∃ outcome, record.result = .ok outcome

/-- How far a push is, whether it is shaped or not. -/
structure Push.Split (push : Push α) (cfg : QueueConfig) : Prop where
  source_le : push.sourceFrame ≤ push.totalFrames
  shaped : push.Shaped cfg ∨ push.sourceFrame = 0

theorem Push.Split.accepted_length {push : Push α} {cfg : QueueConfig} (h : push.Split cfg) :
    push.acceptedSamples.length = push.sourceFrame * cfg.channels := by
  rw [Push.acceptedSamples, List.length_take]
  rcases h.shaped with ⟨hchannels, -⟩ | hzero
  · have hle := Nat.mul_le_mul_right push.channels h.source_le
    have htotal := Nat.div_mul_le_self push.samples.length push.channels
    rw [← hchannels]
    exact min_eq_left (hle.trans htotal)
  · simp [hzero]

theorem Push.At.shaped {push : Push α} {queue : IngressQueue α} (h : push.At queue) :
    push.Shaped queue.cfg ∨ push.sourceFrame = 0 := by
  unfold Push.At at h
  split at h
  · exact .inr h
  all_goals first | exact .inl h | exact .inl h.1

/-- What one step of `try_push` does to the counters that matter. -/
theorem IngressQueue.tryPush_tally {queue : IngressQueue α} {push : Push α}
    (hle : push.sourceFrame ≤ push.totalFrames) (hat : push.At queue) :
    ((queue.tryPush push).1.dropCounterExhausted = false →
      queue.dropCounterExhausted = false) ∧
    match (queue.tryPush push).2 with
    | .running push' =>
        push'.samples = push.samples ∧ push'.channels = push.channels ∧
          push'.sourceFrame ≤ push'.totalFrames ∧
          ((∀ message, push'.pc ≠ .markExhausted message) →
            (∀ message, push.pc ≠ .markExhausted message) ∧
            (queue.tryPush push).1.cumulativeDroppedFrames + push.countedDrop =
              queue.cumulativeDroppedFrames + push'.countedDrop)
    | .done result =>
        ((queue.tryPush push).1.dropCounterExhausted = false →
          (∀ message, push.pc ≠ .markExhausted message) ∧
          ∀ outcome, result = .ok outcome →
            (queue.tryPush push).1.cumulativeDroppedFrames + push.countedDrop =
              queue.cumulativeDroppedFrames + outcome.droppedFrames) ∧
        (∀ e, result = .error e →
          (queue.tryPush push).1.dropCounterExhausted = false →
          (queue.tryPush push).1.cumulativeDroppedFrames + push.countedDrop =
            queue.cumulativeDroppedFrames) ∧
        ∀ outcome, result = .ok outcome → push.Shaped queue.cfg ∧
          push.sourceFrame + outcome.droppedFrames = push.totalFrames := by
  obtain ⟨samples, channels, sourceFrame, enqueuedFrames, pc, before⟩ := push
  cases pc with
  | enter =>
      simp only [IngressQueue.tryPush]
      split
      · exact ⟨id, fun _ => ⟨by simp, by simp⟩, by simp [Push.countedDrop], by simp⟩
      split
      · exact ⟨id, fun _ => ⟨by simp, by simp⟩, by simp [Push.countedDrop], by simp⟩
      split
      · exact ⟨id, fun _ => ⟨by simp, by simp⟩, by simp [Push.countedDrop], by simp⟩
      · exact ⟨id, rfl, rfl, hle, fun _ => ⟨by simp, rfl⟩⟩
  | loop =>
      simp only [IngressQueue.tryPush]
      split
      · exact ⟨id, rfl, rfl, hle, fun _ => ⟨by simp, rfl⟩⟩
      · rename_i hdone
        refine ⟨id, fun _ => ⟨by simp, ?_⟩, by simp, ?_⟩
        · rintro outcome ⟨⟩
          rfl
        · rintro outcome ⟨⟩
          exact ⟨hat, le_antisymm hle (Nat.not_lt.mp hdone)⟩
  | loadConsumed published =>
      simp only [IngressQueue.tryPush]
      split
      · exact ⟨id, fun _ => ⟨by simp, by simp⟩, by simp [Push.countedDrop], by simp⟩
      split
      · exact ⟨id, rfl, rfl, hle, fun _ => ⟨by simp, rfl⟩⟩
      split
      · exact ⟨id, fun _ => ⟨by simp, by simp⟩, by simp [Push.countedDrop], by simp⟩
      · exact ⟨id, rfl, rfl, hle, fun _ => ⟨by simp, rfl⟩⟩
  | checkExhausted published =>
      simp only [IngressQueue.tryPush]
      split
      · exact ⟨id, fun _ => ⟨by simp, by simp⟩, by simp [Push.countedDrop], by simp⟩
      · exact ⟨id, rfl, rfl, hle, fun _ => ⟨by simp, rfl⟩⟩
  | addCumulative published =>
      simp only [IngressQueue.tryPush]
      split
      · exact ⟨id, rfl, rfl, hle, fun hmark => absurd rfl (hmark _)⟩
      · rename_i total hadd
        obtain ⟨rfl, -⟩ := checkedAdd_eq_some.mp hadd
        exact ⟨id, rfl, rfl, hle, fun _ => ⟨by simp, rfl⟩⟩
  | addDropped published =>
      simp only [IngressQueue.tryPush]
      split
      · exact ⟨id, rfl, rfl, hle, fun hmark => absurd rfl (hmark _)⟩
      · refine ⟨id, fun _ => ⟨by simp, ?_⟩, by simp, ?_⟩
        · rintro outcome ⟨⟩
          rfl
        · rintro outcome ⟨⟩
          exact ⟨hat, Nat.add_sub_of_le hle⟩
  | markExhausted message =>
      exact ⟨by simp [IngressQueue.tryPush], by simp [IngressQueue.tryPush],
        by simp [IngressQueue.tryPush], by simp⟩
  | addEnqueued published =>
      simp only [IngressQueue.tryPush]
      split
      · exact ⟨id, fun _ => ⟨by simp, by simp⟩, by simp [Push.countedDrop], by simp⟩
      · exact ⟨id, rfl, rfl, hle, fun _ => ⟨by simp, rfl⟩⟩
  | copySample published index =>
      simp only [IngressQueue.tryPush]
      split <;> exact ⟨id, rfl, rfl, hle, fun _ => ⟨by simp, rfl⟩⟩
  | storeFrames published =>
      exact ⟨id, rfl, rfl, hle, fun _ => ⟨by simp, rfl⟩⟩
  | storePublished published =>
      refine ⟨id, rfl, rfl, ?_, fun _ => ⟨by simp, rfl⟩⟩
      simp only [Push.slotFrames, Push.totalFrames] at hle ⊢
      omega

/-! ### The counters of a run -/

/-- What the pushes and the counters have in common in every run. -/
structure IngressRun.Tally (run : IngressRun α) : Prop where
  push : ∀ push, run.producer = some push → push.Split run.queue.cfg
  finished : ∀ record ∈ run.finished, record.push.Split run.queue.cfg ∧
    ∀ outcome, record.result = .ok outcome →
      record.push.sourceFrame + outcome.droppedFrames = record.push.totalFrames
  cumulative : run.queue.dropCounterExhausted = false →
    (∀ push message, run.producer = some push → push.pc ≠ .markExhausted message) →
    run.queue.cumulativeDroppedFrames = (run.finished.map PushRecord.dropped).sum +
      run.producer.elim 0 Push.countedDrop + run.workerDropped

theorem IngressRun.Tally.start (cfg : QueueConfig) (zero : α) :
    (IngressRun.start cfg zero).Tally :=
  ⟨by simp [IngressRun.start], by simp [IngressRun.start], fun _ _ => rfl⟩

section Tally

variable {run : IngressRun α}

theorem IngressRun.Tally.produce (h : run.Tally) {push : Push α}
    (hpush : run.producer = some push) (hfifo : run.Fifo) : (run.produce push).Tally := by
  have hat := hfifo.producer push hpush
  have hat' := (hfifo.produce hpush).producer
  have hsplit := h.push push hpush
  obtain ⟨hflag, hstep⟩ := IngressQueue.tryPush_tally hsplit.source_le hat
  have hcfg := run.queue.tryPush_cfg push
  have hcumulative := h.cumulative
  rw [hpush] at hcumulative
  simp only [Option.some.injEq, Option.elim_some] at hcumulative
  unfold IngressRun.produce at hat' ⊢
  generalize run.queue.tryPush push = next at hat' hflag hstep hcfg
  obtain ⟨queue, push' | result⟩ := next
  · obtain ⟨hsamples, hchannels, hle, hcount⟩ := hstep
    simp only at hcfg hflag hcount
    refine ⟨?_, ?_, ?_⟩
    · intro other hother
      obtain rfl := Option.some.inj hother
      exact ⟨hle, (hat' push' rfl).shaped⟩
    · simp only [hcfg]
      exact h.finished
    · intro hclear hmarks
      obtain ⟨hold, heq⟩ := hcount fun message => hmarks push' message rfl
      have hbefore := hcumulative (hflag hclear) (by
        rintro other message rfl
        exact hold message)
      simp only [Option.elim_some]
      omega
  · obtain ⟨hdone, hfailed, hok⟩ := hstep
    simp only at hcfg hflag hdone hfailed
    refine ⟨by simp, ?_, ?_⟩
    · intro record hrecord
      simp only [hcfg]
      rcases List.mem_append.mp hrecord with hold | hnew
      · exact h.finished record hold
      · rw [List.mem_singleton.mp hnew]
        exact ⟨hsplit, fun outcome hresult => (hok outcome hresult).2⟩
    · intro hclear _
      obtain ⟨hmarks, hcount⟩ := hdone hclear
      have hbefore := hcumulative (hflag hclear) (by
        rintro other message rfl
        exact hmarks message)
      simp only [List.map_append, List.map_singleton, List.sum_append, List.sum_singleton,
        Option.elim_none]
      cases result with
      | ok outcome =>
          have heq := hcount outcome rfl
          simp only [PushRecord.dropped, IngressRun.record]
          omega
      | error e =>
          have heq := hfailed e rfl hclear
          simp only [PushRecord.dropped, IngressRun.record]
          omega

theorem IngressRun.Tally.enter (h : run.Tally) (hnone : run.producer = none) (samples : List α)
    (channels : ℕ) :
    IngressRun.Tally { run with producer := some (run.enter samples channels) } := by
  have hcumulative := h.cumulative
  rw [hnone] at hcumulative
  refine ⟨?_, h.finished, fun hflag _ => ?_⟩
  · intro push hpush
    obtain rfl := Option.some.inj hpush
    exact ⟨Nat.zero_le _, .inr rfl⟩
  · rw [hcumulative hflag (by simp)]
    rfl

/-- The consumer reads; no counter changes. -/
theorem IngressRun.Tally.consume (h : run.Tally) : run.consume.Tally := by
  obtain ⟨consumed, hqueue⟩ := run.queue.consumeNext_queue run.consumer
  refine ⟨?_, ?_, ?_⟩ <;> simp only [IngressRun.consume, hqueue]
  · exact h.push
  · exact h.finished
  · exact h.cumulative

/-- The callback counts dropped frames. -/
theorem IngressRun.Tally.count (h : run.Tally) {counters : DropCounters} (frames : ℕ)
    (hle : run.queue.counters.Le counters)
    (hflag : counters.dropCounterExhausted = false → run.queue.dropCounterExhausted = false) :
    (run.count counters frames).Tally := by
  refine ⟨h.push, h.finished, fun hclear hmarks => ?_⟩
  have hbefore := h.cumulative (hflag hclear) hmarks
  have hgrows : run.queue.cumulativeDroppedFrames ≤ counters.cumulativeDroppedFrames := hle
  simp only [IngressRun.count, IngressQueue.setCounters]
  omega

/-- All accepted samples, counted in frames. -/
theorem IngressRun.Tally.accepted_length (h : run.Tally) :
    run.accepted.length = ((run.finished.map fun record => record.push.sourceFrame).sum +
      run.producer.elim 0 Push.sourceFrame) * run.queue.cfg.channels := by
  have hfinished : ∀ records : List (PushRecord α),
      (∀ record ∈ records, record.push.Split run.queue.cfg) →
      (records.flatMap fun record => record.push.acceptedSamples).length =
        (records.map fun record => record.push.sourceFrame).sum * run.queue.cfg.channels := by
    intro records hrecords
    induction records with
    | nil => simp
    | cons record records ih =>
        have hrest := ih fun other hother => hrecords other (List.mem_cons_of_mem _ hother)
        simp only [List.flatMap_cons, List.length_append, List.map_cons, List.sum_cons,
          Nat.add_mul, hrest, (hrecords record List.mem_cons_self).accepted_length]
  rw [IngressRun.accepted, List.length_append,
    hfinished run.finished fun record hrecord => (h.finished record hrecord).1, Nat.add_mul]
  cases hpush : run.producer with
  | none => simp
  | some push => simp only [Option.elim_some, (h.push push hpush).accepted_length]

/-- Completed pushes offered what was accepted and dropped of them. -/
theorem IngressRun.Tally.completed_eq (h : run.Tally) (hunexhausted : run.Unexhausted) :
    run.completed = (run.finished.map fun record => record.push.sourceFrame).sum +
      (run.finished.map PushRecord.dropped).sum := by
  have hall : ∀ record ∈ run.finished,
      record.offered = record.push.sourceFrame + record.dropped := by
    intro record hrecord
    obtain ⟨hsplit, hok⟩ := h.finished record hrecord
    cases hresult : record.result with
    | ok outcome =>
        simp only [PushRecord.offered, PushRecord.dropped, hresult]
        exact (hok outcome hresult).symm
    | error e =>
        simp only [PushRecord.offered, PushRecord.dropped, hresult]
        rcases hsplit.shaped with hshaped | hzero
        · obtain ⟨outcome, hother⟩ := hunexhausted.finished record hrecord hshaped
          rw [hresult] at hother
          cases hother
        · omega
  rw [IngressRun.completed, List.map_congr_left hall, List.sum_map_add]

end Tally

/-! ### The callback -/

theorem DropCounters.addCumulative_tally (queue : DropCounters) (frames : ℕ)
    (hclear : (queue.addCumulativeDroppedFrames frames).2.dropCounterExhausted = false) :
    queue.dropCounterExhausted = false ∧
      (queue.addCumulativeDroppedFrames frames).1 = .ok () ∧
      (queue.addCumulativeDroppedFrames frames).2.cumulativeDroppedFrames =
        queue.cumulativeDroppedFrames + frames := by
  unfold DropCounters.addCumulativeDroppedFrames at hclear ⊢
  split at hclear
  · rename_i hflag
    simp only at hclear
    rw [hflag] at hclear
    cases hclear
  · rename_i hflag
    rw [if_neg hflag]
    cases hadd : checkedAdd queue.cumulativeDroppedFrames frames with
    | none =>
        rw [hadd] at hclear
        cases hclear
    | some total =>
        obtain ⟨rfl, -⟩ := checkedAdd_eq_some.mp hadd
        exact ⟨by simpa using hflag, rfl, rfl⟩

theorem DropCounters.addDropped_tally (queue : DropCounters) (frames : ℕ)
    (hclear : (queue.addDroppedFrames frames).2.dropCounterExhausted = false) :
    queue.dropCounterExhausted = false ∧
      (queue.addDroppedFrames frames).2.cumulativeDroppedFrames =
        queue.cumulativeDroppedFrames + frames := by
  have htally := queue.addCumulative_tally frames
  unfold DropCounters.addDroppedFrames at hclear ⊢
  generalize queue.addCumulativeDroppedFrames frames = added at htally hclear
  obtain ⟨_ | _, counters⟩ := added
  · obtain ⟨hflag, -, hsum⟩ := htally hclear
    exact ⟨hflag, hsum⟩
  · simp only [DropCounters.addIngressDroppedFrames] at hclear ⊢
    split at hclear
    · cases hclear
    · rename_i total hadd
      obtain ⟨hflag, -, hsum⟩ := htally hclear
      exact ⟨hflag, hsum⟩

/-- A block is written or counted as dropped, unless a counter runs out. -/
theorem WorkerState.consumeSamples_tally (worker : WorkerState α) (queue : DropCounters)
    (now : ℕ) (samples : List α)
    (hclear : (worker.consumeSamples queue now samples).2.dropCounterExhausted = false) :
    queue.dropCounterExhausted = false ∧
      (worker.consumeSamples queue now samples).1.workerWrittenFrames +
          (worker.consumeSamples queue now samples).2.cumulativeDroppedFrames =
        worker.workerWrittenFrames + queue.cumulativeDroppedFrames +
          samples.length / worker.cfg.ring.channels := by
  have hdrop : ∀ (other : WorkerState α) (frames : ℕ),
      (other.dropWorkerFrames queue frames).2.dropCounterExhausted = false →
      queue.dropCounterExhausted = false ∧
        (other.dropWorkerFrames queue frames).1.workerWrittenFrames =
          other.workerWrittenFrames ∧
        (other.dropWorkerFrames queue frames).2.cumulativeDroppedFrames =
          queue.cumulativeDroppedFrames + frames := by
    intro other frames hother
    have htally := queue.addCumulative_tally frames
    unfold WorkerState.dropWorkerFrames at hother ⊢
    generalize queue.addCumulativeDroppedFrames frames = added at htally hother
    obtain ⟨_ | _, counters⟩ := added
    · obtain ⟨-, hok, -⟩ := htally hother
      cases hok
    · simp only at hother ⊢
      split at hother
      · obtain ⟨hflag, -, hsum⟩ := htally hother
        exact ⟨hflag, rfl, hsum⟩
      · obtain ⟨hflag, -, hsum⟩ := htally hother
        exact ⟨hflag, rfl, hsum⟩
  simp only [WorkerState.consumeSamples] at hclear ⊢
  split at hclear
  · rename_i hfault
    obtain ⟨hflag, hsum⟩ := queue.addDropped_tally _ hclear
    simp only [hfault, if_true]
    exact ⟨hflag, by omega⟩
  · rename_i hfault
    rw [if_neg hfault]
    split at hclear
    · rename_i nextAbsolute nextWritten habsolute hwritten
      obtain ⟨rfl, -⟩ := checkedAdd_eq_some.mp hwritten
      generalize (worker.epochs worker.active).writeInterleaved now samples
        worker.cfg.ring.channels = result at hclear
      obtain ⟨_ | _, ring⟩ := result
      · obtain ⟨hflag, hsame, hsum⟩ := hdrop _ _ hclear
        simp only at hsame hsum ⊢
        exact ⟨hflag, by omega⟩
      · exact ⟨hclear, by simp only; omega⟩
    · obtain ⟨hflag, hsame, hsum⟩ := hdrop _ _ hclear
      exact ⟨hflag, by omega⟩

/-! ### Faults and the end of the worker -/

/-- One round of `classify_unconsumed_after_worker`: the oldest block is taken
out of the queue and counted as dropped. Nobody else touches the queue then. -/
def ArenaRun.classifyUnconsumed (run : ArenaRun α) : ArenaRun α :=
  let queue := run.ingress.queue
  if queue.publishedSequence ≤ queue.consumedSequence then run
  else
    let slot := queue.slots (queue.slotOf queue.consumedSequence)
    let ingress := run.ingress.count (queue.counters.addDroppedFrames slot.frames).2 slot.frames
    { run with
      ingress := { ingress with
        queue := { ingress.queue with consumedSequence := queue.consumedSequence + 1 }
        delivered := ingress.delivered ++
          (List.range (slot.frames * queue.cfg.channels)).map slot.samples }
      accepted := run.accepted ++ [[]] }

/-- A session up to and after its end. -/
structure FrameRun (α : Type) where
  arena : ArenaRun α
  closed : Bool
  stopped : Bool

/-- `fault` stands for any of the worker's faults; `stop` for the worker
leaving its loop, which it does between two blocks. -/
inductive FrameEvent (α : Type)
  | session (event : SessionEvent α)
  | fault (message : String)
  | close
  | stop
  | classify

def FrameRun.step (run : FrameRun α) : FrameEvent α → FrameRun α
  | .session (.push samples channels) =>
      if run.closed then run else { run with arena := run.arena.step (.push samples channels) }
  | .session .producer => { run with arena := run.arena.step .producer }
  | .session event => if run.stopped then run else { run with arena := run.arena.step event }
  | .fault message =>
      if run.stopped then run
      else { run with arena := { run.arena with
        worker := run.arena.worker.setWorkerFault message } }
  | .close => { run with closed := true }
  | .stop => if run.arena.ingress.consumer = .idle then { run with stopped := true } else run
  | .classify =>
      if run.closed ∧ run.stopped ∧ run.arena.ingress.producer.isNone then
        { run with arena := run.arena.classifyUnconsumed }
      else run

def FrameRun.steps (run : FrameRun α) (events : List (FrameEvent α)) : FrameRun α :=
  events.foldl FrameRun.step run

/-- The frames of the blocks that were published and not handed to the
callback yet. -/
def IngressRun.queuedFrames (run : IngressRun α) : ℕ :=
  let handed := run.consumer.handed run.queue.consumedSequence
  ((List.range (run.queue.publishedSequence - handed)).map fun i =>
    (run.queue.slots (run.queue.slotOf (handed + i))).frames).sum

/-! ### Conservation -/

/-- The blocks handed over were written or counted by the callback. -/
structure ArenaRun.Conserves (run : ArenaRun α) (blocks : List (List α)) : Prop where
  inv : run.Inv
  handed : run.Handed blocks
  tally : run.ingress.Tally
  spent : run.ingress.queue.dropCounterExhausted = false →
    (blocks.take run.accepted.length).flatten.length =
      (run.worker.workerWrittenFrames + run.ingress.workerDropped) * run.channels

section Conserves

variable {run : ArenaRun α} {blocks : List (List α)}

theorem ArenaRun.Conserves.start {cfg : ArenaConfig} {zero : α} {worker : WorkerState α}
    (hnew : WorkerState.new cfg zero = .ok worker) (slotCount : ℕ)
    (hpos : 0 < worker.cfg.slotFrames) :
    (ArenaRun.start worker slotCount hpos zero).Conserves [] where
  inv := .start hnew slotCount hpos
  handed := .start worker slotCount hpos zero
  tally := .start _ zero
  spent _ := by
    have hwritten : worker.workerWrittenFrames = 0 := by
      have htracks := WorkerState.Tracks.new hnew
      have hlength := htracks.length
      rw [htracks.written]
      simpa [htracks.inv.channels_pos.ne'] using hlength
    simp [ArenaRun.start, IngressRun.start, hwritten]

/-- A step of the producer: it has its own blocks and its own counters. -/
theorem ArenaRun.Conserves.produced (h : run.Conserves blocks) {event : SessionEvent α}
    {added : List (List α)} (hhanded : (run.step event).Handed (blocks ++ added))
    (hinv : (run.step event).Inv) (htally : (run.step event).ingress.Tally)
    (haccepted : (run.step event).accepted = run.accepted)
    (hworker : (run.step event).worker = run.worker)
    (hdropped : (run.step event).ingress.workerDropped = run.ingress.workerDropped)
    (hflag : (run.step event).ingress.queue.dropCounterExhausted = false →
      run.ingress.queue.dropCounterExhausted = false) :
    (run.step event).Conserves (blocks ++ added) := by
  refine ⟨hinv, hhanded, htally, fun hclear => ?_⟩
  rw [haccepted, hworker, hdropped, ArenaRun.channels, hworker,
    List.take_append_of_le_length h.handed.length_le]
  exact h.spent (hflag hclear)

theorem ArenaRun.Conserves.push (h : run.Conserves blocks) (samples : List α) (channels : ℕ) :
    (run.step (.push samples channels)).Conserves blocks := by
  have hhanded := h.handed.push samples channels
  rw [← List.append_nil blocks] at hhanded ⊢
  refine h.produced hhanded (h.inv.push samples channels) ?_ rfl rfl ?_ ?_
  · simp only [ArenaRun.step, IngressRun.step]
    cases hpush : run.ingress.producer with
    | none => exact h.tally.enter hpush samples channels
    | some push => exact h.tally
  all_goals
    simp only [ArenaRun.step, IngressRun.step]
    cases run.ingress.producer with
    | none => first | rfl | exact id
    | some push => first | rfl | exact id

theorem IngressRun.produce_workerDropped (run : IngressRun α) (push : Push α) :
    (run.produce push).workerDropped = run.workerDropped := by
  unfold IngressRun.produce
  generalize run.queue.tryPush push = next
  obtain ⟨queue, push' | result⟩ := next <;> rfl

theorem IngressRun.produce_flag (run : IngressRun α) (push : Push α) :
    (run.produce push).queue.dropCounterExhausted =
      (run.queue.tryPush push).1.dropCounterExhausted := by
  unfold IngressRun.produce
  generalize run.queue.tryPush push = next
  obtain ⟨queue, push' | result⟩ := next <;> rfl

theorem ArenaRun.Conserves.producer (h : run.Conserves blocks) :
    ∃ added, (run.step .producer).Conserves (blocks ++ added) := by
  obtain ⟨added, hhanded⟩ := h.handed.producer h.inv.feeds.fifo.producer
  refine ⟨added, h.produced hhanded h.inv.producer ?_ rfl rfl ?_ ?_⟩
  · simp only [ArenaRun.step, IngressRun.step]
    cases hpush : run.ingress.producer with
    | none => exact h.tally
    | some push => exact h.tally.produce hpush h.inv.feeds.fifo
  · simp only [ArenaRun.step, IngressRun.step]
    cases run.ingress.producer with
    | none => rfl
    | some push => exact run.ingress.produce_workerDropped push
  · simp only [ArenaRun.step, IngressRun.step]
    cases hpush : run.ingress.producer with
    | none => exact id
    | some push =>
        have hflag := (IngressQueue.tryPush_tally (h.tally.push push hpush).source_le
          (h.inv.feeds.fifo.producer push hpush)).1
        simp only [run.ingress.produce_flag push]
        exact hflag

theorem ArenaRun.Conserves.consume (h : run.Conserves blocks) (now : ℕ) :
    (run.consume now).Conserves blocks := by
  have hinv := h.inv.consume now
  have hhanded := h.handed.consume now
  rcases h.inv.consume_cases now with
    ⟨block, -, -, heq⟩ | ⟨consumed, frames, hpc, hblock, hframes, hstore, heq⟩
  · rw [heq] at hinv hhanded ⊢
    obtain ⟨consumed, hqueue⟩ := run.ingress.queue.consumeNext_queue run.ingress.consumer
    refine ⟨hinv, hhanded, h.tally.consume, ?_⟩
    simp only [IngressRun.consume, hqueue]
    exact h.spent
  · have hdone : ¬run.block.length < frames * run.ingress.queue.cfg.channels := by
      rw [h.inv.feeds.channels]
      omega
    have hnext := h.handed.block_eq hpc hdone
    have hle := run.worker.le_consumeSamples run.ingress.consume.queue.counters now run.block
    have htally := run.worker.consumeSamples_tally run.ingress.consume.queue.counters now
      run.block
    have hqueue : run.ingress.consume.queue.cumulativeDroppedFrames =
        run.ingress.queue.cumulativeDroppedFrames ∧
        run.ingress.consume.queue.dropCounterExhausted =
          run.ingress.queue.dropCounterExhausted := by
      obtain ⟨consumed, hqueue⟩ := run.ingress.queue.consumeNext_queue run.ingress.consumer
      simp only [IngressRun.consume, hqueue, and_self]
    have hkept : (run.worker.consumeSamples run.ingress.consume.queue.counters now
        run.block).1.cfg = run.worker.cfg := by
      have hfits : run.block.length / run.worker.cfg.ring.channels ≤
          run.worker.cfg.slotFrames := by
        rw [hblock, ArenaRun.channels, Nat.mul_div_cancel _ h.inv.tracks.inv.channels_pos]
        exact hframes
      exact (h.inv.tracks.inv.consumeSamples _ now hfits).2.cfg
    rw [heq] at hinv hhanded ⊢
    unfold ArenaRun.deliver at hinv hhanded ⊢
    generalize run.worker.consumeSamples run.ingress.consume.queue.counters now run.block =
      result at hinv hhanded hle htally hkept
    obtain ⟨worker, counters⟩ := result
    simp only at hle htally hkept
    refine ⟨hinv, hhanded, h.tally.consume.count _ hle fun hclear => (htally hclear).1, ?_⟩
    intro hclear
    obtain ⟨hflag, hsum⟩ := htally hclear
    have hspent := h.spent (hqueue.2 ▸ hflag)
    have hgrows : run.ingress.consume.queue.cumulativeDroppedFrames ≤
        counters.cumulativeDroppedFrames := hle
    simp only [IngressQueue.counters] at hsum
    have hwhole : run.block.length / run.worker.cfg.ring.channels = frames := by
      rw [hblock, ArenaRun.channels, Nat.mul_div_cancel _ h.inv.tracks.inv.channels_pos]
    rw [hwhole] at hsum
    have hdropped : run.ingress.consume.workerDropped = run.ingress.workerDropped := rfl
    simp only [IngressRun.count, List.length_append, List.length_singleton, ArenaRun.channels,
      hkept, hdropped]
    rw [flatten_take_succ hnext, List.length_append, hspent, hblock, ArenaRun.channels,
      ← Nat.add_mul]
    congr 1
    omega

theorem WorkerState.Executed.written_eq {worker worker' : WorkerState α}
    {command : WorkerCommand} {result : Result WorkerReply}
    (h : worker.Executed command result worker') :
    worker'.workerWrittenFrames = worker.workerWrittenFrames := by
  cases h <;> rfl

theorem ArenaRun.Conserves.execute (h : run.Conserves blocks) (command : WorkerCommand) :
    (run.execute command).Conserves blocks := by
  have hexec := h.inv.tracks.inv.executed run.ingress.queue.counters command
  refine ⟨h.inv.execute command, h.handed.execute command, h.tally, fun hclear => ?_⟩
  rw [show (run.execute command).worker.workerWrittenFrames = run.worker.workerWrittenFrames from
    hexec.written_eq, ArenaRun.channels,
    show (run.execute command).worker.cfg = run.worker.cfg from hexec.cfg_eq]
  exact h.spent hclear

theorem ArenaRun.Conserves.fault (h : run.Conserves blocks) (message : String) :
    ArenaRun.Conserves { run with worker := run.worker.setWorkerFault message } blocks := by
  have htracks := h.inv.tracks
  have hinv : (run.worker.setWorkerFault message).Inv :=
    ⟨htracks.inv.epochs, htracks.inv.head, htracks.inv.head_le, htracks.inv.frozen⟩
  have hholds : ∀ descriptor, run.granted = some descriptor →
      (run.worker.setWorkerFault message).Holds run.history descriptor := by
    intro descriptor hgranted
    have hholds := htracks.holds descriptor hgranted
    exact { hholds with }
  exact
    { inv := ⟨⟨h.inv.feeds.fifo, h.inv.feeds.channels, h.inv.feeds.slotFrames, h.inv.feeds.slots,
        h.inv.feeds.reading⟩, { htracks with inv := hinv, holds := hholds }⟩
      handed := ⟨h.handed.published, h.handed.count, h.handed.read, h.handed.parts⟩
      tally := h.tally
      spent := h.spent }

/-- The oldest block of the queue. -/
theorem ArenaRun.Handed.oldest (h : run.Handed blocks) (hidle : run.ingress.consumer = .idle)
    (hmore : run.ingress.queue.consumedSequence < run.ingress.queue.publishedSequence) :
    ∃ block, blocks[run.accepted.length]? = some block ∧
      run.accepted.length = run.ingress.queue.consumedSequence ∧
      (run.ingress.queue.slots (run.ingress.queue.slotOf
        run.ingress.queue.consumedSequence)).Holds run.ingress.queue.cfg.channels block := by
  have hcount := h.count
  rw [hidle] at hcount
  simp only [ConsumePc.handed] at hcount
  have hlt : run.accepted.length < blocks.length := by
    rw [h.published.stores.length]
    omega
  refine ⟨_, List.getElem?_eq_getElem hlt, hcount, ?_⟩
  exact h.published.stores.held _ _ le_rfl (hcount ▸ List.getElem?_eq_getElem hlt)

theorem IngressSlot.Holds.samples_eq {slot : IngressSlot α} {channels : ℕ} {block : List α}
    (h : slot.Holds channels block) :
    (List.range (slot.frames * channels)).map slot.samples = block := by
  rw [h.1]
  refine List.ext_getElem? fun i => ?_
  rw [List.getElem?_map]
  by_cases hlt : i < block.length
  · rw [List.getElem?_range hlt, h.2 i hlt]
    rfl
  · rw [List.getElem?_eq_none (by simpa using hlt), List.getElem?_eq_none (Nat.not_lt.mp hlt)]
    rfl

theorem ArenaRun.Conserves.classify (h : run.Conserves blocks)
    (hidle : run.ingress.consumer = .idle) :
    run.classifyUnconsumed.Conserves blocks ∧
      run.classifyUnconsumed.ingress.consumer = .idle := by
  unfold ArenaRun.classifyUnconsumed
  simp only
  split
  · exact ⟨h, hidle⟩
  rename_i hmore
  obtain ⟨block, hblock, hcount, hslot⟩ := h.handed.oldest hidle (Nat.not_le.mp hmore)
  have hsamples := hslot.samples_eq
  have hle := run.ingress.queue.counters.le_addDroppedFrames
    (run.ingress.queue.slots (run.ingress.queue.slotOf
      run.ingress.queue.consumedSequence)).frames
  have htally := run.ingress.queue.counters.addDropped_tally
    (run.ingress.queue.slots (run.ingress.queue.slotOf
      run.ingress.queue.consumedSequence)).frames
  generalize run.ingress.queue.counters.addDroppedFrames
    (run.ingress.queue.slots (run.ingress.queue.slotOf
      run.ingress.queue.consumedSequence)).frames = result at hle htally
  obtain ⟨outcome, counters⟩ := result
  simp only at hle htally
  have hdelivered := h.handed.published.delivered
  rw [hidle] at hdelivered
  have hblock' : blocks[run.ingress.queue.consumedSequence]? = some block := hcount ▸ hblock
  have hread := h.handed.read
  have hnone : run.block = [] := by
    have hreading := h.inv.feeds.reading
    rw [hidle] at hreading
    exact hreading
  rw [hsamples]
  have hstores := h.handed.published.stores
  have hpublished : IngressRun.Blocks
      { run.ingress.count counters (run.ingress.queue.slots (run.ingress.queue.slotOf
          run.ingress.queue.consumedSequence)).frames with
        queue := { run.ingress.queue.setCounters counters with
          consumedSequence := run.ingress.queue.consumedSequence + 1 }
        delivered := run.ingress.delivered ++ block } blocks := by
    refine ⟨⟨hstores.length, Nat.not_le.mp hmore, ?_⟩, ?_, h.handed.published.accepted⟩
    · exact fun sequence other hlow => hstores.held sequence other (Nat.le_of_succ_le hlow)
    · simp only [IngressRun.count, hidle]
      rw [show run.ingress.delivered = _ from hdelivered]
      exact (flatten_take_succ hblock').symm
  have hcounted := h.tally.count (run.ingress.queue.slots (run.ingress.queue.slotOf
      run.ingress.queue.consumedSequence)).frames hle fun hclear => (htally hclear).1
  refine ⟨⟨⟨⟨⟨⟨blocks, hpublished.stores, hpublished.delivered, hpublished.accepted⟩, ?_⟩,
    h.inv.feeds.channels, h.inv.feeds.slotFrames, h.inv.feeds.slots, h.inv.feeds.reading⟩, ?_⟩,
    ⟨hpublished, ?_, ?_, ?_⟩, ⟨hcounted.push, hcounted.finished, hcounted.cumulative⟩, ?_⟩, hidle⟩
  · exact fun push hpush =>
      (h.inv.feeds.fifo.producer push hpush).mono rfl rfl rfl (Nat.le_succ _)
  · simpa [ArenaRun.history] using h.inv.tracks
  · simp only [IngressRun.count, hidle, ConsumePc.handed, List.length_append,
      List.length_singleton, hcount]
  · simp only [List.length_append, List.length_singleton]
    rw [flatten_take_succ hblock, IngressRun.count, hread, hnone, List.append_nil, List.append_nil]
  · simp only [List.length_append, List.length_singleton]
    rw [List.take_add_one, hblock]
    exact List.rel_append h.handed.parts (.cons (List.nil_prefix) .nil)
  · intro hclear
    obtain ⟨hflag, hsum⟩ := htally hclear
    have hspent := h.spent hflag
    have hlength := hslot.1
    rw [h.inv.feeds.channels] at hlength
    simp only [IngressQueue.counters] at hsum
    simp only [IngressRun.count, List.length_append, List.length_singleton, ArenaRun.channels]
    rw [flatten_take_succ hblock, List.length_append, hspent, ← hlength, ArenaRun.channels,
      ← Nat.add_mul, hsum]
    congr 1
    omega

end Conserves

/-! ### Whole runs -/

structure FrameRun.Inv (run : FrameRun α) : Prop where
  conserves : ∃ blocks, run.arena.Conserves blocks
  stopped : run.stopped = true → run.arena.ingress.consumer = .idle

section Run

variable {run : FrameRun α}

theorem FrameRun.Inv.step (h : run.Inv) (event : FrameEvent α) : (run.step event).Inv := by
  obtain ⟨blocks, hconserves⟩ := h.conserves
  cases event with
  | session event =>
      cases event with
      | push samples channels =>
          simp only [FrameRun.step]
          split
          · exact h
          · refine ⟨⟨blocks, hconserves.push samples channels⟩, fun hstopped => ?_⟩
            simp only [ArenaRun.step, IngressRun.step]
            cases run.arena.ingress.producer <;> exact h.stopped hstopped
      | producer =>
          obtain ⟨added, hnext⟩ := hconserves.producer
          refine ⟨⟨_, hnext⟩, fun hstopped => ?_⟩
          simp only [FrameRun.step, ArenaRun.step, IngressRun.step]
          cases run.arena.ingress.producer with
          | none => exact h.stopped hstopped
          | some push =>
              exact (run.arena.ingress.produce_consumer push).1.trans (h.stopped hstopped)
      | worker now =>
          simp only [FrameRun.step]
          split
          · exact h
          · rename_i hrunning
            exact ⟨⟨blocks, hconserves.consume now⟩, fun hstopped => absurd hstopped hrunning⟩
      | command command =>
          simp only [FrameRun.step]
          split
          · exact h
          · rename_i hrunning
            refine ⟨⟨blocks, ?_⟩, fun hstopped => absurd hstopped hrunning⟩
            simp only [ArenaRun.step]
            cases run.arena.ingress.consumer with
            | idle => exact hconserves.execute command
            | _ => exact hconserves
  | fault message =>
      simp only [FrameRun.step]
      split
      · exact h
      · exact ⟨⟨blocks, hconserves.fault message⟩, h.stopped⟩
  | close => exact ⟨⟨blocks, hconserves⟩, h.stopped⟩
  | stop =>
      simp only [FrameRun.step]
      split
      · rename_i hidle
        exact ⟨⟨blocks, hconserves⟩, fun _ => hidle⟩
      · exact h
  | classify =>
      simp only [FrameRun.step]
      split
      · rename_i hended
        obtain ⟨hnext, hidle⟩ := hconserves.classify (h.stopped hended.2.1)
        exact ⟨⟨blocks, hnext⟩, fun _ => hidle⟩
      · exact h

theorem FrameRun.Inv.steps (h : run.Inv) (events : List (FrameEvent α)) :
    (run.steps events).Inv :=
  List.foldlRecOn events FrameRun.step h fun _ h event _ => h.step event

end Run

/-! ### The balance -/

theorem sum_map_range_getElem {β : Type} (xs : List β) (f : β → ℕ) :
    ((List.range xs.length).map fun i => (xs[i]?).elim 0 f).sum = (xs.map f).sum := by
  induction xs with
  | nil => rfl
  | cons x xs ih =>
      rw [List.length_cons, List.range_succ_eq_map, List.map_cons, List.map_map, List.sum_cons]
      simp only [Function.comp_def, List.getElem?_cons_succ, List.getElem?_cons_zero,
        Option.elim_some]
      rw [ih]
      rfl

/-- The blocks not handed over yet are what the slots still hold. -/
theorem ArenaRun.Conserves.queued_eq {run : ArenaRun α} {blocks : List (List α)}
    (h : run.Conserves blocks) :
    run.ingress.queuedFrames * run.channels =
      (blocks.drop run.accepted.length).flatten.length := by
  have hcount := h.handed.count
  have hstores := h.handed.published.stores
  have hconsumed : run.ingress.queue.consumedSequence ≤ run.accepted.length := by
    rw [hcount]
    unfold ConsumePc.handed
    split <;> omega
  rw [List.length_flatten, ← sum_map_range_getElem, IngressRun.queuedFrames, ← hcount,
    List.length_drop, hstores.length, ← List.sum_map_mul_right]
  refine congrArg List.sum (List.map_congr_left fun i hi => ?_)
  rw [List.mem_range] at hi
  have hlt : run.accepted.length + i < blocks.length := by
    rw [hstores.length]
    omega
  rw [List.getElem?_drop, List.getElem?_eq_getElem hlt, Option.elim_some]
  have hheld := hstores.held (run.accepted.length + i) _ (by omega)
    (List.getElem?_eq_getElem hlt)
  rw [← h.inv.feeds.channels]
  exact hheld.1

theorem ArenaRun.Conserves.balance {run : ArenaRun α} {blocks : List (List α)}
    (h : run.Conserves blocks) (hunexhausted : run.ingress.Unexhausted) :
    run.ingress.completed + run.ingress.producer.elim 0 Push.handled =
      run.worker.workerWrittenFrames + run.ingress.queue.cumulativeDroppedFrames +
        run.ingress.queuedFrames := by
  have hchannels := h.inv.feeds.channels
  have hpos : 0 < run.channels := h.inv.tracks.inv.channels_pos
  have haccepted := h.tally.accepted_length
  have hspent := h.spent hunexhausted.flag
  have hqueued := h.queued_eq
  have hcumulative := h.tally.cumulative hunexhausted.flag hunexhausted.unmarked
  have hcompleted := h.tally.completed_eq hunexhausted
  -- the accepted samples are those handed over and those in the queue
  have hsplit : run.ingress.accepted.length =
      (run.worker.workerWrittenFrames + run.ingress.workerDropped +
        run.ingress.queuedFrames) * run.channels := by
    rw [h.handed.published.accepted, ← List.take_append_drop run.accepted.length blocks,
      List.flatten_append, List.length_append, hspent, ← hqueued, ← Nat.add_mul]
  rw [hsplit, hchannels] at haccepted
  have hframes := Nat.eq_of_mul_eq_mul_right hpos haccepted
  have hhandled : run.ingress.producer.elim 0 Push.handled =
      run.ingress.producer.elim 0 Push.sourceFrame +
        run.ingress.producer.elim 0 Push.countedDrop := by
    cases run.ingress.producer <;> rfl
  omega

/-- Counting what is left empties the queue and adds as many frames to the
cumulative count. -/
theorem FrameRun.classified (run : FrameRun α) (h : run.Inv) (hclosed : run.closed = true)
    (hstopped : run.stopped = true) (hnone : run.arena.ingress.producer = none) (rounds : ℕ)
    (hrounds : run.arena.ingress.queue.publishedSequence ≤
      run.arena.ingress.queue.consumedSequence + rounds) :
    let final := run.steps (List.replicate rounds .classify)
    final.arena.ingress.queuedFrames = 0 ∧ final.arena.ingress.producer = none ∧
      final.arena.ingress.finished = run.arena.ingress.finished ∧
      final.arena.worker = run.arena.worker := by
  induction rounds generalizing run with
  | zero =>
      refine ⟨?_, hnone, rfl, rfl⟩
      simp only [List.replicate_zero, FrameRun.steps, List.foldl_nil, IngressRun.queuedFrames,
        h.stopped hstopped, ConsumePc.handed]
      rw [Nat.sub_eq_zero_of_le (by omega)]
      rfl
  | succ rounds ih =>
      have hstep : run.step .classify = { run with arena := run.arena.classifyUnconsumed } := by
        simp [FrameRun.step, hclosed, hstopped, hnone]
      have hkept : run.arena.classifyUnconsumed.ingress.producer = none ∧
          run.arena.classifyUnconsumed.ingress.finished = run.arena.ingress.finished ∧
          run.arena.classifyUnconsumed.worker = run.arena.worker ∧
          run.arena.classifyUnconsumed.ingress.queue.publishedSequence ≤
            run.arena.classifyUnconsumed.ingress.queue.consumedSequence + rounds := by
        simp only [ArenaRun.classifyUnconsumed]
        split
        · exact ⟨hnone, rfl, rfl, by omega⟩
        · refine ⟨hnone, rfl, rfl, ?_⟩
          simp only [IngressRun.count, IngressQueue.setCounters]
          omega
      have hnext := h.step .classify
      simp only [FrameRun.steps, List.replicate_succ, List.foldl_cons]
      rw [hstep] at hnext ⊢
      obtain ⟨hproducer, hfinished, hworker, hleft⟩ := hkept
      obtain ⟨hqueued, hproducer', hfinished', hworker'⟩ :=
        ih { run with arena := run.arena.classifyUnconsumed } hnext hclosed hstopped hproducer hleft
      exact ⟨hqueued, hproducer', hfinished'.trans hfinished, hworker'.trans hworker⟩

/-- Offered frames are conserved over every interleaving of pushes, worker
steps, commands, faults and the end of the worker, as long as no counter runs
out. What the rings hold is what was counted as written. Once the worker has
stopped and no producer is left, counting what remains moves the frames still
in the queue to the dropped ones, and counting again changes nothing. -/
theorem offered_frames_conserved {cfg : ArenaConfig} {zero : α} {worker₀ : WorkerState α}
    (hnew : WorkerState.new cfg zero = .ok worker₀) (slotCount : ℕ)
    (hpos : 0 < worker₀.cfg.slotFrames) (events : List (FrameEvent α)) :
    let run := (FrameRun.mk (ArenaRun.start worker₀ slotCount hpos zero) false false).steps events
    (run.arena.history.length = run.arena.worker.workerWrittenFrames * run.arena.channels) ∧
    (run.arena.ingress.Unexhausted →
      run.arena.ingress.completed + run.arena.ingress.producer.elim 0 Push.handled =
        run.arena.worker.workerWrittenFrames +
          run.arena.ingress.queue.cumulativeDroppedFrames + run.arena.ingress.queuedFrames) ∧
    (run.closed = true → run.stopped = true → run.arena.ingress.producer = none →
      ∀ rounds, run.arena.ingress.queue.publishedSequence ≤
          run.arena.ingress.queue.consumedSequence + rounds →
        let final := run.steps (List.replicate rounds .classify)
        final.arena.ingress.queuedFrames = 0 ∧
        final.arena.worker.workerWrittenFrames = run.arena.worker.workerWrittenFrames ∧
        (run.arena.ingress.Unexhausted → final.arena.ingress.Unexhausted →
          final.arena.ingress.queue.cumulativeDroppedFrames =
            run.arena.ingress.queue.cumulativeDroppedFrames +
              run.arena.ingress.queuedFrames)) := by
  intro run
  have hinv : run.Inv := by
    refine FrameRun.Inv.steps ⟨⟨[], .start hnew slotCount hpos⟩, by simp⟩ events
  obtain ⟨blocks, hconserves⟩ := hinv.conserves
  refine ⟨?_, hconserves.balance, ?_⟩
  · rw [hconserves.inv.tracks.written]
    exact hconserves.inv.tracks.length
  · intro hclosed hstopped hnone rounds hrounds final
    obtain ⟨hqueued, hnone', hfinished, hworker⟩ :=
      run.classified hinv hclosed hstopped hnone rounds hrounds
    refine ⟨hqueued, by rw [hworker], fun hbefore hafter => ?_⟩
    obtain ⟨blocks', hconserves'⟩ := (hinv.steps (List.replicate rounds .classify)).conserves
    have hstart := hconserves.balance hbefore
    have hend := hconserves'.balance hafter
    rw [hnone] at hstart
    rw [hnone', hworker, hqueued, IngressRun.completed, hfinished] at hend
    simp only [Option.elim_none, IngressRun.completed] at hstart hend
    simp only [final]
    omega

/-- Two frames are pushed, and the worker stops before it reads them. -/
def stopBehind : List (FrameEvent ℕ) :=
  .session (.push [7, 8] 1) :: List.replicate 12 (.session .producer) ++ [.close, .stop]

theorem offered_frames_conserved_two :
    ∃ worker₀, WorkerState.new smallArena (0 : ℕ) = .ok worker₀ ∧
      ∃ hpos : 0 < worker₀.cfg.slotFrames,
        let run := (FrameRun.mk (ArenaRun.start worker₀ 4 hpos 0) false false).steps stopBehind
        run.arena.ingress.queuedFrames = 2 ∧
        (run.steps [.classify]).arena.ingress.queuedFrames = 0 := by
  refine ⟨_, rfl, by decide, by decide +kernel, ?_⟩
  exact ((@offered_frames_conserved ℕ smallArena 0 _ rfl 4 (by decide) stopBehind).2.2
    (by decide +kernel) (by decide +kernel) (by decide +kernel) 1 (by decide +kernel)).1

end Lamb.Arena
