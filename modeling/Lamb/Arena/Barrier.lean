import Lamb.Arena.History
import Lamb.Arena.Slot

/-!
The drain barrier. The target of a command is the number of blocks published
when it was submitted, and the worker takes the command only once it has read
as many, so whatever the queue had accepted before the submission has been
handed to the rings before the command is executed.
-/

namespace Lamb.Arena

open Lamb.Ring Lamb.Lib

variable {α : Type}

/-! ### The blocks of a session -/

/-- How many blocks the callback has been run on. -/
def ConsumePc.handed (pc : ConsumePc) (consumed : ℕ) : ℕ :=
  match pc with
  | .storeConsumed _ => consumed + 1
  | _ => consumed

/-- The rings took a prefix of each block handed to them, in order, and what
was read beyond these blocks is the block being read. -/
structure ArenaRun.Handed (run : ArenaRun α) (blocks : List (List α)) : Prop where
  published : run.ingress.Blocks blocks
  count : run.accepted.length =
    run.ingress.consumer.handed run.ingress.queue.consumedSequence
  read : run.ingress.delivered = (blocks.take run.accepted.length).flatten ++ run.block
  parts : List.Forall₂ (· <+: ·) run.accepted (blocks.take run.accepted.length)

section Handed

variable {run : ArenaRun α} {blocks : List (List α)}

theorem ArenaRun.Handed.start (worker : WorkerState α) (slotCount : ℕ)
    (hpos : 0 < worker.cfg.slotFrames) (zero : α) :
    (ArenaRun.start worker slotCount hpos zero).Handed [] where
  published := ⟨⟨rfl, le_rfl, by simp⟩, rfl, rfl⟩
  count := rfl
  read := rfl
  parts := .nil

theorem ArenaRun.Handed.length_le (h : run.Handed blocks) :
    run.accepted.length ≤ blocks.length := by
  have hlength := h.parts.length_eq
  rw [List.length_take] at hlength
  omega

/-- Blocks that are published later change nothing about those handed over. -/
theorem ArenaRun.Handed.append (h : run.Handed blocks) {added : List (List α)}
    {ingress : IngressRun α} (hblocks : ingress.Blocks (blocks ++ added))
    (hconsumer : ingress.consumer = run.ingress.consumer)
    (hconsumed : ingress.queue.consumedSequence = run.ingress.queue.consumedSequence)
    (hdelivered : ingress.delivered = run.ingress.delivered) :
    ArenaRun.Handed { run with ingress } (blocks ++ added) where
  published := hblocks
  count := by
    simp only [hconsumer, hconsumed]
    exact h.count
  read := by
    simp only [hdelivered]
    rw [List.take_append_of_le_length h.length_le]
    exact h.read
  parts := by
    rw [List.take_append_of_le_length h.length_le]
    exact h.parts

theorem ArenaRun.Handed.push (h : run.Handed blocks) (samples : List α) (channels : ℕ) :
    (run.step (.push samples channels)).Handed blocks := by
  simp only [ArenaRun.step, IngressRun.step]
  cases hpush : run.ingress.producer with
  | none =>
      have hblocks := h.published.enter hpush samples channels
      rw [← List.append_nil blocks] at hblocks ⊢
      exact h.append hblocks rfl rfl rfl
  | some push => exact h

theorem IngressQueue.tryPush_consumed (queue : IngressQueue α) (push : Push α) :
    (queue.tryPush push).1.consumedSequence = queue.consumedSequence := by
  unfold IngressQueue.tryPush
  cases push.pc <;> simp only <;> (repeat' split) <;> rfl

/-- A producer does not touch what belongs to the consumer. -/
theorem IngressRun.produce_consumer (run : IngressRun α) (push : Push α) :
    (run.produce push).consumer = run.consumer ∧ (run.produce push).delivered = run.delivered ∧
      (run.produce push).queue.consumedSequence = run.queue.consumedSequence := by
  have hconsumed := run.queue.tryPush_consumed push
  unfold IngressRun.produce
  generalize run.queue.tryPush push = result at hconsumed
  obtain ⟨queue, push' | result⟩ := result <;> exact ⟨rfl, rfl, hconsumed⟩

theorem ArenaRun.Handed.producer (h : run.Handed blocks)
    (hat : ∀ push, run.ingress.producer = some push → push.At run.ingress.queue) :
    ∃ added, (run.step .producer).Handed (blocks ++ added) := by
  simp only [ArenaRun.step, IngressRun.step]
  cases hpush : run.ingress.producer with
  | none => exact ⟨[], by rwa [List.append_nil]⟩
  | some push =>
      obtain ⟨⟨added, hblocks⟩, -⟩ := h.published.produce hpush (hat push hpush)
      obtain ⟨hconsumer, hdelivered, hconsumed⟩ := run.ingress.produce_consumer push
      exact ⟨added, h.append hblocks hconsumer hconsumed hdelivered⟩

/-- The callback is run on the whole of the next block. -/
theorem ArenaRun.Handed.block_eq (h : run.Handed blocks) {consumed frames index : ℕ}
    (hpc : run.ingress.consumer = .readSample consumed frames index)
    (hdone : ¬index < frames * run.ingress.queue.cfg.channels) :
    blocks[run.accepted.length]? = some run.block := by
  have hdelivered := h.published.delivered
  have hcount := h.count
  rw [hpc] at hdelivered hcount
  obtain ⟨rfl, -, block, hblock, hframes, hindex, heq⟩ := hdelivered
  simp only [ConsumePc.handed] at hcount
  have hwhole : block.take index = block := List.take_of_length_le (by omega)
  rw [h.read, hcount, hwhole] at heq
  rw [hcount, List.append_cancel_left heq]
  exact hblock

theorem ArenaRun.Handed.deliver (h : run.Handed blocks) {consumed frames index : ℕ}
    (hpc : run.ingress.consumer = .readSample consumed frames index)
    (hdone : ¬index < frames * run.ingress.queue.cfg.channels) (now : ℕ) :
    (run.deliver run.ingress.consume now run.block).Handed blocks := by
  have hblock := h.block_eq hpc hdone
  have hcount := h.count
  have hnext := h.published.consume
  have hread : run.ingress.consume.delivered = run.ingress.delivered := by
    simp [IngressRun.consume, hpc, IngressQueue.consumeNext, hdone]
  rw [hpc] at hcount
  simp only [ConsumePc.handed] at hcount
  have hpc' : run.ingress.consume.consumer = .storeConsumed consumed := by
    simp [IngressRun.consume, hpc, IngressQueue.consumeNext, hdone]
  have hconsumed : run.ingress.consume.queue.consumedSequence =
      run.ingress.queue.consumedSequence := by
    simp [IngressRun.consume, hpc, IngressQueue.consumeNext, hdone]
  unfold ArenaRun.deliver
  generalize run.worker.consumeSamples run.ingress.consume.queue.counters now run.block = result
  obtain ⟨worker, counters⟩ := result
  refine ⟨hnext.congr rfl rfl rfl rfl rfl rfl rfl rfl, ?_, ?_, ?_⟩
  · simp only [IngressRun.count, IngressQueue.setCounters, hpc', hconsumed, ConsumePc.handed,
      List.length_append, List.length_singleton, hcount]
  · simp only [IngressRun.count, List.length_append, List.length_singleton, List.append_nil]
    rw [hread, h.read, flatten_take_succ hblock]
  · simp only [List.length_append, List.length_singleton]
    rw [List.take_add_one, hblock]
    exact List.rel_append h.parts (.cons (List.take_prefix _ _) .nil)

theorem ArenaRun.Handed.consume (h : run.Handed blocks) (now : ℕ) :
    (run.consume now).Handed blocks := by
  have hnext := h.published.consume
  have hcount := h.count
  have hdelivered := h.published.delivered
  unfold ArenaRun.consume
  cases hpc : run.ingress.consumer with
  | readSample consumed frames index =>
      by_cases hmore : index < frames * run.ingress.queue.cfg.channels
      · simp only [IngressQueue.consumeNext, if_pos hmore]
        refine ⟨hnext, ?_, ?_, h.parts⟩
        · rw [hpc] at hcount
          simp only [IngressRun.consume, hpc, IngressQueue.consumeNext, if_pos hmore]
          exact hcount
        · simp only [IngressRun.consume, hpc, IngressQueue.consumeNext, if_pos hmore]
          rw [h.read, List.append_assoc]
      · simp only [IngressQueue.consumeNext, if_neg hmore, Option.toList_none, List.append_nil]
        exact h.deliver hpc hmore now
  | idle =>
      rw [hpc] at hcount
      simp only [IngressQueue.consumeNext, Option.toList_none, List.append_nil]
      refine ⟨hnext, ?_, ?_, h.parts⟩ <;>
        simp only [IngressRun.consume, hpc, IngressQueue.consumeNext, Option.toList_none,
          List.append_nil]
      · exact hcount
      · exact h.read
  | loadPublished consumed =>
      rw [hpc] at hcount
      by_cases hempty : run.ingress.queue.publishedSequence ≤ consumed
      all_goals
        simp only [IngressQueue.consumeNext, hempty, if_true, if_false, Option.toList_none,
          List.append_nil]
        refine ⟨hnext, ?_, ?_, h.parts⟩ <;>
          simp only [IngressRun.consume, hpc, IngressQueue.consumeNext, hempty, if_true, if_false,
            Option.toList_none, List.append_nil]
      · exact hcount
      · exact h.read
      · exact hcount
      · exact h.read
  | loadFrames consumed =>
      rw [hpc] at hcount
      simp only [IngressQueue.consumeNext, Option.toList_none, List.append_nil]
      refine ⟨hnext, ?_, ?_, h.parts⟩ <;>
        simp only [IngressRun.consume, hpc, IngressQueue.consumeNext, Option.toList_none,
          List.append_nil]
      · exact hcount
      · exact h.read
  | storeConsumed consumed =>
      rw [hpc] at hcount hdelivered
      simp only [IngressQueue.consumeNext, Option.toList_none, List.append_nil]
      refine ⟨hnext, ?_, ?_, h.parts⟩ <;>
        simp only [IngressRun.consume, hpc, IngressQueue.consumeNext, Option.toList_none,
          List.append_nil]
      · rw [hdelivered.1]
        exact hcount
      · exact h.read

theorem ArenaRun.Handed.execute (h : run.Handed blocks) (command : WorkerCommand) :
    (run.execute command).Handed blocks :=
  ⟨h.published, h.count, h.read, h.parts⟩

end Handed

/-! ### Targets -/

/-- The first `targetSequence` blocks hold the samples `accepted`. -/
def Marks (blocks : List (List α)) (targetSequence : ℕ) (accepted : List α) : Prop :=
  targetSequence ≤ blocks.length ∧ accepted = (blocks.take targetSequence).flatten

theorem Marks.append {blocks : List (List α)} {targetSequence : ℕ} {accepted : List α}
    (h : Marks blocks targetSequence accepted) (added : List (List α)) :
    Marks (blocks ++ added) targetSequence accepted := by
  refine ⟨?_, ?_⟩
  · rw [List.length_append]
    exact Nat.le_add_right_of_le h.1
  · rw [List.take_append_of_le_length h.1]
    exact h.2

/-- The worker has decided to take the ready command, or has taken it. -/
def LoopPc.Takes : LoopPc → Prop
  | .take | .process _ => True
  | _ => False

/-- A command that was executed after all it had to wait for: the blocks of
the samples accepted before its submission were handed to the rings. -/
structure Execution.Drained (execution : Execution α) (submission : Submission α) : Prop where
  result : execution.result = (execution.before.worker.processCommand
    execution.before.ingress.queue.counters submission.command).1
  before : execution.before.Inv
  delivered : submission.accepted <+: execution.before.ingress.delivered
  handed : ∃ blocks : List (List α), blocks.flatten = submission.accepted ∧
    List.Forall₂ (· <+: ·) (execution.before.accepted.take submission.targetSequence) blocks

structure CommandRun.Targets (run : CommandRun α) (blocks : List (List α)) : Prop where
  handed : run.arena.Handed blocks
  loaded : ∀ call target, run.client = .publish call target → Marks blocks target run.log.head
  submitted : ∀ submission ∈ run.log.submissions,
    Marks blocks submission.targetSequence submission.accepted

structure CommandRun.Drain (run : CommandRun α) : Prop where
  slot : run.Slot
  arena : run.arena.Inv
  idle : run.loop ≠ .consume → run.arena.ingress.consumer = .idle
  targets : ∃ blocks, run.Targets blocks
  drained : run.loop.Takes →
    run.cell.targetSequence ≤ run.arena.ingress.queue.consumedSequence
  executed : ∀ execution ∈ run.log.executed, ∃ submission,
    run.log.submissions[execution.number]? = some submission ∧ execution.Drained submission

theorem CommandRun.Drain.start {cfg : ArenaConfig} {zero : α} {worker : WorkerState α}
    (hnew : WorkerState.new cfg zero = .ok worker) (slotCount : ℕ)
    (hpos : 0 < worker.cfg.slotFrames) (runtimeId : ℕ) :
    (CommandRun.start (ArenaRun.start worker slotCount hpos zero) runtimeId).Drain where
  slot := .start _ _
  arena := .start hnew slotCount hpos
  idle _ := rfl
  targets := ⟨[], .start worker slotCount hpos zero, by simp [CommandRun.start], by
    simp [CommandRun.start]⟩
  drained := False.elim
  executed := by simp [CommandRun.start]

section Drain

variable {run : CommandRun α}

/-- A command that was taken finds everything before its target handed over. -/
theorem CommandRun.Targets.drained {blocks : List (List α)} (h : run.Targets blocks)
    (harena : run.arena.Inv) (hidle : run.arena.ingress.consumer = .idle)
    {submission : Submission α} (hmem : submission ∈ run.log.submissions)
    (hdrained : submission.targetSequence ≤ run.arena.ingress.queue.consumedSequence)
    (number : ℕ) :
    Execution.Drained ⟨number, run.arena, (run.arena.worker.processCommand
      run.arena.ingress.queue.counters submission.command).1⟩ submission := by
  obtain ⟨hle, haccepted⟩ := h.submitted submission hmem
  have hcount := h.handed.count
  rw [hidle] at hcount
  simp only [ConsumePc.handed] at hcount
  have htake : (blocks.take run.arena.accepted.length).take submission.targetSequence =
      blocks.take submission.targetSequence := by
    rw [List.take_take, min_eq_left (by omega)]
  refine ⟨rfl, harena, ?_, blocks.take submission.targetSequence, haccepted.symm, ?_⟩
  · rw [h.handed.read, haccepted]
    refine List.IsPrefix.trans ?_ (List.prefix_append _ _)
    rw [← htake]
    exact (List.take_prefix _ _).flatten
  · rw [← htake]
    exact List.forall₂_take _ h.handed.parts

theorem CommandRun.Drain.producer_step (h : run.Drain) {event : SessionEvent α}
    (hhanded : ∀ blocks, run.arena.Handed blocks →
      ∃ added, (run.arena.step event).Handed (blocks ++ added))
    (hconsumer : (run.arena.step event).ingress.consumer = run.arena.ingress.consumer)
    (hconsumed : (run.arena.step event).ingress.queue.consumedSequence =
      run.arena.ingress.queue.consumedSequence) :
    CommandRun.Drain { run with arena := run.arena.step event } := by
  obtain ⟨blocks, htargets⟩ := h.targets
  obtain ⟨added, hadded⟩ := hhanded blocks htargets.handed
  exact
    { slot := ⟨h.slot.at_, h.slot.fits, h.slot.numbers⟩
      arena := h.arena.step event
      idle := fun hloop => hconsumer.trans (h.idle hloop)
      targets := ⟨blocks ++ added, hadded,
        fun call target hclient => (htargets.loaded call target hclient).append added,
        fun submission hmem => (htargets.submitted submission hmem).append added⟩
      drained := fun htakes => (h.drained htakes).trans_eq hconsumed.symm
      executed := h.executed }

/-- A client step that loads no target and submits nothing. -/
theorem CommandRun.Drain.keep (h : run.Drain) {run' : CommandRun α} (hslot : run'.Slot)
    (harena : run'.arena = run.arena) (hloop : run'.loop = run.loop)
    (htarget : run'.cell.targetSequence = run.cell.targetSequence)
    (hhead : run'.log.head = run.log.head)
    (hsubmissions : run'.log.submissions = run.log.submissions)
    (hexecuted : run'.log.executed = run.log.executed)
    (hclient : ∀ call target, run'.client = .publish call target → run.client = run'.client) :
    run'.Drain := by
  obtain ⟨blocks, htargets⟩ := h.targets
  refine ⟨hslot, harena ▸ h.arena, ?_, ⟨blocks, harena ▸ htargets.handed, ?_, ?_⟩, ?_, ?_⟩
  · rw [harena, hloop]
    exact h.idle
  · intro call target hpublish
    rw [hhead]
    exact htargets.loaded call target ((hclient call target hpublish).trans hpublish)
  · rw [hsubmissions]
    exact htargets.submitted
  · rw [hloop, htarget, harena]
    exact h.drained
  · rw [hexecuted, hsubmissions]
    exact h.executed

theorem ClientPc.Ends.ne_publish {client : ClientPc} (h : client.Ends) (call : ClientCall)
    (target : ℕ) : client ≠ .publish call target := by
  rcases h with rfl | rfl <;> simp

theorem CommandRun.Goes.ne_publish {call : ClientCall} {client : ClientPc}
    (h : run.Goes call client) (other : ClientCall) (target : ℕ) :
    client ≠ .publish other target := by
  rcases h with hends | ⟨rfl, -⟩
  · exact hends.ne_publish other target
  · simp

theorem CommandRun.Drain.turn (h : run.Drain) {run' : CommandRun α} (hturn : run.Turn run') :
    run'.Drain := by
  have hslot := h.slot.turn hturn
  cases hturn with
  | move client shutdown closed hat hclient =>
      exact h.keep hslot rfl rfl rfl rfl rfl rfl hclient
  | recallFrozen number descriptor call client shutdown hmemory hcall hfree hends =>
      exact h.keep hslot rfl rfl rfl rfl rfl rfl fun other target hpublish =>
        absurd hpublish (hends.ne_publish other target)
  | recallClear number report recovery client shutdown hmemory hmatches hfree hends =>
      exact h.keep hslot rfl rfl rfl rfl rfl rfl fun other target hpublish =>
        absurd hpublish (hends.ne_publish other target)
  | own call result client shutdown hclient hgives hends =>
      exact h.keep hslot rfl rfl rfl rfl rfl rfl fun other target hpublish =>
        absurd hpublish (hends.ne_publish other target)
  | taken call result client shutdown hgives hadmitted hanswers hends =>
      exact h.keep hslot rfl rfl rfl rfl rfl rfl fun other target hpublish =>
        absurd hpublish (hends.ne_publish other target)
  | keepFrozen => exact h.keep hslot rfl rfl rfl rfl rfl rfl (by simp)
  | keepClear report call client shutdown hgives hkind hgoes =>
      exact h.keep hslot rfl rfl rfl rfl rfl rfl fun other target hpublish =>
        absurd hpublish (hgoes.ne_publish other target)
  | discard result call client shutdown hgives hcarries hgoes =>
      exact h.keep hslot rfl rfl rfl rfl rfl rfl fun other target hpublish =>
        absurd hpublish (hgoes.ne_publish other target)
  | begin => exact h.keep hslot rfl rfl rfl rfl rfl rfl (by simp)
  | abandon => exact h.keep hslot rfl rfl rfl rfl rfl rfl (by simp)
  | load call hclient =>
      obtain ⟨blocks, htargets⟩ := h.targets
      refine ⟨hslot, h.arena, h.idle, ⟨blocks, htargets.handed, ?_, htargets.submitted⟩, h.drained,
        h.executed⟩
      rintro call target ⟨⟩
      -- all blocks published so far, and all that was accepted
      refine ⟨htargets.handed.published.stores.length.ge, ?_⟩
      rw [← htargets.handed.published.stores.length, List.take_length]
      exact htargets.handed.published.accepted
  | publish call target command hclient hbuilt =>
      obtain ⟨blocks, htargets⟩ := h.targets
      have hat := h.slot.at_
      have hfits := h.slot.fits
      simp only [CommandRun.At, hclient] at hat
      simp only [CommandRun.Fits, hat.1] at hfits
      refine ⟨hslot, h.arena, h.idle, ⟨blocks, htargets.handed, by simp, ?_⟩, ?_, ?_⟩
      · intro submission hmem
        rcases List.mem_append.mp hmem with hold | hnew
        · exact htargets.submitted submission hold
        · rw [List.mem_singleton.mp hnew]
          exact htargets.loaded call target hclient
      · intro htakes
        have haway := hfits.1
        revert htakes haway
        cases run.loop <;> simp [LoopPc.Takes, LoopPc.Away]
      · intro execution hmem
        obtain ⟨submission, hfound, hdrained⟩ := h.executed execution hmem
        refine ⟨submission, ?_, hdrained⟩
        rw [List.getElem?_append_left (List.getElem?_eq_some_iff.mp hfound).1]
        exact hfound

theorem CommandRun.Drain.work (h : run.Drain) {now : ℕ} {run' : CommandRun α}
    (hwork : run.Work now run') : run'.Drain := by
  have hslot := h.slot.work hwork
  obtain ⟨blocks, htargets⟩ := h.targets
  cases hwork with
  | roam loop haway hconsume hloop =>
      refine ⟨hslot, h.arena, fun _ => h.idle hconsume,
        ⟨blocks, htargets.handed, htargets.loaded, htargets.submitted⟩, fun htakes => ?_,
        h.executed⟩
      revert htakes hloop
      cases loop <;> simp [LoopPc.Takes, LoopPc.Away]
  | poll hloop hready =>
      exact ⟨hslot, h.arena, fun _ => h.idle (by simp [hloop]),
        ⟨blocks, htargets.handed, htargets.loaded, htargets.submitted⟩, False.elim,
        h.executed⟩
  | back loaded hloop hbehind =>
      exact ⟨hslot, h.arena, fun hother => absurd rfl hother,
        ⟨blocks, htargets.handed, htargets.loaded, htargets.submitted⟩, False.elim,
        h.executed⟩
  | drained loaded hloop hdrained =>
      exact ⟨hslot, h.arena, fun _ => h.idle (by simp [hloop]),
        ⟨blocks, htargets.handed, htargets.loaded, htargets.submitted⟩,
        fun _ => hdrained, h.executed⟩
  | consume hloop =>
      refine ⟨hslot, h.arena.consume now, fun hother => ?_,
        ⟨blocks, htargets.handed.consume now, htargets.loaded, htargets.submitted⟩, ?_,
        h.executed⟩
      · simp only at hother ⊢
        split at hother
        · assumption
        · exact absurd rfl hother
      · simp only
        split <;> exact False.elim
  | take submission hloop hpending hready hlength =>
      exact ⟨hslot, h.arena, fun _ => h.idle (by simp [hloop]),
        ⟨blocks, htargets.handed, htargets.loaded, htargets.submitted⟩,
        fun _ => h.drained (by rw [hloop]; trivial), h.executed⟩
  | process submission hloop hpending hstate hlength =>
      refine ⟨hslot, h.arena.execute _, fun _ => h.idle (by simp [hloop]),
        ⟨blocks, htargets.handed.execute _, htargets.loaded, htargets.submitted⟩, False.elim,
        ?_⟩
      intro execution hmem
      rcases List.mem_append.mp hmem with hold | hnew
      · exact h.executed execution hold
      · rw [List.mem_singleton.mp hnew]
        have hdrained := h.drained (by rw [hloop]; trivial)
        rw [hpending.target] at hdrained
        exact ⟨submission, hpending.found, htargets.drained h.arena (h.idle (by simp [hloop]))
          (List.mem_of_getElem? hpending.found) hdrained _⟩
  | publish submission result loop hloop hpending hstate hlength haway hconsume =>
      refine ⟨hslot, h.arena, fun _ => h.idle (by simp [hloop]),
        ⟨blocks, htargets.handed, htargets.loaded, htargets.submitted⟩,
        fun htakes => ?_, h.executed⟩
      revert htakes haway
      cases loop <;> simp [LoopPc.Takes, LoopPc.Away]

theorem CommandRun.Drain.step (h : run.Drain) (event : CommandEvent α) :
    (run.step event).Drain := by
  rcases h.slot.step_cases event with ⟨samples, channels, heq⟩ | heq | ⟨now, hwork⟩ | hturn
  · rw [heq]
    refine h.producer_step (fun blocks hhanded => ⟨[], ?_⟩) ?_ ?_
    · rw [List.append_nil]
      exact hhanded.push samples channels
    all_goals
      simp only [ArenaRun.step, IngressRun.step]
      cases run.arena.ingress.producer <;> rfl
  · rw [heq]
    refine h.producer_step (fun blocks hhanded =>
      hhanded.producer h.arena.feeds.fifo.producer) ?_ ?_
    all_goals
      simp only [ArenaRun.step, IngressRun.step]
      cases run.arena.ingress.producer with
      | none => rfl
      | some push =>
          obtain ⟨hconsumer, -, hconsumed⟩ := run.arena.ingress.produce_consumer push
          first | exact hconsumer | exact hconsumed
  · exact h.work hwork
  · exact h.turn hturn

theorem CommandRun.Drain.steps (h : run.Drain) (events : List (CommandEvent α)) :
    (run.steps events).Drain :=
  List.foldlRecOn events CommandRun.step h fun _ h event _ => h.step event

/-- Every sample the rings have accepted lies before the absolute head. -/
theorem ArenaRun.Inv.accepted_le {run : ArenaRun α} (h : run.Inv) (count : ℕ) :
    (run.accepted.take count).flatten.length ≤ run.worker.absoluteHead * run.channels := by
  have hlength : run.history.length = run.worker.absoluteHead * run.channels := h.tracks.length
  rw [← hlength]
  exact (List.take_prefix count run.accepted).flatten.length_le

/-- A range that is frozen or cleared ends at the absolute head. -/
theorem WorkerState.Inv.reply_stop {worker : WorkerState α} (h : worker.Inv)
    (queue : DropCounters) (command : WorkerCommand) :
    (∀ descriptor, (worker.processCommand queue command).1 = .ok (.frozen (some descriptor)) →
      descriptor.absoluteRange.stop = worker.absoluteHead) ∧
    (∀ report, (worker.processCommand queue command).1 = .ok (.cleared report) →
      report.activeAbsoluteRange.stop = worker.absoluteHead) := by
  unfold WorkerState.processCommand
  split
  · exact ⟨by simp, by simp⟩
  cases command with
  | freeze committedStart =>
      rcases h.freeze_cases committedStart with
        ⟨e, herror⟩ | ⟨ring, droppedFrames, lastOverrun, -, -, -, ⟨-, heq⟩ | ⟨-, heq⟩⟩
      · simp [herror, Except.map]
      · simp [heq, Except.map]
      · simp only [heq, Except.map]
        refine ⟨?_, by simp⟩
        rintro descriptor ⟨⟩
        rfl
  | release index generation =>
      simp only
      cases (worker.release index generation).1 <;> simp [Except.map]
  | clear ingressDroppedFrames accounting =>
      rcases h.clear_cases ingressDroppedFrames accounting with
        ⟨e, herror⟩ | ⟨report, hreports, hrange, hcumulative, heq⟩
      · simp [herror, Except.map]
      · simp only [heq, Except.map]
        refine ⟨by simp, ?_⟩
        rintro _ ⟨⟩
        rw [hrange]
  | status =>
      simp only
      cases worker.status queue <;> simp [Except.map]
  | shutdown => simp

end Drain

/-- The drain barrier, for every interleaving of pushes, worker steps, calls
and timeouts. What the queue had accepted when a command was submitted has
been read by the worker and handed to the rings block by block before the
command is executed, and the range it freezes or clears ends after whatever
the rings took of these blocks. -/
theorem drain_barrier {cfg : ArenaConfig} {zero : α} {worker₀ : WorkerState α}
    (hnew : WorkerState.new cfg zero = .ok worker₀) (slotCount : ℕ)
    (hpos : 0 < worker₀.cfg.slotFrames) (runtimeId : ℕ) (events : List (CommandEvent α)) :
    let run := (CommandRun.start (ArenaRun.start worker₀ slotCount hpos zero) runtimeId).steps
      events
    ∀ execution ∈ run.log.executed, ∃ submission,
      run.log.submissions[execution.number]? = some submission ∧
      execution.result = (execution.before.worker.processCommand
        execution.before.ingress.queue.counters submission.command).1 ∧
      submission.accepted <+: execution.before.ingress.delivered ∧
      (∃ blocks : List (List α), blocks.flatten = submission.accepted ∧
        List.Forall₂ (· <+: ·) (execution.before.accepted.take submission.targetSequence)
          blocks) ∧
      let accepted := (execution.before.accepted.take submission.targetSequence).flatten.length
      (∀ descriptor, execution.result = .ok (.frozen (some descriptor)) →
        accepted ≤ descriptor.absoluteRange.stop * execution.before.channels) ∧
      (∀ report, execution.result = .ok (.cleared report) →
        accepted ≤ report.activeAbsoluteRange.stop * execution.before.channels) := by
  intro run execution hexecution
  have hdrain : run.Drain := (CommandRun.Drain.start hnew slotCount hpos runtimeId).steps events
  obtain ⟨submission, hfound, hdrained⟩ := hdrain.executed execution hexecution
  obtain ⟨hfrozen, hcleared⟩ := hdrained.before.tracks.inv.reply_stop
    execution.before.ingress.queue.counters submission.command
  refine ⟨submission, hfound, hdrained.result, hdrained.delivered, hdrained.handed, ?_, ?_⟩
  · intro descriptor hresult
    rw [hfrozen descriptor (hdrained.result.symm.trans hresult)]
    exact hdrained.before.accepted_le _
  · intro report hresult
    rw [hcleared report (hdrained.result.symm.trans hresult)]
    exact hdrained.before.accepted_le _

/-- Two frames are pushed, and a freeze is submitted before the worker reads
them. -/
def freezeBehind : List (CommandEvent ℕ) :=
  .push [7, 8] 1 :: List.replicate 12 .producer ++ .call (.freeze none) ::
    List.replicate 4 .client ++ List.replicate 16 (.worker 0)

theorem drain_barrier_two :
    ∃ worker₀, WorkerState.new smallArena (0 : ℕ) = .ok worker₀ ∧
      ∃ hpos : 0 < worker₀.cfg.slotFrames,
        let run := (CommandRun.start (ArenaRun.start worker₀ 4 hpos 0) 1).steps freezeBehind
        run.log.executed.length = 1 ∧
        ∀ execution ∈ run.log.executed, ∃ submission,
          run.log.submissions[execution.number]? = some submission ∧
          submission.accepted <+: execution.before.ingress.delivered := by
  refine ⟨_, rfl, by decide, by decide +kernel, fun execution hexecution => ?_⟩
  obtain ⟨submission, hfound, -, hdelivered, -⟩ :=
    @drain_barrier ℕ smallArena 0 _ rfl 4 (by decide) 1 freezeBehind execution hexecution
  exact ⟨submission, hfound, hdelivered⟩

end Lamb.Arena
