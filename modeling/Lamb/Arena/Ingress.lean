import Lamb.Arena.Fifo
import Mathlib.Algebra.BigOperators.Group.List.Basic

/-!
The ingress queue over every interleaving: what is delivered, how a push is
split, and by how much the drop counters grow. A well-shaped push can only
fail once more frames than a `u64` counts have been offered.
-/

namespace Lamb.Arena

variable {α : Type}

/-- The frames of the pushes that have returned. -/
def IngressRun.past (run : IngressRun α) : ℕ :=
  (run.finished.map fun record => record.push.totalFrames).sum

/-- The drop the cumulative counter already has and the push has not
returned yet. -/
def Push.countedDrop (push : Push α) : ℕ :=
  match push.pc with
  | .addDropped _ => push.totalFrames - push.sourceFrame
  | .markExhausted _ => push.totalFrames - push.sourceFrame
  | _ => 0

/-- The frames the enqueue counter has and the queue has not published yet. -/
def Push.reserved (push : Push α) (queue : IngressQueue α) : ℕ :=
  match push.pc with
  | .copySample _ _ => push.slotFrames queue
  | .storeFrames _ => push.slotFrames queue
  | .storePublished _ => push.slotFrames queue
  | _ => 0

structure Push.Counts (push : Push α) (queue : IngressQueue α)
    (workerDropped limit : ℕ) : Prop where
  enqueued_eq : push.enqueuedFrames = push.sourceFrame
  source_le : push.sourceFrame ≤ push.totalFrames
  dropped_eq : queue.droppedFrames = push.droppedBefore
  cumulative_eq : (∀ message, push.pc ≠ .markExhausted message) →
    queue.cumulativeDroppedFrames + push.workerBefore =
      push.cumulativeBefore + push.countedDrop + workerDropped
  marked : ∀ message, push.pc = .markExhausted message → u64Max < limit

/-- How a push that has returned was split and counted. -/
def PushRecord.Accounted (record : PushRecord α) (cfg : QueueConfig) (limit : ℕ) : Prop :=
  match record.result with
  | .ok outcome =>
      record.push.Shaped cfg ∧
        outcome.enqueuedFrames = record.push.sourceFrame ∧
        record.push.sourceFrame + outcome.droppedFrames = record.push.totalFrames ∧
        record.droppedAfter = record.push.droppedBefore + outcome.droppedFrames ∧
        record.cumulativeAfter + record.push.workerBefore =
          record.push.cumulativeBefore + outcome.droppedFrames + record.workerAfter
  | .error _ =>
      (¬record.push.Shaped cfg ∧ record.push.sourceFrame = 0 ∧
        record.droppedAfter = record.push.droppedBefore ∧
        record.cumulativeAfter + record.push.workerBefore =
          record.push.cumulativeBefore + record.workerAfter) ∨
      u64Max < limit

theorem PushRecord.Accounted.mono {record : PushRecord α} {cfg : QueueConfig} {limit limit' : ℕ}
    (h : record.Accounted cfg limit) (hle : limit ≤ limit') : record.Accounted cfg limit' := by
  unfold PushRecord.Accounted at h ⊢
  split at h
  · exact h
  · exact h.imp_right fun hlt => hlt.trans_le hle

structure IngressRun.Counts (run : IngressRun α) : Prop where
  dropped_le : run.queue.droppedFrames ≤ run.past
  cumulative_le : run.queue.cumulativeDroppedFrames ≤
    run.past + run.producer.elim 0 Push.countedDrop + run.workerDropped
  enqueued_le : run.queue.enqueuedFrames ≤
    run.past + run.producer.elim 0 fun push => push.sourceFrame + push.reserved run.queue
  published_le : run.queue.publishedSequence ≤
    run.past + run.producer.elim 0 Push.sourceFrame
  worker_le : run.workerDropped ≤ run.workerOffered
  exhausted : run.queue.dropCounterExhausted → u64Max < run.offered + run.workerOffered
  push : ∀ push, run.producer = some push →
    push.Counts run.queue run.workerDropped (run.offered + run.workerOffered)
  finished : ∀ record ∈ run.finished,
    record.Accounted run.queue.cfg (run.offered + run.workerOffered)

theorem IngressRun.offered_eq (run : IngressRun α) :
    run.offered = run.past + run.producer.elim 0 Push.totalFrames :=
  rfl

theorem IngressRun.Counts.start (cfg : QueueConfig) (zero : α) :
    (IngressRun.start cfg zero).Counts where
  dropped_le := Nat.zero_le _
  cumulative_le := Nat.zero_le _
  enqueued_le := Nat.zero_le _
  published_le := Nat.zero_le _
  worker_le := le_rfl
  exhausted := by simp [IngressRun.start, IngressQueue.new]
  push := by simp [IngressRun.start]
  finished := by simp [IngressRun.start]

section Produce

variable {run : IngressRun α} {push : Push α}

/-- A producer step that goes on and moves no counter but the enqueued one
and the published sequence. -/
theorem IngressRun.Counts.running (h : run.Counts) (hpush : run.producer = some push)
    {queue : IngressQueue α} {push' : Push α}
    (hcfg : queue.cfg = run.queue.cfg)
    (hexhausted : queue.dropCounterExhausted = run.queue.dropCounterExhausted)
    (htotal : push'.totalFrames = push.totalFrames)
    (hdropped : queue.droppedFrames = run.queue.droppedFrames)
    (hcumulative : queue.cumulativeDroppedFrames ≤
      run.past + push'.countedDrop + run.workerDropped)
    (henqueued : queue.enqueuedFrames ≤ run.past + (push'.sourceFrame + push'.reserved queue))
    (hpublished : queue.publishedSequence ≤ run.past + push'.sourceFrame)
    (hcounts : push'.Counts queue run.workerDropped (run.offered + run.workerOffered)) :
    IngressRun.Counts { run with queue, producer := some push' } := by
  have hoffered : IngressRun.offered { run with queue, producer := some push' } = run.offered := by
    rw [IngressRun.offered_eq, IngressRun.offered_eq, hpush]
    simp only [Option.elim_some, htotal]
    rfl
  exact
    { dropped_le := hdropped ▸ h.dropped_le
      cumulative_le := hcumulative
      enqueued_le := henqueued
      published_le := hpublished
      worker_le := h.worker_le
      exhausted := fun hflag => hoffered ▸ h.exhausted (hexhausted ▸ hflag)
      push := fun other hother => by
        obtain rfl := Option.some.inj hother
        rw [hoffered]
        exact hcounts
      finished := fun record hrecord => by
        rw [hoffered, hcfg]
        exact h.finished record hrecord }

/-- A producer step that returns. -/
theorem IngressRun.Counts.done (h : run.Counts) (hpush : run.producer = some push)
    {queue : IngressQueue α} {result : Result CapturePushOutcome}
    (hcfg : queue.cfg = run.queue.cfg)
    (hexhausted : queue.dropCounterExhausted → u64Max < run.offered + run.workerOffered)
    (hdropped : queue.droppedFrames ≤ run.past + push.totalFrames)
    (hcumulative : queue.cumulativeDroppedFrames ≤ run.past + push.totalFrames +
      run.workerDropped)
    (henqueued : queue.enqueuedFrames ≤ run.past + push.totalFrames)
    (hpublished : queue.publishedSequence ≤ run.past + push.totalFrames)
    (hrecord : (run.record queue push result).Accounted run.queue.cfg
      (run.offered + run.workerOffered)) :
    IngressRun.Counts
      { run with
        queue
        producer := none
        finished := run.finished ++ [run.record queue push result] } := by
  have hpast : IngressRun.past
      { run with
        queue
        producer := none
        finished := run.finished ++ [run.record queue push result] } =
      run.past + push.totalFrames := by
    simp [IngressRun.past, IngressRun.record]
  have hoffered : IngressRun.offered
      { run with
        queue
        producer := none
        finished := run.finished ++ [run.record queue push result] } = run.offered := by
    rw [IngressRun.offered_eq, hpast, IngressRun.offered_eq, hpush]
    rfl
  exact
    { dropped_le := hpast ▸ hdropped
      cumulative_le := by
        rw [hpast]
        exact hcumulative
      enqueued_le := by
        rw [hpast]
        exact henqueued
      published_le := by
        rw [hpast]
        exact hpublished
      worker_le := h.worker_le
      exhausted := fun hflag => hoffered ▸ hexhausted hflag
      push := fun other hother => absurd hother (by simp)
      finished := fun record hmem => by
        rw [hoffered, hcfg]
        rcases List.mem_append.mp hmem with hold | hnew
        · exact h.finished record hold
        · obtain rfl := List.mem_singleton.mp hnew
          exact hrecord }

/-- A producer step that only moves the program counter, between positions
that have nothing counted or reserved. -/
theorem IngressRun.Counts.goto (h : run.Counts) (hpush : run.producer = some push) {pc : PushPc}
    (hcounted : push.countedDrop = 0) (hcounted' : { push with pc }.countedDrop = 0)
    (hreserved : push.reserved run.queue = { push with pc }.reserved run.queue)
    (hmark : ∀ message, push.pc ≠ .markExhausted message)
    (hmark' : ∀ message, pc ≠ .markExhausted message) :
    IngressRun.Counts { run with producer := some { push with pc } } := by
  have hcounts := h.push push hpush
  refine h.running hpush rfl rfl rfl rfl ?_ ?_ ?_ ?_
  · have := h.cumulative_le
    rw [hpush, Option.elim_some, hcounted] at this
    rw [hcounted']
    exact this
  · have := h.enqueued_le
    rw [hpush, Option.elim_some, hreserved] at this
    exact this
  · have := h.published_le
    rw [hpush] at this
    exact this
  · refine ⟨hcounts.enqueued_eq, hcounts.source_le, hcounts.dropped_eq, fun _ => ?_,
      fun message hpc => absurd hpc (hmark' message)⟩
    have := hcounts.cumulative_eq hmark
    rw [hcounted] at this
    rw [hcounted']
    exact this

/-- A push that fails without having counted anything. -/
theorem IngressRun.Counts.fail (h : run.Counts) (hpush : run.producer = some push)
    (hreserved : push.reserved run.queue = 0)
    (hcounted : push.countedDrop = 0) {e : LambError}
    (hrecord : (run.record run.queue push (.error e)).Accounted run.queue.cfg
      (run.offered + run.workerOffered)) :
    IngressRun.Counts
      { run with
        producer := none
        finished := run.finished ++ [run.record run.queue push (.error e)] } := by
  have hsource := (h.push push hpush).source_le
  have hdropped := h.dropped_le
  have hcumulative := h.cumulative_le
  have henqueued := h.enqueued_le
  have hpublished := h.published_le
  rw [hpush] at hcumulative henqueued hpublished
  simp only [Option.elim_some, hreserved, hcounted] at hcumulative henqueued hpublished
  exact h.done hpush rfl h.exhausted (by omega) (by omega) (by omega) (by omega) hrecord

theorem IngressRun.Counts.produce (h : run.Counts) (hpush : run.producer = some push)
    (hat : push.At run.queue)
    (hle : run.queue.consumedSequence ≤ run.queue.publishedSequence) :
    (run.produce push).Counts := by
  have hcounts := h.push push hpush
  have hsource := hcounts.source_le
  have henq := hcounts.enqueued_eq
  have hdrop := hcounts.dropped_eq
  have hworker := h.worker_le
  have hdropped := h.dropped_le
  have hcumulative := h.cumulative_le
  have henqueued := h.enqueued_le
  have hpublished := h.published_le
  have hoffered := run.offered_eq
  rw [hpush] at hcumulative henqueued hpublished hoffered
  simp only [Option.elim_some] at hcumulative henqueued hpublished hoffered
  have hexact := hcounts.cumulative_eq
  cases hpc : push.pc with
  | enter =>
      have hcounted : push.countedDrop = 0 := by simp [Push.countedDrop, hpc]
      have hreserved : push.reserved run.queue = 0 := by simp [Push.reserved, hpc]
      have hunmarked : ∀ message, push.pc ≠ .markExhausted message := by simp [hpc]
      have hsame := hexact hunmarked
      have hzero : push.sourceFrame = 0 := by simpa [Push.At, hpc] using hat
      rw [hcounted] at hsame
      simp only [IngressRun.produce, IngressQueue.tryPush, hpc]
      by_cases hflag : run.queue.dropCounterExhausted
      · rw [if_pos hflag]
        exact h.fail hpush hreserved hcounted (.inr (h.exhausted hflag))
      rw [if_neg hflag]
      by_cases hchannels : push.channels ≠ run.queue.cfg.channels
      · rw [if_pos hchannels]
        exact h.fail hpush hreserved hcounted
          (.inl ⟨fun hshaped => hchannels hshaped.1, hzero, hdrop, hsame⟩)
      rw [if_neg hchannels]
      by_cases hwhole : push.channels = 0 ∨ push.samples.length % push.channels ≠ 0
      · rw [if_pos hwhole]
        refine h.fail hpush hreserved hcounted
          (.inl ⟨fun hshaped => ?_, hzero, hdrop, hsame⟩)
        exact hwhole.elim hshaped.2.1 fun hrest => hrest hshaped.2.2
      · rw [if_neg hwhole]
        exact h.goto hpush hcounted rfl hreserved hunmarked (by simp)
  | loop =>
      have hcounted : push.countedDrop = 0 := by simp [Push.countedDrop, hpc]
      have hreserved : push.reserved run.queue = 0 := by simp [Push.reserved, hpc]
      have hunmarked : ∀ message, push.pc ≠ .markExhausted message := by simp [hpc]
      have hsame := hexact hunmarked
      have hshaped : push.Shaped run.queue.cfg := by simpa [Push.At, hpc] using hat
      rw [hcounted] at hsame hcumulative
      simp only [IngressRun.produce, IngressQueue.tryPush, hpc]
      by_cases hmore : push.sourceFrame < push.totalFrames
      · rw [if_pos hmore]
        exact h.goto hpush hcounted rfl hreserved hunmarked (by simp)
      · rw [if_neg hmore]
        refine h.done hpush rfl h.exhausted (by omega) (by omega) (by omega) (by omega) ?_
        exact ⟨hshaped, henq, by simp only [IngressRun.record]; omega, hdrop, hsame⟩
  | loadConsumed published =>
      have hcounted : push.countedDrop = 0 := by simp [Push.countedDrop, hpc]
      have hreserved : push.reserved run.queue = 0 := by simp [Push.reserved, hpc]
      have hunmarked : ∀ message, push.pc ≠ .markExhausted message := by simp [hpc]
      obtain ⟨hshaped, rfl, hlt⟩ : push.Shaped run.queue.cfg ∧
          published = run.queue.publishedSequence ∧ push.sourceFrame < push.totalFrames := by
        simpa [Push.At, hpc] using hat
      simp only [IngressRun.produce, IngressQueue.tryPush, hpc]
      rw [if_neg (by omega)]
      by_cases hfull : run.queue.cfg.slotCount ≤
          run.queue.publishedSequence - run.queue.consumedSequence
      · rw [if_pos hfull]
        exact h.goto hpush hcounted rfl hreserved hunmarked (by simp)
      rw [if_neg hfull]
      cases hnext : checkedAdd run.queue.publishedSequence 1 with
      | none =>
          have := checkedAdd_eq_none.mp hnext
          exact h.fail hpush hreserved hcounted (.inr (by omega))
      | some _ => exact h.goto hpush hcounted rfl hreserved hunmarked (by simp)
  | checkExhausted published =>
      have hcounted : push.countedDrop = 0 := by simp [Push.countedDrop, hpc]
      have hreserved : push.reserved run.queue = 0 := by simp [Push.reserved, hpc]
      have hunmarked : ∀ message, push.pc ≠ .markExhausted message := by simp [hpc]
      simp only [IngressRun.produce, IngressQueue.tryPush, hpc]
      by_cases hflag : run.queue.dropCounterExhausted
      · rw [if_pos hflag]
        exact h.fail hpush hreserved hcounted (.inr (h.exhausted hflag))
      · rw [if_neg hflag]
        exact h.goto hpush hcounted rfl hreserved hunmarked (by simp)
  | addCumulative published =>
      have hcounted : push.countedDrop = 0 := by simp [Push.countedDrop, hpc]
      have hreserved : push.reserved run.queue = 0 := by simp [Push.reserved, hpc]
      have hsame := hexact (by simp [hpc])
      rw [hcounted] at hsame hcumulative
      rw [hreserved] at henqueued
      simp only [IngressRun.produce, IngressQueue.tryPush, hpc]
      cases hadd : checkedAdd run.queue.cumulativeDroppedFrames
          (push.totalFrames - push.sourceFrame) with
      | none =>
          have := checkedAdd_eq_none.mp hadd
          refine h.running hpush rfl rfl rfl rfl ?_ henqueued hpublished
            ⟨henq, hsource, hdrop, fun hno => absurd rfl (hno _), fun _ _ => ?_⟩ <;> omega
      | some total =>
          obtain ⟨rfl, -⟩ := checkedAdd_eq_some.mp hadd
          refine h.running hpush rfl rfl rfl rfl ?_ henqueued hpublished
            ⟨henq, hsource, hdrop, fun _ => ?_, fun _ hpc => absurd hpc (by simp)⟩
          · simp only [Push.countedDrop, Push.totalFrames]
            simp only [Push.totalFrames] at hsource
            omega
          · simp only [Push.countedDrop, Push.totalFrames]
            simp only [Push.totalFrames] at hsource
            omega
  | addDropped published =>
      have hcounted : push.countedDrop = push.totalFrames - push.sourceFrame := by
        simp [Push.countedDrop, hpc]
      have hreserved : push.reserved run.queue = 0 := by simp [Push.reserved, hpc]
      have hshaped : push.Shaped run.queue.cfg := by simpa [Push.At, hpc] using hat
      have hsame := hexact (by simp [hpc])
      rw [hcounted] at hsame hcumulative
      rw [hreserved] at henqueued
      simp only [IngressRun.produce, IngressQueue.tryPush, hpc]
      cases hadd : checkedAdd run.queue.droppedFrames
          (push.totalFrames - push.sourceFrame) with
      | none =>
          have := checkedAdd_eq_none.mp hadd
          refine h.running hpush rfl rfl rfl rfl hcumulative henqueued hpublished
            ⟨henq, hsource, hdrop, fun hno => absurd rfl (hno _), fun _ _ => ?_⟩
          omega
      | some total =>
          obtain ⟨rfl, -⟩ := checkedAdd_eq_some.mp hadd
          refine h.done hpush rfl h.exhausted ?_ ?_ ?_ ?_
            ⟨hshaped, henq, ?_, by simp only [IngressRun.record, hdrop], hsame⟩
          · simp only
            omega
          · simp only
            omega
          · simp only
            omega
          · simp only
            omega
          · simp only [IngressRun.record]
            omega
  | markExhausted message =>
      have hlimit := hcounts.marked message hpc
      have hcounted : push.countedDrop = push.totalFrames - push.sourceFrame := by
        simp [Push.countedDrop, hpc]
      have hreserved : push.reserved run.queue = 0 := by simp [Push.reserved, hpc]
      rw [hcounted] at hcumulative
      rw [hreserved] at henqueued
      simp only [IngressRun.produce, IngressQueue.tryPush, hpc]
      refine h.done hpush rfl (fun _ => hlimit) ?_ ?_ ?_ ?_ (.inr hlimit)
      · simp only
        omega
      · simp only
        omega
      · simp only
        omega
      · simp only
        omega
  | addEnqueued published =>
      have hcounted : push.countedDrop = 0 := by simp [Push.countedDrop, hpc]
      have hreserved : push.reserved run.queue = 0 := by simp [Push.reserved, hpc]
      have hsame := hexact (by simp [hpc])
      rw [hcounted] at hsame hcumulative
      rw [hreserved] at henqueued
      simp only [IngressRun.produce, IngressQueue.tryPush, hpc]
      cases hadd : checkedAdd run.queue.enqueuedFrames (push.slotFrames run.queue) with
      | none =>
          have := checkedAdd_eq_none.mp hadd
          have : push.slotFrames run.queue ≤ push.totalFrames - push.sourceFrame :=
            Nat.min_le_left _ _
          exact h.fail hpush hreserved hcounted (.inr (by omega))
      | some total =>
          obtain ⟨rfl, -⟩ := checkedAdd_eq_some.mp hadd
          refine h.running hpush rfl rfl rfl rfl hcumulative ?_ hpublished
            ⟨henq, hsource, hdrop, fun _ => hsame, fun _ hpc => absurd hpc (by simp)⟩
          have hmore : run.queue.enqueuedFrames + push.slotFrames run.queue ≤
              run.past + (push.sourceFrame + push.slotFrames run.queue) := by omega
          exact hmore
  | copySample published index =>
      have hcounted : push.countedDrop = 0 := by simp [Push.countedDrop, hpc]
      have hreserved : push.reserved run.queue = push.slotFrames run.queue := by
        simp [Push.reserved, hpc]
      have hunmarked : ∀ message, push.pc ≠ .markExhausted message := by simp [hpc]
      have hsame := hexact hunmarked
      rw [hcounted] at hsame hcumulative
      rw [hreserved] at henqueued
      simp only [IngressRun.produce, IngressQueue.tryPush, hpc]
      by_cases hmore : index < push.slotFrames run.queue * push.channels
      · rw [if_pos hmore]
        exact h.running hpush rfl rfl rfl rfl hcumulative henqueued hpublished
          ⟨henq, hsource, hdrop, fun _ => hsame, fun _ hpc => absurd hpc (by simp)⟩
      · rw [if_neg hmore]
        exact h.goto hpush hcounted rfl hreserved hunmarked (by simp)
  | storeFrames published =>
      have hcounted : push.countedDrop = 0 := by simp [Push.countedDrop, hpc]
      have hreserved : push.reserved run.queue = push.slotFrames run.queue := by
        simp [Push.reserved, hpc]
      have hsame := hexact (by simp [hpc])
      rw [hcounted] at hsame hcumulative
      rw [hreserved] at henqueued
      simp only [IngressRun.produce, IngressQueue.tryPush, hpc]
      exact h.running hpush rfl rfl rfl rfl hcumulative henqueued hpublished
        ⟨henq, hsource, hdrop, fun _ => hsame, fun _ hpc => absurd hpc (by simp)⟩
  | storePublished published =>
      have hcounted : push.countedDrop = 0 := by simp [Push.countedDrop, hpc]
      have hreserved : push.reserved run.queue = push.slotFrames run.queue := by
        simp [Push.reserved, hpc]
      have hsame := hexact (by simp [hpc])
      obtain ⟨-, hfills, -⟩ : push.Shaped run.queue.cfg ∧
          push.Fills run.queue published (push.slotFrames run.queue * push.channels) ∧
          (run.queue.slots (run.queue.slotOf published)).frames = push.slotFrames run.queue := by
        simpa [Push.At, hpc] using hat
      have hlt := hfills.source_lt
      obtain rfl := hfills.published_eq
      -- a published slot is never empty, so there are no more of them than frames
      have hpos : 0 < push.slotFrames run.queue :=
        lt_min (by omega) run.queue.cfg.slotFrames_pos
      have hslot : push.slotFrames run.queue ≤ push.totalFrames - push.sourceFrame :=
        Nat.min_le_left _ _
      rw [hcounted] at hsame hcumulative
      rw [hreserved] at henqueued
      simp only [IngressRun.produce, IngressQueue.tryPush, hpc]
      refine h.running hpush rfl rfl rfl rfl hcumulative ?_ ?_
        ⟨by simp only [henq], ?_, hdrop, fun _ => hsame, fun _ hpc => absurd hpc (by simp)⟩
      · simp only [Push.reserved]
        omega
      · simp only
        omega
      · simp only [Push.totalFrames] at hsource hslot ⊢
        omega

end Produce

/-! ### Whole runs -/

/-- The blocks published so far, with what was accepted and read of them. -/
structure IngressRun.Blocks (run : IngressRun α) (blocks : List (List α)) : Prop where
  stores : run.queue.Stores blocks
  delivered : run.consumer.Delivered run.queue blocks run.delivered
  accepted : run.accepted = blocks.flatten

/-- The part of the invariant that no counter enters. -/
structure IngressRun.Fifo (run : IngressRun α) : Prop where
  stores : ∃ blocks, run.queue.Stores blocks ∧
    run.consumer.Delivered run.queue blocks run.delivered ∧ run.accepted = blocks.flatten
  producer : ∀ push, run.producer = some push → push.At run.queue

structure IngressRun.Inv (run : IngressRun α) : Prop where
  counts : run.Counts
  stores : ∃ blocks, run.queue.Stores blocks ∧
    run.consumer.Delivered run.queue blocks run.delivered ∧ run.accepted = blocks.flatten
  producer : ∀ push, run.producer = some push → push.At run.queue

theorem IngressRun.Fifo.start (cfg : QueueConfig) (zero : α) :
    (IngressRun.start cfg zero).Fifo where
  stores := ⟨[], ⟨rfl, le_rfl, by simp⟩, rfl, rfl⟩
  producer := by simp [IngressRun.start]

theorem IngressRun.Inv.fifo {run : IngressRun α} (h : run.Inv) : run.Fifo :=
  ⟨h.stores, h.producer⟩

theorem IngressRun.Fifo.inv {run : IngressRun α} (h : run.Fifo) (hcounts : run.Counts) :
    run.Inv :=
  ⟨hcounts, h.stores, h.producer⟩

theorem IngressRun.Inv.start (cfg : QueueConfig) (zero : α) :
    (IngressRun.start cfg zero).Inv :=
  (IngressRun.Fifo.start cfg zero).inv (.start cfg zero)

/-- The producer's view survives whatever leaves its slots alone. -/
theorem Push.At.mono {push : Push α} {queue queue' : IngressQueue α} (h : push.At queue)
    (hcfg : queue'.cfg = queue.cfg) (hslots : queue'.slots = queue.slots)
    (hpublished : queue'.publishedSequence = queue.publishedSequence)
    (hconsumed : queue.consumedSequence ≤ queue'.consumedSequence) : push.At queue' := by
  have hfills : ∀ {published index}, push.Fills queue published index →
      push.Fills queue' published index := by
    intro published index hf
    refine ⟨hf.published_eq.trans hpublished.symm, ?_, hf.source_lt, ?_⟩
    · have := hf.room
      rw [hcfg]
      omega
    · simp only [IngressQueue.slotOf, hslots, hcfg]
      exact hf.copied
  have hframes : push.slotFrames queue' = push.slotFrames queue := by
    simp only [Push.slotFrames, hcfg]
  unfold Push.At at h ⊢
  split at h
  · exact h
  · exact hcfg ▸ h
  · exact ⟨hcfg ▸ h.1, hpublished ▸ h.2⟩
  · exact hcfg ▸ h
  · exact hcfg ▸ h
  · exact hcfg ▸ h
  · exact hcfg ▸ h
  · exact ⟨hcfg ▸ h.1, hfills h.2⟩
  · exact ⟨hcfg ▸ h.1, hfills h.2⟩
  · rw [hframes]
    exact ⟨hcfg ▸ h.1, hfills h.2⟩
  · rw [hframes]
    refine ⟨hcfg ▸ h.1, hfills h.2.1, ?_⟩
    simp only [IngressQueue.slotOf, hslots, hcfg]
    exact h.2.2

theorem IngressQueue.consumeNext_queue (queue : IngressQueue α) (pc : ConsumePc) :
    ∃ consumed, (queue.consumeNext pc).1 = { queue with consumedSequence := consumed } := by
  cases pc with
  | idle => exact ⟨_, rfl⟩
  | loadPublished consumed =>
      simp only [IngressQueue.consumeNext]
      split <;> exact ⟨_, rfl⟩
  | loadFrames consumed => exact ⟨_, rfl⟩
  | readSample consumed frames index =>
      simp only [IngressQueue.consumeNext]
      split <;> exact ⟨_, rfl⟩
  | storeConsumed consumed => exact ⟨_, rfl⟩

theorem ConsumePc.Delivered.consumed_le {pc : ConsumePc} {queue : IngressQueue α}
    {blocks : List (List α)} {delivered : List α} (h : pc.Delivered queue blocks delivered) :
    queue.consumedSequence ≤ (queue.consumeNext pc).1.consumedSequence := by
  cases pc with
  | idle => exact le_rfl
  | loadPublished consumed =>
      simp only [IngressQueue.consumeNext]
      split <;> exact le_rfl
  | loadFrames consumed => exact le_rfl
  | readSample consumed frames index =>
      simp only [IngressQueue.consumeNext]
      split <;> exact le_rfl
  | storeConsumed consumed =>
      obtain ⟨rfl, -⟩ := h
      exact Nat.le_succ _

theorem IngressQueue.tryPush_cfg (queue : IngressQueue α) (push : Push α) :
    (queue.tryPush push).1.cfg = queue.cfg := by
  unfold IngressQueue.tryPush
  cases push.pc <;> simp only <;> (repeat' split) <;> rfl

section Step

variable {run : IngressRun α}

theorem IngressRun.Blocks.consume {blocks : List (List α)} (h : run.Blocks blocks) :
    run.consume.Blocks blocks := by
  have hnext := h.delivered.consumeNext h.stores
  exact ⟨hnext.1, hnext.2, h.accepted⟩

theorem IngressRun.Fifo.consume (h : run.Fifo) : run.consume.Fifo := by
  obtain ⟨blocks, hstores, hdelivered, haccepted⟩ := h.stores
  have hnext := IngressRun.Blocks.consume ⟨hstores, hdelivered, haccepted⟩
  have hle := hdelivered.consumed_le
  obtain ⟨consumed, hqueue⟩ := run.queue.consumeNext_queue run.consumer
  refine ⟨⟨blocks, hnext.stores, hnext.delivered, hnext.accepted⟩, fun push hpush => ?_⟩
  refine (h.producer push hpush).mono ?_ ?_ ?_ hle <;> simp only [IngressRun.consume, hqueue]

theorem IngressRun.Inv.consume (h : run.Inv) : run.consume.Inv := by
  obtain ⟨consumed, hqueue⟩ := run.queue.consumeNext_queue run.consumer
  refine h.fifo.consume.inv ?_
  have hcounts := h.counts
  simp only [IngressRun.consume, hqueue]
  exact
    { dropped_le := hcounts.dropped_le
      cumulative_le := hcounts.cumulative_le
      enqueued_le := hcounts.enqueued_le
      published_le := hcounts.published_le
      worker_le := hcounts.worker_le
      exhausted := hcounts.exhausted
      push := fun push hpush =>
        have hpush := hcounts.push push hpush
        ⟨hpush.enqueued_eq, hpush.source_le, hpush.dropped_eq, hpush.cumulative_eq,
          hpush.marked⟩
      finished := hcounts.finished }

theorem IngressRun.Blocks.produce {blocks : List (List α)} (h : run.Blocks blocks) {push : Push α}
    (hpush : run.producer = some push) (hat : push.At run.queue) :
    (∃ added, (run.produce push).Blocks (blocks ++ added)) ∧
      ∀ push', (run.produce push).producer = some push' → push'.At (run.produce push).queue := by
  obtain ⟨added, hstores', hcfg, hconsumed, hstep⟩ := hat.tryPush h.stores
  have hlength := hstores'.length
  rw [List.length_append, h.stores.length] at hlength
  have hdelivered' := h.delivered.append h.stores added hcfg hconsumed (by omega)
  have haccepted := h.accepted
  rw [IngressRun.accepted, hpush] at haccepted
  unfold IngressRun.produce
  generalize run.queue.tryPush push = result at *
  obtain ⟨queue, push' | result⟩ := result
  · refine ⟨⟨added, hstores', hdelivered', ?_⟩, fun other hother => ?_⟩
    · simp only [IngressRun.accepted, Option.elim_some] at haccepted ⊢
      rw [hstep.2, ← List.append_assoc, haccepted, List.flatten_append]
    · obtain rfl := Option.some.inj hother
      exact hstep.1
  · refine ⟨⟨added, hstores', hdelivered', ?_⟩, fun other hother => absurd hother (by simp)⟩
    simp only at hstep
    simp only [IngressRun.accepted, Option.elim_none, List.flatMap_append, List.flatMap_singleton,
      List.append_nil, hstep]
    exact haccepted

theorem IngressRun.Fifo.produce (h : run.Fifo) {push : Push α}
    (hpush : run.producer = some push) : (run.produce push).Fifo := by
  obtain ⟨blocks, hstores, hdelivered, haccepted⟩ := h.stores
  obtain ⟨⟨added, hblocks⟩, hat⟩ := IngressRun.Blocks.produce
    ⟨hstores, hdelivered, haccepted⟩ hpush (h.producer push hpush)
  exact ⟨⟨blocks ++ added, hblocks.stores, hblocks.delivered, hblocks.accepted⟩, hat⟩

theorem IngressRun.Inv.produce (h : run.Inv) {push : Push α} (hpush : run.producer = some push) :
    (run.produce push).Inv := by
  obtain ⟨blocks, hstores, -⟩ := h.stores
  exact (h.fifo.produce hpush).inv
    (h.counts.produce hpush (h.producer push hpush) hstores.consumed_le)

theorem IngressRun.Blocks.enter {blocks : List (List α)} (h : run.Blocks blocks)
    (hnone : run.producer = none) (samples : List α) (channels : ℕ) :
    IngressRun.Blocks { run with producer := some (run.enter samples channels) } blocks := by
  refine ⟨h.stores, h.delivered, ?_⟩
  rw [← h.accepted]
  simp [IngressRun.accepted, hnone, IngressRun.enter, Push.acceptedSamples]

theorem IngressRun.Fifo.enter (h : run.Fifo) (hnone : run.producer = none) (samples : List α)
    (channels : ℕ) :
    IngressRun.Fifo { run with producer := some (run.enter samples channels) } := by
  obtain ⟨blocks, hstores, hdelivered, haccepted⟩ := h.stores
  have hblocks := IngressRun.Blocks.enter ⟨hstores, hdelivered, haccepted⟩ hnone samples channels
  refine ⟨⟨blocks, hblocks.stores, hblocks.delivered, hblocks.accepted⟩, fun push hpush => ?_⟩
  obtain rfl := Option.some.inj hpush
  exact rfl

theorem IngressRun.Inv.enter (h : run.Inv) (hnone : run.producer = none) (samples : List α)
    (channels : ℕ) :
    IngressRun.Inv { run with producer := some (run.enter samples channels) } := by
  refine (h.fifo.enter hnone samples channels).inv ?_
  have hcounts := h.counts
  have hcumulative := hcounts.cumulative_le
  have henqueued := hcounts.enqueued_le
  have hpublished := hcounts.published_le
  have hgrows : run.offered ≤
      IngressRun.offered { run with producer := some (run.enter samples channels) } := by
    rw [IngressRun.offered_eq, IngressRun.offered_eq, hnone]
    exact Nat.le_add_right _ _
  rw [hnone] at hcumulative henqueued hpublished
  exact
    { dropped_le := hcounts.dropped_le
      cumulative_le := hcumulative
      enqueued_le := henqueued
      published_le := hpublished
      worker_le := hcounts.worker_le
      exhausted := fun hflag => by
        have := hcounts.exhausted hflag
        simp only
        omega
      push := fun push hpush => by
        obtain rfl := Option.some.inj hpush
        exact ⟨rfl, Nat.zero_le _, rfl, fun _ => rfl, fun _ hpc => absurd hpc (by
          simp [IngressRun.enter])⟩
      finished := fun record hrecord =>
        (hcounts.finished record hrecord).mono (by simp only; omega) }

/-- Counters the queue keeps beside its slots are no part of the order. -/
theorem IngressRun.Blocks.congr {blocks : List (List α)} (h : run.Blocks blocks)
    {run' : IngressRun α}
    (hcfg : run'.queue.cfg = run.queue.cfg) (hslots : run'.queue.slots = run.queue.slots)
    (hpublished : run'.queue.publishedSequence = run.queue.publishedSequence)
    (hconsumed : run'.queue.consumedSequence = run.queue.consumedSequence)
    (hproducer : run'.producer = run.producer) (hconsumer : run'.consumer = run.consumer)
    (hfinished : run'.finished = run.finished) (hread : run'.delivered = run.delivered) :
    run'.Blocks blocks := by
  refine ⟨⟨?_, ?_, ?_⟩, ?_, ?_⟩
  · exact h.stores.length.trans hpublished.symm
  · rw [hconsumed, hpublished]
    exact h.stores.consumed_le
  · rw [hconsumed]
    simpa only [IngressQueue.slotOf, hslots, hcfg] using h.stores.held
  · rw [hconsumer, hread]
    have happend := h.delivered.append h.stores [] hcfg hconsumed hpublished.ge
    rwa [List.append_nil] at happend
  · rw [← h.accepted]
    simp only [IngressRun.accepted, hfinished, hproducer]

theorem IngressRun.Fifo.congr (h : run.Fifo) {run' : IngressRun α}
    (hcfg : run'.queue.cfg = run.queue.cfg) (hslots : run'.queue.slots = run.queue.slots)
    (hpublished : run'.queue.publishedSequence = run.queue.publishedSequence)
    (hconsumed : run'.queue.consumedSequence = run.queue.consumedSequence)
    (hproducer : run'.producer = run.producer) (hconsumer : run'.consumer = run.consumer)
    (hfinished : run'.finished = run.finished) (hread : run'.delivered = run.delivered) :
    run'.Fifo := by
  obtain ⟨blocks, hstores, hdelivered, haccepted⟩ := h.stores
  have hblocks := IngressRun.Blocks.congr ⟨hstores, hdelivered, haccepted⟩ hcfg hslots hpublished
    hconsumed hproducer hconsumer hfinished hread
  refine ⟨⟨blocks, hblocks.stores, hblocks.delivered, hblocks.accepted⟩, fun push hpush => ?_⟩
  exact (h.producer push (hproducer ▸ hpush)).mono hcfg hslots hpublished hconsumed.ge

theorem IngressRun.Inv.dropWorkerFrames (h : run.Inv) (frames : ℕ) :
    (run.dropWorkerFrames frames).Inv := by
  have hcounts := h.counts
  have hcumulative := hcounts.cumulative_le
  have hworker := hcounts.worker_le
  have hcounted : run.producer.elim 0 Push.countedDrop ≤
      run.producer.elim 0 Push.totalFrames := by
    cases run.producer with
    | none => exact le_rfl
    | some push =>
        simp only [Option.elim_some, Push.countedDrop]
        split <;> omega
  have hoffered := run.offered_eq
  have hfifo : (run.dropWorkerFrames frames).Fifo := by
    unfold IngressRun.dropWorkerFrames
    split <;> exact h.fifo.congr rfl rfl rfl rfl rfl rfl rfl rfl
  refine hfifo.inv ?_
  unfold IngressRun.dropWorkerFrames
  cases hadd : checkedAdd run.queue.cumulativeDroppedFrames frames with
  | none =>
      have hover := checkedAdd_eq_none.mp hadd
      have hlimit : u64Max < run.offered + (run.workerOffered + frames) := by omega
      exact
        { dropped_le := hcounts.dropped_le
          cumulative_le := hcounts.cumulative_le
          enqueued_le := hcounts.enqueued_le
          published_le := hcounts.published_le
          worker_le := le_trans hworker (Nat.le_add_right _ _)
          exhausted := fun _ => hlimit
          push := fun push hpush =>
            have hpush := hcounts.push push hpush
            ⟨hpush.enqueued_eq, hpush.source_le, hpush.dropped_eq, hpush.cumulative_eq,
              fun _ _ => hlimit⟩
          finished := fun record hrecord =>
            (hcounts.finished record hrecord).mono (by
              exact Nat.add_le_add_left (Nat.le_add_right _ _) _) }
  | some total =>
      obtain ⟨rfl, -⟩ := checkedAdd_eq_some.mp hadd
      have hmono : run.offered + run.workerOffered ≤
          run.offered + (run.workerOffered + frames) := by omega
      exact
        { dropped_le := hcounts.dropped_le
          cumulative_le := by
            simp only [IngressRun.past] at hcumulative ⊢
            omega
          enqueued_le := hcounts.enqueued_le
          published_le := hcounts.published_le
          worker_le := Nat.add_le_add_right hworker _
          exhausted := fun hflag => (hcounts.exhausted hflag).trans_le hmono
          push := fun push hpush =>
            have hpush := hcounts.push push hpush
            ⟨hpush.enqueued_eq, hpush.source_le, hpush.dropped_eq,
              fun hno => by
                have := hpush.cumulative_eq hno
                simp only
                omega,
              fun message hmark => (hpush.marked message hmark).trans_le hmono⟩
          finished := fun record hrecord => (hcounts.finished record hrecord).mono hmono }

theorem IngressRun.cfg_step (run : IngressRun α) (event : IngressEvent α) :
    (run.step event).queue.cfg = run.queue.cfg := by
  cases event with
  | push samples channels =>
      simp only [IngressRun.step]
      split <;> rfl
  | producer =>
      simp only [IngressRun.step]
      cases run.producer with
      | none => rfl
      | some push =>
          have hcfg := run.queue.tryPush_cfg push
          simp only [IngressRun.produce]
          split <;> simp_all
  | consumer =>
      obtain ⟨consumed, hqueue⟩ := run.queue.consumeNext_queue run.consumer
      simp only [IngressRun.step, IngressRun.consume, hqueue]
  | workerDrop frames =>
      simp only [IngressRun.step, IngressRun.dropWorkerFrames]
      split <;> rfl

theorem IngressRun.cfg_steps (run : IngressRun α) (events : List (IngressEvent α)) :
    (run.steps events).queue.cfg = run.queue.cfg := by
  induction events generalizing run with
  | nil => rfl
  | cons event events ih => exact (ih _).trans (run.cfg_step event)

theorem IngressRun.Inv.step (h : run.Inv) (event : IngressEvent α) : (run.step event).Inv := by
  cases event with
  | push samples channels =>
      simp only [IngressRun.step]
      cases hpush : run.producer with
      | none => exact h.enter hpush samples channels
      | some _ => exact h
  | producer =>
      simp only [IngressRun.step]
      cases hpush : run.producer with
      | none => exact h
      | some push => exact h.produce hpush
  | consumer => exact h.consume
  | workerDrop frames => exact h.dropWorkerFrames frames

theorem IngressRun.Inv.steps (h : run.Inv) (events : List (IngressEvent α)) :
    (run.steps events).Inv :=
  List.foldlRecOn events IngressRun.step h fun _ h event _ => h.step event

end Step

theorem ConsumePc.Delivered.isPrefix {pc : ConsumePc} {queue : IngressQueue α}
    {blocks : List (List α)} {delivered : List α} (h : pc.Delivered queue blocks delivered) :
    delivered <+: blocks.flatten := by
  have htake : ∀ n, (blocks.take n).flatten <+: blocks.flatten := fun n =>
    (List.take_prefix n blocks).flatten
  cases pc with
  | idle => exact h ▸ htake _
  | loadPublished consumed => exact h.2 ▸ htake _
  | loadFrames consumed => exact h.2.2 ▸ htake _
  | readSample consumed frames index =>
      obtain ⟨-, -, block, hblock, -, -, rfl⟩ := h
      refine List.IsPrefix.trans ?_ (htake (consumed + 1))
      rw [flatten_take_succ hblock]
      exact (List.prefix_append_right_inj _).mpr (List.take_prefix _ _)
  | storeConsumed consumed => exact h.2.2 ▸ htake _

/-- A consumer that has caught up has delivered everything. -/
theorem ConsumePc.Delivered.eq_flatten {pc : ConsumePc} {queue : IngressQueue α}
    {blocks : List (List α)} {delivered : List α} (h : pc.Delivered queue blocks delivered)
    (hstores : queue.Stores blocks)
    (hempty : queue.consumedSequence = queue.publishedSequence) :
    delivered = blocks.flatten := by
  have hall : blocks.take queue.consumedSequence = blocks := by
    rw [hempty, ← hstores.length, List.take_length]
  cases pc with
  | idle => rw [h, hall]
  | loadPublished consumed =>
      obtain ⟨rfl, h⟩ := h
      rw [h, hall]
  | loadFrames consumed =>
      obtain ⟨rfl, hlt, -⟩ := h
      omega
  | readSample consumed frames index =>
      obtain ⟨rfl, hlt, -⟩ := h
      omega
  | storeConsumed consumed =>
      obtain ⟨rfl, hlt, -⟩ := h
      omega

/-- The ingress queue over every interleaving. A push that returned `Ok` kept
a prefix and dropped the rest, and both drop counters grew by the rest (the
cumulative one also by what the worker's callback counted meanwhile). A push
that failed was malformed and left no trace, or came after more frames than a
`u64` counter can hold. -/
theorem ingress_queue_fifo (cfg : QueueConfig) (zero : α) (events : List (IngressEvent α)) :
    let run := (IngressRun.start cfg zero).steps events
    run.delivered <+: run.accepted ∧
    (run.queue.consumedSequence = run.queue.publishedSequence →
      run.delivered = run.accepted) ∧
    ∀ record ∈ run.finished,
      (∀ outcome, record.result = .ok outcome →
        ∃ suffix, record.push.samples = record.push.acceptedSamples ++ suffix ∧
          record.push.acceptedSamples.length = outcome.enqueuedFrames * cfg.channels ∧
          suffix.length = outcome.droppedFrames * cfg.channels ∧
          record.droppedAfter = record.push.droppedBefore + outcome.droppedFrames ∧
          record.cumulativeAfter + record.push.workerBefore =
            record.push.cumulativeBefore + outcome.droppedFrames + record.workerAfter) ∧
      (∀ e, record.result = .error e →
        (¬record.push.Shaped cfg ∧ record.push.acceptedSamples = [] ∧
          record.droppedAfter = record.push.droppedBefore ∧
          record.cumulativeAfter + record.push.workerBefore =
            record.push.cumulativeBefore + record.workerAfter) ∨
        u64Max < run.offered + run.workerOffered) := by
  intro run
  have hinv : run.Inv := (IngressRun.Inv.start cfg zero).steps events
  have hcfg : run.queue.cfg = cfg := IngressRun.cfg_steps _ events
  obtain ⟨blocks, hstores, hdelivered, haccepted⟩ := hinv.stores
  refine ⟨haccepted ▸ hdelivered.isPrefix, fun hempty => ?_, fun record hrecord => ?_⟩
  · rw [haccepted]
    exact hdelivered.eq_flatten hstores hempty
  have haccounted := hinv.counts.finished record hrecord
  rw [hcfg] at haccounted
  refine ⟨fun outcome hok => ?_, fun e herror => ?_⟩
  · simp only [PushRecord.Accounted, hok] at haccounted
    obtain ⟨⟨hchannels, -, hwhole⟩, henqueued, htotal, hdropped, hcumulative⟩ := haccounted
    have hlength : record.push.samples.length =
        (record.push.sourceFrame + outcome.droppedFrames) * record.push.channels := by
      rw [htotal]
      exact (Nat.div_mul_cancel (Nat.dvd_of_mod_eq_zero hwhole)).symm
    rw [Nat.add_mul] at hlength
    refine ⟨record.push.samples.drop (record.push.sourceFrame * record.push.channels),
      (List.take_append_drop _ _).symm, ?_, ?_, hdropped, hcumulative⟩
    · rw [Push.acceptedSamples, List.length_take, henqueued, ← hchannels]
      omega
    · rw [List.length_drop, ← hchannels]
      omega
  · simp only [PushRecord.Accounted, herror] at haccounted
    refine haccounted.imp_left fun hrefused => ?_
    obtain ⟨hshape, hzero, hdropped, hcumulative⟩ := hrefused
    exact ⟨hshape, by simp [Push.acceptedSamples, hzero], hdropped, hcumulative⟩

end Lamb.Arena
