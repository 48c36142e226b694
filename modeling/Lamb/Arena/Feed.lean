import Lamb.Arena.History

/-!
A session at rest takes in what it is fed: a push of at most a slot of frames
into an empty queue reaches the active ring when the producer and the worker
are given the steps they need.
-/

namespace Lamb.Arena

open Lamb.Ring Lamb.Lib

variable {α : Type}

/-- Some order of steps leads from `run` to `run'`. -/
def ArenaRun.Reaches (run run' : ArenaRun α) : Prop :=
  ∃ events, run.steps events = run'

theorem ArenaRun.Reaches.refl (run : ArenaRun α) : run.Reaches run := ⟨[], rfl⟩

theorem ArenaRun.Reaches.head {run middle final : ArenaRun α} (event : SessionEvent α)
    (hstep : run.step event = middle) (h : middle.Reaches final) : run.Reaches final := by
  obtain ⟨events, rfl⟩ := h
  exact ⟨event :: events, by rw [← hstep]; rfl⟩

theorem ArenaRun.Reaches.trans {run middle final : ArenaRun α} (h : run.Reaches middle)
    (h' : middle.Reaches final) : run.Reaches final := by
  obtain ⟨events, rfl⟩ := h
  obtain ⟨events', rfl⟩ := h'
  exact ⟨events ++ events', List.foldl_append ..⟩

/-- A session with the queue and the producer replaced. -/
def ArenaRun.produced (run : ArenaRun α) (queue : IngressQueue α) (push : Push α) : ArenaRun α :=
  { run with ingress := { run.ingress with queue, producer := some push } }

theorem ArenaRun.step_producer {run : ArenaRun α} {queue : IngressQueue α} {push : Push α}
    (queue' : IngressQueue α) (push' : Push α)
    (hpush : queue.tryPush push = (queue', .running push')) :
    (run.produced queue push).step .producer = run.produced queue' push' := by
  simp only [ArenaRun.step, ArenaRun.produced, IngressRun.step, IngressRun.produce, hpush]

section Produce

variable {run : ArenaRun α} {published : ℕ}

/-- The copy into the slot goes on to its end and changes nothing but slots. -/
theorem ArenaRun.reaches_copied (run : ArenaRun α) (push : Push α)
    (hshape : push.pc = .copySample published 0) (queue : IngressQueue α) :
    ∃ slots, (run.produced queue push).Reaches (run.produced { queue with slots }
      { push with pc := .storeFrames published }) := by
  suffices h : ∀ remaining index (queue : IngressQueue α),
      push.slotFrames queue * push.channels = index + remaining →
      ∃ slots, (run.produced queue { push with pc := .copySample published index }).Reaches
        (run.produced { queue with slots } { push with pc := .storeFrames published }) by
    obtain ⟨slots, hreaches⟩ := h _ 0 queue (Nat.zero_add _).symm
    rw [← hshape] at hreaches
    exact ⟨slots, hreaches⟩
  intro remaining
  induction remaining with
  | zero =>
      intro index queue hindex
      refine ⟨queue.slots, .head .producer (ArenaRun.step_producer _ _ ?_) (.refl _)⟩
      have hdone : ¬index < push.slotFrames queue * push.channels := by omega
      simp only [IngressQueue.tryPush]
      exact if_neg hdone
  | succ remaining ih =>
      intro index queue hindex
      have hmore : index < push.slotFrames queue * push.channels := by omega
      obtain ⟨slots, hreaches⟩ := ih (index + 1) (queue.writeSlot published
        { queue.slots (queue.slotOf published) with
          samples := Function.update (queue.slots (queue.slotOf published)).samples index
            (push.samples.getD (push.sourceFrame * push.channels + index)
              ((queue.slots (queue.slotOf published)).samples index)) })
        (by rw [Nat.add_right_comm, ← Nat.add_assoc] at *; exact hindex)
      refine ⟨slots, .head .producer (ArenaRun.step_producer _ _ ?_) hreaches⟩
      simp only [IngressQueue.tryPush]
      exact if_pos hmore

/-- A push of at most a slot into an empty queue is accepted whole. -/
theorem ArenaRun.reaches_pushed (hnone : run.ingress.producer = none)
    (hopen : run.ingress.queue.dropCounterExhausted = false) {samples : List α} {frames : ℕ}
    (hpos : 0 < run.ingress.queue.cfg.channels)
    (hlength : samples.length = frames * run.ingress.queue.cfg.channels) (hsome : 0 < frames)
    (hfits : frames ≤ run.ingress.queue.cfg.slotFrames)
    (hslots : 0 < run.ingress.queue.cfg.slotCount)
    (hempty : run.ingress.queue.consumedSequence = run.ingress.queue.publishedSequence)
    (hsequence : run.ingress.queue.publishedSequence + 1 ≤ u64Max)
    (henqueued : run.ingress.queue.enqueuedFrames + frames ≤ u64Max) :
    ∃ slots finished,
      (slots (run.ingress.queue.slotOf run.ingress.queue.publishedSequence)).frames = frames ∧
      run.Reaches { run with
        ingress := { run.ingress with
          queue := { run.ingress.queue with
            slots
            publishedSequence := run.ingress.queue.publishedSequence + 1
            enqueuedFrames := run.ingress.queue.enqueuedFrames + frames }
          producer := none
          finished } } := by
  set queue := run.ingress.queue with hqueue
  set entered := run.ingress.enter samples queue.cfg.channels
  have htotal : entered.totalFrames = frames := by
    simp only [Push.totalFrames, entered, IngressRun.enter, hlength]
    exact Nat.mul_div_cancel _ hpos
  have hslotFrames : ∀ queue' : IngressQueue α, queue'.cfg = queue.cfg →
      ∀ pc, Push.slotFrames { entered with pc } queue' = frames := by
    intro queue' hcfg pc
    have htotal' : Push.totalFrames { entered with pc } = frames := htotal
    simp only [Push.slotFrames, htotal', hcfg]
    exact min_eq_left hfits
  -- up to the copy
  let copying := { entered with pc := .copySample queue.publishedSequence 0 }
  let counted := { queue with enqueuedFrames := queue.enqueuedFrames + frames }
  have hstart : run.Reaches (run.produced counted copying) := by
    refine .head (.push samples queue.cfg.channels)
      (show _ = run.produced queue entered from ?_) ?_
    · simp only [ArenaRun.step, IngressRun.step, hnone, ArenaRun.produced, ← hqueue, entered]
    refine .head .producer (ArenaRun.step_producer queue
      { entered with pc := .loop } ?_) ?_
    · have hchannels : entered.channels = queue.cfg.channels := rfl
      have hwhole : entered.samples.length % entered.channels = 0 := by
        show samples.length % queue.cfg.channels = 0
        rw [hlength, Nat.mul_mod_left]
      have hbad : ¬(entered.channels = 0 ∨ entered.samples.length % entered.channels ≠ 0) := by
        rw [hwhole, hchannels]
        omega
      show (if _ then _ else if _ then _ else if _ then _ else _) = _
      rw [if_neg (by simp [hopen]), if_neg (by simp [hchannels]), if_neg hbad]
    refine .head .producer (ArenaRun.step_producer queue
      { entered with pc := .loadConsumed queue.publishedSequence } ?_) ?_
    · exact if_pos (show (0 : ℕ) < entered.totalFrames by omega)
    refine .head .producer (ArenaRun.step_producer queue
      { entered with pc := .addEnqueued queue.publishedSequence } ?_) ?_
    · simp only [IngressQueue.tryPush]
      rw [if_neg (by omega), if_neg (by omega), checkedAdd_of_le hsequence]
    refine .head .producer (ArenaRun.step_producer counted
      copying ?_) (.refl _)
    simp only [IngressQueue.tryPush, hslotFrames queue rfl, checkedAdd_of_le henqueued]
    rfl
  obtain ⟨slots, hcopied⟩ := run.reaches_copied copying rfl counted
  -- publish, and leave the loop
  let stored := { counted with
    slots := Function.update slots (queue.slotOf queue.publishedSequence)
      { slots (queue.slotOf queue.publishedSequence) with frames } }
  let published := { stored with publishedSequence := queue.publishedSequence + 1 }
  let done := { entered with sourceFrame := frames, enqueuedFrames := frames, pc := .loop }
  refine ⟨stored.slots, run.ingress.finished ++
    [run.ingress.record published done (.ok ⟨frames, 0, queue.publishedSequence + 1⟩)],
    by simp [stored], hstart.trans (hcopied.trans ?_)⟩
  refine .head .producer (ArenaRun.step_producer stored
    { entered with pc := .storePublished queue.publishedSequence } ?_) ?_
  · simp only [IngressQueue.tryPush, copying]
    rw [hslotFrames { counted with slots } rfl]
    rfl
  refine .head .producer (ArenaRun.step_producer published done ?_) ?_
  · simp only [IngressQueue.tryPush]
    rw [hslotFrames stored rfl]
    simp [entered, IngressRun.enter, done, published]
  refine .head .producer ?_ (.refl _)
  have hdone : ¬done.sourceFrame < done.totalFrames := by
    have htotal' : done.totalFrames = frames := htotal
    show ¬frames < done.totalFrames
    omega
  have hpush : published.tryPush done =
      (published, .done (.ok ⟨frames, 0, queue.publishedSequence + 1⟩)) := if_neg hdone
  simp only [ArenaRun.step, ArenaRun.produced, IngressRun.step, IngressRun.produce, hpush]
  rfl

end Produce

section Consume

/-- The two sessions differ in what the worker has read at most. -/
structure ArenaRun.SameButReads (run run' : ArenaRun α) : Prop where
  queue : run'.ingress.queue = run.ingress.queue
  producer : run'.ingress.producer = run.ingress.producer
  worker : run'.worker = run.worker
  accepted : run'.accepted = run.accepted
  granted : run'.granted = run.granted

theorem ArenaRun.SameButReads.trans {run run' run'' : ArenaRun α} (h : run.SameButReads run')
    (h' : run'.SameButReads run'') : run.SameButReads run'' :=
  ⟨h'.queue.trans h.queue, h'.producer.trans h.producer, h'.worker.trans h.worker,
    h'.accepted.trans h.accepted, h'.granted.trans h.granted⟩

/-- A step of `consume_next` that neither ends a block nor a call. -/
theorem ArenaRun.step_read (run : ArenaRun α) (pc : ConsumePc) (sample : Option α)
    (hnext : run.ingress.queue.consumeNext run.ingress.consumer = (run.ingress.queue, pc, sample))
    (hpc : ∀ consumed, pc ≠ .storeConsumed consumed) :
    run.SameButReads (run.step (.worker 0)) ∧
      (run.step (.worker 0)).ingress.consumer = pc := by
  have hstep : run.step (.worker 0) = { run with
      ingress := run.ingress.consume, block := run.block ++ sample.toList } := by
    simp only [ArenaRun.step, ArenaRun.consume, hnext]
  have hconsume : run.ingress.consume = { run.ingress with
      consumer := pc, delivered := run.ingress.delivered ++ sample.toList } := by
    simp only [IngressRun.consume, hnext]
  rw [hstep, hconsume]
  exact ⟨⟨rfl, rfl, rfl, rfl, rfl⟩, rfl⟩

/-- The reads of a slot go on to its last sample. -/
theorem ArenaRun.reaches_read {run : ArenaRun α} {consumed frames : ℕ} (remaining index : ℕ)
    (hread : run.ingress.consumer = .readSample consumed frames index)
    (hindex : frames * run.ingress.queue.cfg.channels = index + remaining) :
    ∃ run', run.Reaches run' ∧ run.SameButReads run' ∧ run'.ingress.consumer =
      .readSample consumed frames (frames * run.ingress.queue.cfg.channels) := by
  induction remaining generalizing run index with
  | zero =>
      refine ⟨run, .refl run, ⟨rfl, rfl, rfl, rfl, rfl⟩, ?_⟩
      rw [hindex, hread, Nat.add_zero]
  | succ remaining ih =>
      have hmore : index < frames * run.ingress.queue.cfg.channels := by omega
      obtain ⟨hsame, hconsumer⟩ := run.step_read (.readSample consumed frames (index + 1)) _
        (by rw [hread]; exact if_pos hmore) (by simp)
      obtain ⟨run', hreaches, hsame', hconsumer'⟩ := ih (index + 1) hconsumer
        (by rw [hsame.queue]; omega)
      rw [hsame.queue] at hconsumer'
      exact ⟨run', .head (.worker 0) rfl hreaches, hsame.trans hsame', hconsumer'⟩

/-- A published slot is opened and read. -/
theorem ArenaRun.reaches_opened (run : ArenaRun α) (hidle : run.ingress.consumer = .idle)
    (hsome : run.ingress.queue.consumedSequence < run.ingress.queue.publishedSequence) :
    ∃ run', run.Reaches run' ∧ run.SameButReads run' ∧
      let frames := (run.ingress.queue.slots
        (run.ingress.queue.slotOf run.ingress.queue.consumedSequence)).frames
      run'.ingress.consumer = .readSample run.ingress.queue.consumedSequence frames
        (frames * run.ingress.queue.cfg.channels) := by
  obtain ⟨hsame₁, hpc₁⟩ := run.step_read
    (.loadPublished run.ingress.queue.consumedSequence) none (by rw [hidle]; rfl) (by simp)
  set run₁ := run.step (.worker 0)
  obtain ⟨hsame₂, hpc₂⟩ := run₁.step_read
    (.loadFrames run.ingress.queue.consumedSequence) none
    (by
      rw [hpc₁, hsame₁.queue]
      exact if_neg (by omega)) (by simp)
  set run₂ := run₁.step (.worker 0)
  have hqueue₂ : run₂.ingress.queue = run.ingress.queue := hsame₂.queue.trans hsame₁.queue
  obtain ⟨hsame₃, hpc₃⟩ := run₂.step_read
    (.readSample run.ingress.queue.consumedSequence (run.ingress.queue.slots
      (run.ingress.queue.slotOf run.ingress.queue.consumedSequence)).frames 0) none
    (by
      rw [hpc₂, hqueue₂]
      rfl) (by simp)
  obtain ⟨run', hreaches, hsame', hconsumer⟩ :=
    ArenaRun.reaches_read _ 0 hpc₃ (Nat.zero_add _).symm
  refine ⟨run', .head (.worker 0) rfl (.head (.worker 0) rfl (.head (.worker 0) rfl hreaches)),
    hsame₁.trans (hsame₂.trans (hsame₃.trans hsame')), ?_⟩
  rw [hconsumer, hsame₃.queue, hqueue₂]

end Consume

/-! ### Feeding -/

/-- `frames` frames have been fed to a fresh session, nothing was lost and
nothing is under way. -/
structure ArenaRun.Fed (run : ArenaRun α) (frames : ℕ) : Prop where
  inv : run.Inv
  producer : run.ingress.producer = none
  consumer : run.ingress.consumer = .idle
  slotCount : 0 < run.ingress.queue.cfg.slotCount
  opened : run.ingress.queue.dropCounterExhausted = false
  empty : run.ingress.queue.consumedSequence = run.ingress.queue.publishedSequence
  published_le : run.ingress.queue.publishedSequence ≤ frames
  enqueued : run.ingress.queue.enqueuedFrames = frames
  healthy : run.worker.workerFault = none
  head : run.worker.absoluteHead = frames
  base : run.worker.bases run.worker.active = 0
  unfrozen : run.worker.frozen = none
  uncleared : (run.worker.epochs run.worker.active).clearAfterFrame = 0
  standby : run.worker.retiredDroppedFrames +
    (run.worker.epochs (1 - run.worker.active)).droppedFrames ≤ u64Max
  generation : run.worker.nextGeneration + 1 ≤ u64Max

theorem WorkerState.Inv.consumeSamples_ok {worker : WorkerState α} (h : worker.Inv)
    (queue : DropCounters) (now : ℕ) (samples : List α)
    (hhealthy : worker.workerFault = none) (hwide : 2 ≤ worker.cfg.ring.chunkFrames)
    (hwritten : worker.workerWrittenFrames = worker.absoluteHead)
    (hwhole : samples.length % worker.cfg.ring.channels = 0)
    (hlimit : worker.absoluteHead + samples.length / worker.cfg.ring.channels ≤ u64Max) :
    ∃ ring, (worker.epochs worker.active).writeInterleaved now samples
        worker.cfg.ring.channels = (.ok (), ring) ∧
      worker.consumeSamples queue now samples =
        ({ worker with
            epochs := Function.update worker.epochs worker.active ring
            absoluteHead := worker.absoluteHead + samples.length / worker.cfg.ring.channels
            workerWrittenFrames :=
              worker.workerWrittenFrames + samples.length / worker.cfg.ring.channels },
          queue) := by
  obtain ⟨history, hrep⟩ := (h.epochs worker.active).represents
  have hcfg := (h.epochs worker.active).cfg_eq
  have hhead := h.head
  have hok := hrep.writeInterleaved_ok (h.epochs worker.active).pins now
    (by rw [hcfg]; exact hwide) (by rw [hcfg]; exact hwhole) (by rw [hcfg]; omega)
  rw [hcfg] at hok
  refine ⟨((worker.epochs worker.active).writeInterleaved now samples
    worker.cfg.ring.channels).2, Prod.ext hok rfl, ?_⟩
  simp only [WorkerState.consumeSamples, hhealthy, Option.isSome_none, Bool.false_eq_true,
    if_false, checkedAdd_of_le hlimit, hwritten]
  generalize (worker.epochs worker.active).writeInterleaved now samples
    worker.cfg.ring.channels = result at hok ⊢
  obtain ⟨result, ring⟩ := result
  simp only at hok
  subst hok
  rfl

theorem ArenaRun.Reaches.inv {run run' : ArenaRun α} (h : run.Reaches run') (hinv : run.Inv) :
    run'.Inv := by
  obtain ⟨events, rfl⟩ := h
  exact hinv.steps events

/-- The end of a block: it is handed over, and the slot is given back. -/
theorem ArenaRun.reaches_delivered {run : ArenaRun α} (hinv : run.Inv) {consumed frames : ℕ}
    (hread : run.ingress.consumer =
      .readSample consumed frames (frames * run.ingress.queue.cfg.channels)) :
    ∃ run', run.Reaches run' ∧ run.block.length = frames * run.channels ∧
      run'.worker = (run.worker.consumeSamples run.ingress.queue.counters 0 run.block).1 ∧
      run'.ingress.producer = run.ingress.producer ∧ run'.ingress.consumer = .idle ∧
      run'.ingress.queue =
        { run.ingress.queue.setCounters
            (run.worker.consumeSamples run.ingress.queue.counters 0 run.block).2 with
          consumedSequence := consumed + 1 } := by
  have hconsume : run.ingress.consume =
      { run.ingress with consumer := .storeConsumed consumed } := by
    simp only [IngressRun.consume, hread, IngressQueue.consumeNext, lt_irrefl, if_false,
      Option.toList_none, List.append_nil]
  rcases hinv.consume_cases 0 with
    ⟨block, -, hnot, -⟩ | ⟨consumed', frames', hpc, hlength, -, -, hstep⟩
  · exact absurd (congrArg IngressRun.consumer hconsume) (hnot consumed)
  · rw [hread] at hpc
    obtain ⟨rfl, rfl, -⟩ := ConsumePc.readSample.inj hpc
    rw [hconsume] at hstep
    set delivered := run.consume 0
    refine ⟨_, .head (.worker 0) (show _ = delivered from rfl)
      (.head (.worker 0) rfl (.refl _)), hlength, ?_⟩
    have hpc' : delivered.ingress.consumer = .storeConsumed consumed := by
      rw [hstep]
      rfl
    have hlast : delivered.step (.worker 0) = { delivered with
        ingress := { delivered.ingress with
          queue := { delivered.ingress.queue with consumedSequence := consumed + 1 }
          consumer := .idle } } := by
      simp only [ArenaRun.step, ArenaRun.consume, IngressRun.consume, hpc',
        IngressQueue.consumeNext, Option.toList_none, List.append_nil]
    rw [hlast, hstep]
    exact ⟨rfl, rfl, rfl, rfl⟩

theorem ArenaRun.Fed.feed {run : ArenaRun α} {fed : ℕ} (h : run.Fed fed)
    (hwide : 2 ≤ run.worker.cfg.ring.chunkFrames) {samples : List α} {frames : ℕ}
    (hlength : samples.length = frames * run.channels) (hsome : 0 < frames)
    (hfits : frames ≤ run.worker.cfg.slotFrames) (hlimit : fed + frames ≤ u64Max) :
    ∃ run', run.Reaches run' ∧ run'.Fed (fed + frames) ∧ run'.worker.cfg = run.worker.cfg := by
  have hpos := h.inv.tracks.inv.channels_pos
  have hpublished := h.published_le
  have henqueued := h.enqueued
  obtain ⟨slots, finished, hframes, hpushed⟩ := ArenaRun.reaches_pushed h.producer h.opened
    (by rw [h.inv.feeds.channels]; exact hpos)
    (by rw [h.inv.feeds.channels]; exact hlength) hsome
    (by rw [h.inv.feeds.slotFrames]; exact hfits) h.slotCount h.empty (by omega) (by omega)
  set pushed : ArenaRun α := { run with
    ingress := { run.ingress with
      queue := { run.ingress.queue with
        slots
        publishedSequence := run.ingress.queue.publishedSequence + 1
        enqueuedFrames := run.ingress.queue.enqueuedFrames + frames }
      producer := none
      finished } } with hpushedRun
  obtain ⟨read, hopened, hsame, hread⟩ := pushed.reaches_opened h.consumer
    (by
      have := h.empty
      simp only [hpushedRun]
      omega)
  have hslot : (pushed.ingress.queue.slots
      (pushed.ingress.queue.slotOf pushed.ingress.queue.consumedSequence)).frames = frames := by
    simp only [hpushedRun, IngressQueue.slotOf, h.empty] at hframes ⊢
    exact hframes
  simp only [hslot] at hread
  rw [← hsame.queue] at hread
  have hinv := hopened.inv (hpushed.inv h.inv)
  obtain ⟨final, hfinal, hblock, hworker, hproducer, hconsumer, hqueue⟩ :=
    ArenaRun.reaches_delivered hinv hread
  have hreaches := hpushed.trans (hopened.trans hfinal)
  have hreadWorker : read.worker = run.worker := hsame.worker
  have hchannels : read.channels = run.worker.cfg.ring.channels := by
    rw [ArenaRun.channels, hreadWorker]
  have hdiv : read.block.length / read.worker.cfg.ring.channels = frames := by
    rw [hblock]
    exact Nat.mul_div_cancel _ (by rw [hchannels]; exact hpos)
  have hhead := h.head
  obtain ⟨ring, hwrite, hconsumed⟩ := hinv.tracks.inv.consumeSamples_ok
    read.ingress.queue.counters 0 read.block
    (by rw [hreadWorker]; exact h.healthy) (by rw [hreadWorker]; exact hwide)
    hinv.tracks.written (by rw [hblock]; exact Nat.mul_mod_left _ _)
    (by rw [hdiv, hreadWorker, hhead]; exact hlimit)
  rw [hconsumed] at hworker hqueue
  rw [hdiv] at hworker
  have hcounters : read.ingress.queue.setCounters read.ingress.queue.counters =
      read.ingress.queue := rfl
  rw [hcounters, hsame.queue] at hqueue
  refine ⟨final, hreaches, ?_, ?_⟩
  · obtain ⟨history, hrep⟩ := (hinv.tracks.inv.epochs read.worker.active).represents
    obtain ⟨_, -, -, hwrote, -⟩ :=
      hrep.writeInterleaved 0 read.block read.worker.cfg.ring.channels
    rw [hwrite] at hwrote
    have hother : (1 : Fin 2) - read.worker.active ≠ read.worker.active := one_sub_ne _
    exact
      { inv := hreaches.inv h.inv
        producer := hproducer.trans hsame.producer
        consumer := hconsumer
        slotCount := by rw [hqueue]; exact h.slotCount
        opened := by rw [hqueue]; exact h.opened
        empty := by
          rw [hqueue]
          simp only [hpushedRun, h.empty]
        published_le := by
          rw [hqueue]
          simp only [hpushedRun]
          omega
        enqueued := by
          rw [hqueue]
          simp only [hpushedRun, h.enqueued]
        healthy := by rw [hworker, hreadWorker]; exact h.healthy
        head := by rw [hworker, hreadWorker]; simp only [hhead]
        base := by rw [hworker, hreadWorker]; exact h.base
        unfrozen := by rw [hworker, hreadWorker]; exact h.unfrozen
        uncleared := by
          rw [hworker]
          simp only [Function.update_self]
          rw [hwrote.clear, hreadWorker]
          exact h.uncleared
        standby := by
          rw [hworker]
          simp only [Function.update_of_ne hother]
          rw [hreadWorker]
          exact h.standby
        generation := by rw [hworker, hreadWorker]; exact h.generation }
  · rw [hworker, hreadWorker]

theorem ArenaRun.Fed.start {cfg : ArenaConfig} {zero : α} {worker : WorkerState α}
    (hnew : WorkerState.new cfg zero = .ok worker) {slotCount : ℕ} (hslots : 0 < slotCount)
    (hpos : 0 < worker.cfg.slotFrames) : (ArenaRun.start worker slotCount hpos zero).Fed 0 := by
  have hinv := ArenaRun.Inv.start hnew slotCount hpos
  unfold WorkerState.new at hnew
  cases hring : SampleRing.new cfg.ring zero with
  | error e =>
      rw [hring] at hnew
      cases hnew
  | ok ring =>
      rw [hring] at hnew
      obtain rfl := Except.ok.inj hnew
      obtain ⟨rfl, -⟩ := SampleRing.new_cfg hring
      exact
        { inv := hinv
          producer := rfl
          consumer := rfl
          slotCount := hslots
          opened := rfl
          empty := rfl
          published_le := le_rfl
          enqueued := rfl
          healthy := rfl
          head := rfl
          base := rfl
          unfrozen := rfl
          uncleared := rfl
          standby := Nat.zero_le _
          generation := by
            show 1 + 1 ≤ u64Max
            decide }

/-- Block after block, any number of whole slots can be fed. -/
theorem ArenaRun.Fed.feed_slots [Inhabited α] {run : ArenaRun α} {fed : ℕ} (h : run.Fed fed)
    (hwide : 2 ≤ run.worker.cfg.ring.chunkFrames) (hslot : 0 < run.worker.cfg.slotFrames)
    (count : ℕ) (hlimit : fed + count * run.worker.cfg.slotFrames ≤ u64Max) :
    ∃ run', run.Reaches run' ∧ run'.Fed (fed + count * run.worker.cfg.slotFrames) ∧
      run'.worker.cfg = run.worker.cfg := by
  induction count with
  | zero => exact ⟨run, .refl run, by simpa using h, rfl⟩
  | succ count ih =>
      rw [Nat.succ_mul] at hlimit
      obtain ⟨middle, hreaches, hfed, hcfg⟩ := ih (by omega)
      have hblock : (List.replicate (run.worker.cfg.slotFrames * middle.channels)
          (default : α)).length = run.worker.cfg.slotFrames * middle.channels :=
        List.length_replicate
      obtain ⟨final, hreaches', hfed', hcfg'⟩ := hfed.feed (by rw [hcfg]; exact hwide) hblock
        hslot (by rw [hcfg]) (by omega)
      refine ⟨final, hreaches.trans hreaches', ?_, hcfg'.trans hcfg⟩
      rw [Nat.succ_mul, ← Nat.add_assoc]
      exact hfed'

/-- A freeze with nothing frozen fails only when a counter is exhausted. -/
theorem WorkerState.Inv.freeze_succeeds {worker : WorkerState α} (h : worker.Inv)
    (hnone : worker.frozen = none) (hgeneration : worker.nextGeneration + 1 ≤ u64Max)
    (hretired : worker.retiredDroppedFrames +
      (worker.epochs (1 - worker.active)).droppedFrames ≤ u64Max) (committedStart : Option ℕ)
    (e : LambError) : (worker.freeze committedStart).1 ≠ .error e := by
  have holdest := (h.epochs worker.active).oldest_le_head
  have hhead := h.head
  have hle := h.head_le
  have hwrite : (worker.epochs worker.active).writeHeadFrame =
      (worker.epochs worker.active).globalWriteFrame := rfl
  obtain ⟨hreset, -⟩ := (h.epochs (1 - worker.active)).reset
  have hretire : ∃ worker', worker.retireAndReset (1 - worker.active) = (.ok (), worker') := by
    simp only [WorkerState.retireAndReset, SampleRing.status, checkedAdd_of_le hretired]
    generalize (worker.epochs (1 - worker.active)).reset = result at hreset ⊢
    obtain ⟨result, ring⟩ := result
    simp only at hreset
    subst hreset
    exact ⟨_, rfl⟩
  obtain ⟨worker', hretire⟩ := hretire
  unfold WorkerState.freeze
  rw [if_neg (by simp [hnone])]
  simp only
  rw [checkedAdd_of_le (by omega), checkedAdd_of_le (by omega)]
  simp only [WorkerState.freezeGeneration, checkedAdd_of_le hgeneration]
  split_ifs
  · simp only [hretire]
    simp
  · simp only [hretire]
    simp

/-- Everything that was fed is granted, as long as the ring still holds it. -/
theorem ArenaRun.Fed.freeze {run : ArenaRun α} {fed : ℕ} (h : run.Fed fed) (hsome : 0 < fed)
    (hholds : fed ≤ run.worker.cfg.ring.chunkCount * run.worker.cfg.ring.chunkFrames) :
    ∃ run' descriptor, run.Reaches run' ∧ run'.granted = some descriptor ∧
      descriptor.absoluteRange = ⟨0, fed⟩ := by
  have hhead := h.inv.tracks.inv.head
  rw [h.base, Nat.zero_add, h.head] at hhead
  have hcfg := (h.inv.tracks.inv.epochs run.worker.active).cfg_eq
  have holdest : (run.worker.epochs run.worker.active).oldestFrame = 0 := by
    have hwindow := h.inv.tracks.active.oldestFrame_eq
    have hstarted : (run.worker.epochs run.worker.active).startedChunks ≤
        run.worker.cfg.ring.chunkCount := by
      rw [SampleRing.startedChunks, hhead, hcfg, ceilDiv_le_iff_le_mul
        (by rw [← hcfg]; exact h.inv.tracks.active.chunkFrames_pos), mul_comm]
      exact hholds
    rw [h.uncleared, hcfg, Nat.sub_eq_zero_of_le hstarted, Nat.zero_mul] at hwindow
    exact hwindow
  have hstart : max ((none : Option ℕ).getD (run.worker.bases run.worker.active +
      (run.worker.epochs run.worker.active).oldestFrame)) (run.worker.bases run.worker.active +
      (run.worker.epochs run.worker.active).oldestFrame) = 0 := by
    rw [Option.getD_none, max_self, h.base, holdest]
  have hfreeze : (run.worker.freeze none).1 = .ok (some (run.worker.descriptor 0)) := by
    have hsucceeds := h.inv.tracks.inv.freeze_succeeds h.unfrozen h.generation h.standby none
    rcases h.inv.tracks.inv.freeze_cases none with
      ⟨e, herror⟩ | ⟨ring, droppedFrames, lastOverrun, -, -, -, hcases⟩
    · exact absurd (congrArg Prod.fst herror) (hsucceeds e)
    · simp only [hstart, h.head] at hcases
      rcases hcases with ⟨hnothing, -⟩ | ⟨-, heq⟩
      · omega
      · exact congrArg Prod.fst heq
  refine ⟨_, run.worker.descriptor 0, .head (.command (.freeze none)) rfl (.refl _), ?_, ?_⟩
  · have hopen : ¬(run.ingress.queue.counters.dropCounterExhausted = true ∧
        ¬(WorkerCommand.freeze none).worksExhausted = true) := by
      simp [IngressQueue.counters, h.opened]
    simp only [ArenaRun.step, h.consumer, ArenaRun.execute, WorkerState.processCommand,
      if_neg hopen, hfreeze, Except.map, WorkerReply.regrant]
  · simp only [WorkerState.descriptor, h.head]

end Lamb.Arena
