import Lamb.Arena.Session

/-!
The epochs of a session against the history of accepted samples. The active
epoch holds the history from its base on, the frozen epoch holds the history
over its own range until it is released, and the two never overlap.
-/

namespace Lamb.Arena

open Lamb.Ring Lamb.Lib

variable {α : Type}

/-! ### What a command does -/

section Executed

variable {worker : WorkerState α}

/-- The result of a command and the worker after it, with everything that is
known about them. -/
inductive WorkerState.Executed (worker : WorkerState α) :
    WorkerCommand → Result WorkerReply → WorkerState α → Prop
  | same (command : WorkerCommand) (result : Result WorkerReply)
      (hneutral : ∀ granted, WorkerReply.regrant granted result = granted)
      (hfrozen : result ≠ .ok (.frozen none)) : worker.Executed command result worker
  | switched (committedStart : Option ℕ) (ring : SampleRing α) (droppedFrames : ℕ)
      (lastOverrun : Option ℕ) (hnone : worker.frozen = none)
      (hring : EpochInv worker.cfg ring) (hempty : ring.Represents [])
      (hold : worker.absoluteHead ≤ max
        (committedStart.getD
          (worker.bases worker.active + (worker.epochs worker.active).oldestFrame))
        (worker.bases worker.active + (worker.epochs worker.active).oldestFrame)) :
      worker.Executed (.freeze committedStart) (.ok (.frozen none))
        ((worker.retired (1 - worker.active) ring droppedFrames lastOverrun).switched
          (1 - worker.active))
  | frozen (committedStart : Option ℕ) (ring : SampleRing α) (droppedFrames : ℕ)
      (lastOverrun : Option ℕ) (start : ℕ) (hnone : worker.frozen = none)
      (hring : EpochInv worker.cfg ring) (hempty : ring.Represents [])
      (hstart : start = max
        (committedStart.getD
          (worker.bases worker.active + (worker.epochs worker.active).oldestFrame))
        (worker.bases worker.active + (worker.epochs worker.active).oldestFrame))
      (hrange : start < worker.absoluteHead) :
      worker.Executed (.freeze committedStart) (.ok (.frozen (some (worker.descriptor start))))
        { (worker.retired (1 - worker.active) ring droppedFrames lastOverrun).switched
            (1 - worker.active) with
          nextGeneration := worker.nextGeneration + 1
          frozen := some ⟨worker.active, worker.nextGeneration + 1⟩ }
  | released (index : Fin 2) (generation : ℕ) (ring : SampleRing α) (droppedFrames : ℕ)
      (lastOverrun : Option ℕ) (hfrozen : worker.frozen = some ⟨index, generation⟩)
      (hring : EpochInv worker.cfg ring) :
      worker.Executed (.release index generation) (.ok .released)
        { worker.retired index ring droppedFrames lastOverrun with frozen := none }
  | cleared (ingressDroppedFrames : ℕ) (accounting : CaptureClearAccounting)
      (report : CaptureClearReport)
      (hreports : report.Reports accounting)
      (hrange : report.activeAbsoluteRange = ⟨worker.bases worker.active +
        (worker.epochs worker.active).oldestFrame, worker.absoluteHead⟩)
      (hcumulative : report.cumulativeDroppedFrames =
        ingressDroppedFrames + worker.workerDroppedFrames) :
      worker.Executed (.clear ingressDroppedFrames accounting) (.ok (.cleared report))
        { worker with
          epochs := Function.update worker.epochs worker.active
            (worker.epochs worker.active).clear }

theorem WorkerState.Executed.failed (command : WorkerCommand) (e : LambError) :
    worker.Executed command (.error e) worker :=
  .same command _ (fun _ => rfl) (by simp)

theorem WorkerState.Inv.executed (h : worker.Inv) (queue : DropCounters)
    (command : WorkerCommand) :
    worker.Executed command (worker.processCommand queue command).1
      (worker.processCommand queue command).2 := by
  unfold WorkerState.processCommand
  split
  · exact .failed _ _
  cases command with
  | freeze committedStart =>
      rcases h.freeze_cases committedStart with
        ⟨e, herror⟩ | ⟨ring, droppedFrames, lastOverrun, hnone, hring, hempty, hcases⟩
      · simp only [herror]
        exact .failed _ e
      · rcases hcases with ⟨hold, heq⟩ | ⟨hrange, heq⟩
        · simp only [heq]
          exact .switched committedStart ring droppedFrames lastOverrun hnone hring hempty hold
        · simp only [heq]
          exact .frozen committedStart ring droppedFrames lastOverrun _ hnone hring hempty rfl
            hrange
  | release index generation =>
      rcases h.release_cases index generation with
        ⟨e, herror⟩ | ⟨ring, droppedFrames, lastOverrun, hfrozen, hring, heq⟩
      · simp only [herror]
        exact .failed _ e
      · simp only [heq]
        exact .released index generation ring droppedFrames lastOverrun hfrozen hring
  | clear ingressDroppedFrames accounting =>
      rcases h.clear_cases ingressDroppedFrames accounting with
        ⟨e, herror⟩ | ⟨report, hreports, hrange, hcumulative, heq⟩
      · simp only [herror]
        exact .failed _ e
      · simp only [heq]
        exact .cleared ingressDroppedFrames accounting report hreports hrange hcumulative
  | status =>
      simp only
      cases worker.status queue with
      | error e => exact .failed _ e
      | ok status => exact .same _ _ (fun _ => rfl) (by simp [Except.map])
  | shutdown => exact .same _ _ (fun _ => rfl) (by simp)

theorem WorkerState.Executed.inv (h : worker.Inv) {command : WorkerCommand}
    {result : Result WorkerReply} {worker' : WorkerState α}
    (hexec : worker.Executed command result worker') : worker'.Inv := by
  cases hexec with
  | same => exact h
  | switched committedStart ring droppedFrames lastOverrun hnone hring hempty hold =>
      exact h.switched hnone hring hempty droppedFrames lastOverrun
  | frozen committedStart ring droppedFrames lastOverrun start hnone hring hempty hstart hrange =>
      have hswitched := h.switched hnone hring hempty droppedFrames lastOverrun
      refine ⟨hswitched.epochs, hswitched.head, hswitched.head_le, ?_⟩
      intro record hrecord
      obtain rfl := Option.some.inj hrecord
      exact (one_sub_ne worker.active).symm
  | released index generation ring droppedFrames lastOverrun hfrozen hring =>
      have hinv := h.retired (h.frozen _ hfrozen) hring droppedFrames lastOverrun
      refine ⟨hinv.epochs, hinv.head, hinv.head_le, ?_⟩
      rintro record ⟨⟩
  | cleared => exact h.cleared

theorem WorkerState.Executed.cfg_eq {command : WorkerCommand} {result : Result WorkerReply}
    {worker' : WorkerState α} (hexec : worker.Executed command result worker') :
    worker'.cfg = worker.cfg := by
  cases hexec <;> rfl

theorem WorkerState.Executed.of_error {command : WorkerCommand} {e : LambError}
    {worker' : WorkerState α} (hexec : worker.Executed command (.error e) worker') :
    worker' = worker := by
  cases hexec with
  | same => rfl

/-- A freeze that grants nothing leaves only frames before its cursor. -/
theorem WorkerState.Executed.of_none {committedStart : Option ℕ} {worker' : WorkerState α}
    (hexec : worker.Executed (.freeze committedStart) (.ok (.frozen none)) worker') {frame : ℕ}
    (holdest : worker.bases worker.active + (worker.epochs worker.active).oldestFrame ≤ frame)
    (hframe : frame < worker.absoluteHead) :
    ∃ cursor, committedStart = some cursor ∧ frame < cursor := by
  cases hexec with
  | same _ _ _ hfrozen => exact absurd rfl hfrozen
  | switched _ ring droppedFrames lastOverrun hnone hring hempty hold =>
      cases committedStart with
      | none =>
          simp only [Option.getD_none, max_self] at hold
          omega
      | some cursor =>
          refine ⟨cursor, rfl, ?_⟩
          simp only [Option.getD_some] at hold
          omega

end Executed

/-! ### The worker and the history -/

/-- The granted epoch `descriptor` and the ring it stands for. -/
structure WorkerState.Holds (worker : WorkerState α) (history : List α)
    (descriptor : FrozenDescriptor) : Prop where
  record : worker.frozen = some ⟨descriptor.index, descriptor.generation⟩
  nonempty : descriptor.absoluteRange.start < descriptor.absoluteRange.stop
  stop_le : descriptor.absoluteRange.stop ≤ worker.bases worker.active
  channels : descriptor.channels = worker.cfg.ring.channels
  sampleRate : descriptor.sampleRate = worker.cfg.ring.sampleRate
  format : descriptor.format = worker.cfg.ring.format
  head : descriptor.base + (worker.epochs descriptor.index).globalWriteFrame =
    descriptor.absoluteRange.stop
  oldest : descriptor.base + (worker.epochs descriptor.index).oldestFrame ≤
    descriptor.absoluteRange.start
  contents : ∃ accepted, (worker.epochs descriptor.index).Represents accepted ∧
    accepted <+: history.drop (descriptor.base * worker.cfg.ring.channels)

/-- `history` are the samples the rings have accepted, `granted` the frozen
epoch that was granted and not released. -/
structure WorkerState.Tracks (worker : WorkerState α) (history : List α)
    (granted : Option FrozenDescriptor) : Prop where
  inv : worker.Inv
  length : history.length = worker.absoluteHead * worker.cfg.ring.channels
  written : worker.workerWrittenFrames = worker.absoluteHead
  active : (worker.epochs worker.active).Represents
    (history.drop (worker.bases worker.active * worker.cfg.ring.channels))
  generation : ∀ record, worker.frozen = some record →
    record.generation ≤ worker.nextGeneration
  holds : ∀ descriptor, granted = some descriptor → worker.Holds history descriptor
  free : granted = none → worker.frozen = none

theorem WorkerState.new_cfg {cfg : ArenaConfig} {zero : α} {worker : WorkerState α}
    (h : WorkerState.new cfg zero = .ok worker) : worker.cfg = cfg := by
  unfold WorkerState.new at h
  cases hring : SampleRing.new cfg.ring zero with
  | error e =>
      rw [hring] at h
      cases h
  | ok ring =>
      rw [hring] at h
      obtain rfl := Except.ok.inj h
      rfl

theorem WorkerState.Tracks.new {cfg : ArenaConfig} {zero : α} {worker : WorkerState α}
    (hnew : WorkerState.new cfg zero = .ok worker) : worker.Tracks [] none := by
  have hinv := WorkerState.Inv.new hnew
  unfold WorkerState.new at hnew
  cases hring : SampleRing.new cfg.ring zero with
  | error e =>
      rw [hring] at hnew
      cases hnew
  | ok ring =>
      rw [hring] at hnew
      obtain rfl := Except.ok.inj hnew
      refine ⟨hinv, (Nat.zero_mul _).symm, rfl, ?_, ?_, ?_, fun _ => rfl⟩
      · simpa using SampleRing.new_represents hring
      · rintro _ ⟨⟩
      · rintro _ ⟨⟩

section Tracks

variable {worker : WorkerState α} {history : List α} {granted : Option FrozenDescriptor}

theorem WorkerState.Inv.channels_pos (h : worker.Inv) : 0 < worker.cfg.ring.channels := by
  obtain ⟨_, hrep⟩ := (h.epochs 0).represents
  have hpos := hrep.channels_pos
  rwa [(h.epochs 0).cfg_eq] at hpos

theorem WorkerState.Tracks.base_le (h : worker.Tracks history granted) :
    worker.bases worker.active * worker.cfg.ring.channels ≤ history.length := by
  rw [h.length]
  have hhead := h.inv.head
  exact Nat.mul_le_mul_right _ (by omega)

/-- A block of whole frames goes to the active epoch as a whole or not at all. -/
theorem WorkerState.Tracks.consume (h : worker.Tracks history granted) (queue : DropCounters)
    (now : ℕ) {block : List α} {frames : ℕ}
    (hblock : block.length = frames * worker.cfg.ring.channels)
    (hframes : frames ≤ worker.cfg.slotFrames) :
    (worker.consumeSamples queue now block).1.Tracks
      (history ++ block.take (((worker.consumeSamples queue now block).1.absoluteHead -
        worker.absoluteHead) * worker.cfg.ring.channels)) granted := by
  have hdiv : block.length / worker.cfg.ring.channels = frames := by
    rw [hblock, Nat.mul_div_cancel _ h.inv.channels_pos]
  have hinv := (h.inv.consumeSamples queue now (hdiv.le.trans hframes)).1
  rcases h.inv.consumeSamples_cases queue now (hdiv.le.trans hframes) with
    ⟨dropped, fault, heq⟩ | ⟨ring, hring, hwrote, hlimit, hhistory, heq⟩
  · rw [heq] at hinv ⊢
    simp only [Nat.sub_self, Nat.zero_mul, List.take_zero, List.append_nil]
    refine ⟨hinv, h.length, h.written, h.active, h.generation, ?_, h.free⟩
    intro descriptor hgranted
    exact { h.holds descriptor hgranted with }
  · rw [heq] at hinv ⊢
    simp only [hdiv] at hinv
    simp only [Nat.add_sub_cancel_left, hdiv, ← hblock, List.take_length]
    refine ⟨hinv, ?_, ?_, ?_, h.generation, ?_, h.free⟩
    · rw [List.length_append, h.length, hblock, Nat.add_mul]
    · simp only [h.written]
    · simp only [Function.update_self]
      rw [List.drop_append_of_le_length h.base_le]
      exact hhistory (by rw [hblock, Nat.mul_mod_left]) _ h.active
    · intro descriptor hgranted
      have hholds := h.holds descriptor hgranted
      have hother : descriptor.index ≠ worker.active := h.inv.frozen _ hholds.record
      obtain ⟨accepted, hrep, hpre⟩ := hholds.contents
      refine
        { hholds with
          head := ?_
          oldest := ?_
          contents := ⟨accepted, ?_, ?_⟩ }
      · simp only [Function.update_of_ne hother]
        exact hholds.head
      · simp only [Function.update_of_ne hother]
        exact hholds.oldest
      · simp only [Function.update_of_ne hother]
        exact hrep
      · rw [List.drop_append]
        exact hpre.trans (List.prefix_append _ _)

/-- The new active epoch starts where the history ends. -/
theorem WorkerState.Tracks.active_switched (h : worker.Tracks history granted)
    {ring : SampleRing α} (hempty : ring.Represents []) (droppedFrames : ℕ)
    (lastOverrun : Option ℕ) :
    let next := (worker.retired (1 - worker.active) ring droppedFrames lastOverrun).switched
      (1 - worker.active)
    (next.epochs next.active).Represents
      (history.drop (next.bases next.active * next.cfg.ring.channels)) := by
  simp only [WorkerState.switched, WorkerState.retired, Function.update_self, ← h.length,
    List.drop_length]
  exact hempty

theorem WorkerState.Tracks.execute (h : worker.Tracks history granted) {command : WorkerCommand}
    {result : Result WorkerReply} {worker' : WorkerState α}
    (hexec : worker.Executed command result worker') :
    worker'.Tracks history (WorkerReply.regrant granted result) := by
  have hinv := hexec.inv h.inv
  cases hexec with
  | same _ _ hneutral hfrozen =>
      rw [hneutral]
      exact h
  | switched committedStart ring droppedFrames lastOverrun hnone hring hempty hold =>
      refine ⟨hinv, h.length, h.written, h.active_switched hempty droppedFrames lastOverrun,
        h.generation, ?_, h.free⟩
      intro descriptor hgranted
      exact absurd (hnone.symm.trans (h.holds descriptor hgranted).record) (by simp)
  | frozen committedStart ring droppedFrames lastOverrun start hnone hring hempty hstart hrange =>
      refine ⟨hinv, h.length, h.written, h.active_switched hempty droppedFrames lastOverrun,
        ?_, ?_, ?_⟩
      · intro record hrecord
        obtain rfl := Option.some.inj hrecord
        exact le_rfl
      · intro descriptor hgranted
        obtain rfl := Option.some.inj hgranted
        have hother : worker.active ≠ 1 - worker.active := (one_sub_ne _).symm
        have holdest := (h.inv.epochs worker.active).oldest_le_head
        refine
          { record := rfl
            nonempty := hrange
            stop_le := ?_
            channels := rfl
            sampleRate := rfl
            format := rfl
            head := ?_
            oldest := ?_
            contents := ⟨_, ?_, List.prefix_rfl⟩ }
        · simp only [WorkerState.descriptor, WorkerState.switched, WorkerState.retired,
            Function.update_self, le_refl]
        · simp only [WorkerState.descriptor, WorkerState.switched, WorkerState.retired,
            Function.update_of_ne hother]
          exact h.inv.head
        · simp only [WorkerState.descriptor, WorkerState.switched, WorkerState.retired,
            Function.update_of_ne hother]
          omega
        · simp only [WorkerState.descriptor, WorkerState.switched, WorkerState.retired,
            Function.update_of_ne hother]
          exact h.active
      · rintro ⟨⟩
  | released index generation ring droppedFrames lastOverrun hfrozen hring =>
      have hother : worker.active ≠ index := (h.inv.frozen _ hfrozen).symm
      refine ⟨hinv, h.length, h.written, ?_, ?_, ?_, fun _ => rfl⟩
      · simp only [WorkerState.retired, Function.update_of_ne hother]
        exact h.active
      · rintro record ⟨⟩
      · rintro descriptor ⟨⟩
  | cleared ingressDroppedFrames accounting report hreports hrange hcumulative =>
      refine ⟨hinv, h.length, h.written, ?_, h.generation, ?_, h.free⟩
      · simp only [Function.update_self]
        exact h.active.clear
      · intro descriptor hgranted
        have hholds := h.holds descriptor hgranted
        have hother : descriptor.index ≠ worker.active := h.inv.frozen _ hholds.record
        refine
          { hholds with
            head := ?_
            oldest := ?_
            contents := ?_ } <;>
          simp only [Function.update_of_ne hother]
        · exact hholds.head
        · exact hholds.oldest
        · exact hholds.contents

end Tracks

/-! ### Sessions -/

/-- What the callback has read of the block it is at. -/
def ConsumePc.Reading (pc : ConsumePc) (cfg : QueueConfig) (block : List α) : Prop :=
  match pc with
  | .readSample _ frames index =>
      block.length = index ∧ index ≤ frames * cfg.channels ∧ frames ≤ cfg.slotFrames
  | _ => block = []

/-- The queue hands out blocks of whole frames that fit a slot. -/
structure ArenaRun.Feeds (run : ArenaRun α) : Prop where
  fifo : run.ingress.Fifo
  channels : run.ingress.queue.cfg.channels = run.channels
  slotFrames : run.ingress.queue.cfg.slotFrames = run.worker.cfg.slotFrames
  slots : ∀ i, (run.ingress.queue.slots i).frames ≤ run.ingress.queue.cfg.slotFrames
  reading : run.ingress.consumer.Reading run.ingress.queue.cfg run.block

structure ArenaRun.Inv (run : ArenaRun α) : Prop where
  feeds : run.Feeds
  tracks : run.worker.Tracks run.history run.granted

theorem ArenaRun.Inv.start {cfg : ArenaConfig} {zero : α} {worker : WorkerState α}
    (hnew : WorkerState.new cfg zero = .ok worker) (slotCount : ℕ)
    (hpos : 0 < worker.cfg.slotFrames) : (ArenaRun.start worker slotCount hpos zero).Inv where
  feeds := ⟨.start _ zero, rfl, rfl, fun _ => Nat.zero_le _, rfl⟩
  tracks := .new hnew

section Step

variable {run : ArenaRun α}

theorem IngressQueue.tryPush_frames {queue : IngressQueue α} {push : Push α}
    (h : ∀ i, (queue.slots i).frames ≤ queue.cfg.slotFrames) (i : ℕ) :
    ((queue.tryPush push).1.slots i).frames ≤ queue.cfg.slotFrames := by
  have hwrite : ∀ (sequence : ℕ) (slot : IngressSlot α), slot.frames ≤ queue.cfg.slotFrames →
      ((queue.writeSlot sequence slot).slots i).frames ≤ queue.cfg.slotFrames := by
    intro sequence slot hslot
    simp only [IngressQueue.writeSlot]
    rcases eq_or_ne i (queue.slotOf sequence) with rfl | hother
    · rwa [Function.update_self]
    · rw [Function.update_of_ne hother]
      exact h i
  unfold IngressQueue.tryPush
  cases push.pc with
  | copySample published index =>
      simp only
      split
      · exact hwrite _ _ (h _)
      · exact h i
  | storeFrames published => exact hwrite _ _ (min_le_right _ _)
  | _ =>
      simp only
      repeat' split
      all_goals exact h i

theorem ArenaRun.Inv.push (h : run.Inv) (samples : List α) (channels : ℕ) :
    (run.step (.push samples channels)).Inv := by
  cases hpush : run.ingress.producer with
  | none =>
      have hstep : run.step (.push samples channels) = { run with
          ingress := { run.ingress with
            producer := some (run.ingress.enter samples channels) } } := by
        simp only [ArenaRun.step, IngressRun.step, hpush]
      rw [hstep]
      exact ⟨⟨h.feeds.fifo.enter hpush samples channels, h.feeds.channels, h.feeds.slotFrames,
        h.feeds.slots, h.feeds.reading⟩, h.tracks⟩
  | some push =>
      have hstep : run.step (.push samples channels) = run := by
        simp only [ArenaRun.step, IngressRun.step, hpush]
      rw [hstep]
      exact h

theorem ArenaRun.Inv.producer (h : run.Inv) : (run.step .producer).Inv := by
  cases hpush : run.ingress.producer with
  | none =>
      have hstep : run.step .producer = run := by
        simp only [ArenaRun.step, IngressRun.step, hpush]
      rw [hstep]
      exact h
  | some push =>
      have hstep : run.step .producer = { run with ingress := run.ingress.produce push } := by
        simp only [ArenaRun.step, IngressRun.step, hpush]
      rw [hstep]
      have hfifo := h.feeds.fifo.produce hpush
      have hframes : ∀ i, ((run.ingress.queue.tryPush push).1.slots i).frames ≤
          run.ingress.queue.cfg.slotFrames := IngressQueue.tryPush_frames h.feeds.slots
      have hcfg := run.ingress.queue.tryPush_cfg push
      unfold IngressRun.produce at hfifo ⊢
      generalize run.ingress.queue.tryPush push = result at hfifo hframes hcfg ⊢
      obtain ⟨queue, push' | outcome⟩ := result
      · simp only at hcfg hframes
        rw [← hcfg] at hframes
        exact ⟨⟨hfifo, hcfg ▸ h.feeds.channels, hcfg ▸ h.feeds.slotFrames, hframes,
          hcfg ▸ h.feeds.reading⟩, h.tracks⟩
      · simp only at hcfg hframes
        rw [← hcfg] at hframes
        exact ⟨⟨hfifo, hcfg ▸ h.feeds.channels, hcfg ▸ h.feeds.slotFrames, hframes,
          hcfg ▸ h.feeds.reading⟩, h.tracks⟩

theorem ArenaRun.Inv.deliver (h : run.Inv) (now : ℕ) {ingress : IngressRun α}
    (hfifo : ingress.Fifo) (hcfg : ingress.queue.cfg = run.ingress.queue.cfg)
    (hslots : ingress.queue.slots = run.ingress.queue.slots)
    (hreading : ingress.consumer.Reading ingress.queue.cfg ([] : List α))
    {block : List α} {frames : ℕ} (hblock : block.length = frames * run.channels)
    (hframes : frames ≤ run.worker.cfg.slotFrames) : (run.deliver ingress now block).Inv := by
  have htracks := h.tracks.consume ingress.queue.counters now hblock hframes
  have hkept : (run.worker.consumeSamples ingress.queue.counters now block).1.cfg =
      run.worker.cfg := by
    have hfits : block.length / run.worker.cfg.ring.channels ≤ run.worker.cfg.slotFrames := by
      rw [hblock, ArenaRun.channels, Nat.mul_div_cancel _ h.tracks.inv.channels_pos]
      exact hframes
    exact (h.tracks.inv.consumeSamples ingress.queue.counters now hfits).2.cfg
  simp only [ArenaRun.deliver]
  generalize run.worker.consumeSamples ingress.queue.counters now block = result at htracks hkept
  obtain ⟨worker, counters⟩ := result
  simp only at htracks hkept ⊢
  refine ⟨⟨?_, ?_, ?_, ?_, ?_⟩, ?_⟩
  · exact hfifo.congr rfl rfl rfl rfl rfl rfl rfl rfl
  · simp only [IngressRun.count, IngressQueue.setCounters, ArenaRun.channels, hcfg, hkept]
    exact h.feeds.channels
  · simp only [IngressRun.count, IngressQueue.setCounters, hcfg, hkept]
    exact h.feeds.slotFrames
  · simp only [IngressRun.count, IngressQueue.setCounters, hcfg, hslots]
    exact h.feeds.slots
  · exact hreading
  · simpa [ArenaRun.history, ArenaRun.channels] using htracks

theorem IngressRun.consume_cfg (run : IngressRun α) :
    run.consume.queue.cfg = run.queue.cfg ∧ run.consume.queue.slots = run.queue.slots := by
  obtain ⟨consumed, hqueue⟩ := run.queue.consumeNext_queue run.consumer
  simp only [IngressRun.consume, hqueue, and_self]

/-- Everything a step of the worker's reads can do: read on, or hand a block
of whole frames to the rings. -/
theorem ArenaRun.Inv.consume_cases (h : run.Inv) (now : ℕ) :
    (∃ block, run.ingress.consume.consumer.Reading run.ingress.queue.cfg block ∧
      (∀ consumed, run.ingress.consume.consumer ≠ .storeConsumed consumed) ∧
      run.consume now = { run with ingress := run.ingress.consume, block }) ∨
    (∃ consumed frames, run.ingress.consumer = .readSample consumed frames run.block.length ∧
      run.block.length = frames * run.channels ∧ frames ≤ run.worker.cfg.slotFrames ∧
      run.ingress.consume.consumer = .storeConsumed consumed ∧
      run.consume now = run.deliver run.ingress.consume now run.block) := by
  have hreading := h.feeds.reading
  have hconsumer : run.ingress.consume.consumer =
      (run.ingress.queue.consumeNext run.ingress.consumer).2.1 := rfl
  simp only [ArenaRun.consume]
  rw [hconsumer]
  cases hpc : run.ingress.consumer with
  | idle =>
      rw [hpc] at hreading
      simp only [IngressQueue.consumeNext, Option.toList_none, List.append_nil]
      exact .inl ⟨run.block, hreading, by simp, rfl⟩
  | loadPublished consumed =>
      rw [hpc] at hreading
      simp only [IngressQueue.consumeNext]
      split <;> simp only [Option.toList_none, List.append_nil] <;>
        exact .inl ⟨run.block, hreading, by simp, rfl⟩
  | loadFrames consumed =>
      rw [hpc] at hreading
      simp only [IngressQueue.consumeNext, Option.toList_none, List.append_nil]
      refine .inl ⟨run.block, ⟨?_, Nat.zero_le _, h.feeds.slots _⟩, by simp, rfl⟩
      rw [show run.block = [] from hreading]
      rfl
  | readSample consumed frames index =>
      rw [hpc] at hreading
      obtain ⟨rfl, hindex, hframes⟩ := hreading
      simp only [IngressQueue.consumeNext]
      split
      · rename_i hmore
        refine .inl ⟨_, ⟨?_, hmore, hframes⟩, by simp, rfl⟩
        simp only [Option.toList_some, List.length_append, List.length_singleton]
      · rename_i hdone
        simp only [Option.toList_none, List.append_nil]
        refine .inr ⟨consumed, frames, rfl, ?_, ?_, rfl, trivial⟩
        · rw [← h.feeds.channels]
          omega
        · rw [← h.feeds.slotFrames]
          exact hframes
  | storeConsumed consumed =>
      rw [hpc] at hreading
      simp only [IngressQueue.consumeNext, Option.toList_none, List.append_nil]
      exact .inl ⟨run.block, hreading, by simp, rfl⟩

theorem ArenaRun.Inv.consume (h : run.Inv) (now : ℕ) : (run.consume now).Inv := by
  obtain ⟨hcfg, hslots⟩ := run.ingress.consume_cfg
  rcases h.consume_cases now with
    ⟨block, hreading, -, heq⟩ | ⟨consumed, frames, -, hblock, hframes, hconsumer, heq⟩
  · rw [heq]
    refine ⟨⟨h.feeds.fifo.consume, hcfg ▸ h.feeds.channels, hcfg ▸ h.feeds.slotFrames, ?_,
      hcfg ▸ hreading⟩, h.tracks⟩
    rw [hslots, hcfg]
    exact h.feeds.slots
  · rw [heq]
    refine h.deliver now h.feeds.fifo.consume hcfg hslots ?_ hblock hframes
    rw [hconsumer]
    exact rfl

theorem ArenaRun.Inv.execute (h : run.Inv) (command : WorkerCommand) :
    (run.execute command).Inv := by
  have hexec := h.tracks.inv.executed run.ingress.queue.counters command
  have htracks := h.tracks.execute hexec
  have hcfg := hexec.cfg_eq
  refine ⟨⟨h.feeds.fifo, ?_, ?_, h.feeds.slots, h.feeds.reading⟩, htracks⟩
  · simp only [ArenaRun.execute, ArenaRun.channels, hcfg]
    exact h.feeds.channels
  · simp only [ArenaRun.execute, hcfg]
    exact h.feeds.slotFrames

theorem ArenaRun.Inv.step (h : run.Inv) (event : SessionEvent α) : (run.step event).Inv := by
  cases event with
  | push samples channels => exact h.push samples channels
  | producer => exact h.producer
  | worker now => exact h.consume now
  | command command =>
      simp only [ArenaRun.step]
      cases run.ingress.consumer with
      | idle => exact h.execute command
      | _ => exact h

theorem ArenaRun.Inv.steps (h : run.Inv) (events : List (SessionEvent α)) :
    (run.steps events).Inv :=
  List.foldlRecOn events ArenaRun.step h fun _ h event _ => h.step event

end Step

theorem ArenaRun.Inv.cfg_step {run : ArenaRun α} (h : run.Inv) (event : SessionEvent α) :
    (run.step event).worker.cfg = run.worker.cfg := by
  cases event with
  | push samples channels => rfl
  | producer => rfl
  | worker now =>
      rcases h.consume_cases now with
        ⟨block, -, -, heq⟩ | ⟨consumed, frames, -, hblock, hframes, -, heq⟩
      · simp only [ArenaRun.step, heq]
      · have hfits : run.block.length / run.worker.cfg.ring.channels ≤
            run.worker.cfg.slotFrames := by
          rw [hblock, ArenaRun.channels, Nat.mul_div_cancel _ h.tracks.inv.channels_pos]
          exact hframes
        simp only [ArenaRun.step, heq, ArenaRun.deliver]
        exact (h.tracks.inv.consumeSamples _ now hfits).2.cfg
  | command command =>
      simp only [ArenaRun.step]
      cases run.ingress.consumer with
      | idle => exact (h.tracks.inv.executed run.ingress.queue.counters command).cfg_eq
      | _ => rfl

theorem ArenaRun.Inv.cfg_steps {run : ArenaRun α} (h : run.Inv)
    (events : List (SessionEvent α)) : (run.steps events).worker.cfg = run.worker.cfg := by
  induction events generalizing run with
  | nil => rfl
  | cons event events ih => exact (ih (h.step event)).trans (h.cfg_step event)

/-- A held epoch is no longer than the rings. -/
theorem WorkerState.Holds.total_le {worker : WorkerState α} {history : List α}
    {descriptor : FrozenDescriptor} (h : worker.Holds history descriptor) (hinv : worker.Inv) :
    descriptor.absoluteRange.stop - descriptor.absoluteRange.start ≤ worker.cfg.ring.chunkCount * worker.cfg.ring.chunkFrames := by
  obtain ⟨accepted, hrep, -⟩ := h.contents
  have hwindow := hrep.window_le
  rw [(hinv.epochs descriptor.index).cfg_eq] at hwindow
  have hhead := h.head
  have holdest := h.oldest
  omega

/-! ### What a frozen epoch reads -/

theorem slice_of_isPrefix {xs ys : List α} (h : xs <+: ys) {start len : ℕ}
    (hlen : start + len ≤ xs.length) : slice xs start len = slice ys start len := by
  obtain ⟨rest, rfl⟩ := h
  simp only [slice]
  rw [List.drop_append_of_le_length (by omega), List.take_append_of_le_length]
  rw [List.length_drop]
  omega

theorem slice_drop (xs : List α) (offset start len : ℕ) :
    slice (xs.drop offset) start len = slice xs (offset + start) len := by
  simp only [slice, List.drop_drop]

/-- An epoch that is still held reads the accepted history over its range. -/
theorem WorkerState.Holds.copy {worker : WorkerState α} {history : List α}
    (hinv : worker.Inv) {frozen : FrozenCaptureEpoch}
    (h : worker.Holds history frozen.descriptor) (hreleased : frozen.released = false)
    (hpending : frozen.releasePending = false) {range : Range}
    (hlow : frozen.absoluteRange.start ≤ range.start) (horder : range.start ≤ range.stop)
    (hhigh : range.stop ≤ frozen.absoluteRange.stop) {destination : List α} {frames : ℕ}
    (hlength : destination.length = frames * worker.cfg.ring.channels)
    (hlimit : range.start - frozen.descriptor.base + frames ≤ u64Max) :
    frozen.copyInterleavedRangeInto (worker.epochs frozen.descriptor.index) range destination =
      .ok (min (range.stop - range.start) frames,
        copyFromSlice destination 0 (slice history (range.start * worker.cfg.ring.channels)
          (min (range.stop - range.start) frames * worker.cfg.ring.channels))) := by
  have hcfg := (hinv.epochs frozen.descriptor.index).cfg_eq
  have hhead := h.head
  have holdest := h.oldest
  obtain ⟨accepted, hrep, hpre⟩ := h.contents
  have hacceptedLength := hrep.history_length
  have hwindow : (worker.epochs frozen.descriptor.index).oldestFrameAt
      (worker.epochs frozen.descriptor.index).globalWriteFrame =
      (worker.epochs frozen.descriptor.index).oldestFrame := rfl
  unfold FrozenCaptureEpoch.absoluteRange at hlow hhigh
  unfold FrozenCaptureEpoch.copyInterleavedRangeInto FrozenCaptureEpoch.absoluteRange
  rw [if_neg (by simp [hreleased]), if_neg (by simp [hpending]), if_neg (by omega)]
  rw [hrep.copy_inside _ destination frames (by simp only; omega) (by rw [hwindow]; simp only; omega)
    (by simp only; omega) (by rw [hcfg]; exact hlength) (by simp only; omega)]
  rw [hcfg] at hacceptedLength ⊢
  simp only
  have hcount : range.stop - frozen.descriptor.base - (range.start - frozen.descriptor.base) =
      range.stop - range.start := by omega
  rw [hcount]
  set count := min (range.stop - range.start) frames
  have hfits : (range.start - frozen.descriptor.base) * worker.cfg.ring.channels +
      count * worker.cfg.ring.channels ≤ accepted.length := by
    rw [hacceptedLength, ← Nat.add_mul]
    exact Nat.mul_le_mul_right _ (by omega)
  rw [slice_of_isPrefix hpre hfits, slice_drop, ← Nat.add_mul]
  have hstart : frozen.descriptor.base + (range.start - frozen.descriptor.base) =
      range.start := by omega
  rw [hstart]

theorem FrozenCaptureEpoch.limit_of_copy {frozen : FrozenCaptureEpoch} {ring : SampleRing α}
    {range : Range} {destination : List α} {copied : ℕ × List α}
    (h : frozen.copyInterleavedRangeInto ring range destination = .ok copied) :
    range.start - frozen.descriptor.base + destination.length / ring.cfg.channels ≤ u64Max := by
  unfold FrozenCaptureEpoch.copyInterleavedRangeInto at h
  split_ifs at h
  exact SampleRing.limit_of_copy h

/-! ### Until the release -/

/-- `record` is still frozen, with the ring it had. -/
def WorkerState.Keeps (worker : WorkerState α) (record : FrozenRecord) (ring : SampleRing α) :
    Prop :=
  worker.frozen = some record ∧ worker.epochs record.index = ring

/-- `record` was released and its generation is never granted again. -/
def WorkerState.Past (worker : WorkerState α) (record : FrozenRecord) : Prop :=
  worker.frozen ≠ some record ∧ record.generation ≤ worker.nextGeneration

theorem WorkerState.Tracks.keeps_consume {worker : WorkerState α} {history : List α}
    {granted : Option FrozenDescriptor} (h : worker.Tracks history granted) (queue : DropCounters)
    (now : ℕ) {block : List α} {frames : ℕ}
    (hblock : block.length = frames * worker.cfg.ring.channels)
    (hframes : frames ≤ worker.cfg.slotFrames) {record : FrozenRecord} {ring : SampleRing α}
    (hkeeps : worker.Keeps record ring ∨ worker.Past record) :
    (worker.consumeSamples queue now block).1.Keeps record ring ∨
      (worker.consumeSamples queue now block).1.Past record := by
  have hfits : block.length / worker.cfg.ring.channels ≤ worker.cfg.slotFrames := by
    rw [hblock, Nat.mul_div_cancel _ h.inv.channels_pos]
    exact hframes
  rcases h.inv.consumeSamples_cases queue now hfits with
    ⟨dropped, fault, heq⟩ | ⟨written, -, -, -, -, heq⟩
  · rw [heq]
    exact hkeeps
  · rw [heq]
    refine hkeeps.imp_left fun ⟨hfrozen, hring⟩ => ⟨hfrozen, ?_⟩
    simp only [Function.update_of_ne (h.inv.frozen record hfrozen)]
    exact hring

theorem WorkerState.Tracks.keeps_execute {worker : WorkerState α} {history : List α}
    {granted : Option FrozenDescriptor} (h : worker.Tracks history granted)
    {command : WorkerCommand} {result : Result WorkerReply} {worker' : WorkerState α}
    (hexec : worker.Executed command result worker') {record : FrozenRecord}
    {ring : SampleRing α} (hkeeps : worker.Keeps record ring ∨ worker.Past record) :
    worker'.Keeps record ring ∨ worker'.Past record := by
  cases hexec with
  | same => exact hkeeps
  | switched committedStart other droppedFrames lastOverrun hnone =>
      rcases hkeeps with ⟨hfrozen, -⟩ | hpast
      · exact absurd (hnone.symm.trans hfrozen) (by simp)
      · exact .inr hpast
  | frozen committedStart other droppedFrames lastOverrun start hnone =>
      rcases hkeeps with ⟨hfrozen, -⟩ | ⟨-, hgeneration⟩
      · exact absurd (hnone.symm.trans hfrozen) (by simp)
      · refine .inr ⟨?_, hgeneration.trans (Nat.le_succ _)⟩
        rintro heq
        obtain rfl := Option.some.inj heq
        simp only at hgeneration
        omega
  | released index generation other droppedFrames lastOverrun hfrozen =>
      rcases hkeeps with ⟨hrecord, -⟩ | ⟨-, hgeneration⟩
      · exact .inr ⟨by simp, h.generation record hrecord⟩
      · exact .inr ⟨by simp, hgeneration⟩
  | cleared =>
      refine hkeeps.imp_left fun ⟨hfrozen, hring⟩ => ⟨hfrozen, ?_⟩
      simp only [Function.update_of_ne (h.inv.frozen record hfrozen)]
      exact hring

theorem ArenaRun.Inv.keeps_step {run : ArenaRun α} (h : run.Inv) (event : SessionEvent α)
    {record : FrozenRecord} {ring : SampleRing α}
    (hkeeps : run.worker.Keeps record ring ∨ run.worker.Past record) :
    (run.step event).worker.Keeps record ring ∨ (run.step event).worker.Past record := by
  cases event with
  | push samples channels => exact hkeeps
  | producer => exact hkeeps
  | worker now =>
      rcases h.consume_cases now with
        ⟨block, -, -, heq⟩ | ⟨consumed, frames, -, hblock, hframes, -, heq⟩
      · simp only [ArenaRun.step, heq]
        exact hkeeps
      · simp only [ArenaRun.step, heq, ArenaRun.deliver]
        exact h.tracks.keeps_consume _ now hblock hframes hkeeps
  | command command =>
      simp only [ArenaRun.step]
      cases run.ingress.consumer with
      | idle =>
          exact h.tracks.keeps_execute
            (h.tracks.inv.executed run.ingress.queue.counters command) hkeeps
      | _ => exact hkeeps

theorem ArenaRun.Inv.keeps_steps {run : ArenaRun α} (h : run.Inv)
    (events : List (SessionEvent α)) {record : FrozenRecord} {ring : SampleRing α}
    (hkeeps : run.worker.Keeps record ring ∨ run.worker.Past record) :
    (run.steps events).worker.Keeps record ring ∨ (run.steps events).worker.Past record := by
  induction events generalizing run with
  | nil => exact hkeeps
  | cons event events ih => exact ih (h.step event) (h.keeps_step event hkeeps)

theorem copyFromSlice_whole {xs src : List α} (h : xs.length = src.length) :
    copyFromSlice xs 0 src = src := by
  simp [copyFromSlice, h]

/-- The epochs of every session. The active epoch ends at the number of frames
the worker has accepted; there is one frozen epoch at most, and it is not the
active one; it ends at or before the base of the active epoch, reads the
accepted history over its range, and its ring stays as it is until it is
released; a freeze that fails changes nothing, and one that grants nothing
leaves behind only frames before the cursor it was given. -/
theorem arena_epoch_invariant {cfg : ArenaConfig} {zero : α} {worker₀ : WorkerState α}
    (hnew : WorkerState.new cfg zero = .ok worker₀) (slotCount : ℕ)
    (hpos : 0 < worker₀.cfg.slotFrames) (events : List (SessionEvent α)) :
    let run := (ArenaRun.start worker₀ slotCount hpos zero).steps events
    let worker := run.worker
    let active := worker.epochs worker.active
    (run.history.length =
        (worker.bases worker.active + active.writeHeadFrame) * worker.cfg.ring.channels ∧
      worker.workerWrittenFrames = worker.bases worker.active + active.writeHeadFrame) ∧
    (∀ record, worker.frozen = some record → record.index ≠ worker.active ∧
      ∃ descriptor, run.granted = some descriptor ∧
        record = ⟨descriptor.index, descriptor.generation⟩) ∧
    (∀ descriptor, run.granted = some descriptor →
      worker.frozen = some ⟨descriptor.index, descriptor.generation⟩ ∧
      descriptor.absoluteRange.start < descriptor.absoluteRange.stop ∧
      descriptor.absoluteRange.stop ≤ worker.bases worker.active ∧
      ∀ (runtimeId : ℕ) (range : Range) (destination : List α),
        descriptor.absoluteRange.start ≤ range.start → range.start ≤ range.stop →
        range.stop ≤ descriptor.absoluteRange.stop →
        destination.length = (range.stop - range.start) * worker.cfg.ring.channels →
        FrozenCaptureEpoch.copyInterleavedRangeInto ⟨runtimeId, descriptor, false, false⟩
            (worker.epochs descriptor.index) range destination =
          .ok (range.stop - range.start,
            slice run.history (range.start * worker.cfg.ring.channels)
              ((range.stop - range.start) * worker.cfg.ring.channels))) ∧
    (∀ record later, worker.frozen = some record →
      (run.steps later).worker.frozen = some record →
      (run.steps later).worker.epochs record.index = worker.epochs record.index) ∧
    (∀ committedStart e,
      (worker.processCommand run.ingress.queue.counters (.freeze committedStart)).1 = .error e →
      (worker.processCommand run.ingress.queue.counters (.freeze committedStart)).2 = worker) ∧
    (∀ committedStart,
      (worker.processCommand run.ingress.queue.counters (.freeze committedStart)).1 =
        .ok (.frozen none) →
      ∀ frame, worker.bases worker.active + active.oldestFrame ≤ frame →
        frame < worker.bases worker.active + active.writeHeadFrame →
        ∃ cursor, committedStart = some cursor ∧ frame < cursor) := by
  intro run worker active
  have hinv : run.Inv := (ArenaRun.Inv.start hnew slotCount hpos).steps events
  have htracks := hinv.tracks
  have hhead : worker.bases worker.active + active.writeHeadFrame = worker.absoluteHead :=
    htracks.inv.head
  rw [hhead]
  refine ⟨⟨htracks.length, htracks.written⟩, ?_, ?_, ?_, ?_, ?_⟩
  · intro record hrecord
    refine ⟨htracks.inv.frozen record hrecord, ?_⟩
    cases hgranted : run.granted with
    | none =>
        have hnone := htracks.free hgranted
        exact absurd (hnone.symm.trans hrecord) (by simp)
    | some descriptor =>
        have hholds := htracks.holds descriptor hgranted
        exact ⟨descriptor, rfl, Option.some.inj (hrecord.symm.trans hholds.record)⟩
  · intro descriptor hgranted
    have hholds := htracks.holds descriptor hgranted
    refine ⟨hholds.record, hholds.nonempty, hholds.stop_le, ?_⟩
    intro runtimeId range destination hlow horder hhigh hlength
    have hstop := hholds.stop_le
    have hle := htracks.inv.head_le
    have hactive := htracks.inv.head
    have hcopy := WorkerState.Holds.copy htracks.inv
      (show worker.Holds run.history
        (FrozenCaptureEpoch.mk runtimeId descriptor false false).descriptor from hholds)
      rfl rfl hlow horder hhigh hlength (by omega)
    rw [hcopy, min_self, copyFromSlice_whole]
    rw [hlength, length_slice_of_le]
    rw [htracks.length, ← Nat.add_mul]
    exact Nat.mul_le_mul_right _ (by omega)
  · intro record later hrecord hlater
    rcases hinv.keeps_steps later (.inl ⟨hrecord, rfl⟩) with ⟨-, hring⟩ | ⟨hpast, -⟩
    · exact hring
    · exact absurd hlater hpast
  · intro committedStart e herror
    have hexec := htracks.inv.executed run.ingress.queue.counters (.freeze committedStart)
    rw [herror] at hexec
    exact hexec.of_error
  · intro committedStart hnone frame holdest hframe
    have hexec := htracks.inv.executed run.ingress.queue.counters (.freeze committedStart)
    rw [hnone] at hexec
    exact hexec.of_none holdest hframe

/-- Rings of two chunks of two frames. -/
def smallArena : ArenaConfig where
  ring :=
    { channels := 1
      sampleRate := 1
      format := .f32Le
      chunkFrames := 2
      chunkCount := 2
      maxActiveSnapshots := 1 }
  slotFrames := 2
  slotFrames_le := le_rfl

/-- Two frames are pushed, read and frozen. -/
def freezeTwo : List (SessionEvent ℕ) :=
  .push [7, 8] 1 :: List.replicate 12 .producer ++ List.replicate 7 (.worker 0) ++
    [.command (.freeze none)]

theorem arena_epoch_invariant_two :
    ∃ worker₀, WorkerState.new smallArena (0 : ℕ) = .ok worker₀ ∧
      ∃ hpos : 0 < worker₀.cfg.slotFrames, ∃ descriptor,
        let run := (ArenaRun.start worker₀ 4 hpos 0).steps freezeTwo
        run.granted = some descriptor ∧
        FrozenCaptureEpoch.copyInterleavedRangeInto ⟨1, descriptor, false, false⟩
          (run.worker.epochs descriptor.index) ⟨0, 2⟩ [0, 0] = .ok (2, [7, 8]) := by
  refine ⟨_, rfl, by decide, ⟨0, 2, 0, ⟨0, 2⟩, ⟨0, 2⟩, 1, 1, .f32Le⟩, by decide +kernel, ?_⟩
  have hreads := (@arena_epoch_invariant ℕ smallArena 0 _ rfl 4 (by decide) freezeTwo).2.2.1
    ⟨0, 2, 0, ⟨0, 2⟩, ⟨0, 2⟩, 1, 1, .f32Le⟩ (by decide +kernel)
  rw [hreads.2.2.2 1 ⟨0, 2⟩ [0, 0] (by decide) (by decide) (by decide) (by decide +kernel)]
  decide +kernel

end Lamb.Arena
