import Lamb.Arena.CalibrationCapture

/-!
One channel of what was pushed. The frames pushed since some push only grow; a
capture fits them as long as its boundary is the end of the pushes before it and
what it holds is the channel of the blocks behind the boundary that the worker has
been given. Once a frame was dropped nothing is said about it.
-/

namespace Lamb.Arena

open Lamb.CalibrationSlot Lamb.Ring

variable {α : Type}

/-! ### One channel -/

section Channel

variable {channels channel : ℕ} {xs ys : List α}

theorem channelOf_append (hchannel : channel < channels) (hwhole : channels ∣ xs.length) :
    channelOf channels channel (xs ++ ys) =
      channelOf channels channel xs ++ channelOf channels channel ys := by
  obtain ⟨frames, hframes⟩ := hwhole
  have hpos : 0 < channels := by omega
  have hxs : xs.length = frames * channels := by rw [hframes, Nat.mul_comm]
  have hlength : (xs ++ ys).length / channels = frames + ys.length / channels := by
    rw [List.length_append, hxs, Nat.add_comm, Nat.add_mul_div_right _ _ hpos, Nat.add_comm]
  have hfirst : xs.length / channels = frames := by rw [hxs, Nat.mul_div_cancel _ hpos]
  unfold channelOf
  rw [hlength, hfirst, deinterleave_append channels channel frames _ xs ys hxs hchannel]

theorem channelOf_initial (hchannel : channel < channels) (h : xs <+: ys) :
    channelOf channels channel xs <+: channelOf channels channel ys := by
  obtain ⟨zs, rfl⟩ := h
  have hle : xs.length / channels ≤ (xs ++ zs).length / channels :=
    Nat.div_le_div_right (by simp)
  obtain ⟨more, hmore⟩ := Nat.exists_eq_add_of_le hle
  have hsame : deinterleave channels channel (xs.length / channels) xs =
      deinterleave channels channel (xs.length / channels) (xs ++ zs) := by
    refine List.filterMap_congr fun frame hframe => ?_
    rw [List.mem_range] at hframe
    have hinside : (frame + 1) * channels ≤ xs.length :=
      (Nat.mul_le_mul_right channels hframe).trans (Nat.div_mul_le_self _ _)
    rw [Nat.succ_mul] at hinside
    rw [List.getElem?_append_left (by omega)]
  unfold channelOf
  rw [hsame, hmore]
  unfold deinterleave
  rw [List.range_add, List.filterMap_append]
  exact List.prefix_append _ _

/-- Copying a block appends its channel, up to the limit. -/
theorem copyChannel_eq {limit : ℕ} {block copied : List α} (hle : copied.length ≤ limit) :
    copyChannel channels channel limit block copied =
      (copied ++ channelOf channels channel block).take limit := by
  unfold copyChannel channelOf deinterleave
  generalize List.range (block.length / channels) = frames
  induction frames generalizing copied with
  | nil =>
      simp only [List.foldl_nil, List.filterMap_nil, List.append_nil]
      rw [List.take_of_length_le hle]
  | cons frame frames ih =>
      rw [List.foldl_cons, List.filterMap_cons]
      by_cases hfull : copied.length = limit
      · rw [if_pos hfull, ih hle, List.take_append_of_le_length hfull.ge,
          List.take_append_of_le_length hfull.ge]
      · rw [if_neg hfull]
        cases block[frame * channels + channel]? with
        | none =>
            rw [Option.toList_none, List.append_nil]
            exact ih hle
        | some sample =>
            rw [Option.toList_some, ih (by
              rw [List.length_append, List.length_singleton]
              omega), List.append_assoc, List.singleton_append]

end Channel

/-! ### What a push pushes -/

/-- A push that is about to drop frames has some left. -/
def Push.Within (push : Push α) : Prop :=
  match push.pc with
  | .checkExhausted _ | .addCumulative _ => push.sourceFrame < push.totalFrames
  | _ => push.sourceFrame ≤ push.totalFrames

/-- The frames that the push drops are counted. -/
def PushPc.Counted : PushPc → Prop
  | .addDropped _ => True
  | _ => False

theorem Push.acceptedSamples_eq {push : Push α} {cfg : QueueConfig} (hshaped : push.Shaped cfg)
    (hall : push.totalFrames ≤ push.sourceFrame) : push.acceptedSamples = push.samples := by
  obtain ⟨-, hpos, hwhole⟩ := hshaped
  have htotal : push.totalFrames * push.channels = push.samples.length :=
    Nat.div_mul_cancel (Nat.dvd_of_mod_eq_zero hwhole)
  unfold Push.acceptedSamples
  rw [List.take_of_length_le]
  rw [← htotal]
  exact Nat.mul_le_mul_right _ hall

/-- What a step of `try_push` does to the drop counter, and to the frames it
returns without. -/
theorem Push.At.tryPush_drops {push : Push α} {queue : IngressQueue α} (hat : push.At queue)
    (hwithin : push.Within) :
    queue.cumulativeDroppedFrames ≤ (queue.tryPush push).1.cumulativeDroppedFrames ∧
      match (queue.tryPush push).2 with
      | .running push' =>
          push'.samples = push.samples ∧ push'.Within ∧
            (push'.pc.Counted → queue.cumulativeDroppedFrames <
              (queue.tryPush push).1.cumulativeDroppedFrames)
      | .done result =>
          (∀ outcome, result = .ok outcome →
            push.acceptedSamples = push.samples ∨ push.pc.Counted) := by
  obtain ⟨samples, channels, sourceFrame, enqueuedFrames, pc, before⟩ := push
  cases pc with
  | enter =>
      simp only [IngressQueue.tryPush]
      split
      · exact ⟨le_rfl, fun _ h => by cases h⟩
      split
      · exact ⟨le_rfl, fun _ h => by cases h⟩
      split
      · exact ⟨le_rfl, fun _ h => by cases h⟩
      · exact ⟨le_rfl, rfl, hwithin, fun h => by cases h⟩
  | loop =>
      simp only [IngressQueue.tryPush]
      split
      · exact ⟨le_rfl, rfl, hwithin, fun h => by cases h⟩
      · next hall => exact ⟨le_rfl, fun _ _ => .inl (Push.acceptedSamples_eq hat (not_lt.mp hall))⟩
  | loadConsumed published =>
      obtain ⟨hshaped, heq, hlt⟩ := hat
      simp only [IngressQueue.tryPush]
      split
      · exact ⟨le_rfl, fun _ h => by cases h⟩
      split
      · exact ⟨le_rfl, rfl, hlt, fun h => by cases h⟩
      split
      · exact ⟨le_rfl, fun _ h => by cases h⟩
      · exact ⟨le_rfl, rfl, hwithin, fun h => by cases h⟩
  | checkExhausted published =>
      simp only [IngressQueue.tryPush]
      split
      · exact ⟨le_rfl, fun _ h => by cases h⟩
      · exact ⟨le_rfl, rfl, hwithin, fun h => by cases h⟩
  | addCumulative published =>
      have hlt : sourceFrame < samples.length / channels := hwithin
      simp only [IngressQueue.tryPush]
      split
      · exact ⟨le_rfl, rfl, hlt.le, fun h => by cases h⟩
      · next total htotal =>
          obtain ⟨rfl, -⟩ := checkedAdd_eq_some.mp htotal
          have hdrop : 0 < samples.length / channels - sourceFrame := by omega
          exact ⟨Nat.le_add_right _ _, rfl, hlt.le, fun _ => Nat.lt_add_of_pos_right hdrop⟩
  | addDropped published =>
      simp only [IngressQueue.tryPush]
      split
      · exact ⟨le_rfl, rfl, hwithin, fun h => by cases h⟩
      · exact ⟨le_rfl, fun _ _ => .inr trivial⟩
  | markExhausted message => exact ⟨le_rfl, fun _ h => by cases h⟩
  | addEnqueued published =>
      simp only [IngressQueue.tryPush]
      split
      · exact ⟨le_rfl, fun _ h => by cases h⟩
      · exact ⟨le_rfl, rfl, hwithin, fun h => by cases h⟩
  | copySample published index =>
      simp only [IngressQueue.tryPush]
      split
      · exact ⟨le_rfl, rfl, hwithin, fun h => by cases h⟩
      · exact ⟨le_rfl, rfl, hwithin, fun h => by cases h⟩
  | storeFrames published => exact ⟨le_rfl, rfl, hwithin, fun h => by cases h⟩
  | storePublished published =>
      refine ⟨le_rfl, rfl, ?_, fun h => by cases h⟩
      obtain ⟨-, hfills, -⟩ := hat
      have hlt := hfills.source_lt
      simp only [Push.Within, Push.totalFrames, Push.slotFrames] at hlt ⊢
      omega

/-- What was pushed since some push has only grown. -/
def IngressRun.Extends (run run' : IngressRun α) : Prop :=
  ∀ n, (run.pushes.drop n).flatten <+: (run'.pushes.drop n).flatten

theorem flatten_drop_prefix (earlier : List (List α)) {last last' : List α} (h : last <+: last')
    (n : ℕ) : ((earlier ++ [last]).drop n).flatten <+: ((earlier ++ [last']).drop n).flatten := by
  rw [List.drop_append, List.drop_append, List.flatten_append, List.flatten_append,
    List.prefix_append_right_inj]
  cases n - earlier.length with
  | zero => simpa using h
  | succ more => simp

theorem flatten_drop_append (earlier later : List (List α)) (n : ℕ) :
    (earlier.drop n).flatten <+: ((earlier ++ later).drop n).flatten := by
  rw [List.drop_append, List.flatten_append]
  exact List.prefix_append _ _

theorem IngressRun.Extends.refl (run : IngressRun α) : run.Extends run :=
  fun _ => List.prefix_rfl

theorem IngressRun.Extends.enter {run : IngressRun α} (hnone : run.producer = none)
    (samples : List α) (channels : ℕ) :
    run.Extends { run with producer := some (run.enter samples channels) } := by
  intro n
  simp only [IngressRun.pushes, hnone, Option.map_none, Option.toList_none, List.append_nil]
  exact flatten_drop_append _ _ n

theorem Push.acceptedSamples_prefix (push : Push α) : push.acceptedSamples <+: push.samples :=
  List.take_prefix _ _

theorem PushRecord.accepted_initial (record : PushRecord α) :
    record.push.acceptedSamples <+: record.pushed := by
  unfold PushRecord.pushed
  split
  · exact record.push.acceptedSamples_prefix
  · exact List.prefix_rfl

theorem IngressRun.Extends.produce {run : IngressRun α} {push : Push α} {blocks : List (List α)}
    (hpush : run.producer = some push) (hat : push.At run.queue)
    (hstores : run.queue.Stores blocks) : run.Extends (run.produce push) := by
  obtain ⟨added, -, -, -, hstep⟩ := hat.tryPush hstores
  intro n
  unfold IngressRun.produce
  generalize run.queue.tryPush push = result at hstep ⊢
  obtain ⟨queue, push' | result⟩ := result
  · simp only [IngressRun.pushes, hpush, Option.map_some, Option.toList_some]
    refine flatten_drop_prefix _ ?_ n
    rw [hstep.2]
    exact List.prefix_append _ _
  · simp only [IngressRun.pushes, hpush, Option.map_some, Option.toList_some, Option.map_none,
      Option.toList_none, List.append_nil, List.map_append, List.map_singleton]
    exact flatten_drop_prefix _ (run.record queue push result).accepted_initial n

/-! ### The invariant -/

/-- How many blocks the callback has been given. -/
def IngressRun.processed (run : IngressRun α) : ℕ :=
  match run.consumer with
  | .storeConsumed consumed => consumed + 1
  | _ => run.queue.consumedSequence

/-- The samples of the blocks from `first` on that the callback has been given. -/
def IngressRun.handed (run : IngressRun α) (blocks : List (List α)) (first : ℕ) : List α :=
  ((blocks.take run.processed).drop first).flatten

/-- Nothing was dropped since the request was taken: every push kept all its
frames, and every block behind the boundary was copied. -/
structure CalibrationCapture.Clean (capture : CalibrationCapture α) (run : IngressRun α)
    (blocks : List (List α)) : Prop where
  kept : ∀ record ∈ run.finished.drop capture.begun, record.pushed = record.push.acceptedSamples
  uncounted : ∀ push, run.producer = some push → ¬push.pc.Counted
  whole : run.queue.cfg.channels ∣ (run.handed blocks capture.firstSequence).length
  copied : capture.samples =
    (channelOf run.queue.cfg.channels capture.request.channel
      (run.handed blocks capture.firstSequence)).take capture.request.frames

/-- The boundary of a capture is the end of the pushes before it. -/
structure CalibrationCapture.Fits (capture : CalibrationCapture α) (run : IngressRun α)
    (blocks : List (List α)) : Prop where
  channel_lt : capture.request.channel < run.queue.cfg.channels
  first_le : capture.firstSequence ≤ blocks.length
  begun_le : capture.begun ≤ run.finished.length
  boundary : (blocks.take capture.firstSequence).flatten =
    (run.finished.take capture.begun).flatMap fun record => record.push.acceptedSamples
  samples_le : capture.samples.length ≤ capture.request.frames
  dropped_le : capture.droppedAtAcceptance ≤ run.queue.cumulativeDroppedFrames
  clean : run.queue.cumulativeDroppedFrames = capture.droppedAtAcceptance →
    capture.Clean run blocks

/-- The samples are the first frames of one channel pushed since. -/
structure Contiguous (run : IngressRun α) (request : CalibrationRequest) (begun : ℕ)
    (samples : List α) : Prop where
  length : samples.length = request.frames
  isPrefix : samples <+:
    channelOf run.queue.cfg.channels request.channel (run.pushes.drop begun).flatten

theorem Contiguous.mono {run run' : IngressRun α} {request : CalibrationRequest} {begun : ℕ}
    {samples : List α} (h : Contiguous run request begun samples)
    (hchannel : request.channel < run.queue.cfg.channels) (hcfg : run'.queue.cfg = run.queue.cfg)
    (hextends : run.Extends run') : Contiguous run' request begun samples := by
  refine ⟨h.length, h.isPrefix.trans ?_⟩
  rw [hcfg]
  exact channelOf_initial hchannel (hextends begun)

theorem ConsumePc.Delivered.processed_le {run : IngressRun α} {blocks : List (List α)}
    (h : run.Blocks blocks) : run.processed ≤ blocks.length := by
  have hdelivered := h.delivered
  have hle := h.stores.consumed_le
  rw [h.stores.length]
  unfold IngressRun.processed
  split
  · next consumed hconsumer =>
      rw [hconsumer] at hdelivered
      exact hdelivered.2.1
  · exact hle

/-- A clean capture holds the frames pushed since the request was taken. -/
theorem CalibrationCapture.Fits.contiguous {capture : CalibrationCapture α} {run : IngressRun α}
    {blocks : List (List α)} (h : capture.Fits run blocks) (hblocks : run.Blocks blocks)
    (hlength : capture.samples.length = capture.request.frames)
    (hclean : run.queue.cumulativeDroppedFrames = capture.droppedAtAcceptance) :
    Contiguous run capture.request capture.begun capture.samples := by
  have hc := h.clean hclean
  refine ⟨hlength, ?_⟩
  have hpushed : (run.pushes.drop capture.begun).flatten =
      (blocks.drop capture.firstSequence).flatten := by
    have haccepted := hblocks.accepted
    rw [← List.take_append_drop capture.firstSequence blocks, List.flatten_append, h.boundary,
      IngressRun.accepted, ← List.take_append_drop capture.begun run.finished,
      List.flatMap_append, List.append_assoc,
      List.take_append_drop capture.begun run.finished] at haccepted
    have hsince := List.append_cancel_left haccepted
    have hdrop : run.pushes.drop capture.begun =
        (run.finished.drop capture.begun).map PushRecord.pushed ++
          (run.producer.map Push.acceptedSamples).toList := by
      have hle : capture.begun ≤ (run.finished.map PushRecord.pushed).length := by
        rw [List.length_map]
        exact h.begun_le
      rw [IngressRun.pushes, List.drop_append_of_le_length hle, ← List.map_drop]
    rw [hdrop, List.map_congr_left hc.kept, List.flatten_append, ← hsince, List.flatMap_def]
    congr 1
    cases run.producer with
    | none => rfl
    | some push => simp
  rw [hc.copied, hpushed]
  refine (List.take_prefix _ _).trans (channelOf_initial h.channel_lt ?_)
  unfold IngressRun.handed
  rw [List.drop_take]
  exact (List.take_prefix _ _).flatten

/-- A capture still fits when the queue has grown and the callback has been given
no other block. -/
theorem CalibrationCapture.Fits.grow {capture : CalibrationCapture α} {run run' : IngressRun α}
    {blocks : List (List α)} (h : capture.Fits run blocks) (hblocks : run.Blocks blocks)
    (added : List (List α)) (more : List (PushRecord α)) (hcfg : run'.queue.cfg = run.queue.cfg)
    (hprocessed : run'.processed = run.processed) (hfinished : run'.finished = run.finished ++ more)
    (hdropped : run.queue.cumulativeDroppedFrames ≤ run'.queue.cumulativeDroppedFrames)
    (hclean : run'.queue.cumulativeDroppedFrames = run.queue.cumulativeDroppedFrames →
      capture.Clean run blocks →
      (∀ record ∈ more, record.pushed = record.push.acceptedSamples) ∧
        ∀ push, run'.producer = some push → ¬push.pc.Counted) :
    capture.Fits run' (blocks ++ added) := by
  have hhanded : run'.handed (blocks ++ added) capture.firstSequence =
      run.handed blocks capture.firstSequence := by
    unfold IngressRun.handed
    rw [hprocessed, List.take_append_of_le_length (ConsumePc.Delivered.processed_le hblocks)]
  refine ⟨hcfg ▸ h.channel_lt, ?_, ?_, ?_, h.samples_le, h.dropped_le.trans hdropped,
    fun hsame => ?_⟩
  · rw [List.length_append]
    exact h.first_le.trans (Nat.le_add_right _ _)
  · rw [hfinished, List.length_append]
    exact h.begun_le.trans (Nat.le_add_right _ _)
  · rw [hfinished, List.take_append_of_le_length h.first_le,
      List.take_append_of_le_length h.begun_le]
    exact h.boundary
  · have hle := h.dropped_le
    have hequal : run'.queue.cumulativeDroppedFrames = run.queue.cumulativeDroppedFrames := by omega
    have hbefore := h.clean (hequal ▸ hsame)
    obtain ⟨hmore, huncounted⟩ := hclean hequal hbefore
    refine ⟨?_, huncounted, ?_, ?_⟩
    · rw [hfinished, List.drop_append_of_le_length h.begun_le]
      intro record hrecord
      rcases List.mem_append.mp hrecord with hold | hnew
      · exact hbefore.kept record hold
      · exact hmore record hnew
    · rw [hcfg, hhanded]
      exact hbefore.whole
    · rw [hcfg, hhanded]
      exact hbefore.copied

theorem CalibrationCapture.Fits.enter {capture : CalibrationCapture α} {run : IngressRun α}
    {blocks : List (List α)} (h : capture.Fits run blocks) (hblocks : run.Blocks blocks)
    (samples : List α) (channels : ℕ) :
    capture.Fits { run with producer := some (run.enter samples channels) } blocks := by
  have hgrown : capture.Fits { run with producer := some (run.enter samples channels) }
      (blocks ++ []) := by
    refine h.grow hblocks [] [] rfl rfl (by simp) le_rfl fun _ _ => ⟨by simp, ?_⟩
    intro push hpush
    obtain rfl := Option.some.inj hpush
    exact id
  rwa [List.append_nil] at hgrown

theorem CalibrationCapture.Fits.produce {capture : CalibrationCapture α} {run : IngressRun α}
    {blocks added : List (List α)} {push : Push α} (h : capture.Fits run blocks)
    (hblocks : run.Blocks blocks) (hpush : run.producer = some push) (hat : push.At run.queue)
    (hwithin : push.Within) : capture.Fits (run.produce push) (blocks ++ added) := by
  obtain ⟨-, -, hcfg, hconsumed, -⟩ := hat.tryPush hblocks.stores
  obtain ⟨hdropped, hstep⟩ := hat.tryPush_drops hwithin
  unfold IngressRun.produce
  generalize run.queue.tryPush push = result at hcfg hconsumed hdropped hstep ⊢
  obtain ⟨queue, push' | result⟩ := result
  all_goals dsimp only at hcfg hconsumed hdropped hstep
  · refine h.grow hblocks added [] hcfg ?_ (by simp) hdropped fun hsame _ => ⟨by simp, ?_⟩
    · simp only [IngressRun.processed, hconsumed]
    · intro other hother hcounted
      obtain rfl := Option.some.inj hother
      exact (hstep.2.2 hcounted).ne' hsame
  · refine h.grow hblocks added [run.record queue push result] hcfg ?_ rfl hdropped
      fun _ hclean => ⟨?_, by simp⟩
    · simp only [IngressRun.processed, hconsumed]
    · intro record hrecord
      obtain rfl := List.mem_singleton.mp hrecord
      unfold PushRecord.pushed IngressRun.record
      dsimp only
      cases result with
      | error e => rfl
      | ok outcome =>
          rcases hstep outcome rfl with hall | hcounted
          · exact hall.symm
          · exact absurd hcounted (hclean.uncounted push hpush)

end Lamb.Arena
