import Lamb.Arena.CalibrationStream

/-!
A calibration is contiguous. The worker reads the end of the queue and the drop
counter while no push is inside, so a push that comes in between changes the
generation and the worker looks again. From the moment the request is taken every
block behind the boundary is copied or counted as dropped.

The worker takes the request after its last look at the producers. A push that
begins between the two is behind the boundary and older than the calibration, so
runs without such a push are considered, and one with it is given at the end.
-/

namespace Lamb.Arena

open Lamb.CalibrationSlot Lamb.Ring

variable {α : Type}

/-- What the worker has read out of the slot it is at. -/
def CaptureRun.Reads (run : CaptureRun α) (blocks : List (List α)) : Prop :=
  match run.ingress.consumer with
  | .readSample consumed _ index =>
      ∃ block, blocks[consumed]? = some block ∧ run.block = block.take index
  | _ => run.block = []

/-- What the worker has seen of the producers: unless a push has been counted
since, none has come in between. -/
def CaptureRun.PcFits (run : CaptureRun α) (blocks : List (List α)) : Prop :=
  match run.pc with
  | .off | .loadExhausted | .loadGeneration => True
  | .checkAdmitted generation => generation ≤ run.generation
  | .loadHead generation =>
      generation ≤ run.generation ∧ (run.generation = generation → run.admission ≠ .left)
  | .loadDropped generation first =>
      generation ≤ run.generation ∧ (run.generation = generation → run.admission ≠ .left ∧
        (run.admission = .outside → run.ingress.queue.publishedSequence = first))
  | .recheckAdmitted generation first dropped =>
      generation ≤ run.generation ∧ (run.generation = generation → run.admission ≠ .left ∧
        (run.admission = .outside → run.ingress.queue.publishedSequence = first ∧
          run.ingress.queue.cumulativeDroppedFrames = dropped))
  | .recheckGeneration generation first dropped =>
      generation ≤ run.generation ∧ (run.generation = generation → run.admission = .outside ∧
        run.ingress.queue.publishedSequence = first ∧
        run.ingress.queue.cumulativeDroppedFrames = dropped)
  | .takeReady first dropped =>
      run.admission = .outside ∧ run.ingress.queue.publishedSequence = first ∧
        run.ingress.queue.cumulativeDroppedFrames = dropped
  | .lookAgain capture => capture.Fits run.ingress blocks
  | .loadFinalDropped =>
      ∀ capture, run.capture = some capture →
        capture.samples.length = capture.request.frames
  | .publish dropped =>
      ∀ capture, run.capture = some capture → dropped ≤ capture.droppedAtAcceptance →
        Contiguous run.ingress capture.request capture.begun capture.samples

structure CaptureRun.Fits (run : CaptureRun α) (blocks : List (List α)) : Prop where
  stores : run.ingress.Blocks blocks
  at_ : ∀ push, run.ingress.producer = some push → push.At run.ingress.queue ∧ push.Within
  inside : run.admission = .inside ↔ run.ingress.producer ≠ none
  ready : run.slot = .ready → run.request.channel < run.ingress.queue.cfg.channels
  read : run.Reads blocks
  pc : run.PcFits blocks
  capture : ∀ capture, run.capture = some capture → capture.Fits run.ingress blocks
  result : ∀ result, run.result = some result →
    result.request.channel < run.ingress.queue.cfg.channels ∧
      (result.droppedFrames = 0 →
        Contiguous run.ingress result.request result.begun result.samples)

/-- The worker has made its last look at the producers and has not taken the
request yet. -/
def CapturePc.Between (generation : ℕ) : CapturePc α → Prop
  | .recheckGeneration seen _ _ => generation = seen
  | .takeReady _ _ => True
  | _ => False

instance (generation : ℕ) (pc : CapturePc α) : Decidable (pc.Between generation) :=
  match pc with
  | .recheckGeneration seen _ _ => inferInstanceAs (Decidable (generation = seen))
  | .takeReady _ _ => isTrue trivial
  | .off | .loadExhausted | .loadGeneration | .checkAdmitted _ | .loadHead _ | .loadDropped _ _
  | .recheckAdmitted _ _ _ | .lookAgain _ | .loadFinalDropped | .publish _ => isFalse id

def CaptureRun.Between (run : CaptureRun α) : Prop :=
  run.pc.Between run.generation

instance (run : CaptureRun α) : Decidable run.Between :=
  inferInstanceAs (Decidable (run.pc.Between run.generation))

/-- No push begins between the worker's last look at the producers and the moment
it takes the request, and the generations do not run out. -/
def CaptureRun.Orderly (run : CaptureRun α) : CaptureEvent α → Prop
  | .push _ _ => run.admission = .outside → ¬run.Between
  | .producer => run.admission = .leaving → run.generation < u64Max
  | .callers _ _ | .worker _ => True

instance (run : CaptureRun α) (event : CaptureEvent α) : Decidable (run.Orderly event) :=
  match event with
  | .push _ _ => inferInstanceAs (Decidable (run.admission = .outside → ¬run.Between))
  | .producer => inferInstanceAs (Decidable (run.admission = .leaving → run.generation < u64Max))
  | .callers _ _ | .worker _ => isTrue trivial

section Step

variable {run : CaptureRun α} {blocks : List (List α)}

theorem CaptureRun.PcFits.not_between (h : run.PcFits blocks)
    (hadmission : run.admission ≠ .outside) : ¬run.Between := by
  intro hbetween
  unfold CaptureRun.PcFits at h
  unfold CaptureRun.Between CapturePc.Between at hbetween
  cases hpc : run.pc with
  | recheckGeneration generation first dropped =>
      simp only [hpc] at h hbetween
      exact hadmission (h.2 hbetween).1
  | takeReady first dropped =>
      simp only [hpc] at h
      exact hadmission h.1
  | _ =>
      simp only [hpc] at hbetween

/-- What the worker has seen still fits when a push goes on. -/
theorem CaptureRun.PcFits.pushing (h : run.PcFits blocks) {ingress : IngressRun α}
    {admission : Admission} {added : List (List α)} (hbetween : ¬run.Between)
    (hadmission : admission = .inside ∨ admission = .leaving)
    (hfits : ∀ capture : CalibrationCapture α, capture.Fits run.ingress blocks →
      capture.Fits ingress (blocks ++ added))
    (hcontiguous : ∀ capture, run.capture = some capture →
      Contiguous run.ingress capture.request capture.begun capture.samples →
        Contiguous ingress capture.request capture.begun capture.samples) :
    ({ run with ingress, admission } : CaptureRun α).PcFits (blocks ++ added) := by
  have hleft : admission ≠ .left ∧ admission ≠ .outside := by
    rcases hadmission with rfl | rfl <;> decide
  unfold CaptureRun.PcFits at h ⊢
  unfold CaptureRun.Between CapturePc.Between at hbetween
  cases hpc : run.pc with
  | checkAdmitted generation => simpa only [hpc] using h
  | loadHead generation =>
      simp only [hpc] at h ⊢
      exact ⟨h.1, fun _ => hleft.1⟩
  | loadDropped generation first =>
      simp only [hpc] at h ⊢
      exact ⟨h.1, fun _ => ⟨hleft.1, fun hout => absurd hout hleft.2⟩⟩
  | recheckAdmitted generation first dropped =>
      simp only [hpc] at h ⊢
      exact ⟨h.1, fun _ => ⟨hleft.1, fun hout => absurd hout hleft.2⟩⟩
  | recheckGeneration generation first dropped =>
      simp only [hpc] at h hbetween ⊢
      exact ⟨h.1, fun hsame => absurd hsame hbetween⟩
  | takeReady first dropped =>
      simp only [hpc, not_true_eq_false] at hbetween
  | lookAgain capture =>
      simp only [hpc] at h ⊢
      exact hfits capture h
  | loadFinalDropped => simpa only [hpc] using h
  | publish dropped =>
      simp only [hpc] at h ⊢
      exact fun capture hcapture hle => hcontiguous capture hcapture (h capture hcapture hle)
  | _ => trivial

/-- A step of the producer inside its push. -/
theorem CaptureRun.Fits.pushing (h : run.Fits blocks) {ingress : IngressRun α}
    {admission : Admission} {added : List (List α)} (hbetween : ¬run.Between)
    (hstores : ingress.Blocks (blocks ++ added))
    (hat : ∀ push, ingress.producer = some push → push.At ingress.queue ∧ push.Within)
    (hadmission : admission = .inside ∨ admission = .leaving)
    (hinside : admission = .inside ↔ ingress.producer ≠ none)
    (hcfg : ingress.queue.cfg = run.ingress.queue.cfg)
    (hconsumer : ingress.consumer = run.ingress.consumer)
    (hextends : run.ingress.Extends ingress)
    (hfits : ∀ capture : CalibrationCapture α, capture.Fits run.ingress blocks →
      capture.Fits ingress (blocks ++ added)) :
    ({ run with ingress, admission } : CaptureRun α).Fits (blocks ++ added) := by
  have hcontiguous : ∀ capture, run.capture = some capture →
      Contiguous run.ingress capture.request capture.begun capture.samples →
        Contiguous ingress capture.request capture.begun capture.samples :=
    fun capture hcapture hsamples =>
      hsamples.mono (h.capture capture hcapture).channel_lt hcfg hextends
  refine ⟨hstores, hat, hinside, fun hready => hcfg ▸ h.ready hready, ?_,
    h.pc.pushing hbetween hadmission hfits hcontiguous,
    fun capture hcapture => hfits capture (h.capture capture hcapture), fun result hresult => ?_⟩
  · have hread := h.read
    unfold CaptureRun.Reads at hread ⊢
    rw [hconsumer]
    cases hpc : run.ingress.consumer with
    | readSample consumed frames index =>
        simp only [hpc] at hread ⊢
        obtain ⟨block, hblock, hsamples⟩ := hread
        exact ⟨block, List.getElem?_append_left
          (List.getElem?_eq_some_iff.mp hblock).1 ▸ hblock, hsamples⟩
    | _ => simpa only [hpc] using hread
  · obtain ⟨hchannel, hclean⟩ := h.result result hresult
    exact ⟨hcfg ▸ hchannel, fun hzero => (hclean hzero).mono hchannel hcfg hextends⟩

theorem CaptureRun.Fits.push (h : run.Fits blocks) (samples : List α) (channels : ℕ)
    (horderly : run.Orderly (.push samples channels)) :
    (run.push samples channels).Fits blocks := by
  unfold CaptureRun.push
  cases hadmission : run.admission with
  | outside =>
      have hnone : run.ingress.producer = none := by
        by_contra hsome
        have hinside := h.inside.mpr hsome
        rw [hadmission] at hinside
        cases hinside
      have hfits : ({ run with
          ingress := { run.ingress with producer := some (run.ingress.enter samples channels) },
          admission := .inside } : CaptureRun α).Fits (blocks ++ []) := by
        refine h.pushing (horderly hadmission) ?_ ?_ (.inl rfl) (by simp) rfl rfl
          (.enter hnone samples channels) fun capture hcapture => ?_
        · rw [List.append_nil]
          exact h.stores.enter hnone samples channels
        · intro push hpush
          obtain rfl := Option.some.inj hpush
          exact ⟨rfl, Nat.zero_le _⟩
        · rw [List.append_nil]
          exact hcapture.enter h.stores samples channels
      rw [List.append_nil] at hfits
      simpa only [IngressRun.step, hnone] using hfits
  | _ => exact h

/-- The producer's view after a step of its push. -/
theorem Push.At.produce_within {ingress : IngressRun α} {push push' : Push α}
    (hat : push.At ingress.queue) (hwithin : push.Within)
    (hpush' : (ingress.produce push).producer = some push') : push'.Within := by
  obtain ⟨-, hstep⟩ := hat.tryPush_drops hwithin
  unfold IngressRun.produce at hpush'
  generalize ingress.queue.tryPush push = result at hstep hpush'
  obtain ⟨queue, next | result⟩ := result
  · obtain rfl := Option.some.inj hpush'
    exact hstep.2.1
  · cases hpush'

theorem IngressRun.produce_cfg (ingress : IngressRun α) (push : Push α) :
    (ingress.produce push).queue.cfg = ingress.queue.cfg ∧
      (ingress.produce push).consumer = ingress.consumer := by
  have hcfg := ingress.queue.tryPush_cfg push
  unfold IngressRun.produce
  generalize ingress.queue.tryPush push = result at hcfg ⊢
  obtain ⟨queue, next | result⟩ := result
  · exact ⟨hcfg, rfl⟩
  · exact ⟨hcfg, rfl⟩

/-- What the worker has seen still fits when the producer has counted its push or
given up its admission. -/
theorem CaptureRun.Fits.leaving (h : run.Fits blocks) {generation : ℕ} {admission : Admission}
    (hadmission : run.admission = .leaving ∧ admission = .left ∧ run.generation < generation ∨
      run.admission = .left ∧ admission = .outside ∧ run.generation = generation) :
    ({ run with generation, admission } : CaptureRun α).Fits blocks := by
  have houtside : run.admission ≠ .outside ∧ run.admission ≠ .inside ∧ admission ≠ .inside := by
    rcases hadmission with ⟨hwas, rfl, -⟩ | ⟨hwas, rfl, -⟩ <;> simp [hwas]
  have hproducer : ¬run.ingress.producer ≠ none := fun hsome => houtside.2.1 (h.inside.mpr hsome)
  have hbetween := h.pc.not_between houtside.1
  -- a generation that was seen is over, unless it was seen after the push was counted
  have hover : ∀ seen ≤ run.generation, (run.generation = seen → run.admission ≠ .left) →
      seen ≤ generation ∧ generation ≠ seen := by
    intro seen hle hleft
    rcases hadmission with ⟨-, -, hlt⟩ | ⟨hwas, -, rfl⟩
    · omega
    · exact ⟨hle, fun hsame => hleft hsame hwas⟩
  have hinside : admission = .inside ↔ run.ingress.producer ≠ none :=
    ⟨fun hin => absurd hin houtside.2.2, fun hsome => absurd hsome hproducer⟩
  refine ⟨h.stores, h.at_, hinside, h.ready, h.read, ?_, h.capture, h.result⟩
  have hpcFits := h.pc
  unfold CaptureRun.PcFits at hpcFits ⊢
  unfold CaptureRun.Between CapturePc.Between at hbetween
  cases hpc : run.pc with
  | checkAdmitted seen =>
      simp only [hpc] at hpcFits ⊢
      rcases hadmission with ⟨-, -, hlt⟩ | ⟨-, -, rfl⟩
      · omega
      · exact hpcFits
  | loadHead seen =>
      simp only [hpc] at hpcFits ⊢
      obtain ⟨hle, hne⟩ := hover seen hpcFits.1 hpcFits.2
      exact ⟨hle, fun hsame => absurd hsame hne⟩
  | loadDropped seen first =>
      simp only [hpc] at hpcFits ⊢
      obtain ⟨hle, hne⟩ := hover seen hpcFits.1 fun hsame => (hpcFits.2 hsame).1
      exact ⟨hle, fun hsame => absurd hsame hne⟩
  | recheckAdmitted seen first dropped =>
      simp only [hpc] at hpcFits ⊢
      obtain ⟨hle, hne⟩ := hover seen hpcFits.1 fun hsame => (hpcFits.2 hsame).1
      exact ⟨hle, fun hsame => absurd hsame hne⟩
  | recheckGeneration seen first dropped =>
      simp only [hpc] at hpcFits hbetween ⊢
      obtain ⟨hle, hne⟩ := hover seen hpcFits.1 fun hsame => absurd hsame hbetween
      exact ⟨hle, fun hsame => absurd hsame hne⟩
  | takeReady first dropped =>
      simp only [hpc, not_true_eq_false] at hbetween
  | lookAgain capture => simpa only [hpc] using hpcFits
  | loadFinalDropped => simpa only [hpc] using hpcFits
  | publish dropped => simpa only [hpc] using hpcFits
  | _ => trivial

theorem CaptureRun.Fits.produce (h : run.Fits blocks) (horderly : run.Orderly .producer) :
    ∃ added, run.produce.Fits (blocks ++ added) := by
  unfold CaptureRun.produce
  cases hadmission : run.admission with
  | outside =>
      refine ⟨[], ?_⟩
      rw [List.append_nil]
      exact h
  | inside =>
      obtain ⟨push, hpush⟩ := Option.ne_none_iff_exists'.mp (h.inside.mp hadmission)
      obtain ⟨hat, hwithin⟩ := h.at_ push hpush
      obtain ⟨⟨added, hstores⟩, hnext⟩ := h.stores.produce hpush hat
      obtain ⟨hcfg, hconsumer⟩ := run.ingress.produce_cfg push
      have hstep : run.ingress.step .producer = run.ingress.produce push := by
        simp only [IngressRun.step, hpush]
      refine ⟨added, ?_⟩
      dsimp only
      rw [hstep]
      refine h.pushing (h.pc.not_between (by simp [hadmission])) hstores ?_ ?_ ?_ hcfg hconsumer
        (.produce hpush hat h.stores.stores)
        fun capture hcapture => hcapture.produce h.stores hpush hat hwithin
      · exact fun push' hpush' => ⟨hnext push' hpush', hat.produce_within hwithin hpush'⟩
      · split
        · exact .inr rfl
        · exact .inl rfl
      · cases (run.ingress.produce push).producer <;> simp
  | leaving =>
      have hroom := horderly hadmission
      refine ⟨[], ?_⟩
      rw [List.append_nil]
      dsimp only
      rw [checkedAdd_of_le (by omega)]
      exact h.leaving (.inl ⟨hadmission, rfl, Nat.lt_succ_self _⟩)
  | left =>
      refine ⟨[], ?_⟩
      rw [List.append_nil]
      exact h.leaving (.inr ⟨hadmission, rfl, rfl⟩)

/-! ### The worker's blocks -/

theorem IngressRun.consume_fields (ingress : IngressRun α) :
    ingress.consume.queue.cfg = ingress.queue.cfg ∧
      ingress.consume.queue.cumulativeDroppedFrames = ingress.queue.cumulativeDroppedFrames ∧
      ingress.consume.finished = ingress.finished ∧
      ingress.consume.producer = ingress.producer := by
  obtain ⟨consumed, hqueue⟩ := ingress.queue.consumeNext_queue ingress.consumer
  simp only [IngressRun.consume, hqueue, and_self]

theorem IngressRun.Extends.of_eq {ingress ingress' : IngressRun α}
    (hfinished : ingress'.finished = ingress.finished)
    (hproducer : ingress'.producer = ingress.producer) : ingress.Extends ingress' := by
  intro n
  simp only [IngressRun.pushes, hfinished, hproducer]
  exact List.prefix_rfl

theorem CaptureRun.Fits.at_consume (h : run.Fits blocks) (push : Push α)
    (hpush : run.ingress.consume.producer = some push) :
    push.At run.ingress.consume.queue ∧ push.Within := by
  have hfifo : run.ingress.Fifo :=
    ⟨⟨blocks, h.stores.stores, h.stores.delivered, h.stores.accepted⟩,
      fun push hpush => (h.at_ push hpush).1⟩
  obtain ⟨-, -, -, hproducer⟩ := run.ingress.consume_fields
  exact ⟨hfifo.consume.producer push hpush, (h.at_ push (hproducer ▸ hpush)).2⟩

/-- A step of `consume_next` before the callback, or after it. -/
theorem CaptureRun.Fits.reading (h : run.Fits blocks) (hoff : run.pc = .off) {block : List α}
    (hprocessed : run.ingress.consume.processed = run.ingress.processed)
    (hreads : ({ run with ingress := run.ingress.consume, block } : CaptureRun α).Reads blocks) :
    ({ run with ingress := run.ingress.consume, block } : CaptureRun α).Fits blocks := by
  obtain ⟨hcfg, hdropped, hfinished, hproducer⟩ := run.ingress.consume_fields
  refine ⟨h.stores.consume, h.at_consume, ?_, fun hready => hcfg ▸ h.ready hready, hreads, ?_,
    fun capture hcapture => ?_, fun result hresult => ?_⟩
  · rw [hproducer]
    exact h.inside
  · simp only [CaptureRun.PcFits, hoff]
  · have hgrown := (h.capture capture hcapture).grow h.stores [] [] hcfg hprocessed
      (by rw [hfinished, List.append_nil]) hdropped.ge fun _ hclean => ⟨by simp, ?_⟩
    · rwa [List.append_nil] at hgrown
    · rw [hproducer]
      exact hclean.uncounted
  · obtain ⟨hchannel, hclean⟩ := h.result result hresult
    exact ⟨hcfg ▸ hchannel, fun hzero =>
      (hclean hzero).mono hchannel hcfg (.of_eq hfinished hproducer)⟩

/-- The samples behind the boundary after one more block. -/
theorem IngressRun.handed_succ {ingress ingress' : IngressRun α} {block : List α}
    (hprocessed : ingress'.processed = ingress.processed + 1)
    (hblock : blocks[ingress.processed]? = some block) (first : ℕ) :
    ingress'.handed blocks first =
      if first ≤ ingress.processed then ingress.handed blocks first ++ block else [] := by
  obtain ⟨hlt, rfl⟩ := List.getElem?_eq_some_iff.mp hblock
  have hlength : (blocks.take ingress.processed).length = ingress.processed := by
    rw [List.length_take]
    omega
  unfold IngressRun.handed
  rw [hprocessed, List.take_succ_eq_append_getElem hlt]
  split
  · next hle =>
      rw [List.drop_append_of_le_length (by omega), List.flatten_append, List.flatten_singleton]
  · next hlt =>
      rw [List.drop_of_length_le (by
        rw [List.length_append, hlength, List.length_singleton]
        omega), List.flatten_nil]

theorem IngressRun.handed_of_lt {ingress : IngressRun α} {first : ℕ}
    (hlt : ingress.processed < first) : ingress.handed blocks first = [] := by
  unfold IngressRun.handed
  rw [List.drop_of_length_le (by
    rw [List.length_take]
    omega), List.flatten_nil]

theorem take_take_append (xs ys : List α) (n : ℕ) :
    (xs.take n ++ ys).take n = (xs ++ ys).take n := by
  by_cases hle : xs.length ≤ n
  · rw [List.take_of_length_le hle]
  · have hlength : (xs.take n).length = n := by
      rw [List.length_take]
      omega
    rw [List.take_append_of_le_length hlength.ge, List.take_take, Nat.min_self,
      List.take_append_of_le_length (by omega)]

/-- `ingress'` is `ingress` after one more block was handed to the callback. -/
structure IngressRun.Hands (ingress ingress' : IngressRun α) (blocks : List (List α))
    (block : List α) : Prop where
  processed : ingress'.processed = ingress.processed + 1
  block : blocks[ingress.processed]? = some block
  cfg : ingress'.queue.cfg = ingress.queue.cfg
  finished : ingress'.finished = ingress.finished
  producer : ingress'.producer = ingress.producer
  dropped : ingress.queue.cumulativeDroppedFrames ≤ ingress'.queue.cumulativeDroppedFrames

section Hand

variable {ingress ingress' : IngressRun α} {block : List α} {capture : CalibrationCapture α}

/-- A block before the boundary, an empty one, or one that is counted as dropped. -/
theorem CalibrationCapture.Fits.skip (h : capture.Fits ingress blocks)
    (hhands : ingress.Hands ingress' blocks block)
    (hskip : ingress'.queue.cumulativeDroppedFrames = ingress.queue.cumulativeDroppedFrames →
      ingress.processed < capture.firstSequence ∨ block = []) : capture.Fits ingress' blocks := by
  refine ⟨hhands.cfg ▸ h.channel_lt, h.first_le, ?_, ?_, h.samples_le,
    h.dropped_le.trans hhands.dropped, fun hsame => ?_⟩
  · rw [hhands.finished]
    exact h.begun_le
  · rw [hhands.finished]
    exact h.boundary
  · have hle := h.dropped_le
    have hmore := hhands.dropped
    have hequal : ingress'.queue.cumulativeDroppedFrames =
        ingress.queue.cumulativeDroppedFrames := by omega
    have hclean := h.clean (hequal ▸ hsame)
    have hhanded : ingress'.handed blocks capture.firstSequence =
        ingress.handed blocks capture.firstSequence := by
      rw [IngressRun.handed_succ hhands.processed hhands.block]
      split
      · next hfirst =>
          rcases hskip hequal with hlt | rfl
          · omega
          · rw [List.append_nil]
      · next hfirst => exact (IngressRun.handed_of_lt (not_le.mp hfirst)).symm
    refine ⟨?_, ?_, ?_, ?_⟩
    · rw [hhands.finished]
      exact hclean.kept
    · rw [hhands.producer]
      exact hclean.uncounted
    · rw [hhanded, hhands.cfg]
      exact hclean.whole
    · rw [hhanded, hhands.cfg]
      exact hclean.copied

/-- A block behind the boundary that is copied. -/
theorem CalibrationCapture.Fits.copy (h : capture.Fits ingress blocks)
    (hhands : ingress.Hands ingress' blocks block)
    (hfirst : capture.firstSequence ≤ ingress.processed)
    (hwhole : ingress.queue.cfg.channels ∣ block.length) :
    CalibrationCapture.Fits
      { capture with
        samples := copyChannel ingress.queue.cfg.channels capture.request.channel
          capture.request.frames block capture.samples }
      ingress' blocks := by
  have hcopied : copyChannel ingress.queue.cfg.channels capture.request.channel
      capture.request.frames block capture.samples = _ := copyChannel_eq h.samples_le
  refine ⟨hhands.cfg ▸ h.channel_lt, h.first_le, ?_, ?_, ?_, h.dropped_le.trans hhands.dropped,
    fun hsame => ?_⟩
  · rw [hhands.finished]
    exact h.begun_le
  · rw [hhands.finished]
    exact h.boundary
  · rw [hcopied, List.length_take]
    exact Nat.min_le_left _ _
  · have hle := h.dropped_le
    have hmore := hhands.dropped
    have hequal : ingress'.queue.cumulativeDroppedFrames =
        ingress.queue.cumulativeDroppedFrames := by
      have hsame : ingress'.queue.cumulativeDroppedFrames = capture.droppedAtAcceptance := hsame
      omega
    have hclean := h.clean (hequal ▸ hsame)
    have hhanded := IngressRun.handed_succ hhands.processed hhands.block capture.firstSequence
    rw [if_pos hfirst] at hhanded
    refine ⟨?_, ?_, ?_, ?_⟩
    · rw [hhands.finished]
      exact hclean.kept
    · rw [hhands.producer]
      exact hclean.uncounted
    · rw [hhanded, hhands.cfg, List.length_append]
      exact Nat.dvd_add hclean.whole hwhole
    · rw [hhanded, hhands.cfg, channelOf_append h.channel_lt hclean.whole, hcopied, hclean.copied,
        take_take_append]

end Hand

/-- The run after the callback. -/
theorem CaptureRun.Fits.handing (h : run.Fits blocks) {ingress : IngressRun α} {block : List α}
    {capture : Option (CalibrationCapture α)} {pc : CapturePc α} {slot : SlotState}
    (hhands : run.ingress.Hands ingress blocks block) (hstores : ingress.Blocks blocks)
    (hat : ∀ push, ingress.producer = some push → push.At ingress.queue ∧ push.Within)
    (hconsumer : ∃ consumed, ingress.consumer = .storeConsumed consumed)
    (hslot : slot = .ready → run.slot = .ready)
    (hcapture : ∀ fitting, capture = some fitting → fitting.Fits ingress blocks)
    (hpc : pc = .off ∨ pc = .loadFinalDropped ∧ ∀ full, capture = some full →
      full.samples.length = full.request.frames) :
    ({ run with ingress, block := [], capture, pc, slot } : CaptureRun α).Fits blocks := by
  refine ⟨hstores, hat, ?_, fun hready => hhands.cfg ▸ h.ready (hslot hready), ?_, ?_, hcapture,
    fun result hresult => ?_⟩
  · rw [hhands.producer]
    exact h.inside
  · obtain ⟨consumed, hstore⟩ := hconsumer
    simp only [CaptureRun.Reads, hstore]
  · rcases hpc with rfl | ⟨rfl, hfull⟩
    · trivial
    · exact hfull
  · obtain ⟨hchannel, hclean⟩ := h.result result hresult
    exact ⟨hhands.cfg ▸ hchannel, fun hzero =>
      (hclean hzero).mono hchannel hhands.cfg (.of_eq hhands.finished hhands.producer)⟩

theorem fail_ready {slot : SlotState} (h : slot.fail.getD slot = .ready) : slot = .ready := by
  cases slot with
  | ready => rfl
  | _ => cases h

theorem IngressRun.dropWorkerFrames_fields (ingress : IngressRun α) (frames : ℕ) :
    (ingress.dropWorkerFrames frames).queue.cfg = ingress.queue.cfg ∧
      (ingress.dropWorkerFrames frames).queue.slots = ingress.queue.slots ∧
      (ingress.dropWorkerFrames frames).queue.publishedSequence =
        ingress.queue.publishedSequence ∧
      (ingress.dropWorkerFrames frames).queue.consumedSequence =
        ingress.queue.consumedSequence ∧
      (ingress.dropWorkerFrames frames).producer = ingress.producer ∧
      (ingress.dropWorkerFrames frames).consumer = ingress.consumer ∧
      (ingress.dropWorkerFrames frames).finished = ingress.finished ∧
      (ingress.dropWorkerFrames frames).delivered = ingress.delivered := by
  unfold IngressRun.dropWorkerFrames
  split
  · exact ⟨rfl, rfl, rfl, rfl, rfl, rfl, rfl, rfl⟩
  · exact ⟨rfl, rfl, rfl, rfl, rfl, rfl, rfl, rfl⟩

/-- A block is counted as dropped, or the counter is exhausted. -/
theorem IngressRun.dropWorkerFrames_counts (ingress : IngressRun α) (frames : ℕ) :
    ingress.queue.cumulativeDroppedFrames ≤
        (ingress.dropWorkerFrames frames).queue.cumulativeDroppedFrames ∧
      (checkedAdd ingress.queue.cumulativeDroppedFrames frames ≠ none →
        (ingress.dropWorkerFrames frames).queue.cumulativeDroppedFrames =
          ingress.queue.cumulativeDroppedFrames + frames) := by
  unfold IngressRun.dropWorkerFrames
  split
  · next hnone => exact ⟨le_rfl, fun hsome => absurd hnone hsome⟩
  · next total htotal =>
      obtain ⟨rfl, -⟩ := checkedAdd_eq_some.mp htotal
      exact ⟨Nat.le_add_right _ _, fun _ => rfl⟩

theorem IngressRun.Hands.drop {ingress ingress' : IngressRun α} {block : List α}
    (h : ingress.Hands ingress' blocks block) (frames : ℕ) :
    ingress.Hands (ingress'.dropWorkerFrames frames) blocks block := by
  obtain ⟨hcfg, -, -, hconsumed, hproducer, hconsumer, hfinished, -⟩ :=
    ingress'.dropWorkerFrames_fields frames
  refine ⟨?_, h.block, hcfg.trans h.cfg, hfinished.trans h.finished, hproducer.trans h.producer,
    h.dropped.trans (ingress'.dropWorkerFrames_counts frames).1⟩
  rw [← h.processed]
  simp only [IngressRun.processed, hconsumed, hconsumer]

/-- The callback: a block behind the boundary is copied, counted as dropped, or
ends the capture. -/
theorem CaptureRun.Fits.consumeSamples (h : run.Fits blocks) (hoff : run.pc = .off)
    {ingress : IngressRun α} {block : List α} (hhands : run.ingress.Hands ingress blocks block)
    (hstores : ingress.Blocks blocks)
    (hat : ∀ push, ingress.producer = some push → push.At ingress.queue ∧ push.Within)
    (hconsumer : ∃ consumed, ingress.consumer = .storeConsumed consumed)
    (hsame : ingress.queue.cumulativeDroppedFrames = run.ingress.queue.cumulativeDroppedFrames)
    (hwhole : run.ingress.queue.cfg.channels ∣ block.length) (outcome : WriteOutcome) :
    (({ run with ingress, block := [] } : CaptureRun α).consumeSamples block
      run.ingress.processed outcome).Fits blocks := by
  have hdropped : ∀ frames {capture : Option (CalibrationCapture α)} {slot : SlotState},
      (slot = .ready → run.slot = .ready) →
      (∀ fitting, capture = some fitting →
        fitting.Fits (ingress.dropWorkerFrames frames) blocks) →
      ({ run with
          ingress := ingress.dropWorkerFrames frames, block := [], capture, pc := run.pc,
          slot } : CaptureRun α).Fits blocks := by
    intro frames capture slot hslot hcapture
    obtain ⟨hcfg, hslots, hpublished, hconsumed, hproducer, hsameConsumer, hfinished, hdelivered⟩ :=
      ingress.dropWorkerFrames_fields frames
    refine h.handing (hhands.drop frames)
      (hstores.congr hcfg hslots hpublished hconsumed hproducer hsameConsumer hfinished hdelivered)
      (fun push hpush => ?_) (hsameConsumer ▸ hconsumer) hslot hcapture (.inl hoff)
    obtain ⟨hpushAt, hwithin⟩ := hat push (hproducer ▸ hpush)
    exact ⟨hpushAt.mono hcfg hslots hpublished hconsumed.ge, hwithin⟩
  cases outcome with
  | written =>
      unfold CaptureRun.consumeSamples CaptureRun.copySamples
      dsimp only
      cases hcapture : run.capture with
      | none =>
          exact h.handing hhands hstores hat hconsumer id (by simp) (.inl hoff)
      | some capture =>
          have hfits := h.capture capture hcapture
          dsimp only
          split
          · exact h.handing hhands hstores hat hconsumer (by simp) (by simp) (.inl hoff)
          split
          · next hbefore =>
              refine h.handing hhands hstores hat hconsumer id (fun fitting hfitting => ?_)
                (.inl hoff)
              obtain rfl := Option.some.inj hfitting
              exact hfits.skip hhands fun _ => .inl hbefore
          · next hbehind =>
              rw [hhands.cfg]
              have hcopied := hfits.copy hhands (not_lt.mp hbehind) hwhole
              split
              · next hfull =>
                  refine h.handing hhands hstores hat hconsumer id (fun fitting hfitting => ?_)
                    (.inr ⟨rfl, fun full hsome => ?_⟩)
                  · obtain rfl := Option.some.inj hfitting
                    exact hcopied
                  · obtain rfl := Option.some.inj hsome
                    exact hfull
              · refine h.handing hhands hstores hat hconsumer id (fun fitting hfitting => ?_)
                  (.inl hoff)
                obtain rfl := Option.some.inj hfitting
                exact hcopied
  | dropped =>
      unfold CaptureRun.consumeSamples
      dsimp only
      split
      · exact hdropped _ fail_ready (by simp)
      · next hroom =>
          refine hdropped _ id fun capture hcapture => ?_
          refine (h.capture capture hcapture).skip (hhands.drop _) fun hequal => .inr ?_
          rw [not_or] at hroom
          rw [(ingress.dropWorkerFrames_counts _).2 hroom.2, hsame, hhands.cfg] at hequal
          have hzero : block.length / run.ingress.queue.cfg.channels = 0 := by omega
          obtain ⟨frames, hframes⟩ := hwhole
          rw [← List.length_eq_zero_iff, hframes]
          rcases Nat.eq_zero_or_pos run.ingress.queue.cfg.channels with hnone | hpos
          · rw [hnone, Nat.zero_mul]
          · rw [hframes, Nat.mul_div_cancel_left _ hpos] at hzero
            rw [hzero, Nat.mul_zero]
  | faulted => exact hdropped _ fail_ready (by simp)

theorem CaptureRun.Fits.consume (h : run.Fits blocks) (hoff : run.pc = .off)
    (outcome : WriteOutcome) : (run.consume outcome).Fits blocks := by
  have hread := h.read
  have hdelivered := h.stores.delivered
  unfold CaptureRun.Reads at hread
  unfold CaptureRun.consume
  cases hconsumer : run.ingress.consumer with
  | idle =>
      simp only [hconsumer] at hread
      simp only [IngressQueue.consumeNext, Option.toList_none, List.append_nil]
      refine h.reading hoff ?_ ?_
      · simp only [IngressRun.processed, IngressRun.consume, hconsumer, IngressQueue.consumeNext]
      · simpa only [CaptureRun.Reads, IngressRun.consume, hconsumer, IngressQueue.consumeNext]
          using hread
  | loadPublished consumed =>
      simp only [hconsumer] at hread
      by_cases hempty : run.ingress.queue.publishedSequence ≤ consumed
      · simp only [IngressQueue.consumeNext, if_pos hempty, Option.toList_none, List.append_nil]
        refine h.reading hoff ?_ ?_
        · simp only [IngressRun.processed, IngressRun.consume, hconsumer,
            IngressQueue.consumeNext, if_pos hempty]
        · simpa only [CaptureRun.Reads, IngressRun.consume, hconsumer, IngressQueue.consumeNext,
            if_pos hempty] using hread
      · simp only [IngressQueue.consumeNext, if_neg hempty, Option.toList_none, List.append_nil]
        refine h.reading hoff ?_ ?_
        · simp only [IngressRun.processed, IngressRun.consume, hconsumer,
            IngressQueue.consumeNext, if_neg hempty]
        · simpa only [CaptureRun.Reads, IngressRun.consume, hconsumer, IngressQueue.consumeNext,
            if_neg hempty] using hread
  | loadFrames consumed =>
      simp only [hconsumer] at hread
      rw [hconsumer] at hdelivered
      obtain ⟨rfl, hlt, -⟩ := hdelivered
      have hblock : run.ingress.queue.consumedSequence < blocks.length := by
        rw [h.stores.stores.length]
        exact hlt
      simp only [IngressQueue.consumeNext, Option.toList_none, List.append_nil]
      refine h.reading hoff ?_ ?_
      · simp only [IngressRun.processed, IngressRun.consume, hconsumer, IngressQueue.consumeNext]
      · simp only [CaptureRun.Reads, IngressRun.consume, hconsumer, IngressQueue.consumeNext]
        exact ⟨_, List.getElem?_eq_getElem hblock, by rw [hread, List.take_zero]⟩
  | readSample consumed frames index =>
      simp only [hconsumer] at hread
      rw [hconsumer] at hdelivered
      obtain ⟨rfl, hlt, block, hblock, hframes, hindex, -⟩ := hdelivered
      obtain ⟨same, hsame, hsamples⟩ := hread
      rw [hblock] at hsame
      cases hsame
      by_cases hmore : index < frames * run.ingress.queue.cfg.channels
      · have hheld := h.stores.stores.held _ block le_rfl hblock
        have hsample := hheld.2 index (by omega)
        simp only [IngressQueue.consumeNext, if_pos hmore]
        refine h.reading hoff ?_ ?_
        · simp only [IngressRun.processed, IngressRun.consume, hconsumer,
            IngressQueue.consumeNext, if_pos hmore]
        · simp only [CaptureRun.Reads, IngressRun.consume, hconsumer, IngressQueue.consumeNext,
            if_pos hmore]
          refine ⟨block, hblock, ?_⟩
          rw [hsamples, List.take_add_one, hsample]
      · have hall : block.take index = block := List.take_of_length_le (by omega)
        simp only [IngressQueue.consumeNext, if_neg hmore, Option.toList_none, List.append_nil]
        rw [hsamples, hall]
        obtain ⟨hcfg, hdropped, hfinished, hproducer⟩ := run.ingress.consume_fields
        have hnext : run.ingress.consume.consumer =
            .storeConsumed run.ingress.queue.consumedSequence := by
          simp only [IngressRun.consume, hconsumer, IngressQueue.consumeNext, if_neg hmore]
        have hprocessed : run.ingress.processed = run.ingress.queue.consumedSequence := by
          simp only [IngressRun.processed, hconsumer]
        have hhands : run.ingress.Hands run.ingress.consume blocks block := by
          refine ⟨?_, hprocessed ▸ hblock, hcfg, hfinished, hproducer, hdropped.ge⟩
          rw [hprocessed]
          simp only [IngressRun.processed, hnext]
        rw [← hprocessed]
        exact h.consumeSamples hoff hhands h.stores.consume h.at_consume ⟨_, hnext⟩ hdropped
          ⟨frames, by rw [← hframes, Nat.mul_comm]⟩ outcome
  | storeConsumed consumed =>
      simp only [hconsumer] at hread
      rw [hconsumer] at hdelivered
      obtain ⟨rfl, -⟩ := hdelivered
      simp only [IngressQueue.consumeNext, Option.toList_none, List.append_nil]
      refine h.reading hoff ?_ ?_
      · simp only [IngressRun.processed, IngressRun.consume, hconsumer, IngressQueue.consumeNext]
      · simpa only [CaptureRun.Reads, IngressRun.consume, hconsumer, IngressQueue.consumeNext]
          using hread

/-! ### The worker's other steps -/

/-- A step that moves no frame. -/
theorem CaptureRun.Fits.moves (h : run.Fits blocks) {pc : CapturePc α}
    {capture : Option (CalibrationCapture α)} {result : Option (CalibrationResult α)}
    {slot : SlotState} (hslot : slot = .ready → run.slot = .ready)
    (hcapture : ∀ fitting, capture = some fitting → fitting.Fits run.ingress blocks)
    (hresult : ∀ final, result = some final →
      final.request.channel < run.ingress.queue.cfg.channels ∧
        (final.droppedFrames = 0 →
          Contiguous run.ingress final.request final.begun final.samples))
    (hpc : ({ run with pc, capture, result, slot } : CaptureRun α).PcFits blocks) :
    ({ run with pc, capture, result, slot } : CaptureRun α).Fits blocks :=
  ⟨h.stores, h.at_, h.inside, fun hready => h.ready (hslot hready), h.read, hpc, hcapture, hresult⟩

theorem CaptureRun.Fits.goto (h : run.Fits blocks) {pc : CapturePc α}
    (hpc : ({ run with pc } : CaptureRun α).PcFits blocks) :
    ({ run with pc } : CaptureRun α).Fits blocks :=
  h.moves id h.capture h.result hpc

theorem CaptureRun.Fits.clear (h : run.Fits blocks) (hoff : run.pc = .off) {slot : SlotState}
    (hslot : slot = .ready → run.slot = .ready) :
    ({ run with capture := none, slot } : CaptureRun α).Fits blocks :=
  h.moves hslot (by simp) h.result (by simp [CaptureRun.PcFits, hoff])

theorem CaptureRun.Fits.poll (h : run.Fits blocks) (hoff : run.pc = .off) :
    run.poll.Fits blocks := by
  unfold CaptureRun.poll
  split
  · exact h.clear hoff (by simp)
  · exact h

theorem CaptureRun.Fits.fail (h : run.Fits blocks) (hoff : run.pc = .off) : run.fail.Fits blocks :=
  h.clear hoff fail_ready

/-- The request is taken while no push is inside: the boundary is the end of all
pushes that have begun. -/
theorem CaptureRun.Fits.takeReady (h : run.Fits blocks) {first dropped : ℕ}
    (hpc : run.pc = .takeReady first dropped) : (run.takeReady first dropped).Fits blocks := by
  have hseen := h.pc
  simp only [CaptureRun.PcFits, hpc] at hseen
  obtain ⟨houtside, hfirst, hdropped⟩ := hseen
  have hnone : run.ingress.producer = none := by
    by_contra hsome
    have hinside := h.inside.mpr hsome
    rw [houtside] at hinside
    cases hinside
  have hlength : blocks.length = first := h.stores.stores.length.trans hfirst
  unfold CaptureRun.takeReady
  split
  · next hready =>
      refine h.moves (by simp) h.capture h.result ?_
      have hbegun : run.begun = run.ingress.finished.length := by simp [CaptureRun.begun, hnone]
      have hhanded : run.ingress.handed blocks first = [] := by
        unfold IngressRun.handed
        rw [List.drop_of_length_le (by
          rw [List.length_take]
          omega), List.flatten_nil]
      refine ⟨h.ready hready, hlength.ge, hbegun.le, ?_, Nat.zero_le _, hdropped.ge, fun _ => ?_⟩
      · dsimp only
        rw [hbegun, List.take_length, ← hlength, List.take_length, ← h.stores.accepted]
        simp [IngressRun.accepted, hnone]
      · refine ⟨?_, ?_, ?_, ?_⟩
        · dsimp only
          rw [hbegun, List.drop_length]
          simp
        · simp [hnone]
        · simp [hhanded]
        · simp [hhanded, channelOf, deinterleave]
  · exact h.goto trivial

theorem CaptureRun.Fits.publish (h : run.Fits blocks) {dropped : ℕ}
    (hpc : run.pc = .publish dropped) : (run.publish dropped).Fits blocks := by
  have hseen := h.pc
  simp only [CaptureRun.PcFits, hpc] at hseen
  unfold CaptureRun.publish
  split
  · exact h.goto trivial
  · next capture hcapture =>
      refine h.moves ?_ (by simp) ?_ trivial
      · cases hslot : run.slot <;> simp
      · intro final hfinal
        obtain rfl := Option.some.inj hfinal
        refine ⟨(h.capture capture hcapture).channel_lt, fun hzero => hseen capture hcapture ?_⟩
        exact Nat.sub_eq_zero_iff_le.mp hzero

theorem CaptureRun.Fits.work (h : run.Fits blocks) (choice : CaptureChoice) :
    (run.work choice).Fits blocks := by
  have hseen := h.pc
  unfold CaptureRun.work
  cases hpc : run.pc with
  | off =>
      dsimp only
      split
      · exact h.poll hpc
      · exact h.fail hpc
      · exact h.goto trivial
      · exact h.consume hpc _
      · exact h
  | loadExhausted =>
      dsimp only
      split
      · exact CaptureRun.Fits.fail (h.goto trivial) rfl
      · exact h.goto trivial
  | loadGeneration => exact h.goto le_rfl
  | checkAdmitted generation =>
      simp only [CaptureRun.PcFits, hpc] at hseen
      dsimp only
      split
      · next houtside => exact h.goto ⟨hseen, fun _ => by simp [houtside]⟩
      · exact h.goto trivial
  | loadHead generation =>
      simp only [CaptureRun.PcFits, hpc] at hseen
      exact h.goto ⟨hseen.1, fun hsame => ⟨hseen.2 hsame, fun _ => rfl⟩⟩
  | loadDropped generation first =>
      simp only [CaptureRun.PcFits, hpc] at hseen
      exact h.goto ⟨hseen.1, fun hsame =>
        ⟨(hseen.2 hsame).1, fun houtside => ⟨(hseen.2 hsame).2 houtside, rfl⟩⟩⟩
  | recheckAdmitted generation first dropped =>
      simp only [CaptureRun.PcFits, hpc] at hseen
      dsimp only
      split
      · next houtside =>
          exact h.goto ⟨hseen.1, fun hsame => ⟨houtside, (hseen.2 hsame).2 houtside⟩⟩
      · exact h.goto trivial
  | recheckGeneration generation first dropped =>
      simp only [CaptureRun.PcFits, hpc] at hseen
      dsimp only
      split
      · next hsame => exact h.goto (hseen.2 hsame)
      · exact h.goto trivial
  | takeReady first dropped => exact h.takeReady hpc
  | lookAgain capture =>
      simp only [CaptureRun.PcFits, hpc] at hseen
      dsimp only
      split
      · refine h.moves id (fun fitting hfitting => ?_) h.result trivial
        obtain rfl := Option.some.inj hfitting
        exact hseen
      · exact CaptureRun.Fits.poll (h.goto trivial) rfl
  | loadFinalDropped =>
      simp only [CaptureRun.PcFits, hpc] at hseen
      refine h.goto fun capture hcapture hle => ?_
      have hfits := h.capture capture hcapture
      exact hfits.contiguous h.stores (hseen capture hcapture) (le_antisymm hle hfits.dropped_le)
  | publish dropped => exact h.publish hpc

theorem CaptureRun.Fits.callers (h : run.Fits blocks) (slot : SlotState)
    (request : CalibrationRequest) : (run.step (.callers slot request)).Fits blocks := by
  simp only [CaptureRun.step]
  split
  · next hchannel => exact ⟨h.stores, h.at_, h.inside, fun _ => hchannel, h.read, h.pc, h.capture,
      h.result⟩
  · exact h

theorem CaptureRun.Fits.step (h : run.Fits blocks) {event : CaptureEvent α}
    (horderly : run.Orderly event) : ∃ added, (run.step event).Fits (blocks ++ added) := by
  cases event with
  | push samples channels =>
      refine ⟨[], ?_⟩
      rw [List.append_nil]
      exact h.push samples channels horderly
  | producer => exact h.produce horderly
  | callers slot request =>
      refine ⟨[], ?_⟩
      rw [List.append_nil]
      exact h.callers slot request
  | worker choice =>
      refine ⟨[], ?_⟩
      rw [List.append_nil]
      exact h.work choice

end Step

/-- Every step is orderly. -/
def CaptureRun.OrderlyRun : CaptureRun α → List (CaptureEvent α) → Prop
  | _, [] => True
  | run, event :: events => run.Orderly event ∧ (run.step event).OrderlyRun events

instance instDecidableOrderlyRun (run : CaptureRun α) (events : List (CaptureEvent α)) :
    Decidable (run.OrderlyRun events) :=
  match events with
  | [] => isTrue trivial
  | event :: events =>
      have := instDecidableOrderlyRun (run.step event) events
      inferInstanceAs (Decidable (run.Orderly event ∧ (run.step event).OrderlyRun events))

theorem CaptureRun.Fits.steps {run : CaptureRun α} {blocks : List (List α)} (h : run.Fits blocks)
    {events : List (CaptureEvent α)} (horderly : run.OrderlyRun events) :
    ∃ blocks, (run.steps events).Fits blocks := by
  induction events generalizing run blocks with
  | nil => exact ⟨blocks, h⟩
  | cons event events ih =>
      obtain ⟨added, hstep⟩ := h.step horderly.1
      exact ih hstep horderly.2

theorem CaptureRun.Fits.start (cfg : QueueConfig) (zero : α) :
    (CaptureRun.start cfg zero).Fits [] := by
  refine ⟨⟨⟨rfl, le_rfl, by simp⟩, rfl, rfl⟩, nofun, by simp [CaptureRun.start, IngressRun.start],
    nofun, rfl, trivial, nofun, nofun⟩

/-- If no push begins between the worker's last look at the producers and the
moment it takes the request, a calibration without a dropped frame holds the first
frames of the selected channel that were pushed after its request was taken. -/
theorem calibration_contiguous (cfg : QueueConfig) (zero : α) (events : List (CaptureEvent α))
    (horderly : (CaptureRun.start cfg zero).OrderlyRun events) (result : CalibrationResult α)
    (hresult : ((CaptureRun.start cfg zero).steps events).result = some result)
    (hdropped : result.droppedFrames = 0) :
    Contiguous ((CaptureRun.start cfg zero).steps events).ingress result.request result.begun
      result.samples := by
  obtain ⟨blocks, hfits⟩ := (CaptureRun.Fits.start cfg zero).steps horderly
  exact (hfits.result result hresult).2 hdropped

/-! ### One frame -/

def monoQueue : QueueConfig :=
  ⟨1, 2, 1, by decide⟩

/-- The worker goes through its boundary. -/
def boundary : List (CaptureEvent ℕ) :=
  .worker .start :: List.replicate 7 (.worker .poll)

/-- A push of one frame, with its admission. -/
def pushOne (sample : ℕ) : List (CaptureEvent ℕ) :=
  .push [sample] 1 :: List.replicate 11 .producer

/-- The worker takes the request, and hands one block to the capture. -/
def taken : List (CaptureEvent ℕ) :=
  [.worker .poll, .worker .poll]

def captured : List (CaptureEvent ℕ) :=
  List.replicate 5 (.worker (.consume .written)) ++ [.worker .poll, .worker .poll]

/-- The request is there when the worker looks, and the push comes after it was
taken. -/
def futureRun : List (CaptureEvent ℕ) :=
  .callers .ready ⟨0, 1⟩ :: boundary ++ taken ++ pushOne 7 ++ captured

/-- The push comes between the worker's look and the request. -/
def earlyRun : List (CaptureEvent ℕ) :=
  boundary ++ pushOne 9 ++ .callers .ready ⟨0, 1⟩ :: taken ++ captured

theorem calibration_contiguous_future :
    Contiguous ((CaptureRun.start monoQueue 0).steps futureRun).ingress ⟨0, 1⟩ 0 [7] :=
  calibration_contiguous monoQueue 0 futureRun (by decide +kernel) ⟨⟨0, 1⟩, 0, 0, [7]⟩
    (by decide +kernel) rfl

/-- A frame that was pushed before the request was made. -/
theorem calibration_early_push :
    ((CaptureRun.start monoQueue 0).steps earlyRun).slot = .complete ∧
      ((CaptureRun.start monoQueue 0).steps earlyRun).result = some ⟨⟨0, 1⟩, 0, 1, [9]⟩ ∧
      ¬Contiguous ((CaptureRun.start monoQueue 0).steps earlyRun).ingress ⟨0, 1⟩ 1 [9] := by
  refine ⟨by decide +kernel, by decide +kernel, fun h => ?_⟩
  have hnothing : channelOf
      ((CaptureRun.start monoQueue 0).steps earlyRun).ingress.queue.cfg.channels 0
      (((CaptureRun.start monoQueue 0).steps earlyRun).ingress.pushes.drop 1).flatten = [] := by
    decide +kernel
  have hinitial := h.isPrefix
  rw [hnothing] at hinitial
  cases List.prefix_nil.mp hinitial

end Lamb.Arena
