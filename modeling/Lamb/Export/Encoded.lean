import Lamb.Export.Streamed

/-!
A whole stream. The writers are opened in the order of the outputs, the range
is read block by block, and in the end every part holds its header and the
encoding of its samples: what `write_mono_wav` writes for them.
-/

namespace Lamb.Export

open Lamb.Lib Lamb.Arena Lamb.Ring Lamb.Runtime Lamb.Dump

variable {α : Type}

namespace StreamPlan

variable {plan : StreamPlan α} {fault : ℕ → Option IoErrorKind} {scratchFrames : ℕ}

/-! ### The blocks of the range -/

/-- An epoch of `worker` that holds the range of the plan. -/
structure Reads (plan : StreamPlan α) (worker : WorkerState α) (frozen : FrozenCaptureEpoch) :
    Prop where
  inv : worker.Inv
  holds : worker.Holds plan.history frozen.descriptor
  channels : worker.cfg.ring.channels = plan.channels
  released : frozen.released = false
  releasePending : frozen.releasePending = false
  low : frozen.absoluteRange.start ≤ plan.exportRange.start
  high : plan.exportRange.stop ≤ frozen.absoluteRange.stop

/-- A block is read into the scratch buffer. -/
theorem Reads.copy {worker : WorkerState α} {frozen : FrozenCaptureEpoch} (hvalid : plan.Valid)
    (h : plan.Reads worker frozen) {cursor : ℕ} (hcursor : cursor ≤ plan.total)
    {scratch : List α} (hscratch : scratch.length = scratchFrames * plan.channels)
    {copied : ℕ} {scratch' : List α}
    (hcopy : frozen.copyInterleavedRangeInto (worker.epochs frozen.descriptor.index)
      ⟨plan.exportRange.start + cursor, plan.exportRange.stop⟩ scratch = .ok (copied, scratch')) :
    copied = min (plan.total - cursor) scratchFrames ∧
      scratch'.length = scratchFrames * plan.channels ∧
      plan.IsBlock (scratch'.take (copied * plan.channels)) cursor copied := by
  have htotal : plan.total = plan.exportRange.stop - plan.exportRange.start := rfl
  have horder := hvalid.order
  have hcfg := (h.inv.epochs frozen.descriptor.index).cfg_eq
  have hlimit := FrozenCaptureEpoch.limit_of_copy hcopy
  have hpos := h.inv.channels_pos
  rw [hcfg, h.channels] at hlimit
  rw [h.channels] at hpos
  rw [hscratch, Nat.mul_div_cancel _ hpos] at hlimit
  have hlow : frozen.absoluteRange.start ≤
      (Range.mk (plan.exportRange.start + cursor) plan.exportRange.stop).start :=
    h.low.trans (Nat.le_add_right _ cursor)
  have hread := h.holds.copy h.inv h.released h.releasePending hlow
    (show plan.exportRange.start + cursor ≤ plan.exportRange.stop by omega) h.high
    (by rw [h.channels]; exact hscratch) hlimit
  rw [hcopy, h.channels] at hread
  obtain ⟨hcount, hscratch'⟩ := Prod.mk.inj (Except.ok.inj hread)
  simp only at hcount hscratch'
  have hcopied : copied = min (plan.total - cursor) scratchFrames := by omega
  rw [← hcount] at hscratch'
  have hslice : (slice plan.history ((plan.exportRange.start + cursor) * plan.channels)
      (copied * plan.channels)).length = copied * plan.channels := by
    refine length_slice_of_le ?_
    rw [← Nat.add_mul]
    exact (Nat.mul_le_mul_right _ (by omega)).trans hvalid.history
  have hfits : copied * plan.channels ≤ scratchFrames * plan.channels :=
    Nat.mul_le_mul_right _ (by omega)
  refine ⟨hcopied, ?_, ?_, by omega⟩
  · rw [hscratch', length_copyFromSlice (by omega), hscratch]
  · rw [hscratch', copyFromSlice, List.take_zero, List.nil_append, List.take_left' hslice]

/-- The rest of the range goes through the scratch buffer. -/
theorem Streamed.streamBlocks {worker : WorkerState α} {frozen : FrozenCaptureEpoch}
    {state : StreamState α} (hvalid : plan.Valid) (hreads : plan.Reads worker frozen)
    (hscratch : 0 < scratchFrames) {cursor fuel : ℕ} (hcursor : cursor ≤ plan.total)
    (hfuel : plan.total ≤ cursor + fuel)
    (h : plan.Streamed fault scratchFrames (fun _ => cursor) state) :
    Attempt.Ends (streamBlocks plan.f32ToS24Bytes plan.slots frozen
        (worker.epochs frozen.descriptor.index) plan.exportRange.stop fuel
        (plan.exportRange.start + cursor)) state
      (fun _ state' => plan.Streamed fault scratchFrames (fun _ => plan.total) state')
      (fun _ state' => Refused fault state' ∨ u64Max < plan.exportRange.stop + scratchFrames) := by
  have htotal : plan.total = plan.exportRange.stop - plan.exportRange.start := rfl
  have horder := hvalid.order
  have hdone (hall : cursor = plan.total) :
      plan.Streamed fault scratchFrames (fun _ => plan.total) state := hall ▸ h
  induction fuel generalizing cursor state with
  | zero =>
      unfold Export.streamBlocks
      rw [if_neg (by omega)]
      exact .pure (hdone (by omega))
  | succ fuel ih =>
      unfold Export.streamBlocks
      by_cases hmore : cursor < plan.total
      · rw [if_pos (by omega)]
        refine .bindGet (.bindOfExcept (fun e he => ?_) ?_)
        · refine .inr ?_
          by_contra hlimit
          have hlow : frozen.absoluteRange.start ≤
              (Range.mk (plan.exportRange.start + cursor) plan.exportRange.stop).start :=
            hreads.low.trans (Nat.le_add_right _ cursor)
          have hread := hreads.holds.copy hreads.inv hreads.released hreads.releasePending hlow
            (show plan.exportRange.start + cursor ≤ plan.exportRange.stop by omega) hreads.high
            (by rw [hreads.channels]; exact h.scratch)
            (show plan.exportRange.start + cursor - frozen.descriptor.base + scratchFrames ≤
              u64Max by omega)
          rw [he] at hread
          cases hread
        · rintro ⟨copied, scratch'⟩ hcopy
          obtain ⟨hcopied, hlength, hblock⟩ := hreads.copy hvalid hcursor h.scratch hcopy
          refine .bindModify (.bindRequire (fun hzero => ?_) fun _ => ?_)
          · omega
          · have hloaded : plan.Streamed fault scratchFrames (fun _ => cursor)
                { state with scratch := scratch' } :=
              ⟨h.fault, h.writers_length, h.pcm_length, h.pcm, hlength, h.progress_le, h.writer,
                h.idle, h.files, h.others⟩
            have hrest : ∀ channel ∈ List.range state.writers.length, channel < plan.channels := by
              intro channel hchannel
              rw [← h.writers_length]
              exact List.mem_range.mp hchannel
            have hwrite := hloaded.writeBlock hvalid hblock (by omega) List.nodup_range hrest
              fun number channel hnumber => by
                rw [if_pos]
                rw [List.mem_range, h.writers_length]
                exact hvalid.channel_lt channel (List.mem_of_getElem? hnumber)
            refine .bind (hwrite.mono (fun _ _ h => h) fun _ _ h => .inl h) ?_
            intro _ state' hnext
            rw [Nat.add_assoc]
            exact ih (by omega) (by omega) hnext fun hall => hall ▸ hnext
      · rw [if_neg (by omega)]
        exact .pure (hdone (by omega))

/-! ### Opening the writers -/

theorem length_takeWhile_eq {β : Type} {p : β → Bool} {n : ℕ} {xs : List β}
    (hyes : ∀ i < n, ∃ x, xs[i]? = some x ∧ p x) (hno : ∀ x, xs[n]? = some x → p x = false) :
    (xs.takeWhile p).length = n := by
  induction n generalizing xs with
  | zero =>
      cases xs with
      | nil => rfl
      | cons x xs => rw [List.takeWhile_cons_of_neg (by simp [hno x rfl])]; rfl
  | succ n ih =>
      cases xs with
      | nil =>
          obtain ⟨x, hx, -⟩ := hyes 0 (Nat.succ_pos n)
          cases hx
      | cons x xs =>
          obtain ⟨_, hx, hp⟩ := hyes 0 (Nat.succ_pos n)
          obtain rfl := Option.some.inj hx
          rw [List.takeWhile_cons_of_pos hp, List.length_cons,
            ih (fun i hi => hyes (i + 1) (by omega)) fun y hy => hno y hy]

/-- The outputs in use, from a retained channel on. -/
def outputsFrom (plan : StreamPlan α) (number : ℕ) : List OutputFileSlot :=
  (plan.slots.outputs.take plan.slots.outputCount).drop (number * plan.parts)

theorem Table.outputsFrom_getElem? (h : plan.Table) {number index : ℕ} {output : OutputFileSlot}
    (hget : (plan.outputsFrom number)[index]? = some output) :
    0 < plan.parts ∧ plan.retained[number + index / plan.parts]? = some output.channel := by
  rw [outputsFrom, List.getElem?_drop, List.getElem?_take] at hget
  split_ifs at hget with hlt
  rw [h.outputCount] at hlt
  have hpos : 0 < plan.parts := by
    refine Nat.pos_of_ne_zero fun hzero => ?_
    rw [hzero, Nat.mul_zero, Nat.mul_zero] at hlt
    omega
  refine ⟨hpos, ?_⟩
  have hindex : number + index / plan.parts < plan.retained.length := by
    rw [← Nat.mul_add_div hpos, Nat.mul_comm plan.parts, Nat.div_lt_iff_lt_mul hpos]
    exact hlt
  have hchannel := List.getElem?_eq_getElem hindex
  obtain ⟨output', houtput, hsame, -⟩ := h.output _ _ _ hchannel (Nat.mod_lt index hpos)
  have hplace : (number + index / plan.parts) * plan.parts + index % plan.parts =
      number * plan.parts + index := by
    rw [Nat.add_mul, Nat.add_assoc, Nat.div_add_mod']
  rw [hplace, hget] at houtput
  obtain rfl := Option.some.inj houtput
  rw [hchannel, hsame]

theorem Table.outputsFrom_some (h : plan.Table) {number channel part : ℕ}
    (hnumber : plan.retained[number]? = some channel) (hpart : part < plan.parts) :
    ∃ output, (plan.outputsFrom number)[part]? = some output ∧ output.channel = channel := by
  obtain ⟨output, houtput, hchannel, -⟩ := h.output number channel part hnumber hpart
  refine ⟨output, ?_, hchannel⟩
  have hlt := (List.getElem?_eq_some_iff.mp hnumber).1
  have hmul := Nat.mul_le_mul_right plan.parts (Nat.succ_le_of_lt hlt)
  rw [Nat.succ_mul] at hmul
  rw [outputsFrom, List.getElem?_drop, List.getElem?_take, if_pos, houtput]
  rw [h.outputCount]
  omega

/-- The parts of one channel stand together. -/
theorem Table.length_takeWhile (h : plan.Table) {number channel : ℕ}
    (hnumber : plan.retained[number]? = some channel) :
    ((plan.outputsFrom number).takeWhile fun output => output.channel == channel).length =
      plan.parts := by
  refine length_takeWhile_eq (fun part hpart => ?_) fun output houtput => ?_
  · obtain ⟨output, hget, hchannel⟩ := h.outputsFrom_some hnumber hpart
    exact ⟨output, hget, by simp [hchannel]⟩
  · obtain ⟨hpos, hnext⟩ := h.outputsFrom_getElem? houtput
    rw [Nat.div_self hpos] at hnext
    have hlt := List.pairwise_iff_getElem.mp h.sorted
    obtain ⟨hbound, hget⟩ := List.getElem?_eq_some_iff.mp hnumber
    obtain ⟨hbound', hget'⟩ := List.getElem?_eq_some_iff.mp hnext
    have hless := hlt number (number + 1) hbound hbound' (Nat.lt_succ_self _)
    rw [hget, hget'] at hless
    simpa using (Nat.ne_of_gt hless)

theorem Table.head?_eq (h : plan.Table) {number channel : ℕ} :
    (plan.outputsFrom number).head?.map OutputFileSlot.channel = some channel ↔
      plan.retained[number]? = some channel ∧ 0 < plan.parts := by
  rw [List.head?_eq_getElem?]
  refine ⟨fun hhead => ?_, fun ⟨hnumber, hpos⟩ => ?_⟩
  · obtain ⟨output, hget, rfl⟩ := Option.map_eq_some_iff.mp hhead
    obtain ⟨hpos, hnumber⟩ := h.outputsFrom_getElem? hget
    rw [Nat.zero_div, Nat.add_zero] at hnumber
    exact ⟨hnumber, hpos⟩
  · obtain ⟨output, hget, rfl⟩ := h.outputsFrom_some hnumber hpos
    rw [hget]
    rfl

theorem partBytes_zero (hpos : 0 < plan.framesPerPart) (channel part : ℕ) :
    plan.partBytes channel part 0 = if part = 0 then some (plan.header 0) else none := by
  unfold partBytes
  by_cases hzero : part = 0
  · subst hzero
    rw [if_pos (by omega), if_pos rfl]
    simp [samples, channelSamples, encodeSamples]
  · have hfirst : 0 < part * plan.framesPerPart := Nat.mul_pos (Nat.pos_of_ne_zero hzero) hpos
    rw [if_neg (by omega), if_neg hzero]

/-- The writers of the first `opened` retained channels stand at the start of
their first part; no other file of the plan is there. -/
structure Opened (plan : StreamPlan α) (fault : ℕ → Option IoErrorKind) (scratchFrames opened : ℕ)
    (state : StreamState α) : Prop where
  fault : state.io.fault = fault
  writers_length : state.writers.length = plan.channels
  pcm_length : state.pcm.length = plan.channels
  pcm : ∀ buffer ∈ state.pcm, 3 ≤ buffer.length
  scratch : state.scratch.length = scratchFrames * plan.channels
  writer : ∀ number channel, number < opened → plan.retained[number]? = some channel →
    ∃ writer, state.writers[channel]? = some writer ∧ plan.WriterAt number 0 writer
  idle : ∀ channel writer, channel ∉ plan.retained.take opened →
    state.writers[channel]? = some writer → writer.file = none
  files : ∀ number channel part, plan.retained[number]? = some channel → part < plan.parts →
    state.io.files (plan.staged number part) =
      if number < opened then plan.partBytes channel part 0 else none
  others : ∀ path, plan.Foreign path → state.io.files path = plan.before path

theorem Opened.streamed {state : StreamState α}
    (h : plan.Opened fault scratchFrames plan.retained.length state) :
    plan.Streamed fault scratchFrames (fun _ => 0) state := by
  refine ⟨h.fault, h.writers_length, h.pcm_length, h.pcm, h.scratch, fun _ => Nat.zero_le _, ?_,
    ?_, ?_, h.others⟩
  · intro number channel hnumber
    exact h.writer number channel (List.getElem?_eq_some_iff.mp hnumber).1 hnumber
  · intro channel writer hout
    rw [← List.take_length (l := plan.retained)] at hout
    exact h.idle channel writer hout
  · intro number channel part hnumber hpart
    rw [h.files number channel part hnumber hpart,
      if_pos (List.getElem?_eq_some_iff.mp hnumber).1]

theorem mem_take_succ {number channel other : ℕ} (hnumber : plan.retained[number]? = some channel) :
    other ∈ plan.retained.take (number + 1) ↔ other ∈ plan.retained.take number ∨ other = channel := by
  rw [List.take_add_one, hnumber, List.mem_append]
  simp

theorem Table.not_mem_take (h : plan.Table) {number channel : ℕ}
    (hnumber : plan.retained[number]? = some channel) : channel ∉ plan.retained.take number := by
  intro hmem
  obtain ⟨index, hindex⟩ := List.mem_iff_getElem?.mp hmem
  rw [List.getElem?_take] at hindex
  split_ifs at hindex with hlt
  obtain ⟨hbound, hget⟩ := List.getElem?_eq_some_iff.mp hnumber
  obtain ⟨hbound', hget'⟩ := List.getElem?_eq_some_iff.mp hindex
  have hless := List.pairwise_iff_getElem.mp h.sorted index number hbound' hbound hlt
  omega

/-- The writer of the next retained channel is opened. -/
theorem Opened.next {opened channel : ℕ} {state state' : StreamState α} (hvalid : plan.Valid)
    (h : plan.Opened fault scratchFrames opened state)
    (hnumber : plan.retained[opened]? = some channel) {writer : WriterSlot}
    (hat : plan.WriterAt opened 0 writer) (hfault : state'.io.fault = fault)
    (hwriters : state'.writers = state.writers.set channel writer)
    (hpcm : state'.pcm = state.pcm) (hscratch : state'.scratch = state.scratch)
    (hfiles : ∀ part < plan.parts,
      state'.io.files (plan.staged opened part) = plan.partBytes channel part 0)
    (hothers : ∀ path, (∀ part < plan.parts, path ≠ plan.staged opened part) →
      state'.io.files path = state.io.files path) :
    plan.Opened fault scratchFrames (opened + 1) state' := by
  have hchannel : channel < state.writers.length := by
    rw [h.writers_length]
    exact hvalid.channel_lt channel (List.mem_of_getElem? hnumber)
  refine ⟨hfault, ?_, ?_, ?_, ?_, ?_, ?_, ?_, ?_⟩
  · rw [hwriters, List.length_set, h.writers_length]
  · rw [hpcm, h.pcm_length]
  · rw [hpcm]
    exact h.pcm
  · rw [hscratch, h.scratch]
  · intro number channel' hlt hnumber'
    by_cases hsame : number = opened
    · subst hsame
      obtain rfl := Option.some.inj (hnumber.symm.trans hnumber')
      exact ⟨writer, by rw [hwriters]; simp [hchannel], hat⟩
    · have hne : channel ≠ channel' := by
        rintro rfl
        exact hsame (hvalid.number_eq hnumber' hnumber)
      rw [hwriters, List.getElem?_set_ne hne]
      exact h.writer number channel' (by omega) hnumber'
  · intro channel' writer' hout hget
    rw [mem_take_succ hnumber] at hout
    rw [hwriters, List.getElem?_set_ne fun hsame => hout (.inr hsame.symm)] at hget
    exact h.idle channel' writer' (fun hmem => hout (.inl hmem)) hget
  · intro number channel' part hnumber' hpart
    by_cases hsame : number = opened
    · subst hsame
      obtain rfl := Option.some.inj (hnumber.symm.trans hnumber')
      rw [if_pos (Nat.lt_succ_self _)]
      exact hfiles part hpart
    · have hlt := (List.getElem?_eq_some_iff.mp hnumber).1
      have hlt' := (List.getElem?_eq_some_iff.mp hnumber').1
      rw [hothers, h.files number channel' part hnumber' hpart]
      · by_cases hbefore : number < opened
        · rw [if_pos hbefore, if_pos (by omega)]
        · rw [if_neg hbefore, if_neg (by omega)]
      · intro part' hpart' hpath
        exact hsame (hvalid.staged_inj _ _ _ _ hlt' hlt hpart hpart' hpath).1
  · intro path hforeign
    have hlt := (List.getElem?_eq_some_iff.mp hnumber).1
    rw [hothers path fun part hpart => hforeign opened part hlt hpart]
    exact h.others path hforeign

theorem Table.lt_iff (h : plan.Table) {number number' channel channel' : ℕ}
    (hnumber : plan.retained[number]? = some channel)
    (hnumber' : plan.retained[number']? = some channel') :
    number < number' ↔ channel < channel' := by
  obtain ⟨hbound, hget⟩ := List.getElem?_eq_some_iff.mp hnumber
  obtain ⟨hbound', hget'⟩ := List.getElem?_eq_some_iff.mp hnumber'
  have hsorted := List.pairwise_iff_getElem.mp h.sorted
  rcases Nat.lt_trichotomy number number' with hlt | rfl | hgt
  · have := hsorted number number' hbound hbound' hlt
    omega
  · omega
  · have := hsorted number' number hbound' hbound hgt
    omega

/-- The first part of a retained channel is begun. -/
theorem Opened.openWriter {opened channel : ℕ} {state : StreamState α} (hvalid : plan.Valid)
    (h : plan.Opened fault scratchFrames opened state)
    (hnumber : plan.retained[opened]? = some channel) (hpos : 0 < plan.parts) :
    Attempt.Ends (openWriter plan.slots channel (opened * plan.parts)
        (opened * plan.parts + plan.parts)) state
      (fun _ state' => plan.Opened fault scratchFrames (opened + 1) state')
      (fun _ state' => Refused fault state') := by
  obtain rfl := h.fault
  have hlt := (List.getElem?_eq_some_iff.mp hnumber).1
  obtain ⟨output, houtput, -, hcount, hstaged⟩ := hvalid.staged_eq hnumber hpos
  have hheader := hvalid.header (retained_ne_nil hnumber) 0 hpos
  have habsent := h.files opened channel 0 hnumber hpos
  rw [if_neg (Nat.lt_irrefl _), ← hstaged] at habsent
  rw [← hcount] at hheader
  refine (openWriter_ends houtput hheader habsent).mono ?_ fun _ _ he => he
  rintro - _ ⟨calls, rfl⟩
  rw [hstaged]
  refine h.next hvalid hnumber ⟨fun _ => ?_, fun hend => ?_⟩ rfl rfl rfl rfl (fun part hpart => ?_)
    fun path hpath => Function.update_of_ne (hpath 0 hpos) _ _
  · simp [Nat.succ_mul]
  · have := (lt_parts_iff hvalid).mp hpos
    omega
  · rw [partBytes_zero hvalid.framesPerPart_pos]
    by_cases hzero : part = 0
    · rw [if_pos hzero, hzero]
      exact Function.update_self _ _ _
    · have hne : plan.staged opened part ≠ plan.staged opened 0 := fun hsame =>
        hzero (hvalid.staged_inj _ _ _ _ hlt hlt hpart hpos hsame).2
      have hold := h.files opened channel part hnumber hpart
      rw [if_neg (Nat.lt_irrefl _)] at hold
      rw [if_neg hzero]
      exact (Function.update_of_ne hne _ _).trans hold

/-- Without parts nothing is opened. -/
theorem Opened.skip {opened channel : ℕ} {state : StreamState α} (hvalid : plan.Valid)
    (h : plan.Opened fault scratchFrames opened state)
    (hnumber : plan.retained[opened]? = some channel) (hnone : ¬0 < plan.parts) :
    plan.Opened fault scratchFrames (opened + 1) state := by
  have hchannel : channel < state.writers.length := by
    rw [h.writers_length]
    exact hvalid.channel_lt channel (List.mem_of_getElem? hnumber)
  have hwriter := List.getElem?_eq_getElem hchannel
  have hempty : plan.total = 0 := by
    rw [lt_parts_iff hvalid] at hnone
    omega
  refine h.next hvalid hnumber ⟨fun hlt => ?_, fun _ => ?_⟩ h.fault
    (List.set_getElem_self hchannel).symm rfl rfl (fun part hpart => ?_) fun _ _ => rfl
  · omega
  · exact h.idle channel _ (hvalid.not_mem_take hnumber) hwriter
  · omega

/-- The channels from `first` on are opened in order; `opened` of the retained
channels come before them. -/
theorem Opened.openWriters {first count opened : ℕ} {state : StreamState α} (hvalid : plan.Valid)
    (h : plan.Opened fault scratchFrames opened state)
    (hbefore : ∀ number channel, plan.retained[number]? = some channel →
      (number < opened ↔ channel < first)) (hend : first + count = plan.channels)
    (hopened : opened ≤ plan.retained.length) :
    Attempt.Ends (openWriters plan.slots (List.range' first count) (opened * plan.parts)) state
      (fun _ state' => plan.Opened fault scratchFrames plan.retained.length state')
      (fun _ state' => Refused fault state') := by
  induction count generalizing first opened state with
  | zero =>
      have hall : opened = plan.retained.length := by
        refine Nat.le_antisymm hopened (Nat.le_of_not_lt fun hlt => ?_)
        have hget := List.getElem?_eq_getElem hlt
        have hsmall := hvalid.channel_lt _ (List.mem_of_getElem? hget)
        have := (hbefore opened _ hget).mpr (by omega)
        omega
      rw [List.range'_zero, Export.openWriters]
      rw [hall] at h
      exact .pure h
  | succ count ih =>
      rw [List.range'_succ, Export.openWriters]
      change Attempt.Ends (if (plan.outputsFrom opened).head?.map OutputFileSlot.channel ≠
        some first then _ else _) _ _ _
      by_cases hnumber : plan.retained[opened]? = some first
      · have hbefore' : ∀ number channel, plan.retained[number]? = some channel →
            (number < opened + 1 ↔ channel < first + 1) := fun number channel hget => by
          have hleft := hvalid.lt_iff hget hnumber
          have hright := hvalid.lt_iff hnumber hget
          omega
        have hopened' := (List.getElem?_eq_some_iff.mp hnumber).1
        by_cases hpos : 0 < plan.parts
        · rw [if_neg (not_not.mpr (hvalid.head?_eq.mpr ⟨hnumber, hpos⟩))]
          have hstop := hvalid.length_takeWhile hnumber
          unfold outputsFrom at hstop
          rw [hstop]
          refine .bind (h.openWriter hvalid hnumber hpos) ?_
          intro _ state' hnext
          rw [← Nat.succ_mul]
          exact ih hnext hbefore' (by omega) hopened'
        · rw [if_pos fun hhead => hpos (hvalid.head?_eq.mp hhead).2]
          have hnext := h.skip hvalid hnumber hpos
          have hzero : plan.parts = 0 := by omega
          have hih := ih hnext hbefore' (by omega) hopened'
          rw [hzero, Nat.mul_zero] at hih ⊢
          exact hih
      · rw [if_pos fun hhead => hnumber (hvalid.head?_eq.mp hhead).1]
        refine ih h (fun number channel hget => ?_) (by omega) hopened
        have hold := hbefore number channel hget
        by_cases hsame : channel = first
        · subst hsame
          have hlater : opened < number := by
            have hne : number ≠ opened := by
              rintro rfl
              exact hnumber hget
            omega
          have hbound := (List.getElem?_eq_some_iff.mp hget).1
          have hfirst := List.getElem?_eq_getElem (l := plan.retained) (i := opened) (by omega)
          have hsmall := (hvalid.lt_iff hfirst hget).mp hlater
          have := (hbefore opened _ hfirst).mpr hsmall
          omega
        · omega

/-! ### The whole stream -/

theorem finalizeWriters_idle {state : StreamState α} {channels : List ℕ}
    (hidle : ∀ channel ∈ channels, ∃ writer, state.writers[channel]? = some writer ∧
      writer.file = none) : finalizeWriters channels state = (.ok (), state) := by
  induction channels with
  | nil => rfl
  | cons channel channels ih =>
      obtain ⟨writer, hwriter, hclosed⟩ := hidle channel List.mem_cons_self
      rw [finalizeWriters]
      simp only [bind, finalizeWriter_idle hwriter hclosed]
      exact ih fun other hother => hidle other (List.mem_cons_of_mem _ hother)

theorem Streamed.idle_of_total {state : StreamState α}
    (h : plan.Streamed fault scratchFrames (fun _ => plan.total) state) {channel : ℕ}
    (hchannel : channel < plan.channels) :
    ∃ writer, state.writers[channel]? = some writer ∧ writer.file = none := by
  by_cases hretained : channel ∈ plan.retained
  · obtain ⟨number, hnumber⟩ := List.mem_iff_getElem?.mp hretained
    obtain ⟨writer, hwriter, hat⟩ := h.writer number channel hnumber
    exact ⟨writer, hwriter, hat.finished (Nat.le_refl _)⟩
  · have hwriter := List.getElem?_eq_getElem (show channel < state.writers.length by
      rw [h.writers_length]; exact hchannel)
    exact ⟨_, hwriter, h.idle channel _ hretained hwriter⟩

/-- A stream into files that are not there yet writes every part. -/
theorem Opened.streamSelectedWavs {worker : WorkerState α} {frozen : FrozenCaptureEpoch}
    {state : StreamState α} (hvalid : plan.Valid) (hreads : plan.Reads worker frozen)
    (hscratch : 0 < scratchFrames) (h : plan.Opened fault scratchFrames 0 state) :
    Attempt.Ends (streamSelectedWavs plan.f32ToS24Bytes plan.slots frozen
        (worker.epochs frozen.descriptor.index) plan.exportRange) state
      (fun _ state' => plan.Streamed fault scratchFrames (fun _ => plan.total) state')
      (fun _ state' => Refused fault state' ∨ u64Max < plan.exportRange.stop + scratchFrames) := by
  unfold Export.streamSelectedWavs
  refine .bindGet ?_
  have hopen := @Opened.openWriters _ _ _ _ 0 state.writers.length _ _ hvalid h
    (fun number channel _ => by omega) (by rw [Nat.zero_add, h.writers_length]) (Nat.zero_le _)
  rw [Nat.zero_mul, ← List.range_eq_range'] at hopen
  refine .bind (hopen.mono (fun _ _ h => h) fun _ _ h => .inl h) ?_
  intro _ opened hopened
  have hblocks := hopened.streamed.streamBlocks hvalid hreads hscratch (Nat.zero_le _)
    (Nat.le_add_left plan.total 0)
  refine .bind hblocks ?_
  intro _ state' hdone
  have hfinal : finalizeWriters (List.range state.writers.length) state' = (.ok (), state') :=
    finalizeWriters_idle fun channel hchannel => hdone.idle_of_total (by
      rw [← h.writers_length]
      exact List.mem_range.mp hchannel)
  unfold Attempt.Ends
  rw [hfinal]
  exact hdone

/-! ### Parts without a header -/

/-- The first part is too long for a header: its file is opened and the stream
ends there. -/
theorem Table.openWriters_fails {first count : ℕ} {state : StreamState α} (htable : plan.Table)
    (hretained : plan.retained ≠ []) (hpos : 0 < plan.parts)
    (hheader : ∀ header, wavHeader (plan.size 0) plan.slots.config.sampleRate ≠ .ok header)
    (habsent : state.io.files (plan.staged 0 0) = none)
    (hfirst : ∀ channel ∈ plan.retained, first ≤ channel) (hend : first + count = plan.channels) :
    Attempt.Ends (openWriters plan.slots (List.range' first count) 0) state (fun _ _ => False)
      (fun e state' => Refused state.io.fault state' ∨
        wavHeader (plan.size 0) plan.slots.config.sampleRate = .error e) := by
  obtain ⟨channel, rest, hlist⟩ := List.exists_cons_of_ne_nil hretained
  have hnumber : plan.retained[0]? = some channel := by rw [hlist]; rfl
  have hchannel : channel ∈ plan.retained := List.mem_of_getElem? hnumber
  induction count generalizing first with
  | zero =>
      have hlow := hfirst channel hchannel
      have hhigh := htable.channel_lt channel hchannel
      omega
  | succ count ih =>
      have hhead := @Table.head?_eq _ _ htable 0 first
      rw [List.range'_succ, Export.openWriters]
      rw [outputsFrom, Nat.zero_mul] at hhead
      by_cases hsame : channel = first
      · subst hsame
        obtain ⟨output, houtput, -, hcount⟩ := htable.output 0 channel 0 hnumber hpos
        have hstaged : plan.staged 0 0 = plan.slots.paths output.stagedPath := by
          simp only [staged, houtput]
        rw [Nat.zero_mul, Nat.zero_add] at houtput
        simp only [hhead.mpr ⟨hnumber, hpos⟩, ne_eq, not_true_eq_false, if_false]
        unfold Export.openWriter
        simp only [houtput]
        rw [hstaged] at habsent
        have hopen : Attempt.Ends (StreamState.onIo
            (WavIo.open (plan.slots.paths output.stagedPath))) state
          (fun _ state' => ∃ calls, state' = state.withFiles (Function.update state.io.files
            (plan.slots.paths output.stagedPath) (some [])) calls)
          (fun _ state' => Refused state.io.fault state') := onIo_call (by simp [habsent])
        refine .bind (Q := fun _ _ => False) (.bind (hopen.mono (fun _ _ h => h) fun _ _ h => .inl h)
          ?_) fun _ _ hfalse => hfalse.elim
        rintro - _ ⟨calls, rfl⟩
        rw [hcount]
        exact .bindOfExcept (fun e he => .inr he) fun header hok => absurd hok (hheader header)
      · have hother : ¬plan.retained[0]? = some first := by
          rw [hnumber]
          simpa using hsame
        simp only [if_pos fun hget => hother (hhead.mp hget).1]
        refine ih (fun other hmem => ?_) (by omega)
        have hlow := hfirst channel hchannel
        obtain ⟨number, hget⟩ := List.mem_iff_getElem?.mp hmem
        rcases Nat.eq_zero_or_pos number with rfl | hlater
        · obtain rfl := Option.some.inj (hnumber.symm.trans hget)
          omega
        · have := (htable.lt_iff hnumber hget).mp hlater
          omega

/-- The parts of a channel, one after the other, are its samples over the
range. -/
theorem flatMap_samples (hpos : 0 < plan.framesPerPart) (channel : ℕ) :
    ((List.range plan.parts).flatMap fun part =>
        plan.samples channel (part * plan.framesPerPart) (plan.size part)) =
      plan.samples channel 0 plan.total := by
  have hfront (count : ℕ) (hcount : count ≤ plan.parts) :
      ((List.range count).flatMap fun part =>
          plan.samples channel (part * plan.framesPerPart) (plan.size part)) =
        plan.samples channel 0 (min (count * plan.framesPerPart) plan.total) := by
    induction count with
    | zero => simp [samples, channelSamples]
    | succ count ih =>
        have hinside : count * plan.framesPerPart < plan.total :=
          (lt_divCeil_iff hpos).mp (show count < plan.parts by omega)
        have hsize : plan.size count =
            min (plan.total - count * plan.framesPerPart) plan.framesPerPart := rfl
        have hnext : min ((count + 1) * plan.framesPerPart) plan.total =
            count * plan.framesPerPart + plan.size count := by
          rw [Nat.succ_mul]
          omega
        rw [List.range_succ, List.flatMap_append, ih (by omega), List.flatMap_singleton,
          Nat.min_eq_left hinside.le, hnext]
        simp only [samples, channelSamples_add, Nat.add_assoc, Nat.zero_add]
  have hall : plan.total ≤ plan.parts * plan.framesPerPart := by
    by_contra hmore
    have := (lt_divCeil_iff hpos).mpr (show plan.parts * plan.framesPerPart < plan.total by omega)
    exact absurd this (Nat.lt_irrefl _)
  rw [hfront plan.parts (Nat.le_refl _), Nat.min_eq_right hall]

theorem partBytes_total (hpos : 0 < plan.framesPerPart) {channel part : ℕ}
    (hpart : part < plan.parts) :
    plan.partBytes channel part plan.total = some (plan.header part ++
      encodeSamples plan.f32ToS24Bytes
        (plan.samples channel (part * plan.framesPerPart) (plan.size part))) := by
  have hinside : part * plan.framesPerPart < plan.total := (lt_divCeil_iff hpos).mp hpart
  have hsize : plan.size part =
      min (plan.total - part * plan.framesPerPart) plan.framesPerPart := rfl
  have hcount : min plan.total ((part + 1) * plan.framesPerPart) - part * plan.framesPerPart =
      plan.size part := by
    rw [Nat.succ_mul]
    omega
  rw [partBytes, if_pos hinside.le, hcount]

theorem Table.length_samples (h : plan.Table) {channel part : ℕ}
    (hchannel : channel ∈ plan.retained) (hpart : part < plan.parts) :
    (plan.samples channel (part * plan.framesPerPart) (plan.size part)).length =
      plan.size part := by
  have hinside := (lt_divCeil_iff h.framesPerPart_pos).mp hpart
  have hsize : plan.size part =
      min (plan.total - part * plan.framesPerPart) plan.framesPerPart := rfl
  have htotal : plan.total = plan.exportRange.stop - plan.exportRange.start := rfl
  have horder := h.order
  refine length_channelSamples (h.channel_lt channel hchannel) ?_
  refine (Nat.mul_le_mul_right _ ?_).trans h.history
  change part * plan.framesPerPart < plan.total at hinside
  omega

end StreamPlan

/-! ### The stream of a planned export -/

theorem exportItems_getElem? {retained : List ℕ} {partCount number channel part : ℕ}
    (hnumber : retained[number]? = some channel) (hpart : part < partCount) :
    (exportItems retained partCount)[number * partCount + part]? = some (channel, part) := by
  have hlength (first : ℕ) : ((List.range partCount).map (Prod.mk first)).length = partCount := by
    simp
  induction retained generalizing number with
  | nil => cases hnumber
  | cons first rest ih =>
      rw [exportItems, List.flatMap_cons]
      cases number with
      | zero =>
          obtain rfl := Option.some.inj hnumber
          rw [Nat.zero_mul, Nat.zero_add, List.getElem?_append_left (by rw [hlength]; exact hpart)]
          simp [hpart]
      | succ number =>
          rw [List.getElem?_cons_succ] at hnumber
          have hplace : (number + 1) * partCount + part - partCount =
              number * partCount + part := by
            rw [Nat.succ_mul]
            omega
          rw [List.getElem?_append_right (by rw [hlength, Nat.succ_mul]; omega), hlength, hplace]
          exact ih hnumber

theorem getElem?_of_forall₂ {β γ : Type} {R : β → γ → Prop} {items : List β} {outs : List γ}
    (h : List.Forall₂ R items outs) {index : ℕ} {item : β} (hitem : items[index]? = some item) :
    ∃ out, outs[index]? = some out ∧ R item out := by
  induction h generalizing index with
  | nil => cases hitem
  | @cons first out items outs hfirst _ ih =>
      cases index with
      | zero =>
          obtain rfl := Option.some.inj hitem
          exact ⟨out, rfl, hfirst⟩
      | succ index => exact ih hitem

theorem sorted_retainedChannels (decision : FrozenExportDecision) :
    (retainedChannels decision).Pairwise (· < ·) := by
  have hall : (decision.channels.zipIdx.map Prod.snd).Pairwise (· < ·) := by
    rw [List.zipIdx_map_snd, ← List.range_eq_range']
    exact List.pairwise_lt_range
  exact hall.sublist (List.filter_sublist.map _)

/-- The stream of an export that was planned into `slots`. -/
def exportStream (f32ToS24Bytes : α → S24) (slots : PlanSlots) (decision : FrozenExportDecision)
    (framesPerPart : ℕ) (history : List α) (before : String → Option Bytes) : StreamPlan α where
  f32ToS24Bytes := f32ToS24Bytes
  slots := slots
  retained := retainedChannels decision
  exportRange := decision.exportRange
  framesPerPart := framesPerPart
  history := history
  header part :=
    match wavHeader (partAt (decision.exportRange.stop - decision.exportRange.start) framesPerPart
      part).frameCount slots.config.sampleRate with
    | .ok header => header
    | .error _ => []
  before := before

/-- The outputs a plan has left in the slots. -/
theorem planPolicyPaths_outputs {slots slots' : PlanSlots} {policy : ResolvedExportPolicy}
    {decision : FrozenExportDecision} {command : ExportCommand} {profile timestamp : String}
    {details : RequestDetails} {stamp : TransactionStamp}
    (hchannels : decision.channels.length = slots.config.channels)
    (h : planPolicyPaths slots details policy
      (policyContext slots.config command profile timestamp decision) decision stamp =
        .ok slots') :
    ∃ framesPerPart outs,
      wavFramesPerPart wavSampleBytes slots.config.splitWhenOverBytes = .ok framesPerPart ∧
      slots'.config = slots.config ∧ slots'.outputCount = outs.length ∧
      List.Forall₂ (Renders policy (policyContext slots.config command profile timestamp decision)
        framesPerPart) (exportItems (retainedChannels decision)
          (divCeil (decision.exportRange.stop - decision.exportRange.start) framesPerPart)) outs ∧
      (∀ index out, outs[index]? = some out →
        slots'.outputs[index]? = some (outputSlot index out)) ∧
      StagedApart slots' outs := by
  by_cases hempty : retainedChannels decision = [] ∨
      decision.exportRange.stop ≤ decision.exportRange.start
  · obtain ⟨framesPerPart, hsplit, hcount, hconfig⟩ := planPolicyPaths_empty hempty h
    refine ⟨framesPerPart, [], hsplit, hconfig, hcount, ?_, by simp, by simp [StagedApart]⟩
    have hnone : exportItems (retainedChannels decision)
        (divCeil (decision.exportRange.stop - decision.exportRange.start) framesPerPart) = [] := by
      rcases hempty with hnil | hle
      · rw [hnil]
        rfl
      · have hzero : divCeil (decision.exportRange.stop - decision.exportRange.start)
            framesPerPart = 0 := Nat.eq_zero_of_not_pos fun hparts => by
          have := (lt_divCeil_iff (wavFramesPerPart_eq hsplit).2).mp hparts
          omega
        rw [hzero]
        simp [exportItems]
    rw [hnone]
    exact .nil
  · push Not at hempty
    obtain ⟨start, framesPerPart, outs, hstart, hplan, hplanned, hcount, hstaged⟩ :=
      PlansExport.plan_made ⟨hchannels, hempty.2, hempty.1⟩ h
    exact ⟨framesPerPart, outs, hplan.split, hplanned.config.trans hstart, hcount, hplan.rendered,
      fun index out hout => hplanned.getElem? hout, hstaged⟩

/-- A planned export streams along a table. -/
theorem exportStream_table {slots slots' : PlanSlots} {policy : ResolvedExportPolicy}
    {decision : FrozenExportDecision} {context : RenderContext} {framesPerPart : ℕ}
    {outs : List RenderedOutput} {f32ToS24Bytes : α → S24} {history : List α}
    {before : String → Option Bytes}
    (hchannels : decision.channels.length = slots.config.channels)
    (hrange : context.totalFrames = decision.exportRange.stop - decision.exportRange.start)
    (hsplit : wavFramesPerPart wavSampleBytes slots.config.splitWhenOverBytes = .ok framesPerPart)
    (hconfig : slots'.config = slots.config) (hcount : slots'.outputCount = outs.length)
    (hrendered : List.Forall₂ (Renders policy context framesPerPart)
      (exportItems (retainedChannels decision)
        (divCeil (decision.exportRange.stop - decision.exportRange.start) framesPerPart)) outs)
    (houtputs : ∀ index out, outs[index]? = some out →
      slots'.outputs[index]? = some (outputSlot index out))
    (hstaged : StagedApart slots' outs)
    (horder : decision.exportRange.start ≤ decision.exportRange.stop)
    (hhistory : decision.exportRange.stop * slots.config.channels ≤ history.length) :
    (exportStream f32ToS24Bytes slots' decision framesPerPart history before).Table := by
  set plan := exportStream f32ToS24Bytes slots' decision framesPerPart history before with hplan
  have hpart (number channel part : ℕ) (hnumber : plan.retained[number]? = some channel)
      (hpart : part < plan.parts) : ∃ out, outs[number * plan.parts + part]? = some out ∧
        Renders policy context framesPerPart (channel, part) out :=
    getElem?_of_forall₂ hrendered (exportItems_getElem? hnumber hpart)
  refine ⟨(wavFramesPerPart_eq hsplit).2, sorted_retainedChannels decision, ?_, ?_, ?_, ?_, ?_,
    horder⟩
  · intro channel hchannel
    have hlt := lt_of_mem_retainedChannels hchannel
    change channel < slots'.config.channels
    rw [hconfig, ← hchannels]
    exact hlt
  · change slots'.outputCount = _
    rw [hcount, ← hrendered.length_eq, length_exportItems]
    rfl
  · intro number channel part hnumber hlt
    obtain ⟨out, hout, hrenders⟩ := hpart number channel part hnumber hlt
    refine ⟨_, houtputs _ out hout, hrenders.channelIndex, ?_⟩
    have hend := hrenders.endFrame
    rw [hrange] at hend
    change out.endFrame - out.startFrame = (partAt _ _ part).frameCount
    rw [hend, Nat.add_sub_cancel_left]
    rfl
  · intro number number' part part' hnumber hnumber' hlt hlt' hsame
    obtain ⟨out, hout, -⟩ := hpart number _ part (List.getElem?_eq_getElem hnumber) hlt
    obtain ⟨out', hout', -⟩ := hpart number' _ part' (List.getElem?_eq_getElem hnumber') hlt'
    simp only [StreamPlan.staged] at hsame
    rw [hplan] at hsame hout hout'
    have hslot : (exportStream f32ToS24Bytes slots' decision framesPerPart history before).slots =
      slots' := rfl
    simp only [hslot, houtputs _ out hout, houtputs _ out' hout'] at hsame
    have hindex := hstaged _ _ out out' hout hout' hsame
    rw [← hplan] at hindex
    have hquot := congrArg (· / plan.parts) hindex
    have hrest := congrArg (· % plan.parts) hindex
    simp only [Nat.mul_comm _ plan.parts, Nat.mul_add_mod, Nat.mod_eq_of_lt hlt,
      Nat.mod_eq_of_lt hlt'] at hrest
    simp only [Nat.mul_comm _ plan.parts, Nat.mul_add_div (Nat.zero_lt_of_lt hlt),
      Nat.div_eq_of_lt hlt, Nat.div_eq_of_lt hlt', Nat.add_zero] at hquot
    exact ⟨hquot, hrest⟩
  · change decision.exportRange.stop * slots'.config.channels ≤ history.length
    rw [hconfig]
    exact hhistory

/-- The workspace before a stream: the buffers have their sizes, no writer is
open and no staged file is there. -/
structure StreamReady (slots : PlanSlots) (scratchFrames : ℕ) (state : StreamState α) : Prop where
  writers : state.writers.length = slots.config.channels
  closed : ∀ writer ∈ state.writers, writer.file = none
  pcm : state.pcm.length = slots.config.channels
  pcm_room : ∀ buffer ∈ state.pcm, 3 ≤ buffer.length
  scratch : state.scratch.length = scratchFrames * slots.config.channels
  absent : ∀ output ∈ slots.outputs.take slots.outputCount,
    state.io.files (slots.paths output.stagedPath) = none

theorem StreamPlan.Table.mem_outputs {plan : StreamPlan α} (h : plan.Table)
    {number channel part : ℕ} (hnumber : plan.retained[number]? = some channel)
    (hpart : part < plan.parts) :
    ∃ output ∈ plan.slots.outputs.take plan.slots.outputCount,
      plan.staged number part = plan.slots.paths output.stagedPath := by
  obtain ⟨output, houtput, -⟩ := h.output number channel part hnumber hpart
  obtain ⟨output', hmem, -⟩ := h.outputsFrom_some hnumber hpart
  rw [StreamPlan.outputsFrom, List.getElem?_drop] at hmem
  have hget := hmem
  rw [List.getElem?_take] at hget
  split_ifs at hget
  obtain rfl := Option.some.inj (houtput.symm.trans hget)
  exact ⟨output, List.mem_of_getElem? hmem, by simp [StreamPlan.staged, houtput]⟩

theorem StreamReady.opened {plan : StreamPlan α} {scratchFrames : ℕ} {state : StreamState α}
    (h : StreamReady plan.slots scratchFrames state) (htable : plan.Table)
    (hbefore : plan.before = state.io.files) :
    plan.Opened state.io.fault scratchFrames 0 state := by
  refine ⟨rfl, h.writers, h.pcm, h.pcm_room, h.scratch, by omega, ?_, ?_, fun path _ => ?_⟩
  · intro channel writer _ hget
    exact h.closed writer (List.mem_of_getElem? hget)
  · intro number channel part hnumber hpart
    obtain ⟨output, hmem, hstaged⟩ := htable.mem_outputs hnumber hpart
    rw [if_neg (Nat.not_lt_zero _), hstaged]
    exact h.absent output hmem
  · rw [hbefore]

/-- The size of the first part decides whether the parts have headers. -/
theorem exportStream_valid {f32ToS24Bytes : α → S24} {slots : PlanSlots}
    {decision : FrozenExportDecision} {framesPerPart : ℕ} {history : List α}
    {before : String → Option Bytes}
    (htable : (exportStream f32ToS24Bytes slots decision framesPerPart history before).Table)
    (hheader : ∃ header, wavHeader ((exportStream f32ToS24Bytes slots decision framesPerPart history
      before).size 0) slots.config.sampleRate = .ok header) :
    (exportStream f32ToS24Bytes slots decision framesPerPart history before).Valid := by
  refine ⟨htable, fun _ part _ => ?_⟩
  have hle : (exportStream f32ToS24Bytes slots decision framesPerPart history before).size part ≤
      (exportStream f32ToS24Bytes slots decision framesPerPart history before).size 0 := by
    simp only [StreamPlan.size, partAt]
    omega
  obtain ⟨header, hok⟩ := wavHeader_mono hle hheader
  have hchosen : (exportStream f32ToS24Bytes slots decision framesPerPart history before).header
      part = header := by
    simp only [exportStream]
    rw [StreamPlan.size] at hok
    have hsame : wavHeader (partAt (decision.exportRange.stop - decision.exportRange.start)
        framesPerPart part).frameCount slots.config.sampleRate = .ok header := hok
    rw [hsame]
  rw [hchosen]
  exact hok

/-- What a stream along a table has written when it ends well, and why it may
end otherwise. -/
theorem StreamPlan.Table.streams {plan : StreamPlan α} {worker : WorkerState α}
    {frozen : FrozenCaptureEpoch} {scratchFrames : ℕ} {state : StreamState α}
    (htable : plan.Table)
    (hvalid : (∃ header, wavHeader (plan.size 0) plan.slots.config.sampleRate = .ok header) →
      plan.Valid) (hreads : plan.Reads worker frozen) (hscratch : 0 < scratchFrames)
    (hready : StreamReady plan.slots scratchFrames state) (hbefore : plan.before = state.io.files) :
    Attempt.Ends (streamSelectedWavs plan.f32ToS24Bytes plan.slots frozen
        (worker.epochs frozen.descriptor.index) plan.exportRange) state
      (fun _ state' =>
        (∀ number channel part, plan.retained[number]? = some channel → part < plan.parts →
          ∃ output header, plan.slots.outputs[number * plan.parts + part]? = some output ∧
            output.channel = channel ∧
            output.frameCount =
              (plan.samples channel (part * plan.framesPerPart) (plan.size part)).length ∧
            wavHeader output.frameCount plan.slots.config.sampleRate = .ok header ∧
            state'.io.files (plan.slots.paths output.stagedPath) = some (header ++
              encodeSamples plan.f32ToS24Bytes
                (plan.samples channel (part * plan.framesPerPart) (plan.size part))) ∧
            writeMonoWav plan.f32ToS24Bytes
                (plan.samples channel (part * plan.framesPerPart) (plan.size part))
                plan.slots.config.sampleRate = .ok (header ++ encodeSamples plan.f32ToS24Bytes
                  (plan.samples channel (part * plan.framesPerPart) (plan.size part)))) ∧
        ∀ path, (∀ output ∈ plan.slots.outputs.take plan.slots.outputCount,
          path ≠ plan.slots.paths output.stagedPath) → state'.io.files path = state.io.files path)
      (fun e state' => Refused state.io.fault state' ∨
        wavHeader (plan.size 0) plan.slots.config.sampleRate = .error e ∨
        u64Max < plan.exportRange.stop + scratchFrames) := by
  have hopened := hready.opened htable hbefore
  by_cases hheaders : plan.retained = [] ∨ plan.parts = 0 ∨
      ∃ header, wavHeader (plan.size 0) plan.slots.config.sampleRate = .ok header
  · have hvalid : plan.Valid := by
      rcases hheaders with hnil | hzero | hheader
      · exact ⟨htable, fun hsome => absurd hnil hsome⟩
      · exact ⟨htable, fun _ part hpart => by omega⟩
      · exact hvalid hheader
    refine (hopened.streamSelectedWavs hvalid hreads hscratch).mono (fun _ state' hdone => ?_)
      fun e _ he => he.imp_right .inr
    refine ⟨fun number channel part hnumber hpart => ?_, fun path hpath => ?_⟩
    · obtain ⟨output, houtput, hchannel, hcount, hstaged⟩ := hvalid.staged_eq hnumber hpart
      have hlength := htable.length_samples (List.mem_of_getElem? hnumber) hpart
      have hheader := hvalid.header (StreamPlan.retained_ne_nil hnumber) part hpart
      refine ⟨output, plan.header part, houtput, hchannel, hcount.trans hlength.symm, ?_, ?_, ?_⟩
      · rw [hcount]
        exact hheader
      · rw [hstaged, hdone.files number channel part hnumber hpart,
          StreamPlan.partBytes_total htable.framesPerPart_pos hpart]
      · refine writeMonoWav_eq ?_
        rw [hlength]
        exact hheader
    · rw [hdone.others path, hbefore]
      intro number part hnumber hpart
      obtain ⟨output, hmem, hstaged⟩ :=
        htable.mem_outputs (List.getElem?_eq_getElem hnumber) hpart
      rw [hstaged]
      exact hpath output hmem
  · push Not at hheaders
    obtain ⟨hretained, hparts, hheader⟩ := hheaders
    have hpos : 0 < plan.parts := Nat.pos_of_ne_zero hparts
    have habsent := hopened.files 0 _ 0
      (List.getElem?_eq_getElem (List.length_pos_iff.mpr hretained)) hpos
    have hfails := htable.openWriters_fails hretained hpos hheader
      (habsent.trans (if_neg (Nat.not_lt_zero _))) (fun _ _ => Nat.zero_le _)
      (Nat.zero_add plan.channels)
    unfold Export.streamSelectedWavs
    refine .bindGet ?_
    rw [hopened.writers_length, List.range_eq_range']
    exact .bind (hfails.mono (fun _ _ hfalse => hfalse) fun e _ he => he.imp_right .inl)
      fun _ _ hfalse => hfalse.elim

/-- Every frozen epoch, retained channel and part: a stream that ends well has
written `wav_header` and the encoding of the part's samples into the file of
this part, the bytes of `write_mono_wav`; the parts of a channel are its
samples over the export range, and no other file has changed. It ends well
unless a call is refused, the first part has no header, or the scratch buffer
reaches past the last frame number. -/
theorem streamed_export_matches_reference {cfg : ArenaConfig} {zero : α} {worker₀ : WorkerState α}
    (hnew : WorkerState.new cfg zero = .ok worker₀) (slotCount : ℕ)
    (hpos : 0 < worker₀.cfg.slotFrames) (events : List (SessionEvent α))
    {frozen : FrozenCaptureEpoch}
    (hgranted : ((ArenaRun.start worker₀ slotCount hpos zero).steps events).granted =
      some frozen.descriptor)
    (hreleased : frozen.released = false) (hpending : frozen.releasePending = false)
    {slots slots' : PlanSlots} {policy : ResolvedExportPolicy} {decision : FrozenExportDecision}
    {command : ExportCommand} {profile timestamp : String} {details : RequestDetails}
    {stamp : TransactionStamp}
    (hgeometry : validatePolicyGeometry slots.config frozen policy decision = .ok ())
    (hlow : frozen.absoluteRange.start ≤ decision.exportRange.start)
    (horder : decision.exportRange.start ≤ decision.exportRange.stop)
    (hhigh : decision.exportRange.stop ≤ frozen.absoluteRange.stop)
    (hplan : planPolicyPaths slots details policy
      (policyContext slots.config command profile timestamp decision) decision stamp = .ok slots')
    (f32ToS24Bytes : α → S24) {scratchFrames : ℕ} (hscratch : 0 < scratchFrames)
    {state : StreamState α} (hready : StreamReady slots' scratchFrames state) :
    let run := (ArenaRun.start worker₀ slotCount hpos zero).steps events
    let total := decision.exportRange.stop - decision.exportRange.start
    ∃ framesPerPart,
      wavFramesPerPart wavSampleBytes slots.config.splitWhenOverBytes = .ok framesPerPart ∧
      let parts := divCeil total framesPerPart
      let samples := fun channel part => channelSamples run.history slots.config.channels channel
        (decision.exportRange.start + part * framesPerPart)
        (partAt total framesPerPart part).frameCount
      Attempt.Ends (streamSelectedWavs f32ToS24Bytes slots' frozen
          (run.worker.epochs frozen.descriptor.index) decision.exportRange) state
        (fun _ state' =>
          (∀ number channel part, (retainedChannels decision)[number]? = some channel →
            part < parts → ∃ output header,
              slots'.outputs[number * parts + part]? = some output ∧ output.channel = channel ∧
              output.frameCount = (samples channel part).length ∧
              wavHeader output.frameCount slots.config.sampleRate = .ok header ∧
              state'.io.files (slots'.paths output.stagedPath) =
                some (header ++ encodeSamples f32ToS24Bytes (samples channel part)) ∧
              writeMonoWav f32ToS24Bytes (samples channel part) slots.config.sampleRate =
                .ok (header ++ encodeSamples f32ToS24Bytes (samples channel part))) ∧
          (∀ channel ∈ retainedChannels decision, (List.range parts).flatMap (samples channel) =
            channelSamples run.history slots.config.channels channel decision.exportRange.start
              total) ∧
          ∀ path, (∀ output ∈ slots'.outputs.take slots'.outputCount,
            path ≠ slots'.paths output.stagedPath) → state'.io.files path = state.io.files path)
        (fun e state' => Refused state.io.fault state' ∨
          wavHeader (partAt total framesPerPart 0).frameCount slots.config.sampleRate = .error e ∨
          u64Max < decision.exportRange.stop + scratchFrames) := by
  intro run total
  have hinv : run.Inv := (ArenaRun.Inv.start hnew slotCount hpos).steps events
  have htracks := hinv.tracks
  have hholds := htracks.holds frozen.descriptor hgranted
  obtain ⟨hchannels, hfrozen⟩ := validatePolicyGeometry_channels hgeometry
  obtain ⟨framesPerPart, outs, hsplit, hconfig, hcount, hrendered, houtputs, hstaged⟩ :=
    planPolicyPaths_outputs hchannels hplan
  refine ⟨framesPerPart, hsplit, ?_⟩
  have hring : run.worker.cfg.ring.channels = slots.config.channels :=
    hholds.channels.symm.trans hfrozen
  have hhistory : decision.exportRange.stop * slots.config.channels ≤ run.history.length := by
    rw [htracks.length, hring]
    refine Nat.mul_le_mul_right _ ?_
    have hstop := hholds.stop_le
    have hhead := htracks.inv.head
    change frozen.absoluteRange.stop ≤ _ at hstop
    omega
  have htable : (exportStream f32ToS24Bytes slots' decision framesPerPart run.history
      state.io.files).Table := exportStream_table hchannels rfl hsplit hconfig hcount hrendered
    houtputs hstaged horder hhistory
  have hreads : (exportStream f32ToS24Bytes slots' decision framesPerPart run.history
      state.io.files).Reads run.worker frozen :=
    ⟨htracks.inv, hholds, by rw [hring, ← hconfig]; rfl, hreleased, hpending, hlow, hhigh⟩
  have hstream := htable.streams (exportStream_valid htable) hreads hscratch hready rfl
  rw [← hconfig]
  refine hstream.mono (fun _ state' hdone => ⟨hdone.1, fun channel hchannel => ?_, hdone.2⟩)
    fun _ _ he => he
  exact @StreamPlan.flatMap_samples _ (exportStream f32ToS24Bytes slots' decision framesPerPart
    run.history state.io.files) htable.framesPerPart_pos channel

/-- Parts of one frame, for the rings of `Arena.smallArena`. -/
def onePerPart : PlanSlots :=
  { monoSlots with
    config := ⟨4, 1, 1, .f32Le, 4, 4, 47, 47, 255⟩
    channels_le := by decide
    maximumPathBytes_le := by decide }

def twoFrames : FrozenCaptureEpoch :=
  ⟨1, ⟨0, 2, 0, ⟨0, 2⟩, ⟨0, 2⟩, 1, 1, .f32Le⟩, false, false⟩

def bothFrames : FrozenExportDecision where
  channels := [⟨.always, .active, .retain, some 1⟩]
  exportRange := ⟨0, 2⟩
  sampleRate := 1
  valid := true
  frozenEpoch := some twoFrames.identity

/-- One frame of scratch and one sample of PCM. -/
def idleStream : StreamState ℕ where
  io := ⟨fun _ => none, fun _ => none, 0⟩
  writers := [⟨none, 0, 0, 0⟩]
  pcm := [[0, 0, 0]]
  scratch := [0]

/-- Two frames in two parts, through one frame of scratch: the second part holds
the second frame. -/
theorem streamed_export_matches_reference_two :
    ∃ worker₀, WorkerState.new Arena.smallArena (0 : ℕ) = .ok worker₀ ∧
      ∃ hpos : 0 < worker₀.cfg.slotFrames, ∃ slots',
        let run := (ArenaRun.start worker₀ 4 hpos 0).steps freezeTwo
        run.granted = some twoFrames.descriptor ∧
        planPolicyPaths onePerPart (policyDetails monoPolicy .dump "/tmp/staging") monoPolicy
          (policyContext onePerPart.config .dump "studio" "20240101" bothFrames) bothFrames
          ⟨1, 2, 3⟩ = .ok slots' ∧
        Attempt.Ends (streamSelectedWavs (fun n => ⟨UInt8.ofNat n, 0, 0⟩) slots' twoFrames
            (run.worker.epochs twoFrames.descriptor.index) bothFrames.exportRange) idleStream
          (fun _ state' => ∃ path header, state'.io.files path = some (header ++ [8, 0, 0]))
          (fun _ _ => False) := by
  have hplanned : (planPolicyPaths onePerPart (policyDetails monoPolicy .dump "/tmp/staging")
      monoPolicy (policyContext onePerPart.config .dump "studio" "20240101" bothFrames) bothFrames
      ⟨1, 2, 3⟩).map PlanSlots.outputCount = .ok 2 := by decide +kernel
  cases hplan : planPolicyPaths onePerPart (policyDetails monoPolicy .dump "/tmp/staging")
      monoPolicy (policyContext onePerPart.config .dump "studio" "20240101" bothFrames) bothFrames
      ⟨1, 2, 3⟩ with
  | error e =>
      rw [hplan] at hplanned
      cases hplanned
  | ok slots' =>
      refine ⟨_, rfl, by decide, slots', by decide +kernel, rfl, ?_⟩
      obtain ⟨_, _, -, hconfig, -⟩ := planPolicyPaths_outputs (by decide) hplan
      have hready : StreamReady slots' 1 idleStream := by
        refine ⟨?_, by simp [idleStream], ?_, by simp [idleStream], ?_, fun _ _ => rfl⟩
        all_goals rw [hconfig]; rfl
      obtain ⟨framesPerPart, hsplit, hstream⟩ :=
        @streamed_export_matches_reference ℕ Arena.smallArena 0 _ rfl 4 (by decide) freezeTwo twoFrames
          (by decide +kernel) rfl rfl _ _ _ _ _ _ _ _ _ (by decide +kernel) (by decide) (by decide)
          (by decide) hplan (fun n => ⟨UInt8.ofNat n, 0, 0⟩) 1 Nat.zero_lt_one _ hready
      obtain rfl : framesPerPart = 1 := (Except.ok.inj hsplit).symm
      refine hstream.mono (fun _ state' hdone => ?_) fun e state' he => ?_
      · obtain ⟨output, header, -, -, -, -, hfile, -⟩ := hdone.1 0 0 1 (by decide) (by decide)
        refine ⟨_, header, hfile.trans (congrArg (fun bytes => some (header ++ bytes)) ?_)⟩
        decide +kernel
      · rcases he with ⟨call, -, hfault⟩ | hheader | hlimit
        · cases hfault
        · have hok : (wavHeader 1 1).isOk = true := by decide +kernel
          change wavHeader 1 1 = .error e at hheader
          rw [hheader] at hok
          cases hok
        · exact absurd hlimit (by decide)

end Lamb.Export
