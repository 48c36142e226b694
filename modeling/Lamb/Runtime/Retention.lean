import Lamb.Arena.Feed
import Lamb.Runtime.Build
import Mathlib.Tactic.Linarith

/-!
The rings of a session against its workspace. The rings hold whole chunks and
the workspace holds the retention that was asked for, so a full ring fits the
workspace exactly when chunks divide the retention.
-/

namespace Lamb.Runtime

open Lamb.Ring Lamb.Arena Lamb.Lib

variable {α : Type}

/-! ### Whole chunks -/

theorem divCeil_eq_ceilDiv {n d : ℕ} (hd : 0 < d) : divCeil n d = n ⌈/⌉ d := by
  rcases Nat.eq_zero_or_pos n with rfl | hn
  · rw [divCeil, Nat.zero_add, zero_ceilDiv]
    exact Nat.div_eq_of_lt (by omega)
  · symm
    have hdiv := Nat.div_add_mod (n - 1) d
    have hmod := Nat.mod_lt (n - 1) hd
    have heq : divCeil n d = (n - 1) / d + 1 := by
      rw [divCeil, ← Nat.add_div_right _ hd]
      congr 1
      omega
    rw [heq]
    refine ceilDiv_eq_succ hd ?_ ?_
    · rw [mul_comm]
      omega
    · rw [Nat.succ_mul, mul_comm]
      omega

theorem divCeil_mono {m n d : ℕ} (h : m ≤ n) : divCeil m d ≤ divCeil n d :=
  Nat.div_le_div_right (by omega)

theorem le_divCeil_mul {n d : ℕ} (hd : 0 < d) : n ≤ divCeil n d * d := by
  have := (ceilDiv_le_iff_le_mul hd).mp (divCeil_eq_ceilDiv (n := n) hd).ge
  rwa [mul_comm] at this

theorem divCeil_mul_eq_iff {n d : ℕ} (hd : 0 < d) : divCeil n d * d = n ↔ d ∣ n := by
  constructor
  · intro h
    exact ⟨divCeil n d, by rw [mul_comm]; exact h.symm⟩
  · rintro ⟨k, rfl⟩
    rw [mul_comm d k, divCeil_eq_ceilDiv hd, mul_ceilDiv hd]

/-! ### What a plan has checked -/

theorem checkedMulOr_eq_ok {context : String} {left right product : ℕ} :
    checkedMulOr context left right = .ok product ↔
      product = left * right ∧ left * right ≤ u64Max := by
  unfold checkedMulOr
  split
  · simp_all [eq_comm]
  · simp_all

theorem requirePositive_eq_ok {values : List (String × ℕ)} {u : Unit}
    (h : requirePositive values = .ok u) : ∀ value ∈ values, 0 < value.2 := by
  induction values with
  | nil => simp
  | cons value rest ih =>
      simp only [requirePositive] at h
      split at h
      · cases h
      · intro other hother
        rcases List.mem_cons.mp hother with rfl | hrest
        · omega
        · exact ih h other hrest

theorem deriveChunkFrames_pos {sampleRate chunkFrames : ℕ} {requested : Option ℕ}
    (h : deriveChunkFrames sampleRate requested = .ok chunkFrames) : 0 < chunkFrames := by
  unfold deriveChunkFrames at h
  split at h
  · cases h
  · cases requested with
    | none =>
        obtain rfl := Except.ok.inj h
        exact lt_of_lt_of_le Nat.zero_lt_one (le_max_right _ _)
    | some frames =>
        simp only at h
        split at h
        · cases h
        · obtain rfl := Except.ok.inj h
          omega

/-- What `calculate` has checked, as far as the sizes below depend on it. -/
structure SessionMemoryPlan.Calculated (plan : SessionMemoryPlan)
    (inputs : SessionMemoryInputs) : Prop where
  retention_pos : 0 < inputs.retentionFrames
  slots_pos : 0 < inputs.captureQueueSlots
  allocated_le : divCeil inputs.retentionFrames inputs.chunkFrames * inputs.chunkFrames ≤ u64Max
  parts : wavPartCount inputs.retentionFrames wavSampleBytes inputs.splitWhenOverBytes =
    .ok plan.maximumWavPartsPerChannel
  outputs : plan.outputFileSlots = plan.maximumWavPartsPerChannel * inputs.channels
  outputs_le : plan.outputFileSlots ≤ u64Max

theorem SessionMemoryPlan.calculated {machine : Machine} {inputs : SessionMemoryInputs}
    {plan : SessionMemoryPlan} (h : SessionMemoryPlan.calculate machine inputs = .ok plan) :
    plan.Calculated inputs := by
  simp only [SessionMemoryPlan.calculate, bind_eq_ok] at h
  obtain ⟨_, hinputs, ring, hring, capture, -, calibration, -, workspace, -, outputs, houtputs,
    path, -, manifest, -, operation, -, committed, -, required, -, hplan⟩ := h
  obtain rfl := Except.ok.inj hplan
  simp only [validateInputs, bind_eq_ok] at hinputs
  obtain ⟨_, -, _, hpositive, -⟩ := hinputs
  have hpos := requirePositive_eq_ok hpositive
  simp only [ringBudget, bind_eq_ok] at hring
  obtain ⟨_, -, allocated, hallocated, -⟩ := hring
  simp only [outputSlots, bind_eq_ok] at houtputs
  obtain ⟨parts, hparts, slots, hslots, houtputs⟩ := houtputs
  obtain rfl := Except.ok.inj houtputs
  obtain ⟨rfl, hslotsLe⟩ := checkedMulOr_eq_ok.mp hslots
  exact
    { retention_pos := hpos ("retention_frames", inputs.retentionFrames) (by
        simp [SessionMemoryInputs.positives])
      slots_pos := hpos ("capture_queue_slots", inputs.captureQueueSlots) (by
        simp [SessionMemoryInputs.positives])
      allocated_le := (checkedMulOr_eq_ok.mp hallocated).2
      parts := hparts
      outputs := rfl
      outputs_le := hslotsLe }

/-- What a session plan reserves for the directories of a publication. -/
theorem SessionMemoryPlan.directorySlots_eq {machine : Machine} {inputs : SessionMemoryInputs}
    {plan : SessionMemoryPlan} (h : SessionMemoryPlan.calculate machine inputs = .ok plan) :
    plan.manifestDirectorySlots = plan.outputFileSlots * divCeil plan.maximumPathBytes 2 := by
  simp only [SessionMemoryPlan.calculate, bind_eq_ok] at h
  obtain ⟨_, -, ring, -, capture, -, calibration, -, workspace, -, outputs, -, path, -, manifest,
    hmanifest, operation, -, committed, -, required, -, hplan⟩ := h
  obtain rfl := Except.ok.inj hplan
  simp only [manifestBudget, bind_eq_ok] at hmanifest
  obtain ⟨_, -, _, -, directorySlots, hdirectories, _, -, _, -, _, -, _, -, _, -, _, -, _, -, _, -,
    _, -, _, -, _, -, _, -, _, -, _, -, hmanifest⟩ := hmanifest
  obtain rfl := Except.ok.inj hmanifest
  exact (checkedMulOr_eq_ok.mp hdirectories).1

/-- A built runtime: the session it starts with, and its workspace. -/
structure Built (params : CaptureRuntimeParams) (sampleRate channels chunkFrames : ℕ)
    (zero : α) (run : ArenaRun α) (workspace : PersistenceWorkspace) : Prop where
  chunkFrames_eq : deriveChunkFrames sampleRate params.chunkFramesOverride = .ok chunkFrames
  retention_pos : 0 < params.seconds * sampleRate
  slots_pos : 0 < params.captureQueueSlots
  allocated_le : divCeil (params.seconds * sampleRate) chunkFrames * chunkFrames ≤ u64Max
  started : ∃ (cfg : ArenaConfig) (worker : WorkerState α) (hpos : 0 < worker.cfg.slotFrames),
    WorkerState.new cfg zero = .ok worker ∧
      run = ArenaRun.start worker params.captureQueueSlots hpos zero
  ringChannels : run.worker.cfg.ring.channels = channels
  ringRate : run.worker.cfg.ring.sampleRate = sampleRate
  ringFormat : run.worker.cfg.ring.format = .f32Le
  ringChunkFrames : run.worker.cfg.ring.chunkFrames = chunkFrames
  ringSlotFrames : run.worker.cfg.slotFrames = chunkFrames
  ringChunkCount : run.worker.cfg.ring.chunkCount = divCeil (params.seconds * sampleRate) chunkFrames
  workspaceChannels : workspace.config.channels = channels
  workspaceRate : workspace.config.sampleRate = sampleRate
  workspaceFormat : workspace.config.sampleFormat = .f32Le
  retentionFrames : workspace.config.retentionFrames = params.seconds * sampleRate
  outputs : ∃ parts, wavPartCount (params.seconds * sampleRate) wavSampleBytes
      workspace.config.splitWhenOverBytes = .ok parts ∧
    workspace.outputs = parts * channels ∧ workspace.outputs ≤ u64Max

theorem CaptureRuntime.built {machine : Machine} {params : CaptureRuntimeParams}
    {sampleRate channels : ℕ} {zero : α} {run : ArenaRun α} {workspace : PersistenceWorkspace}
    (h : CaptureRuntime.build machine params sampleRate channels zero = .ok (run, workspace)) :
    ∃ chunkFrames, Built params sampleRate channels chunkFrames zero run workspace := by
  simp only [CaptureRuntime.build, bind_eq_ok] at h
  obtain ⟨planned, hplanned, arena, harena, workspace', hworkspace, hpair⟩ := h
  obtain ⟨rfl, rfl⟩ := Prod.mk.inj (Except.ok.inj hpair)
  simp only [planRuntime, bind_eq_ok] at hplanned
  obtain ⟨retention, hretention, chunkFrames, hchunk, _, -, plan, hplan, _, -, hplanned⟩ :=
    hplanned
  obtain rfl := Except.ok.inj hplanned
  obtain ⟨rfl, -⟩ := checkedMulOr_eq_ok.mp hretention
  have hcalculated := SessionMemoryPlan.calculated hplan
  have hpos := deriveChunkFrames_pos hchunk
  simp only [newArena, bind_eq_ok] at harena
  obtain ⟨_, -, worker, hworker, hstart⟩ := harena
  split at hstart
  · rename_i hslot
    obtain rfl := Except.ok.inj hstart
    have hcfg := WorkerState.new_cfg hworker
    simp only [PersistenceWorkspace.new, bind_eq_ok] at hworkspace
    obtain ⟨_, -, hworkspace⟩ := hworkspace
    obtain rfl := Except.ok.inj hworkspace
    have hcount : max (divCeil (params.seconds * sampleRate) chunkFrames) 1 =
        divCeil (params.seconds * sampleRate) chunkFrames := by
      refine max_eq_left ?_
      rw [divCeil_eq_ceilDiv hpos]
      have := (lt_ceilDiv_iff hpos).mpr
        (show 0 * chunkFrames < params.seconds * sampleRate by
          have := hcalculated.retention_pos
          simp only [memoryInputs] at this
          omega)
      omega
    exact ⟨chunkFrames,
      { chunkFrames_eq := hchunk
        retention_pos := hcalculated.retention_pos
        slots_pos := hcalculated.slots_pos
        allocated_le := hcalculated.allocated_le
        started := ⟨_, worker, hslot, hworker, rfl⟩
        ringChannels := by simp only [ArenaRun.start, hcfg, PlannedCaptureRuntime.runtimeConfig]
        ringRate := by simp only [ArenaRun.start, hcfg, PlannedCaptureRuntime.runtimeConfig]
        ringFormat := by simp only [ArenaRun.start, hcfg, PlannedCaptureRuntime.runtimeConfig]
        ringChunkFrames := by simp only [ArenaRun.start, hcfg, PlannedCaptureRuntime.runtimeConfig]
        ringSlotFrames := by simp only [ArenaRun.start, hcfg, PlannedCaptureRuntime.runtimeConfig]
        ringChunkCount := by
          simp only [ArenaRun.start, hcfg, PlannedCaptureRuntime.runtimeConfig, hcount]
        workspaceChannels := rfl
        workspaceRate := rfl
        workspaceFormat := rfl
        retentionFrames := rfl
        outputs := ⟨_, hcalculated.parts, hcalculated.outputs, hcalculated.outputs_le⟩ }⟩
  · cases hstart

/-! ### The theorem -/

theorem wavPartCount_mono {m n bytes split parts : ℕ} (hle : m ≤ n)
    (h : wavPartCount n bytes split = .ok parts) :
    ∃ parts', wavPartCount m bytes split = .ok parts' ∧ parts' ≤ parts := by
  simp only [wavPartCount, bind_eq_ok] at h ⊢
  obtain ⟨frames, hframes, hparts⟩ := h
  obtain rfl := Except.ok.inj hparts
  exact ⟨_, ⟨frames, hframes, rfl⟩, divCeil_mono hle⟩

/-- What a session asks of its workspace for a frozen epoch: that it accepts
the epoch, and that it has the slots for any channels of it over any range. -/
structure PersistenceWorkspace.Accepts (workspace : PersistenceWorkspace)
    (frozen : FrozenCaptureEpoch) : Prop where
  total_le : frozen.totalFrames ≤ workspace.config.retentionFrames
  valid : validateFrozen workspace.config frozen = .ok ()
  selected : ∀ (exportRange : Range) (retained : ℕ),
    frozen.absoluteRange.start ≤ exportRange.start →
    exportRange.stop ≤ frozen.absoluteRange.stop → retained ≤ workspace.config.channels →
    ∃ count, workspace.selectedOutputCount exportRange retained = .ok count
  planned : ∃ count, workspace.plannedOutputCount (frozen.totalFrames) = .ok count

/-- An epoch of the session that fits the retention passes every check. -/
theorem Built.accepts {params : CaptureRuntimeParams} {sampleRate channels chunkFrames : ℕ}
    {zero : α} {run : ArenaRun α} {workspace : PersistenceWorkspace}
    (h : Built params sampleRate channels chunkFrames zero run workspace) {frozen : FrozenCaptureEpoch}
    (hchannels : frozen.descriptor.channels = channels)
    (hrate : frozen.descriptor.sampleRate = sampleRate)
    (hformat : frozen.descriptor.format = .f32Le) (hsome : frozen.totalFrames ≠ 0)
    (hle : frozen.totalFrames ≤ params.seconds * sampleRate) : workspace.Accepts frozen := by
  obtain ⟨parts, hparts, houtputs, houtputsLe⟩ := h.outputs
  refine ⟨h.retentionFrames.symm ▸ hle, ?_, ?_, ?_⟩
  · refine ensure_eq_ok.mpr ⟨hchannels.trans h.workspaceChannels.symm,
      hrate.trans h.workspaceRate.symm, hformat.trans h.workspaceFormat.symm, hsome, ?_⟩
    rw [h.retentionFrames]
    exact hle
  · intro exportRange retained hlow hhigh hretained
    have hshort : exportRange.stop - exportRange.start ≤ params.seconds * sampleRate := by
      simp only [FrozenCaptureEpoch.totalFrames] at hle
      omega
    obtain ⟨parts', hparts', hpartsLe⟩ := wavPartCount_mono hshort hparts
    rw [h.workspaceChannels] at hretained
    have hcount : retained * parts' ≤ workspace.outputs := by
      rw [houtputs, mul_comm parts]
      exact Nat.mul_le_mul hretained hpartsLe
    refine ⟨retained * parts', ?_⟩
    simp only [PersistenceWorkspace.selectedOutputCount, bind_eq_ok, ensure_eq_ok]
    exact ⟨parts', hparts', (), hcount.trans houtputsLe, (), hcount, rfl⟩
  · obtain ⟨parts', hparts', hpartsLe⟩ := wavPartCount_mono hle hparts
    have hcount : parts' * workspace.config.channels ≤ workspace.outputs := by
      rw [houtputs, h.workspaceChannels]
      exact Nat.mul_le_mul_right _ hpartsLe
    refine ⟨parts' * workspace.config.channels, ?_⟩
    simp only [PersistenceWorkspace.plannedOutputCount, bind_eq_ok, ensure_eq_ok]
    exact ⟨parts', hparts', (), hcount.trans houtputsLe, (), hcount, rfl⟩

/-- Every frozen epoch of every session fits the workspace built with it
exactly when the chunks divide the retention: otherwise the last chunk of a
full ring holds frames the workspace has no room for. -/
theorem frozen_epochs_fit_workspace_iff {machine : Machine} {params : CaptureRuntimeParams}
    {sampleRate channels : ℕ} {zero : α} {run : ArenaRun α} {workspace : PersistenceWorkspace}
    (hbuild : CaptureRuntime.build machine params sampleRate channels zero =
      .ok (run, workspace)) :
    (∀ (events : List (SessionEvent α)) (descriptor : FrozenDescriptor) (runtimeId : ℕ),
      (run.steps events).granted = some descriptor →
      workspace.Accepts ⟨runtimeId, descriptor, false, false⟩) ↔
    ∃ chunkFrames, deriveChunkFrames sampleRate params.chunkFramesOverride = .ok chunkFrames ∧
      chunkFrames ∣ params.seconds * sampleRate := by
  obtain ⟨chunkFrames, hbuilt⟩ := CaptureRuntime.built hbuild
  obtain ⟨cfg, worker, hpos, hnew, rfl⟩ := hbuilt.started
  have hchunk := deriveChunkFrames_pos hbuilt.chunkFrames_eq
  have hinv := ArenaRun.Inv.start hnew params.captureQueueSlots hpos
  constructor
  · intro hall
    refine ⟨chunkFrames, hbuilt.chunkFrames_eq, ?_⟩
    by_contra hdvd
    have hlarge : params.seconds * sampleRate <
        divCeil (params.seconds * sampleRate) chunkFrames * chunkFrames := by
      refine lt_of_le_of_ne (le_divCeil_mul hchunk) fun heq => hdvd ?_
      exact (divCeil_mul_eq_iff hchunk).mp heq.symm
    have hwide : 2 ≤ chunkFrames := by
      by_contra hnarrow
      obtain rfl : chunkFrames = 1 := by omega
      exact hdvd (one_dvd _)
    -- the rings are filled chunk by chunk and frozen
    have hfed := ArenaRun.Fed.start hnew hbuilt.slots_pos hpos
    have : Inhabited α := ⟨zero⟩
    obtain ⟨full, hreaches, hfull, hcfg⟩ := hfed.feed_slots
      (by rw [hbuilt.ringChunkFrames]; exact hwide) (by rw [hbuilt.ringSlotFrames]; exact hchunk)
      (divCeil (params.seconds * sampleRate) chunkFrames)
      (by rw [hbuilt.ringSlotFrames, Nat.zero_add]; exact hbuilt.allocated_le)
    rw [hbuilt.ringSlotFrames, Nat.zero_add] at hfull
    obtain ⟨frozen, descriptor, hfreeze, hgranted, hrange⟩ := hfull.freeze (by omega)
      (by rw [hcfg, hbuilt.ringChunkCount, hbuilt.ringChunkFrames])
    obtain ⟨events, hevents⟩ := hreaches.trans hfreeze
    have haccepts := (hall events descriptor 0 (by rw [hevents]; exact hgranted)).total_le
    simp only [FrozenCaptureEpoch.totalFrames, FrozenCaptureEpoch.absoluteRange, hrange,
      hbuilt.retentionFrames] at haccepts
    omega
  · rintro ⟨chunkFrames', hderive, hdvd⟩ events descriptor runtimeId hgranted
    obtain rfl : chunkFrames' = chunkFrames :=
      Except.ok.inj (hderive.symm.trans hbuilt.chunkFrames_eq)
    have hlater := hinv.steps events
    have hcfg := hinv.cfg_steps events
    have hholds := hlater.tracks.holds descriptor hgranted
    have htotal := hholds.total_le hlater.tracks.inv
    rw [hcfg, hbuilt.ringChunkCount, hbuilt.ringChunkFrames,
      (divCeil_mul_eq_iff hchunk).mpr hdvd] at htotal
    refine hbuilt.accepts ?_ ?_ ?_ ?_ htotal
    · exact hholds.channels.trans ((congrArg (·.ring.channels) hcfg).trans hbuilt.ringChannels)
    · exact hholds.sampleRate.trans ((congrArg (·.ring.sampleRate) hcfg).trans hbuilt.ringRate)
    · exact hholds.format.trans ((congrArg (·.ring.format) hcfg).trans hbuilt.ringFormat)
    · have hnonempty := hholds.nonempty
      simp only [FrozenCaptureEpoch.totalFrames, FrozenCaptureEpoch.absoluteRange]
      omega

/-- One second of a mono session in chunks of two frames. -/
def shortSession : CaptureRuntimeParams where
  seconds := 1
  chunkFramesOverride := some 2
  memoryMax := none
  headroom := 0x3FF0000000000000
  splitWhenOverBytes := 1000
  ioBufferBytesPerChannel := 48
  maximumPathBytes := 255
  maximumCalibrationSeconds := 1
  captureQueueSlots := 2
  captureWorkerStackBytes := 65536
  controlQueueCapacity := 8
  workerStackBytes := 65536

def smallMachine : Machine := ⟨4096, 128⟩

/-- Two full chunks are pushed and read, and the rings are frozen. -/
def fillAndFreeze : List (SessionEvent ℕ) :=
  .push [1, 2] 1 :: List.replicate 12 .producer ++ List.replicate 8 (.worker 0) ++
    .push [3, 4] 1 :: List.replicate 12 .producer ++ List.replicate 8 (.worker 0) ++
    [.command (.freeze none)]

theorem exists_build_of_check (sampleRate channels : ℕ)
    (check : ArenaRun ℕ → PersistenceWorkspace → Bool)
    (hcheck : (match CaptureRuntime.build smallMachine shortSession sampleRate channels 0 with
      | .ok (run, workspace) => check run workspace
      | .error _ => false) = true) :
    ∃ run workspace,
      CaptureRuntime.build smallMachine shortSession sampleRate channels 0 = .ok (run, workspace) ∧
      check run workspace = true := by
  split at hcheck
  · next run workspace hbuild => exact ⟨run, workspace, hbuild, hcheck⟩
  · exact absurd hcheck Bool.false_ne_true

/-- At three frames a second the retention is three frames and the full ring
holds four. -/
theorem frozen_epochs_fit_workspace_fails :
    ∃ (run : ArenaRun ℕ) (workspace : PersistenceWorkspace) (descriptor : FrozenDescriptor),
      CaptureRuntime.build smallMachine shortSession 3 1 0 = .ok (run, workspace) ∧
      (run.steps fillAndFreeze).granted = some descriptor ∧
      ¬ workspace.Accepts ⟨0, descriptor, false, false⟩ := by
  obtain ⟨run, workspace, hbuild, hcheck⟩ := exists_build_of_check 3 1
    (fun run workspace => decide (workspace.config.retentionFrames = 3 ∧
      (run.steps fillAndFreeze).granted =
        some ⟨0, 2, 0, ⟨0, 4⟩, ⟨0, 4⟩, 1, 3, .f32Le⟩))
    (by decide +kernel)
  obtain ⟨hretention, hgranted⟩ := of_decide_eq_true hcheck
  refine ⟨run, workspace, _, hbuild, hgranted, fun haccepts => ?_⟩
  have htotal := haccepts.total_le
  rw [hretention] at htotal
  exact absurd htotal (by decide)

/-- At four frames a second the two chunks are the retention. -/
theorem frozen_epochs_fit_workspace_aligned :
    ∃ (run : ArenaRun ℕ) (workspace : PersistenceWorkspace),
      CaptureRuntime.build smallMachine shortSession 4 1 0 = .ok (run, workspace) ∧
      ∀ (events : List (SessionEvent ℕ)) (descriptor : FrozenDescriptor) (runtimeId : ℕ),
        (run.steps events).granted = some descriptor →
        workspace.Accepts ⟨runtimeId, descriptor, false, false⟩ := by
  obtain ⟨run, workspace, hbuild, -⟩ := exists_build_of_check 4 1 (fun _ _ => true)
    (by decide +kernel)
  exact ⟨run, workspace, hbuild,
    (frozen_epochs_fit_workspace_iff hbuild).mpr ⟨2, rfl, by decide⟩⟩

end Lamb.Runtime
