import Lamb.Export.Plan

/-!
The passes of the planner: each plans the output the preview renders, when its
staged path fits its slot, and all of them together plan the export.
-/

namespace Lamb.Export

open Lamb.Lib Lamb.Lib.Path Lamb.Ring Lamb.Runtime Lamb.Dump

/-! ### One output in the slots -/

theorem absoluteSplitRange_eq_ok {exportRange : Range} {zeroPart framesPerPart : ℕ} {range : Range}
    (horder : exportRange.start ≤ exportRange.stop) (hpos : 0 < framesPerPart)
    (hpart : zeroPart * framesPerPart < exportRange.stop - exportRange.start) :
    absoluteSplitRange exportRange zeroPart framesPerPart = .ok range ↔
      range.start = exportRange.start + zeroPart * framesPerPart ∧
        range.stop = range.start +
          min (exportRange.stop - exportRange.start - zeroPart * framesPerPart) framesPerPart ∧
        range.stop ≤ u64Max := by
  simp only [absoluteSplitRange]
  rw [if_neg (by omega)]
  by_cases hlong : u64Max < zeroPart * framesPerPart
  · rw [if_pos hlong]
    exact ⟨fun h => (by cases h), fun h => by omega⟩
  · rw [if_neg hlong, if_neg (by omega)]
    split
    · next hstart =>
        rw [checkedAdd_eq_none] at hstart
        exact ⟨fun h => (by cases h), fun h => by omega⟩
    · next start hstart =>
        obtain ⟨rfl, -⟩ := checkedAdd_eq_some.mp hstart
        split
        · next hstop =>
            rw [checkedAdd_eq_none] at hstop
            exact ⟨fun h => (by cases h), fun h => by omega⟩
        · next stop hstop =>
            obtain ⟨rfl, hle⟩ := checkedAdd_eq_some.mp hstop
            constructor
            · intro h
              obtain rfl := Except.ok.inj h
              exact ⟨rfl, rfl, hle⟩
            · rintro ⟨hfirst, hlast, -⟩
              obtain ⟨first, last⟩ := range
              dsimp only at hfirst hlast
              subst hfirst hlast
              rfl

theorem renderPolicyOutputInto_eq_ok {capacity : ℕ} (hcapacity : capacity ≤ u64Max)
    {policy : ResolvedExportPolicy} {context : RenderContext} {out : OutputPart}
    {directory filename : String} :
    renderPolicyOutputInto capacity policy context out = .ok (directory, filename) ↔
      validateContextValues (policy.patterns context.command).1
        (policy.patterns context.command).2 context = .ok () ∧
      validateComponentValue out.channel "channel" = .ok () ∧
      validatePatternCapacity (policy.patterns context.command).1
        (policy.patterns context.command).2 policy.outputDir context out.channel = .ok () ∧
      (renderOutputInto (policy.patterns context.command).1 context out = .ok directory ∧
        Fits capacity directory) ∧
      renderOutputInto (policy.patterns context.command).2 context out = .ok filename ∧
        Fits capacity filename := by
  simp only [renderPolicyOutputInto]
  rcases policy.patterns context.command with ⟨directoryPattern, filenamePattern⟩
  simp only [bind_eq_ok, renderOutputTo_writeSlot hcapacity]
  constructor
  · rintro ⟨⟨⟩, hvalues, ⟨⟩, hchannel, ⟨⟩, hpattern, _, hdirectory, _, hfilename, hpair⟩
    obtain ⟨rfl, rfl⟩ := Prod.mk.inj (Except.ok.inj hpair)
    exact ⟨hvalues, hchannel, hpattern, hdirectory, hfilename⟩
  · rintro ⟨hvalues, hchannel, hpattern, hdirectory, hfilename⟩
    exact ⟨(), hvalues, (), hchannel, (), hpattern, _, hdirectory, _, hfilename, rfl⟩

/-- Where a recall stages its file number `index`. -/
def stagedText (root : String) (index : ℕ) : String :=
  withSeparator root ++ ("output-" ++ zeroPadded 8 index)

theorem planStagedPath_eq_ok {capacity : ℕ} (hcapacity : capacity ≤ u64Max) {root slot : String}
    (hroot : Fits capacity root) {index : ℕ} :
    planStagedPath capacity root index = .ok slot ↔
      slot = stagedText root index ∧ Fits capacity slot := by
  simp only [planStagedPath, bind_eq_ok, setPath_eq_ok hcapacity]
  constructor
  · rintro ⟨_, ⟨rfl, -⟩, _, ⟨rfl, -⟩, middle, hmiddle, hwrite⟩
    obtain ⟨rfl, hfits⟩ := (pushSeparator_eq_ok hcapacity hroot).mp hmiddle
    split at hwrite
    · next slot' hslot =>
        obtain rfl := Except.ok.inj hwrite
        exact (writeSlot_eq_some hcapacity hfits).mp hslot
    · cases hwrite
  · rintro ⟨rfl, hfits⟩
    have hmiddle : Fits capacity (withSeparator root) := hfits.of_append
    refine ⟨root, ⟨rfl, hroot⟩, root, ⟨rfl, hroot⟩, _,
      (pushSeparator_eq_ok hcapacity hroot).mpr ⟨rfl, hmiddle⟩, ?_⟩
    rw [(writeSlot_eq_some hcapacity hmiddle).mpr ⟨rfl, hfits⟩]
    rfl

theorem checkPrior_eq_ok {current : String} {priors : List String} :
    checkPrior current priors = .ok () ↔ ∀ previous ∈ priors,
      ¬(previous = current ∨ bytesBelow current previous ∨ bytesBelow previous current) := by
  induction priors with
  | nil => simp [checkPrior]
  | cons previous priors ih =>
      rw [checkPrior, List.forall_mem_cons, ← ih]
      by_cases hequal : previous = current
      · simp [hequal]
      · by_cases hbelow : bytesBelow current previous ∨ bytesBelow previous current
        · rw [if_neg hequal, if_pos hbelow]
          exact ⟨fun h => (by cases h), fun h => absurd (.inr hbelow) h.1⟩
        · rw [if_neg hequal, if_neg hbelow]
          exact ⟨fun h => ⟨fun hor => hor.elim hequal hbelow, h⟩, And.right⟩

/-- The slot of the output that is planned as number `index`. -/
def outputSlot (index : ℕ) (out : RenderedOutput) : OutputFileSlot where
  startFrame := out.startFrame
  frameCount := out.endFrame - out.startFrame
  channel := out.channelIndex
  part := out.part - 1
  stagedPath := outputPathStart + index * outputPathSlotsPerPart + stagedPathOffset
  finalPath := outputPathStart + index * outputPathSlotsPerPart + finalPathOffset

/-- The slots once the staged path of output number `index` is set. -/
def PlanSlots.withStaged (slots : PlanSlots) (kind : PersistenceKind) (index : ℕ) : PlanSlots :=
  match kind with
  | .dump => slots
  | .recall => slots.setSlot (outputPathStart + index * outputPathSlotsPerPart + stagedPathOffset)
      (stagedText (slots.paths transactionRootPath) index)

theorem storeStaged_eq_ok {slots slots' : PlanSlots} {kind : PersistenceKind} {index : ℕ}
    (hroot : Fits slots.capacity (slots.paths transactionRootPath)) :
    slots.storeStaged kind index = .ok slots' ↔
      (kind = .recall → Fits slots.capacity
        (stagedText (slots.paths transactionRootPath) index)) ∧
      slots' = slots.withStaged kind index := by
  cases kind with
  | dump =>
      simp only [PlanSlots.storeStaged, PlanSlots.withStaged, reduceCtorEq, false_implies,
        true_and]
      exact ⟨fun h => (Except.ok.inj h).symm, fun h => h ▸ rfl⟩
  | «recall» =>
      simp only [PlanSlots.storeStaged, PlanSlots.withStaged, bind_eq_ok, forall_const,
        planStagedPath_eq_ok slots.capacity_le hroot]
      constructor
      · rintro ⟨staged, ⟨rfl, hfits⟩, h⟩
        exact ⟨hfits, (Except.ok.inj h).symm⟩
      · rintro ⟨hfits, rfl⟩
        exact ⟨_, ⟨rfl, hfits⟩, rfl⟩

/-- The slots once the output number `index` has been planned. -/
def PlanSlots.store (slots : PlanSlots) (kind : PersistenceKind) (index : ℕ)
    (out : RenderedOutput) : PlanSlots :=
  ((slots.setSlot (outputSlot index out).finalPath out.finalPath).withStaged kind index).setOutput
    index (outputSlot index out)

/-! ### Rendered outputs fit -/

theorem validateRenderedDirectory_head {directory : String}
    (h : validateRenderedDirectory directory = .ok ()) : directory.toList.head? ≠ some '/' := by
  by_cases hempty : directory = ""
  · simp [hempty]
  · simp only [validateRenderedDirectory, hempty, if_false, bind_eq_ok, ensure_eq_ok,
      not_or] at h
    obtain ⟨-, hsafe, -⟩ := h
    exact hsafe.2.2.1

theorem validateFilename_head {filename : String} (h : validateFilename filename = .ok ()) :
    filename.toList.head? ≠ some '/' := by
  simpa using head?_ne_separator (validateFilename_isName h).1 []

section Renders

variable {policy : ResolvedExportPolicy} {context : RenderContext} {framesPerPart : ℕ}
  {item : ℕ × ℕ} {out : RenderedOutput}

theorem ResolvedExportPolicy.outputDir_ne_empty (policy : ResolvedExportPolicy) :
    policy.outputDir ≠ "" := by
  intro hempty
  have hvalid := policy.outputDir_valid
  simp only [validateOutputDir, bind_eq_ok, ensure_eq_ok, hempty] at hvalid
  obtain ⟨-, hroot, -⟩ := hvalid
  simp at hroot

theorem Renders.fits_finalPath (h : Renders policy context framesPerPart item out) :
    Fits context.maximumPathBytes out.finalPath := by
  obtain ⟨-, -, -, hnul⟩ := h.spelled
  have hvalid := h.finalPath_valid
  simp only [validateFinalPath, bind_eq_ok, ensure_eq_ok] at hvalid
  obtain ⟨-, -, hsize⟩ := hvalid
  exact ⟨hnul, hsize⟩

theorem Renders.fits_filename (h : Renders policy context framesPerPart item out) :
    Fits context.maximumPathBytes out.filename := by
  have hsize := h.fits_finalPath.2
  rw [h.finalPath, joinPath_eq (validateFilename_head h.filename_valid),
    String.utf8ByteSize_append] at hsize
  exact ⟨(validateFilename_isName h.filename_valid).2, by omega⟩

theorem Renders.fits_directory (h : Renders policy context framesPerPart item out) :
    Fits context.maximumPathBytes out.relativeDirectory := by
  by_cases hempty : out.relativeDirectory = ""
  · rw [hempty]
    exact Fits.empty _
  · obtain ⟨-, -, -, -, hnul⟩ := validateRenderedDirectory_spell hempty h.directory_valid
    have hsize := h.fits_finalPath.2
    rw [h.finalPath, joinPath_eq (validateFilename_head h.filename_valid),
      String.utf8ByteSize_append] at hsize
    obtain ⟨more, hmore⟩ := exists_withSeparator (joinPath policy.outputDir out.relativeDirectory)
    rw [hmore, joinPath_eq (validateRenderedDirectory_head h.directory_valid),
      String.utf8ByteSize_append, String.utf8ByteSize_append] at hsize
    exact ⟨hnul, by omega⟩

/-- For rendered outputs the planner's comparison of bytes is the preview's
comparison of components. -/
theorem Renders.apart_iff {item' : ℕ × ℕ} {out' : RenderedOutput}
    (h : Renders policy context framesPerPart item out)
    (h' : Renders policy context framesPerPart item' out') :
    ¬(out'.finalPath = out.finalPath ∨ bytesBelow out.finalPath out'.finalPath ∨
      bytesBelow out'.finalPath out.finalPath) ↔ Apart out' out := by
  obtain ⟨names, hnames, hpath, -⟩ := h.spelled
  obtain ⟨names', hnames', hpath', -⟩ := h'.spelled
  rw [Apart, hpath, hpath', bytes_conflict_iff hnames hnames' (by simp) (by simp)]
  simp only [pathConflict, Bool.or_comm]

end Renders

/-! ### One pass of the planner -/

/-- One pass of the two loops of the planner. -/
def planItem (details : RequestDetails) (policy : ResolvedExportPolicy) (context : RenderContext)
    (partCount : ℕ) (state : PlanSlots × ℕ) (item : ℕ × ℕ) : Result (PlanSlots × ℕ) :=
  match policy.channelNames[item.1]? with
  | none => .error (.exportInvariant "decision channel is absent from policy")
  | some name => planPart details policy context item.1 name partCount state item.2

/-- The slots hold the outputs planned so far; what they started from is
`start`. -/
structure Planned (start slots : PlanSlots) (outs : List RenderedOutput) : Prop where
  config : slots.config = start.config
  length : slots.outputs.length = start.outputs.length
  outputCount : slots.outputCount = start.outputCount
  root : slots.paths transactionRootPath = start.paths transactionRootPath
  outputs : slots.outputs.take outs.length =
    outs.zipIdx.map fun planned => outputSlot planned.2 planned.1
  paths : ∀ index out, outs[index]? = some out →
    slots.paths (outputSlot index out).finalPath = out.finalPath

theorem Planned.finalPaths {start slots : PlanSlots} {outs : List RenderedOutput}
    (h : Planned start slots outs) :
    slots.finalPaths outs.length = outs.map RenderedOutput.finalPath := by
  rw [PlanSlots.finalPaths, h.outputs, List.map_map]
  refine List.ext_getElem (by simp) ?_
  intro index hindex hindex'
  have hlt : index < outs.length := by simpa using hindex'
  simpa using h.paths index outs[index] (List.getElem?_eq_getElem hlt)

theorem Planned.store {start slots : PlanSlots} {outs : List RenderedOutput}
    (h : Planned start slots outs) (kind : PersistenceKind) (out : RenderedOutput)
    (hroom : outs.length < start.outputs.length) :
    Planned start (slots.store kind outs.length out) (outs ++ [out]) := by
  have hlength : outs.length < slots.outputs.length := h.length ▸ hroom
  have hpaths (index : ℕ) (hstaged : index ≠ (outputSlot outs.length out).stagedPath)
      (hfinal : index ≠ (outputSlot outs.length out).finalPath) :
      (slots.store kind outs.length out).paths index = slots.paths index := by
    cases kind with
    | «recall» =>
        exact (PlanSlots.setSlot_of_ne _ hstaged _).trans (PlanSlots.setSlot_of_ne _ hfinal _)
    | dump => exact PlanSlots.setSlot_of_ne _ hfinal _
  have hstored : (slots.store kind outs.length out).paths (outputSlot outs.length out).finalPath =
      out.finalPath := by
    cases kind with
    | «recall» =>
        have hne : (outputSlot outs.length out).finalPath ≠
            (outputSlot outs.length out).stagedPath := by
          simp [outputSlot, stagedPathOffset, finalPathOffset]
        exact (PlanSlots.setSlot_of_ne _ hne _).trans (PlanSlots.setSlot_self _ _ _)
    | dump => exact PlanSlots.setSlot_self _ _ _
  have houtputs : (slots.store kind outs.length out).outputs =
      slots.outputs.set outs.length (outputSlot outs.length out) := by
    cases kind <;> rfl
  refine ⟨?_, ?_, ?_, ?_, ?_, ?_⟩
  · rw [← h.config]
    cases kind <;> rfl
  · rw [houtputs, List.length_set, h.length]
  · rw [← h.outputCount]
    cases kind <;> rfl
  · rw [← h.root]
    refine hpaths _ ?_ ?_
    · simp only [outputSlot, transactionRootPath, outputPathStart]
      omega
    · simp only [outputSlot, transactionRootPath, outputPathStart]
      omega
  · rw [houtputs, List.length_append, List.length_singleton, List.take_add_one,
      List.take_set_of_le (Nat.le_refl _), h.outputs, List.zipIdx_append, List.map_append]
    simp [hlength]
  · intro index out' hout
    rcases Nat.lt_trichotomy index outs.length with hlt | rfl | hgt
    · rw [List.getElem?_append_left hlt] at hout
      rw [← h.paths index out' hout]
      refine hpaths _ ?_ ?_
      · simp only [outputSlot, stagedPathOffset, finalPathOffset, outputPathSlotsPerPart]
        omega
      · simp only [outputSlot, stagedPathOffset, finalPathOffset, outputPathSlotsPerPart]
        omega
    · rw [List.getElem?_concat_length, Option.some.injEq] at hout
      subst hout
      exact hstored
    · rw [List.getElem?_eq_none (by simp; omega)] at hout
      cases hout

/-- A recall has staged its first `count` outputs under their numbers. -/
def NumberedStaged (start slots : PlanSlots) (kind : PersistenceKind) (count : ℕ) : Prop :=
  kind = .recall → ∀ index < count,
    slots.paths (outputPathStart + index * outputPathSlotsPerPart + stagedPathOffset) =
      stagedText (start.paths transactionRootPath) index

theorem NumberedStaged.store {start slots : PlanSlots} {outs : List RenderedOutput}
    {kind : PersistenceKind} (h : NumberedStaged start slots kind outs.length)
    (hplanned : Planned start slots outs) (out : RenderedOutput) :
    NumberedStaged start (slots.store kind outs.length out) kind (outs.length + 1) := by
  rintro rfl index hindex
  have hroot : (slots.setSlot (outputSlot outs.length out).finalPath out.finalPath).paths
      transactionRootPath = start.paths transactionRootPath := by
    rw [← hplanned.root]
    refine PlanSlots.setSlot_of_ne _ ?_ _
    simp only [outputSlot, transactionRootPath, outputPathStart]
    omega
  by_cases hlast : index = outs.length
  · subst hlast
    rw [← hroot]
    exact PlanSlots.setSlot_self _ _ _
  · rw [← h rfl index (by omega)]
    refine (PlanSlots.setSlot_of_ne _ ?_ _).trans (PlanSlots.setSlot_of_ne _ ?_ _)
    · simp only [stagedPathOffset, outputPathSlotsPerPart]
      omega
    · simp only [outputSlot, stagedPathOffset, finalPathOffset, outputPathSlotsPerPart]
      omega

theorem Planned.of_append {start slots : PlanSlots} {outs more : List RenderedOutput}
    (h : Planned start slots (outs ++ more)) : Planned start slots outs := by
  refine ⟨h.config, h.length, h.outputCount, h.root, ?_, ?_⟩
  · have htake := congrArg (List.take outs.length) h.outputs
    rw [List.take_take, List.length_append, Nat.min_eq_left (Nat.le_add_right _ _),
      List.zipIdx_append, List.map_append, List.take_left' (by simp)] at htake
    exact htake
  · intro index out hout
    have hlt := (List.getElem?_eq_some_iff.mp hout).1
    exact h.paths index out (by rw [List.getElem?_append_left hlt]; exact hout)

/-- The end of a pass: the rendered output is stored and compared with the
outputs before it. -/
theorem storePart_eq_ok {start slots : PlanSlots} {kind : PersistenceKind}
    {policy : ResolvedExportPolicy} {context : RenderContext} {framesPerPart : ℕ} {item : ℕ × ℕ}
    {outs : List RenderedOutput} {out : RenderedOutput} {state : PlanSlots × ℕ}
    (hplanned : Planned start slots outs)
    (hrendered : ∀ out ∈ outs, ∃ item, Renders policy context framesPerPart item out)
    (hout : Renders policy context framesPerPart item out)
    (hroot : Fits start.capacity (start.paths transactionRootPath))
    (hroom : outs.length < start.outputs.length) :
    (∃ staged, (slots.setSlot (outputSlot outs.length out).finalPath out.finalPath).storeStaged
        kind outs.length = .ok staged ∧
      ∃ checked, checkPrior out.finalPath
        ((staged.setOutput outs.length (outputSlot outs.length out)).finalPaths outs.length) =
          .ok checked ∧
        pure (staged.setOutput outs.length (outputSlot outs.length out), outs.length + 1) =
          (.ok state : Result (PlanSlots × ℕ))) ↔
      (∀ prior ∈ outs, Apart prior out) ∧
        (kind = .recall →
          Fits start.capacity (stagedText (start.paths transactionRootPath) outs.length)) ∧
        state = (slots.store kind outs.length out, outs.length + 1) := by
  have hsame : (slots.setSlot (outputSlot outs.length out).finalPath out.finalPath).paths
      transactionRootPath = start.paths transactionRootPath := by
    rw [← hplanned.root]
    refine PlanSlots.setSlot_of_ne _ ?_ _
    simp only [outputSlot, transactionRootPath, outputPathStart]
    omega
  have hcapacity : (slots.setSlot (outputSlot outs.length out).finalPath out.finalPath).capacity =
      start.capacity := by
    simp only [PlanSlots.capacity, PlanSlots.setSlot, hplanned.config]
  have hprior : checkPrior out.finalPath
      ((slots.store kind outs.length out).finalPaths outs.length) = .ok () ↔
        ∀ prior ∈ outs, Apart prior out := by
    rw [(hplanned.store kind out hroom).of_append.finalPaths, checkPrior_eq_ok,
      List.forall_mem_map]
    refine forall₂_congr fun prior hmem => ?_
    obtain ⟨item', hprior⟩ := hrendered prior hmem
    exact hout.apart_iff hprior
  have hstaged (staged : PlanSlots) :
      (slots.setSlot (outputSlot outs.length out).finalPath out.finalPath).storeStaged kind
        outs.length = .ok staged ↔ _ :=
    storeStaged_eq_ok (by rw [hsame, hcapacity]; exact hroot)
  simp only [hsame, hcapacity] at hstaged
  constructor
  · rintro ⟨staged, hstore, ⟨⟩, hcheck, hstate⟩
    obtain ⟨hfits, rfl⟩ := (hstaged staged).mp hstore
    exact ⟨hprior.mp hcheck, hfits, (Except.ok.inj hstate).symm⟩
  · rintro ⟨hapart, hfits, rfl⟩
    exact ⟨_, (hstaged _).mpr ⟨hfits, rfl⟩, (), hprior.mpr hapart, rfl⟩

/-- What holds when the passes of the planner begin. -/
structure Ready (start : PlanSlots) (context : RenderContext) (framesPerPart : ℕ) : Prop where
  split : wavFramesPerPart wavSampleBytes start.config.splitWhenOverBytes = .ok framesPerPart
  maximumPathBytes : context.maximumPathBytes = start.capacity
  root : Fits start.capacity (start.paths transactionRootPath)
  order : context.exportStartFrame ≤ context.exportEndFrame
  parts : divCeil context.totalFrames framesPerPart ≤ u32Max

theorem planItem_eq_ok {start slots : PlanSlots} {details : RequestDetails}
    {policy : ResolvedExportPolicy} {context : RenderContext} {framesPerPart : ℕ} {item : ℕ × ℕ}
    {outs : List RenderedOutput} {state : PlanSlots × ℕ} (hplanned : Planned start slots outs)
    (hrendered : ∀ out ∈ outs, ∃ item, Renders policy context framesPerPart item out)
    (hready : Ready start context framesPerPart)
    (hchannel : item.1 < 2 ^ 32) (hpart : item.2 < divCeil context.totalFrames framesPerPart)
    (hroom : outs.length < start.outputs.length) :
    planItem details policy context (divCeil context.totalFrames framesPerPart)
        (slots, outs.length) item = .ok state ↔
      ∃ out, Renders policy context framesPerPart item out ∧ (∀ prior ∈ outs, Apart prior out) ∧
        (details.kind = .recall →
          Fits start.capacity (stagedText (start.paths transactionRootPath) outs.length)) ∧
        state = (slots.store details.kind outs.length out, outs.length + 1) := by
  obtain ⟨hsplit, hmaximum, hroot, horder, hparts⟩ := hready
  obtain ⟨hframes, hpos⟩ := wavFramesPerPart_eq hsplit
  have hcapacity : slots.capacity = start.capacity := by
    rw [PlanSlots.capacity, PlanSlots.capacity, hplanned.config]
  have hle := slots.capacity_le
  have hinside := (lt_divCeil_iff hpos).mp hpart
  have hu32 : u32Max = 2 ^ 32 - 1 := rfl
  simp only [planItem]
  cases hname : policy.channelNames[item.1]? with
  | none =>
      constructor
      · intro h
        cases h
      · rintro ⟨out, hout, -⟩
        rw [hout.name] at hname
        cases hname
  | some name =>
      simp only [planPart, hplanned.config, ← hframes,
        planPartSuffix_eq (show item.2 + 1 < 10 ^ 19 by omega)]
      simp only [bind_eq_ok, validateRenderedOutputPath]
      rw [hcapacity] at hle ⊢
      have hslots := slots.pathSlots_le
      rw [hplanned.length] at hslots
      have hslot {out : RenderedOutput} (hout : Renders policy context framesPerPart item out)
          (range : Range) (hstart : out.startFrame = range.start)
          (hstop : out.endFrame = range.stop) :
          OutputFileSlot.mk range.start (range.stop - range.start) (item.1 % 2 ^ 32)
            (item.2 % 2 ^ 32)
            ((outputPathStart + outs.length * outputPathSlotsPerPart + stagedPathOffset) % 2 ^ 32)
            ((outputPathStart + outs.length * outputPathSlotsPerPart + finalPathOffset) % 2 ^ 32) =
            outputSlot outs.length out := by
        simp only [outputPathStart, outputPathSlotsPerPart] at hslots
        simp only [outputSlot, hout.channelIndex, hout.part, hstart, hstop, outputPathStart, outputPathSlotsPerPart,
          stagedPathOffset, finalPathOffset, OutputFileSlot.mk.injEq, true_and]
        refine ⟨Nat.mod_eq_of_lt hchannel, ?_, ?_, ?_⟩ <;> omega
      constructor
      · rintro ⟨range, hrange, suffix, hsuffix, ⟨directory, filename⟩, hrender, finalPath, hfinal,
          ⟨⟩, ⟨⟨⟩, hdirectory, ⟨⟩, hfilename, hvalid⟩, hstore⟩
        obtain ⟨hstart, hstop, hend⟩ := (absoluteSplitRange_eq_ok horder hpos hinside).mp hrange
        obtain rfl := Except.ok.inj hsuffix
        obtain ⟨hvalues, hcomponent, hpattern, ⟨hdir, -⟩, hfile, -⟩ :=
          (renderPolicyOutputInto_eq_ok hle).mp hrender
        obtain ⟨hpath, -⟩ := (planFinalPath_eq_ok hle policy.outputDir_ne_empty
          (validateRenderedDirectory_head hdirectory) (validateFilename_head hfilename)).mp hfinal
        obtain ⟨out, hout, houtStart, houtStop, rfl⟩ : ∃ out,
            Renders policy context framesPerPart item out ∧ out.startFrame = range.start ∧
              out.endFrame = range.stop ∧ out.finalPath = finalPath := by
          refine ⟨⟨item.1, name, item.2 + 1, divCeil context.totalFrames framesPerPart,
            partSuffixText (divCeil context.totalFrames framesPerPart) (item.2 + 1), range.start,
            range.stop, directory, filename, finalPath⟩, ?_, rfl, rfl, rfl⟩
          exact {
            contextValues := hvalues
            channelIndex := rfl
            name := hname
            channel := hcomponent
            capacity := hpattern
            part := rfl
            partCount := rfl
            partSuffix := rfl
            startFrame := hstart
            endFrame := hstop
            endFrame_le := hend
            directory := hdir
            filename := hfile
            directory_valid := hdirectory
            filename_valid := hfilename
            finalPath := hpath
            finalPath_valid := hvalid }
        simp only [hslot hout range houtStart houtStop] at hstore
        exact ⟨out, hout, (storePart_eq_ok hplanned hrendered hout hroot hroom).mp hstore⟩
      · rintro ⟨out, hout, hrest⟩
        have hstore := (storePart_eq_ok hplanned hrendered hout hroot hroom).mpr hrest
        have hslotEq := hslot hout ⟨out.startFrame, out.endFrame⟩ rfl rfl
        have hnameEq : name = out.channel := by
          rw [hout.name] at hname
          exact (Option.some.inj hname).symm
        have hsuffix : partSuffixText (divCeil context.totalFrames framesPerPart) (item.2 + 1) =
            out.partSuffix := by
          rw [hout.partSuffix, hout.partCount, hout.part]
        refine ⟨⟨out.startFrame, out.endFrame⟩, (absoluteSplitRange_eq_ok horder hpos hinside).mpr
          ⟨hout.startFrame, hout.endFrame, hout.endFrame_le⟩, out.partSuffix, by rw [hsuffix],
          (out.relativeDirectory, out.filename), ?_, out.finalPath, ?_, (),
          ⟨(), hout.directory_valid, (), hout.filename_valid, hout.finalPath_valid⟩, ?_⟩
        · rw [renderPolicyOutputInto_eq_ok hle, hnameEq, ← hout.part, ← hmaximum]
          exact ⟨hout.contextValues, hout.channel, hout.capacity,
            ⟨hout.directory, hout.fits_directory⟩, hout.filename, hout.fits_filename⟩
        · rw [planFinalPath_eq_ok hle policy.outputDir_ne_empty
            (validateRenderedDirectory_head hout.directory_valid)
            (validateFilename_head hout.filename_valid), ← hmaximum]
          exact ⟨hout.finalPath, hout.fits_finalPath⟩
        · dsimp only at hslotEq ⊢
          simp only [hslotEq]
          exact hstore

/-! ### All passes of the planner -/

section Passes

variable {start : PlanSlots} {details : RequestDetails} {policy : ResolvedExportPolicy}
  {context : RenderContext} {framesPerPart : ℕ} (hready : Ready start context framesPerPart)
include hready

/-- A pass that succeeds has planned the next output. -/
theorem planItems_ok {items : List (ℕ × ℕ)} {slots slots' : PlanSlots}
    {outs : List RenderedOutput} {count : ℕ} (hplanned : Planned start slots outs)
    (hstaged : NumberedStaged start slots details.kind outs.length)
    (hrendered : ∀ out ∈ outs, ∃ item, Renders policy context framesPerPart item out)
    (hapart : outs.Pairwise Apart)
    (hitems : ∀ item ∈ items, item.1 < 2 ^ 32 ∧
      item.2 < divCeil context.totalFrames framesPerPart)
    (hroom : outs.length + items.length ≤ start.outputs.length)
    (h : items.foldlM (planItem details policy context
      (divCeil context.totalFrames framesPerPart)) (slots, outs.length) = .ok (slots', count)) :
    ∃ news, List.Forall₂ (Renders policy context framesPerPart) items news ∧
      Planned start slots' (outs ++ news) ∧ (outs ++ news).Pairwise Apart ∧
      NumberedStaged start slots' details.kind (outs ++ news).length := by
  induction items generalizing slots outs with
  | nil =>
      obtain ⟨rfl, -⟩ := Prod.mk.inj (Except.ok.inj h)
      exact ⟨[], .nil, by simpa using hplanned, by simpa using hapart, by simpa using hstaged⟩
  | cons item items ih =>
      rw [List.foldlM_cons, bind_eq_ok] at h
      obtain ⟨state, hstep, hloop⟩ := h
      rw [List.length_cons] at hroom
      have hitem := hitems item (by simp)
      obtain ⟨out, hout, hnew, -, rfl⟩ := (planItem_eq_ok hplanned hrendered hready hitem.1
        hitem.2 (by omega)).mp hstep
      have hlength : outs.length + 1 = (outs ++ [out]).length := by simp
      have hnumbered := hstaged.store hplanned out
      rw [hlength] at hloop hnumbered
      obtain ⟨news, hnews, hfinal, hpair, hdone⟩ := ih
        (hplanned.store details.kind out (by omega)) hnumbered (by
          intro prior hprior
          rcases List.mem_append.mp hprior with hprior | hprior
          · exact hrendered prior hprior
          · exact ⟨item, List.mem_singleton.mp hprior ▸ hout⟩)
        (by
          rw [List.pairwise_append]
          exact ⟨hapart, by simp, by simpa using hnew⟩)
        (fun item hmem => hitems item (by simp [hmem])) (by simp; omega) hloop
      rw [List.append_assoc] at hfinal hpair hdone
      exact ⟨out :: news, .cons hout hnews, hfinal, hpair, hdone⟩

/-- Outputs that are rendered, apart and staged within the slots are planned. -/
theorem planItems_of_rendered {items : List (ℕ × ℕ)} {slots : PlanSlots}
    {outs news : List RenderedOutput} (hplanned : Planned start slots outs)
    (hrendered : ∀ out ∈ outs, ∃ item, Renders policy context framesPerPart item out)
    (hitems : ∀ item ∈ items, item.1 < 2 ^ 32 ∧
      item.2 < divCeil context.totalFrames framesPerPart)
    (hroom : outs.length + items.length ≤ start.outputs.length)
    (hnews : List.Forall₂ (Renders policy context framesPerPart) items news)
    (hapart : (outs ++ news).Pairwise Apart)
    (hstaged : details.kind = .recall → ∀ index < outs.length + items.length,
      Fits start.capacity (stagedText (start.paths transactionRootPath) index)) :
    ∃ slots' count, items.foldlM (planItem details policy context
        (divCeil context.totalFrames framesPerPart)) (slots, outs.length) = .ok (slots', count) ∧
      Planned start slots' (outs ++ news) := by
  induction hnews generalizing slots outs with
  | nil => exact ⟨slots, outs.length, rfl, by simpa using hplanned⟩
  | @cons item out items news hout hnews ih =>
      rw [List.length_cons] at hroom hstaged
      have hitem := hitems item (by simp)
      have hnew : ∀ prior ∈ outs, Apart prior out := fun prior hprior =>
        (List.pairwise_append.mp hapart).2.2 prior hprior out (by simp)
      have hstep : planItem details policy context (divCeil context.totalFrames framesPerPart)
          (slots, outs.length) item =
            .ok (slots.store details.kind outs.length out, outs.length + 1) :=
        (planItem_eq_ok hplanned hrendered hready hitem.1 hitem.2 (by omega)).mpr
          ⟨out, hout, hnew, fun hkind => hstaged hkind _ (by omega), rfl⟩
      have hlength : outs.length + 1 = (outs ++ [out]).length := by simp
      obtain ⟨slots', count, hloop, hfinal⟩ := ih
        (hplanned.store details.kind out (by omega)) (by
          intro prior hprior
          rcases List.mem_append.mp hprior with hprior | hprior
          · exact hrendered prior hprior
          · exact ⟨item, List.mem_singleton.mp hprior ▸ hout⟩)
        (fun item hmem => hitems item (by simp [hmem])) (by simp; omega)
        (by simpa using hapart) (fun hkind index hindex => hstaged hkind index (by
          simp at hindex
          omega))
      refine ⟨slots', count, ?_, by simpa using hfinal⟩
      rw [List.foldlM_cons, bind_eq_ok]
      exact ⟨_, hstep, by rw [hlength]; exact hloop⟩

end Passes

theorem planChannel_eq_ok {details : RequestDetails} {policy : ResolvedExportPolicy}
    {context : RenderContext} {partCount : ℕ} (hparts : 0 < partCount)
    {channels : List (FrozenChannelDecision × ℕ)} {state state' : PlanSlots × ℕ} :
    channels.foldlM (planChannel details policy context partCount) state = .ok state' ↔
      (exportItems ((channels.filter fun channel => channel.1.disposition = .retain).map Prod.snd)
        partCount).foldlM (planItem details policy context partCount) state = .ok state' := by
  rw [exportItems, foldlM_flatMap_eq, List.foldlM_map, List.foldlM_filter]
  refine foldlM_ok_congr (fun channel _ state state' => ?_) _ _
  by_cases hretain : channel.1.disposition = .retain
  · simp only [planChannel, hretain, if_true, decide_true, List.foldlM_map]
    cases hname : policy.channelNames[channel.2]? with
    | none =>
        obtain ⟨n, rfl⟩ : ∃ n, partCount = n + 1 := ⟨_, (Nat.succ_pred_eq_of_pos hparts).symm⟩
        rw [List.range_succ_eq_map, List.foldlM_cons, bind_eq_ok]
        simp [planItem, hname]
    | some name => simp [planItem, hname]
  · simp [planChannel, hretain, pure, Except.pure]

end Lamb.Export
