import Lamb.Export.Passes

/-!
The preview of an export and the plan of the persistence workspace are the same
list of outputs.
-/

namespace Lamb.Export

open Lamb.Lib Lamb.Lib.Path Lamb.Arena Lamb.Ring Lamb.Runtime Lamb.Dump

/-! ### The fixed paths -/

/-- The directory a transaction stages its files in. -/
def transactionText (details : RequestDetails) (stamp : TransactionStamp) : String :=
  withSeparator details.stagingParent ++ stamp.name details.stagingPrefix

theorem setTransactionPath_eq_ok {capacity : ℕ} (hcapacity : capacity ≤ u64Max)
    {details : RequestDetails} {stamp : TransactionStamp} {slot : String} :
    setTransactionPath capacity details.stagingParent details.stagingPrefix stamp = .ok slot ↔
      slot = transactionText details stamp ∧ Fits capacity slot := by
  simp only [setTransactionPath, bind_eq_ok, setPath_eq_ok hcapacity]
  constructor
  · rintro ⟨_, ⟨rfl, hparent⟩, middle, hmiddle, hwrite⟩
    obtain ⟨rfl, hfits⟩ := (pushSeparator_eq_ok hcapacity hparent).mp hmiddle
    split at hwrite
    · next slot' hslot =>
        obtain rfl := Except.ok.inj hwrite
        exact (writeSlot_eq_some hcapacity hfits).mp hslot
    · cases hwrite
  · rintro ⟨rfl, hfits⟩
    have hmiddle : Fits capacity (withSeparator details.stagingParent) := hfits.of_append
    obtain ⟨more, hmore⟩ := exists_withSeparator details.stagingParent
    have hparent : Fits capacity details.stagingParent := (hmore ▸ hmiddle).of_append
    refine ⟨_, ⟨rfl, hparent⟩, _, (pushSeparator_eq_ok hcapacity hparent).mpr ⟨rfl, hmiddle⟩, ?_⟩
    rw [(writeSlot_eq_some hcapacity hmiddle).mpr ⟨rfl, hfits⟩]
    rfl

/-- The slots a plan of `outputCount` outputs begins with. -/
def PlanSlots.begun (slots : PlanSlots) (details : RequestDetails) (policy : ResolvedExportPolicy)
    (stamp : TransactionStamp) (outputCount : ℕ) : PlanSlots :=
  ((({ slots with outputCount }.setSlot stagingParentPath details.stagingParent).setSlot
    finalRootPath policy.outputDir).setSlot transactionRootPath (transactionText details stamp))

theorem PlanSlots.begin_eq_ok {slots slots' : PlanSlots} {details : RequestDetails}
    {policy : ResolvedExportPolicy} {stamp : TransactionStamp} {outputCount : ℕ} :
    slots.begin details policy stamp outputCount = .ok slots' ↔
      Fits slots.capacity details.stagingParent ∧ Fits slots.capacity policy.outputDir ∧
        Fits slots.capacity (transactionText details stamp) ∧
        slots' = slots.begun details policy stamp outputCount := by
  simp only [PlanSlots.begin, bind_eq_ok, setPath_eq_ok slots.capacity_le,
    setTransactionPath_eq_ok slots.capacity_le]
  constructor
  · rintro ⟨_, ⟨rfl, hparent⟩, _, ⟨rfl, hfinal⟩, _, ⟨rfl, hroot⟩, h⟩
    exact ⟨hparent, hfinal, hroot, (Except.ok.inj h).symm⟩
  · rintro ⟨hparent, hfinal, hroot, rfl⟩
    exact ⟨_, ⟨rfl, hparent⟩, _, ⟨rfl, hfinal⟩, _, ⟨rfl, hroot⟩, rfl⟩

/-! ### The list a plan ends with -/

theorem Planned.planned {start slots : PlanSlots} {outs : List RenderedOutput}
    {policy : ResolvedExportPolicy} {context : RenderContext} {framesPerPart : ℕ}
    (h : Planned start slots outs) (hcount : slots.outputCount = outs.length)
    (hrendered : ∀ out ∈ outs, ∃ item, Renders policy context framesPerPart item out) :
    slots.planned = outs.map RenderedOutput.planned := by
  rw [PlanSlots.planned, hcount, h.outputs, List.map_map]
  refine List.ext_getElem (by simp) ?_
  intro index hindex hindex'
  have hlt : index < outs.length := by simpa using hindex'
  obtain ⟨item, hout⟩ := hrendered outs[index] (List.getElem_mem hlt)
  have hpath := h.paths index outs[index] (List.getElem?_eq_getElem hlt)
  have hpart := hout.part
  have hstop := hout.endFrame
  simp only [List.getElem_map, Function.comp_apply, List.getElem_zipIdx, Nat.zero_add,
    RenderedOutput.planned, PlannedOutput.mk.injEq]
  refine ⟨rfl, ?_, rfl, ?_, hpath⟩
  · simp only [outputSlot]
    omega
  · simp only [outputSlot]
    omega

/-- Slots other than the root and the final paths carry nothing of a plan. -/
theorem Planned.setSlot {start slots : PlanSlots} {outs : List RenderedOutput}
    (h : Planned start slots outs) {index : ℕ} (hroot : index ≠ transactionRootPath)
    (hfinal : ∀ number, index ≠
      outputPathStart + number * outputPathSlotsPerPart + finalPathOffset) (text : String) :
    Planned start (slots.setSlot index text) outs where
  config := h.config
  length := h.length
  outputCount := h.outputCount
  root := (PlanSlots.setSlot_of_ne _ hroot.symm _).trans h.root
  outputs := h.outputs
  paths number out hout :=
    (PlanSlots.setSlot_of_ne _ (hfinal number).symm _).trans (h.paths number out hout)

/-! ### Staging a directory -/

theorem Planned.getElem? {start slots : PlanSlots} {outs : List RenderedOutput}
    (h : Planned start slots outs) {index : ℕ} {out : RenderedOutput}
    (hout : outs[index]? = some out) : slots.outputs[index]? = some (outputSlot index out) := by
  obtain ⟨hlt, rfl⟩ := List.getElem?_eq_some_iff.mp hout
  have htake := congrArg (fun outputs => outputs[index]?) h.outputs
  simpa [List.getElem?_take, hlt] using htake

theorem planAtomicStagedPath_ok {start slots slots' : PlanSlots} {outs : List RenderedOutput}
    {index : ℕ} (h : Planned start slots outs) (hindex : index < outs.length)
    (hstep : planAtomicStagedPath slots index = .ok slots') : Planned start slots' outs := by
  have houtput := h.getElem? (List.getElem?_eq_getElem hindex)
  simp only [planAtomicStagedPath, houtput] at hstep
  split at hstep
  · cases hstep
  · split at hstep
    · cases hstep
    · simp only [bind_eq_ok] at hstep
      obtain ⟨_, -, _, -, _, -, staged, -, hstep⟩ := hstep
      obtain rfl := Except.ok.inj hstep
      refine h.setSlot ?_ ?_ staged
      · simp only [outputSlot, transactionRootPath, outputPathStart]
        omega
      · intro number
        simp only [outputSlot, outputPathStart, outputPathSlotsPerPart, stagedPathOffset,
          finalPathOffset]
        omega

/-- Staging changes nothing of the plan. -/
theorem finishStaged_ok {start slots slots' : PlanSlots} {outs : List RenderedOutput}
    {kind : PersistenceKind} (h : Planned start slots outs)
    (hcount : slots.outputCount = outs.length) (hfinish : slots.finishStaged kind = .ok slots') :
    Planned start slots' outs := by
  cases kind with
  | «recall» =>
      obtain rfl := Except.ok.inj hfinish
      exact h
  | dump =>
      simp only [PlanSlots.finishStaged, planAtomicStagedPaths] at hfinish
      split at hfinish
      · cases hfinish
      · split at hfinish
        · cases hfinish
        · split at hfinish
          · cases hfinish
          · simp only [bind_eq_ok] at hfinish
            obtain ⟨_, -, root, -, _, -, hloop⟩ := hfinish
            refine foldlM_invariant (P := fun slots => Planned start slots outs) ?_ ?_ hloop
            · intro index hindex middle middle' hmiddle hstep
              rw [List.mem_range, hcount] at hindex
              exact planAtomicStagedPath_ok hmiddle hindex hstep
            · refine h.setSlot (by decide) ?_ root
              intro number
              simp only [finalRootPath, outputPathStart]
              omega

/-! ### Where the files are staged -/

theorem zeroPadded_injective {width m n : ℕ} (h : zeroPadded width m = zeroPadded width n) :
    m = n := by
  rw [← ofDigitChars_zeroPadded width m, h, ofDigitChars_zeroPadded]

theorem append_left_injective {text left right : String} (h : text ++ left = text ++ right) :
    left = right := by
  rw [← String.toList_inj, String.toList_append, String.toList_append] at h
  exact String.toList_inj.mp (List.append_cancel_left h)

/-- No two outputs are staged at one path. -/
def StagedApart (slots : PlanSlots) (outs : List RenderedOutput) : Prop :=
  ∀ index index' out out', outs[index]? = some out → outs[index']? = some out' →
    slots.paths (outputSlot index out).stagedPath = slots.paths (outputSlot index' out').stagedPath →
    index = index'

theorem NumberedStaged.apart {start slots : PlanSlots} {outs : List RenderedOutput}
    (h : NumberedStaged start slots .recall outs.length) : StagedApart slots outs := by
  intro index index' out out' hout hout' hsame
  have hlt := (List.getElem?_eq_some_iff.mp hout).1
  have hlt' := (List.getElem?_eq_some_iff.mp hout').1
  have hnumbered := h rfl
  simp only [outputSlot] at hsame
  rw [hnumbered index hlt, hnumbered index' hlt', stagedText, stagedText] at hsame
  exact zeroPadded_injective (append_left_injective (append_left_injective hsame))

theorem eq_of_parent_of_fileName {left right : Path} {name : String}
    (hparent : left.parent = right.parent) (hleft : left.fileName = some name)
    (hright : right.fileName = some name) : left = right := by
  have hsplit (path : Path) (hname : path.fileName = some name) :
      path.parent = some { path with parts := path.parts.dropLast } ∧
        path.parts = path.parts.dropLast ++ [.normal name] := by
    unfold fileName at hname
    split at hname
    · next last hlast =>
        obtain rfl := Option.some.inj hname
        have hne : path.parts ≠ [] := by
          intro hnil
          rw [hnil] at hlast
          cases hlast
        refine ⟨by rw [parent, if_neg hne], ?_⟩
        have hget := List.getLast?_eq_some_getLast hne
        rw [hlast] at hget
        rw [Option.some.inj hget, List.dropLast_append_getLast hne]
    · cases hname
  obtain ⟨hparentLeft, hpartsLeft⟩ := hsplit left hleft
  obtain ⟨hparentRight, hpartsRight⟩ := hsplit right hright
  rw [hparentLeft, hparentRight, Option.some.injEq, Lib.Path.mk.injEq] at hparent
  cases left
  cases right
  simp only at hparent hpartsLeft hpartsRight
  rw [hpartsLeft, hpartsRight, hparent.1, hparent.2]

/-- The first `count` files of a directory are staged under their names. -/
structure NamedStaged (start : PlanSlots) (outs : List RenderedOutput) (root : String) (count : ℕ)
    (slots : PlanSlots) : Prop where
  planned : Planned start slots outs
  finalRoot : slots.paths finalRootPath = root
  staged : ∀ index out, index < count → outs[index]? = some out → ∃ name,
    (ofText out.finalPath).fileName = some name ∧
    (ofText out.finalPath).parent = some (ofText root) ∧
    slots.paths (outputSlot index out).stagedPath =
      withSeparator (start.paths transactionRootPath) ++ name

theorem NamedStaged.step {start slots slots' : PlanSlots} {outs : List RenderedOutput}
    {root : String} {count : ℕ} (h : NamedStaged start outs root count slots)
    (hcount : count < outs.length) (hstep : planAtomicStagedPath slots count = .ok slots') :
    NamedStaged start outs root (count + 1) slots' := by
  have hplanned := planAtomicStagedPath_ok h.planned hcount hstep
  have hget := List.getElem?_eq_getElem hcount
  generalize outs[count] = current at hget
  have hcapacity := slots.capacity_le
  simp only [planAtomicStagedPath, h.planned.getElem? hget, h.planned.paths count current hget,
    h.finalRoot, h.planned.root] at hstep
  split at hstep
  · cases hstep
  · next hparent =>
      split at hstep
      · cases hstep
      · next name hname =>
          simp only [bind_eq_ok, setPath_eq_ok hcapacity] at hstep
          obtain ⟨filename, hfilename, _, ⟨rfl, hfits⟩, slot, hslot, staged, hstaged, hstep⟩ := hstep
          obtain ⟨rfl, -⟩ := (pushBytes_eq_ok hcapacity (Fits.empty _)).mp hfilename
          obtain ⟨rfl, hseparated⟩ := (pushSeparator_eq_ok hcapacity hfits).mp hslot
          obtain ⟨rfl, -⟩ := (pushBytes_eq_ok hcapacity hseparated).mp hstaged
          obtain rfl := Except.ok.inj hstep
          refine ⟨hplanned, ?_, ?_⟩
          · rw [PlanSlots.setSlot_of_ne _ _ _, h.finalRoot]
            simp only [outputSlot, finalRootPath, outputPathStart]
            omega
          · intro index out hindex hout
            by_cases hlast : index = count
            · subst hlast
              obtain rfl := Option.some.inj (hget.symm.trans hout)
              refine ⟨name, hname, not_not.mp hparent, ?_⟩
              rw [PlanSlots.setSlot_self, String.empty_append]
            · obtain ⟨name', hname', hparent', hpath⟩ := h.staged index out (by omega) hout
              refine ⟨name', hname', hparent', ?_⟩
              rw [PlanSlots.setSlot_of_ne _ _ _, hpath]
              simp only [outputSlot, outputPathSlotsPerPart]
              omega

theorem NamedStaged.apart {start slots : PlanSlots} {outs : List RenderedOutput} {root : String}
    (h : NamedStaged start outs root outs.length slots) (hapart : outs.Pairwise Apart) :
    StagedApart slots outs := by
  intro index index' out out' hout hout' hsame
  obtain ⟨hlt, hget⟩ := List.getElem?_eq_some_iff.mp hout
  obtain ⟨hlt', hget'⟩ := List.getElem?_eq_some_iff.mp hout'
  obtain ⟨name, hname, hparent, hpath⟩ := h.staged index out hlt hout
  obtain ⟨name', hname', hparent', hpath'⟩ := h.staged index' out' hlt' hout'
  rw [hpath, hpath'] at hsame
  obtain rfl := append_left_injective hsame
  have hequal : ofText out.finalPath = ofText out'.finalPath :=
    eq_of_parent_of_fileName (hparent.trans hparent'.symm) hname hname'
  have hpairs := List.pairwise_iff_getElem.mp hapart
  rcases Nat.lt_trichotomy index index' with hbefore | heq | hafter
  · have hne := (hpairs index index' hlt hlt' hbefore).ofText_ne
    rw [hget, hget'] at hne
    exact absurd hequal hne
  · exact heq
  · have hne := (hpairs index' index hlt' hlt hafter).ofText_ne
    rw [hget, hget'] at hne
    exact absurd hequal.symm hne

/-- A directory that was staged has its files under their names. -/
theorem planAtomicStagedPaths_named {start slots slots' : PlanSlots} {outs : List RenderedOutput}
    (h : Planned start slots outs) (hcount : slots.outputCount = outs.length)
    (hfinish : planAtomicStagedPaths slots = .ok slots') :
    ∃ root, NamedStaged start outs root outs.length slots' := by
  simp only [planAtomicStagedPaths] at hfinish
  split at hfinish
  · cases hfinish
  · split at hfinish
    · cases hfinish
    · split at hfinish
      · cases hfinish
      · simp only [bind_eq_ok] at hfinish
        obtain ⟨_, -, root, -, _, -, hloop⟩ := hfinish
        rw [hcount] at hloop
        refine ⟨root, foldlM_range_invariant (P := NamedStaged start outs root)
          (fun index hindex middle middle' hmiddle hstep => hmiddle.step hindex hstep)
          ⟨h.setSlot (by decide) (by
            intro number
            simp only [finalRootPath, outputPathStart]
            omega) root, PlanSlots.setSlot_self _ _ _, by omega⟩ hloop⟩

/-- The staged files of a finished plan are apart. -/
theorem finishStaged_apart {start slots slots' : PlanSlots} {outs : List RenderedOutput}
    {kind : PersistenceKind} (h : Planned start slots outs)
    (hstaged : NumberedStaged start slots kind outs.length) (hapart : outs.Pairwise Apart)
    (hcount : slots.outputCount = outs.length) (hfinish : slots.finishStaged kind = .ok slots') :
    StagedApart slots' outs := by
  cases kind with
  | «recall» =>
      obtain rfl := Except.ok.inj hfinish
      exact hstaged.apart
  | dump =>
      obtain ⟨root, hnamed⟩ := planAtomicStagedPaths_named h hcount hfinish
      exact hnamed.apart hapart

/-- A directory of the timestamp layout is named by the timestamp alone. -/
theorem patterns_of_atomicDirectory {policy : ResolvedExportPolicy} {command : ExportCommand}
    (h : policy.layout.publicationStrategy command = .atomicDirectory) :
    (policy.patterns command).1 = ⟨[.token .timestamp]⟩ := by
  have hlayout : policy.layout.effectiveLayout command = .timestampDirectory := by
    unfold ResolvedLayout.publicationStrategy at h
    split at h
    · assumption
    · cases h
    · cases h
  have hpatterns : patternsForLayout policy.layout command = .ok (policy.patterns command) := by
    cases command with
    | «recall» => exact policy.recallPatterns_eq
    | dump => exact policy.dumpPatterns_eq
  have hparse : patternsForLayout policy.layout command =
      .ok (⟨[.token .timestamp]⟩, ⟨[.token .channel, .token .partSuffix, .literal ".wav"]⟩) := by
    simp only [patternsForLayout, hlayout]
    decide +kernel
  rw [← Except.ok.inj (hpatterns.symm.trans hparse).symm]

theorem Renders.finalPath_timestamp {policy : ResolvedExportPolicy} {context : RenderContext}
    {framesPerPart : ℕ} {item : ℕ × ℕ} {out : RenderedOutput} {names : List String}
    (h : Renders policy context framesPerPart item out)
    (hlayout : policy.layout.publicationStrategy context.command = .atomicDirectory)
    (hdir : policy.outputDir = render names) (hnames : ∀ name ∈ names, IsName name) :
    (∀ name ∈ names ++ [context.timestamp] ++ [out.filename], IsName name) ∧
      out.finalPath = render (names ++ [context.timestamp] ++ [out.filename]) := by
  have hpattern := patterns_of_atomicDirectory hlayout
  have htimestamp : out.relativeDirectory = context.timestamp := by
    have hdirectory := h.directory
    rw [hpattern] at hdirectory
    simpa [renderOutputInto, renderOutputTo, renderSegment, writeOr, pushStr] using
      hdirectory.symm
  have hstamp : IsName context.timestamp := by
    have hvalues := h.contextValues
    rw [hpattern] at hvalues
    rw [validateContextValues, if_pos (by simp [ValidatedPattern.contains])] at hvalues
    obtain ⟨⟨⟩, hvalid, -⟩ := bind_eq_ok.mp hvalues
    simp only [validateComponentValue, ensure_eq_ok, not_or] at hvalid
    exact ⟨hvalid.1, hvalid.2.1, hvalid.2.2.1, hvalid.2.2.2.1⟩
  have hfile := (validateFilename_isName h.filename_valid).1
  have hboth : ∀ name ∈ names ++ [context.timestamp], IsName name := by
    intro name hmem
    rcases List.mem_append.mp hmem with hmem | hmem
    · exact hnames name hmem
    · exact List.mem_singleton.mp hmem ▸ hstamp
  refine ⟨?_, ?_⟩
  · intro name hmem
    rcases List.mem_append.mp hmem with hmem | hmem
    · exact hboth name hmem
    · exact List.mem_singleton.mp hmem ▸ hfile
  · rw [h.finalPath, htimestamp, hdir, joinPath_name hnames hstamp, joinPath_name hboth hfile]

theorem render_append {names : List String} (hne : names ≠ []) (name : String) :
    render (names ++ [name]) = render names ++ ("/" ++ name) := by
  rw [← String.toList_inj, toList_render, renderChars_of_ne_nil (by simp), String.toList_append,
    toList_render, renderChars_of_ne_nil hne]
  simp

/-- The slots while the files of a directory are staged. -/
structure Staging (start : PlanSlots) (outs : List RenderedOutput) (directory : List String)
    (slots : PlanSlots) : Prop where
  planned : Planned start slots outs
  finalRoot : slots.paths finalRootPath = render directory

theorem Staging.step {start slots : PlanSlots} {outs : List RenderedOutput}
    {directory : List String} (h : Staging start outs directory slots)
    (hfinal : ∀ out ∈ outs, (∀ name ∈ directory ++ [out.filename], IsName name) ∧
      out.finalPath = render (directory ++ [out.filename]) ∧ Fits start.capacity out.filename)
    (hroot : Fits start.capacity (start.paths transactionRootPath))
    (hstaged : ∀ out ∈ outs,
      Fits start.capacity (withSeparator (start.paths transactionRootPath) ++ out.filename))
    {index : ℕ} (hindex : index < outs.length) :
    ∃ slots', planAtomicStagedPath slots index = .ok slots' ∧
      Staging start outs directory slots' := by
  have hmem := List.getElem_mem hindex
  have hget := List.getElem?_eq_getElem hindex
  generalize outs[index] = out at hmem hget
  obtain ⟨hnames, hpath, hfile⟩ := hfinal out hmem
  have hdirectory : ∀ name ∈ directory, IsName name := fun name hin => hnames name (by simp [hin])
  have hcapacity : slots.capacity = start.capacity := by
    rw [PlanSlots.capacity, PlanSlots.capacity, h.planned.config]
  have hle := start.capacity_le
  have hparent : (ofText (slots.paths (outputSlot index out).finalPath)).parent =
      some (ofText (slots.paths finalRootPath)) := by
    rw [h.planned.paths index out hget, hpath, h.finalRoot, ofText_render hnames,
      ofText_render hdirectory, parent_absolute_append]
  have hname : (ofText (slots.paths (outputSlot index out).finalPath)).fileName =
      some out.filename := by
    rw [h.planned.paths index out hget, hpath, ofText_render hnames, fileName_absolute_append]
  simp only [planAtomicStagedPath, h.planned.getElem? hget, hparent, ne_eq, not_true_eq_false,
    if_false, hname, hcapacity, h.planned.root]
  refine ⟨slots.setSlot (outputSlot index out).stagedPath
    (withSeparator (start.paths transactionRootPath) ++ out.filename), ?_, ?_, ?_⟩
  · rw [bind_eq_ok]
    refine ⟨out.filename, ?_, ?_⟩
    · rw [pushBytes_eq_ok hle (Fits.empty _), String.empty_append]
      exact ⟨rfl, hfile⟩
    · rw [bind_eq_ok]
      refine ⟨_, (setPath_eq_ok hle).mpr ⟨rfl, hroot⟩, ?_⟩
      have hseparated := hstaged out hmem
      rw [bind_eq_ok]
      refine ⟨_, (pushSeparator_eq_ok hle hroot).mpr ⟨rfl, hseparated.of_append⟩, ?_⟩
      rw [bind_eq_ok]
      exact ⟨_, (pushBytes_eq_ok hle hseparated.of_append).mpr ⟨rfl, hseparated⟩, rfl⟩
  · refine h.planned.setSlot ?_ ?_ _
    · simp only [outputSlot, transactionRootPath, outputPathStart]
      omega
    · intro number
      simp only [outputSlot, outputPathStart, outputPathSlotsPerPart, stagedPathOffset,
        finalPathOffset]
      omega
  · rw [PlanSlots.setSlot_of_ne _ _ _, h.finalRoot]
    simp only [outputSlot, finalRootPath, outputPathStart]
    omega

/-- A planned directory of the timestamp layout is staged when its files fit. -/
theorem planAtomicStagedPaths_succeeds {start slots : PlanSlots} {outs : List RenderedOutput}
    {directory : List String} (h : Planned start slots outs)
    (hcount : slots.outputCount = outs.length) (hne : outs ≠ [])
    (hfinal : ∀ out ∈ outs, (∀ name ∈ directory ++ [out.filename], IsName name) ∧
      out.finalPath = render (directory ++ [out.filename]) ∧ Fits start.capacity out.filename)
    (hfits : Fits start.capacity (render directory))
    (hroot : Fits start.capacity (start.paths transactionRootPath))
    (hstaged : ∀ out ∈ outs,
      Fits start.capacity (withSeparator (start.paths transactionRootPath) ++ out.filename)) :
    ∃ slots', planAtomicStagedPaths slots = .ok slots' := by
  obtain ⟨first, rest, rfl⟩ := List.exists_cons_of_ne_nil hne
  have hcapacity : slots.capacity = start.capacity := by
    rw [PlanSlots.capacity, PlanSlots.capacity, h.config]
  have hle := start.capacity_le
  have hhead : slots.outputs.head? = some (outputSlot 0 first) := by
    rw [List.head?_eq_getElem?]
    exact h.getElem? rfl
  have hsome : slots.outputCount ≠ 0 := by
    rw [hcount]
    simp
  have hparent : parentText (slots.paths (outputSlot 0 first).finalPath) =
      some (render directory) := by
    obtain ⟨hnames, hpath, -⟩ := hfinal first (by simp)
    rw [h.paths 0 first rfl, hpath, parentText, ofText_render hnames, parent_absolute_append,
      Option.map_some, display_absolute]
  have hstart : Staging start (first :: rest) directory
      (slots.setSlot finalRootPath (render directory)) := by
    refine ⟨h.setSlot (by decide) ?_ _, PlanSlots.setSlot_self _ _ _⟩
    intro number
    simp only [finalRootPath, outputPathStart]
    omega
  obtain ⟨slots', hloop, -⟩ := foldlM_progress (f := planAtomicStagedPath)
    (l := List.range slots.outputCount) (fun index hindex middle hmiddle =>
      hmiddle.step hfinal hroot hstaged (by rwa [List.mem_range, hcount] at hindex)) hstart
  refine ⟨slots', ?_⟩
  simp only [planAtomicStagedPaths, hhead, hsome, if_false, hparent, hcapacity, h.root]
  have hset : setPath start.capacity (render directory) = .ok (render directory) :=
    (setPath_eq_ok hle).mpr ⟨rfl, hfits⟩
  have htransaction : setPath start.capacity (start.paths transactionRootPath) =
      .ok (start.paths transactionRootPath) := (setPath_eq_ok hle).mpr ⟨rfl, hroot⟩
  simp only [bind_eq_ok]
  exact ⟨_, hset, _, hset, _, htransaction, hloop⟩

/-! ### The two lists -/

theorem wavPartCount_eq_ok {totalFrames bytesPerFrame split count : ℕ} :
    wavPartCount totalFrames bytesPerFrame split = .ok count ↔
      ∃ framesPerPart, wavFramesPerPart bytesPerFrame split = .ok framesPerPart ∧
        count = divCeil totalFrames framesPerPart := by
  simp only [wavPartCount, bind_eq_ok]
  refine exists_congr fun framesPerPart => and_congr_right fun _ => ?_
  exact ⟨fun h => (Except.ok.inj h).symm, fun h => h ▸ rfl⟩

theorem length_retainedChannels (decision : FrozenExportDecision) :
    (retainedChannels decision).length =
      decision.channels.countP fun channel => channel.disposition = .retain := by
  have hfst : decision.channels = decision.channels.zipIdx.map Prod.fst := by simp
  rw [retainedChannels, List.length_map, ← List.countP_eq_length_filter]
  conv_rhs => rw [hfst, List.countP_map]
  rfl

theorem lt_of_mem_retainedChannels {decision : FrozenExportDecision} {index : ℕ}
    (h : index ∈ retainedChannels decision) : index < decision.channels.length := by
  simp only [retainedChannels, List.mem_map, List.mem_filter] at h
  obtain ⟨⟨channel, index⟩, ⟨hmem, -⟩, rfl⟩ := h
  have := List.snd_lt_add_of_mem_zipIdx hmem
  omega

theorem length_exportItems (retained : List ℕ) (partCount : ℕ) :
    (exportItems retained partCount).length = retained.length * partCount := by
  simp [exportItems]

/-- The paths of a plan other than its final paths fit their slots. -/
structure PathsFit (capacity : ℕ) (details : RequestDetails) (stamp : TransactionStamp)
    (outputs : List RenderedOutput) : Prop where
  stagingParent : Fits capacity details.stagingParent
  transactionRoot : Fits capacity (transactionText details stamp)
  «recall» : details.kind = .recall → ∀ index < outputs.length,
    Fits capacity (stagedText (transactionText details stamp) index)
  dump : details.kind = .dump → ∀ output ∈ outputs,
    Fits capacity (withSeparator (transactionText details stamp) ++ output.filename)

theorem Renders.fits_outputDir {policy : ResolvedExportPolicy} {context : RenderContext}
    {framesPerPart : ℕ} {item : ℕ × ℕ} {out : RenderedOutput}
    (h : Renders policy context framesPerPart item out) :
    Fits context.maximumPathBytes policy.outputDir := by
  have hfits := h.fits_finalPath
  rw [h.finalPath, joinPath_eq (validateFilename_head h.filename_valid)] at hfits
  obtain ⟨more, hmore⟩ := exists_withSeparator (joinPath policy.outputDir out.relativeDirectory)
  have hjoined := (hmore ▸ hfits.of_append).of_append
  rw [joinPath_eq (validateRenderedDirectory_head h.directory_valid)] at hjoined
  obtain ⟨sep, hsep⟩ := exists_withSeparator policy.outputDir
  exact (hsep ▸ hjoined.of_append).of_append

theorem Renders.maximumPathBytes_ne_zero {policy : ResolvedExportPolicy} {context : RenderContext}
    {framesPerPart : ℕ} {item : ℕ × ℕ} {out : RenderedOutput}
    (h : Renders policy context framesPerPart item out) : context.maximumPathBytes ≠ 0 := by
  intro hzero
  have hsize := h.fits_outputDir.2
  rw [hzero, Nat.le_zero, String.utf8ByteSize_eq_zero_iff] at hsize
  exact policy.outputDir_ne_empty hsize

theorem exists_of_forall₂ {α β : Type} {R : α → β → Prop} {items : List α} {outs : List β}
    (h : List.Forall₂ R items outs) : ∀ out ∈ outs, ∃ item, R item out := by
  induction h with
  | nil => simp
  | cons hfirst _ ih =>
      intro out hout
      rcases List.mem_cons.mp hout with rfl | hout
      · exact ⟨_, hfirst⟩
      · exact ih out hout

/-- What the planner needs to know of an export that writes something. -/
structure PlansExport (config : PersistenceWorkspaceConfig) (decision : FrozenExportDecision) :
    Prop where
  channels : decision.channels.length = config.channels
  range_lt : decision.exportRange.start < decision.exportRange.stop
  retained_ne_nil : retainedChannels decision ≠ []

theorem validatePolicyGeometry_channels {config : PersistenceWorkspaceConfig}
    {frozen : FrozenCaptureEpoch} {policy : ResolvedExportPolicy} {decision : FrozenExportDecision}
    (h : validatePolicyGeometry config frozen policy decision = .ok ()) :
    decision.channels.length = config.channels ∧ frozen.descriptor.channels = config.channels := by
  simp only [validatePolicyGeometry, ensure_eq_ok] at h
  exact ⟨h.2.1, h.2.2.1⟩

theorem PreparesExport.plans {config : PersistenceWorkspaceConfig} {policy : ResolvedExportPolicy}
    {frozen : FrozenCaptureEpoch} {decision : FrozenExportDecision}
    (h : PreparesExport config policy frozen decision) : PlansExport config decision where
  channels := (validatePolicyGeometry_channels h.geometry).1
  range_lt := by
    obtain ⟨activity, detector, draft, hclassify⟩ := h.decided
    have hfrozen := h.frozen_valid
    simp only [validateFrozen, ensure_eq_ok, FrozenCaptureEpoch.totalFrames] at hfrozen
    exact classifyFrozenEpoch_lt hclassify (by omega)
  retained_ne_nil := by
    obtain ⟨channel, hmem, hretain⟩ := h.retains
    have hpos : 0 < (retainedChannels decision).length := by
      rw [length_retainedChannels, List.countP_pos_iff]
      exact ⟨channel, hmem, by simpa using hretain⟩
    exact List.length_pos_iff.mp hpos

section Prepared

variable {slots : PlanSlots} {decision : FrozenExportDecision}
  (hplans : PlansExport slots.config decision)
include hplans

theorem PlansExport.item_lt {partCount : ℕ} {item : ℕ × ℕ}
    (h : item ∈ exportItems (retainedChannels decision) partCount) :
    item.1 < 2 ^ 32 ∧ item.2 < partCount := by
  obtain ⟨hchannel, hpart⟩ := exportItems_le h
  have hlength := hplans.channels
  have hlt := lt_of_mem_retainedChannels hchannel
  have hle := slots.channels_le
  have hu32 : u32Max = 2 ^ 32 - 1 := rfl
  exact ⟨by omega, hpart⟩

/-- Once its fixed paths are set the planner is ready for its passes. -/
theorem PlansExport.ready {command : ExportCommand} {profile timestamp : String}
    {details : RequestDetails} {stamp : TransactionStamp} {framesPerPart count : ℕ}
    (hsplit : wavFramesPerPart wavSampleBytes slots.config.splitWhenOverBytes = .ok framesPerPart)
    (hroot : Fits slots.capacity (transactionText details stamp))
    (hslots : (retainedChannels decision).length * divCeil
      (policyContext slots.config command profile timestamp decision).totalFrames framesPerPart ≤
        slots.outputs.length) :
    Ready (slots.begun details policy stamp count)
      (policyContext slots.config command profile timestamp decision) framesPerPart where
  split := hsplit
  maximumPathBytes := rfl
  root := by
    rw [PlanSlots.begun, PlanSlots.setSlot_self]
    exact hroot
  order := hplans.range_lt.le
  parts := by
    have hone := Nat.le_mul_of_pos_left (divCeil
      (policyContext slots.config command profile timestamp decision).totalFrames framesPerPart)
      (List.length_pos_iff.mpr hplans.retained_ne_nil)
    have hpaths := slots.pathSlots_le
    simp only [outputPathSlotsPerPart] at hpaths
    omega

end Prepared

theorem Planned.begun (slots : PlanSlots) (details : RequestDetails)
    (policy : ResolvedExportPolicy) (stamp : TransactionStamp) (count : ℕ) :
    Planned (slots.begun details policy stamp count) (slots.begun details policy stamp count) [] where
  config := rfl
  length := rfl
  outputCount := rfl
  root := rfl
  outputs := rfl
  paths := by simp

/-- The passes of a plan that was made. -/
theorem PlansExport.plan_passes {slots slots' : PlanSlots} {policy : ResolvedExportPolicy}
    {decision : FrozenExportDecision} (hplans : PlansExport slots.config decision)
    {command : ExportCommand}
    {profile timestamp : String} {details : RequestDetails} {stamp : TransactionStamp}
    (h : planPolicyPaths slots details policy
      (policyContext slots.config command profile timestamp decision) decision stamp =
        .ok slots') :
    ∃ start framesPerPart outs planned, start.config = slots.config ∧
      start.paths transactionRootPath = transactionText details stamp ∧ IsExportPlan policy
        (policyContext slots.config command profile timestamp decision)
        (retainedChannels decision) framesPerPart outs ∧
      Planned start planned outs ∧ planned.outputCount = outs.length ∧
      NumberedStaged start planned details.kind outs.length ∧
      planned.finishStaged details.kind = .ok slots' := by
  simp only [planPolicyPaths, bind_eq_ok, ensure_eq_ok, wavPartCount_eq_ok,
    PlanSlots.begin_eq_ok, ← length_retainedChannels] at h
  obtain ⟨_, ⟨framesPerPart, hsplit, rfl⟩, -, hcount, -, hslots, _, ⟨-, -, hroot, rfl⟩,
    ⟨planned, number⟩, hloop, hfinish⟩ := h
  have hpos := (wavFramesPerPart_eq hsplit).2
  have hrange := hplans.range_lt
  have hparts : 0 < divCeil (decision.exportRange.stop - decision.exportRange.start)
      framesPerPart := (lt_divCeil_iff hpos).mpr (by omega)
  obtain ⟨outs, houts, hplanned, hapart, hstaged⟩ := planItems_ok
    (hplans.ready hsplit hroot hslots) (Planned.begun _ _ _ _ _)
    (fun _ index hindex => absurd hindex (Nat.not_lt_zero index)) (by simp) .nil
    (fun item hitem => hplans.item_lt hitem) (by
      rw [length_exportItems, List.length_nil, Nat.zero_add]
      exact hslots)
    ((planChannel_eq_ok hparts).mp hloop)
  rw [List.nil_append] at hplanned hapart hstaged
  have hrendered := exists_of_forall₂ houts
  have hlength : (slots.begun details policy stamp ((retainedChannels decision).length *
      divCeil (decision.exportRange.stop - decision.exportRange.start)
        framesPerPart)).outputCount = outs.length := by
    rw [← houts.length_eq]
    exact (length_exportItems _ _).symm
  refine ⟨slots.begun details policy stamp _, framesPerPart, outs, planned, rfl,
    PlanSlots.setSlot_self _ _ _, ⟨hsplit, ?_, hcount, houts, hapart⟩, hplanned,
    hplanned.outputCount.trans hlength, hstaged, hfinish⟩
  have hne : outs ≠ [] := by
    rintro rfl
    exact exportItems_ne_nil hplans.retained_ne_nil hparts (List.forall₂_nil_right_iff.mp houts)
  obtain ⟨out, rest, rfl⟩ := List.exists_cons_of_ne_nil hne
  obtain ⟨item, hout⟩ := hrendered out (by simp)
  exact hout.maximumPathBytes_ne_zero

/-- What the slots hold after a plan was made. -/
theorem PlansExport.plan_made {slots slots' : PlanSlots} {policy : ResolvedExportPolicy}
    {decision : FrozenExportDecision} (hplans : PlansExport slots.config decision)
    {command : ExportCommand}
    {profile timestamp : String} {details : RequestDetails} {stamp : TransactionStamp}
    (h : planPolicyPaths slots details policy
      (policyContext slots.config command profile timestamp decision) decision stamp =
        .ok slots') :
    ∃ start framesPerPart outs, start.config = slots.config ∧ IsExportPlan policy
        (policyContext slots.config command profile timestamp decision)
        (retainedChannels decision) framesPerPart outs ∧
      Planned start slots' outs ∧ slots'.outputCount = outs.length ∧ StagedApart slots' outs := by
  obtain ⟨start, framesPerPart, outs, planned, hconfig, -, hplan, hplanned, hcount, hstaged,
    hfinish⟩ := hplans.plan_passes h
  have hfinal := finishStaged_ok hplanned hcount hfinish
  exact ⟨start, framesPerPart, outs, hconfig, hplan, hfinal,
    hfinal.outputCount.trans (hplanned.outputCount.symm.trans hcount),
    finishStaged_apart hplanned hstaged hplan.apart hcount hfinish⟩

/-- A plan that was made is the export plan. -/
theorem PlansExport.plan_ok {slots slots' : PlanSlots} {policy : ResolvedExportPolicy}
    {decision : FrozenExportDecision} (hplans : PlansExport slots.config decision)
    {command : ExportCommand}
    {profile timestamp : String} {details : RequestDetails} {stamp : TransactionStamp}
    (h : planPolicyPaths slots details policy
      (policyContext slots.config command profile timestamp decision) decision stamp =
        .ok slots') :
    ∃ framesPerPart outs, IsExportPlan policy
        (policyContext slots.config command profile timestamp decision)
        (retainedChannels decision) framesPerPart outs ∧
      outs.map RenderedOutput.planned = slots'.planned := by
  obtain ⟨start, framesPerPart, outs, -, hplan, hplanned, hcount, -⟩ := hplans.plan_made h
  exact ⟨framesPerPart, outs, hplan,
    (hplanned.planned hcount (exists_of_forall₂ hplan.rendered)).symm⟩

/-- Without a retained channel or a frame nothing is planned. -/
theorem planPolicyPaths_empty {slots slots' : PlanSlots} {policy : ResolvedExportPolicy}
    {decision : FrozenExportDecision} {context : RenderContext} {details : RequestDetails}
    {stamp : TransactionStamp}
    (hempty : retainedChannels decision = [] ∨ context.exportEndFrame ≤ context.exportStartFrame)
    (h : planPolicyPaths slots details policy context decision stamp = .ok slots') :
    ∃ framesPerPart,
      wavFramesPerPart wavSampleBytes slots.config.splitWhenOverBytes = .ok framesPerPart ∧
      slots'.outputCount = 0 ∧ slots'.config = slots.config := by
  simp only [planPolicyPaths, bind_eq_ok, ensure_eq_ok, wavPartCount_eq_ok,
    PlanSlots.begin_eq_ok, ← length_retainedChannels] at h
  obtain ⟨_, ⟨framesPerPart, hsplit, rfl⟩, -, hcount, -, hslots, _, ⟨-, -, hroot, rfl⟩,
    ⟨planned, number⟩, hloop, hfinish⟩ := h
  have hpos := (wavFramesPerPart_eq hsplit).2
  have hnone : retainedChannels decision = [] ∨
      divCeil (context.exportEndFrame - context.exportStartFrame) framesPerPart = 0 := by
    refine hempty.imp id fun hle => Nat.eq_zero_of_not_pos fun hparts => ?_
    have := (lt_divCeil_iff hpos).mp hparts
    omega
  have hsame : (planned, number).1 = slots.begun details policy stamp
      ((retainedChannels decision).length *
        divCeil (context.exportEndFrame - context.exportStartFrame) framesPerPart) := by
    refine foldlM_invariant (P := fun state : PlanSlots × ℕ => state.1 = _) ?_ rfl hloop
    intro channel hchannel state state' hstate hstep
    rw [← hstate]
    unfold planChannel at hstep
    split at hstep
    · next hretain =>
        rcases hnone with hnil | hzero
        · have hmem : channel.2 ∈ retainedChannels decision :=
            List.mem_map.mpr ⟨channel, List.mem_filter.mpr ⟨hchannel, by simpa using hretain⟩, rfl⟩
          rw [hnil] at hmem
          cases hmem
        · rw [hzero] at hstep
          split at hstep
          · cases hstep
          · obtain rfl := Except.ok.inj hstep
            rfl
    · obtain rfl := Except.ok.inj hstep
      rfl
  have hzero : (retainedChannels decision).length *
      divCeil (context.exportEndFrame - context.exportStartFrame) framesPerPart = 0 := by
    rcases hnone with hnil | hzero
    · rw [hnil, List.length_nil, Nat.zero_mul]
    · rw [hzero, Nat.mul_zero]
  have hfinal : Planned planned slots' [] := finishStaged_ok ⟨rfl, rfl, rfl, rfl, rfl, by simp⟩ (by
    simp only at hsame
    rw [hsame, hzero]
    rfl) hfinish
  refine ⟨framesPerPart, hsplit, ?_, ?_⟩
  · rw [hfinal.outputCount]
    simp only at hsame
    rw [hsame, hzero]
    rfl
  · rw [hfinal.config]
    simp only at hsame
    rw [hsame]
    rfl

/-- An export plan that fits the slots is made. -/
theorem PlansExport.plan_succeeds {slots : PlanSlots} {policy : ResolvedExportPolicy}
    {decision : FrozenExportDecision} (hplans : PlansExport slots.config decision)
    {command : ExportCommand}
    {profile timestamp stagingRoot : String} {stamp : TransactionStamp} {framesPerPart : ℕ}
    {outs : List RenderedOutput}
    (hplan : IsExportPlan policy (policyContext slots.config command profile timestamp decision)
      (retainedChannels decision) framesPerPart outs)
    (hslots : outs.length ≤ slots.outputs.length)
    (hfit : PathsFit slots.capacity (policyDetails policy command stagingRoot) stamp outs) :
    ∃ slots', planPolicyPaths slots (policyDetails policy command stagingRoot) policy
        (policyContext slots.config command profile timestamp decision) decision stamp =
      .ok slots' := by
  have hpos := (wavFramesPerPart_eq hplan.split).2
  have hrange := hplans.range_lt
  have hparts : 0 < divCeil (decision.exportRange.stop - decision.exportRange.start)
      framesPerPart := (lt_divCeil_iff hpos).mpr (by omega)
  have hlength : outs.length = (retainedChannels decision).length *
      divCeil (decision.exportRange.stop - decision.exportRange.start) framesPerPart := by
    rw [← hplan.rendered.length_eq]
    exact length_exportItems _ _
  have hrendered := exists_of_forall₂ hplan.rendered
  obtain ⟨first, rest, hcons⟩ : ∃ first rest, outs = first :: rest := by
    refine List.exists_cons_of_ne_nil ?_
    rintro rfl
    exact exportItems_ne_nil hplans.retained_ne_nil hparts
      (List.forall₂_nil_right_iff.mp hplan.rendered)
  obtain ⟨_, hfirst⟩ := hrendered first (by simp [hcons])
  have hroom := hlength ▸ hslots
  have hready : Ready
      (slots.begun (policyDetails policy command stagingRoot) policy stamp outs.length)
      (policyContext slots.config command profile timestamp decision) framesPerPart :=
    hplans.ready hplan.split hfit.transactionRoot hroom
  have hrootText : (slots.begun (policyDetails policy command stagingRoot) policy stamp
      outs.length).paths transactionRootPath =
        transactionText (policyDetails policy command stagingRoot) stamp :=
    PlanSlots.setSlot_self _ _ _
  have hpasses := @planItems_of_rendered _ (policyDetails policy command stagingRoot) policy _ _
    hready _ _ _ _ (Planned.begun _ _ _ _ _) (by simp)
    (fun item hitem => hplans.item_lt hitem)
    (by
      rw [length_exportItems, List.length_nil, Nat.zero_add]
      exact hroom)
    hplan.rendered (by simpa using hplan.apart) (by
      intro hkind index hindex
      rw [hrootText]
      refine hfit.recall hkind index ?_
      rw [length_exportItems, List.length_nil, Nat.zero_add] at hindex
      rw [hlength]
      exact hindex)
  obtain ⟨planned, number, hloop, hplanned⟩ := hpasses
  rw [List.nil_append] at hplanned
  have hfinish : ∃ slots',
      planned.finishStaged (policyDetails policy command stagingRoot).kind = .ok slots' := by
    cases hstrategy : policy.layout.publicationStrategy command with
    | fileSet => exact ⟨planned, by simp [policyDetails, hstrategy, PlanSlots.finishStaged]⟩
    | atomicDirectory =>
        have hkind : (policyDetails policy command stagingRoot).kind = .dump := by
          simp [policyDetails, hstrategy]
        obtain ⟨names, hdir, hnames, -⟩ := validateOutputDir_render policy.outputDir_valid
        rw [hkind]
        have hnamed (out : RenderedOutput) (hmem : out ∈ outs) :
            (∀ name ∈ names ++ [timestamp] ++ [out.filename], IsName name) ∧
              out.finalPath = render (names ++ [timestamp] ++ [out.filename]) := by
          obtain ⟨item, hout⟩ := hrendered out hmem
          exact hout.finalPath_timestamp hstrategy hdir hnames
        refine @planAtomicStagedPaths_succeeds _ _ _ (names ++ [timestamp]) hplanned
          hplanned.outputCount (by simp [hcons]) ?_ ?_ hready.root ?_
        · intro out hmem
          obtain ⟨item, hout⟩ := hrendered out hmem
          exact ⟨(hnamed out hmem).1, (hnamed out hmem).2, hout.fits_filename⟩
        · have hfits := hfirst.fits_finalPath
          rw [(hnamed first (by simp [hcons])).2, render_append (by simp)] at hfits
          exact hfits.of_append
        · intro out hmem
          rw [hrootText]
          exact hfit.dump hkind out hmem
  obtain ⟨slots', hslots'⟩ := hfinish
  refine ⟨slots', ?_⟩
  simp only [planPolicyPaths, bind_eq_ok, ensure_eq_ok, wavPartCount_eq_ok,
    PlanSlots.begin_eq_ok, ← length_retainedChannels]
  refine ⟨_, ⟨framesPerPart, hplan.split, rfl⟩, (), hplan.count_le, (), hroom, _,
    ⟨hfit.stagingParent, hfirst.fits_outputDir, hfit.transactionRoot, rfl⟩, (planned, number), ?_,
    hslots'⟩
  rw [hlength] at hloop
  exact (planChannel_eq_ok hparts).mpr hloop

/-- Whenever a prepared export is planned, the preview lists the same outputs
in the same order; and whenever the preview succeeds and its outputs and paths
fit the slots of the workspace, the export is planned with that list. -/
theorem preview_agrees_with_plan {slots : PlanSlots} {policy : ResolvedExportPolicy}
    {frozen : FrozenCaptureEpoch} {decision : FrozenExportDecision}
    (hprepares : PreparesExport slots.config policy frozen decision) (command : ExportCommand)
    (profile timestamp stagingRoot : String) (stamp : TransactionStamp) :
    (∀ slots', planPolicyPaths slots (policyDetails policy command stagingRoot) policy
        (policyContext slots.config command profile timestamp decision) decision stamp =
          .ok slots' →
      ∃ outputs, previewExportPaths policy
          (policyContext slots.config command profile timestamp decision)
          (retainedChannels decision) = .ok outputs ∧
        outputs.map RenderedOutput.planned = slots'.planned) ∧
    ∀ outputs, previewExportPaths policy
        (policyContext slots.config command profile timestamp decision)
        (retainedChannels decision) = .ok outputs →
      outputs.length ≤ slots.outputs.length →
      PathsFit slots.capacity (policyDetails policy command stagingRoot) stamp outputs →
      ∃ slots', planPolicyPaths slots (policyDetails policy command stagingRoot) policy
          (policyContext slots.config command profile timestamp decision) decision stamp =
            .ok slots' ∧
        slots'.planned = outputs.map RenderedOutput.planned := by
  have hpreview (outputs : List RenderedOutput) : previewExportPaths policy
      (policyContext slots.config command profile timestamp decision)
      (retainedChannels decision) = .ok outputs ↔ _ :=
    previewExportPaths_eq_ok hprepares.plans.retained_ne_nil hprepares.plans.range_lt
  refine ⟨?_, ?_⟩
  · intro slots' hplan
    obtain ⟨framesPerPart, outs, houts, hlist⟩ := hprepares.plans.plan_ok hplan
    exact ⟨outs, (hpreview outs).mpr ⟨framesPerPart, houts⟩, hlist⟩
  · intro outputs houtputs hslots hfit
    obtain ⟨framesPerPart, hplan⟩ := (hpreview outputs).mp houtputs
    obtain ⟨slots', hslots'⟩ := hprepares.plans.plan_succeeds hplan hslots hfit
    -- the plan that is made is the plan the preview has shown
    obtain ⟨framesPerPart', outs, houts, hlist⟩ := hprepares.plans.plan_ok hslots'
    have hsame := (hpreview outs).mpr ⟨framesPerPart', houts⟩
    obtain rfl := Except.ok.inj (houtputs.symm.trans hsame)
    exact ⟨slots', hslots', hlist.symm⟩

/-- A workspace of one channel and two output slots. -/
def monoSlots : PlanSlots where
  config := ⟨4, 1, 48000, .f32Le, 4, 4, 1000, 48, 255⟩
  outputs := List.replicate 2 ⟨0, 0, 0, 0, 0, 0⟩
  outputCount := 0
  paths := fun _ => ""
  channels_le := by decide
  maximumPathBytes_le := by decide
  pathSlots_le := by decide

theorem validateOutputDir_out : validateOutputDir "/out" = .ok () := by decide +kernel

def monoPolicy : ResolvedExportPolicy where
  outputDir := "/out"
  layout := .timestampDirectory
  channelNames := ["mic"]
  recallPatterns := (⟨[.token .timestamp]⟩, ⟨[.token .channel, .token .partSuffix, .literal ".wav"]⟩)
  dumpPatterns := (⟨[.token .timestamp]⟩, ⟨[.token .channel, .token .partSuffix, .literal ".wav"]⟩)
  outputDir_valid := validateOutputDir_out
  recallPatterns_eq := by decide +kernel
  dumpPatterns_eq := by decide +kernel

def monoEpoch : FrozenCaptureEpoch :=
  ⟨0, ⟨0, 1, 0, ⟨0, 4⟩, ⟨0, 4⟩, 1, 48000, .f32Le⟩, false, false⟩

def monoDecision : FrozenExportDecision where
  channels := [⟨.always, .active, .retain, some 1⟩]
  exportRange := ⟨0, 4⟩
  sampleRate := 48000
  valid := true
  frozenEpoch := some monoEpoch.identity

/-- Four frames of one channel are planned as one file, and previewed so. -/
theorem preview_agrees_with_plan_mono :
    ∃ outputs, previewExportPaths monoPolicy
        (policyContext monoSlots.config .dump "studio" "20240101" monoDecision)
        (retainedChannels monoDecision) = .ok outputs ∧
      outputs.map RenderedOutput.planned = [⟨0, 1, 0, 4, "/out/20240101/mic.wav"⟩] := by
  have hprepares : PreparesExport monoSlots.config monoPolicy monoEpoch monoDecision := by
    refine ⟨by decide, by decide, ⟨⟨[.always], false, false⟩,
      ⟨4, .ok [⟨.active, some 1, false, true⟩]⟩, .new 1 48000, by decide⟩, by decide⟩
  have hplan : (planPolicyPaths monoSlots (policyDetails monoPolicy .dump "/tmp/staging") monoPolicy
      (policyContext monoSlots.config .dump "studio" "20240101" monoDecision) monoDecision
      ⟨1, 2, 3⟩).map PlanSlots.planned = .ok [⟨0, 1, 0, 4, "/out/20240101/mic.wav"⟩] := by
    decide +kernel
  have hagree := (preview_agrees_with_plan hprepares .dump "studio" "20240101" "/tmp/staging"
    ⟨1, 2, 3⟩).1
  cases hslots : planPolicyPaths monoSlots (policyDetails monoPolicy .dump "/tmp/staging")
      monoPolicy (policyContext monoSlots.config .dump "studio" "20240101" monoDecision)
      monoDecision ⟨1, 2, 3⟩ with
  | error e =>
      rw [hslots] at hplan
      cases hplan
  | ok slots =>
      rw [hslots] at hplan
      obtain ⟨outputs, hpreview, hlist⟩ := hagree slots hslots
      exact ⟨outputs, hpreview, hlist.trans (Except.ok.inj hplan)⟩

end Lamb.Export
