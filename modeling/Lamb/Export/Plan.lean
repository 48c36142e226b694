import Lamb.Export.Render
import Lamb.Lib.Loop

/-!
What an export plan is: one output for every part of every retained channel,
rendered to a valid path, no path equal to or below another. The preview
computes exactly the plan.
-/

namespace Lamb.Export

open Lamb.Lib Lamb.Lib.Path Lamb.Ring Lamb.Runtime

def RenderContext.totalFrames (context : RenderContext) : ℕ :=
  context.exportEndFrame - context.exportStartFrame

def RenderedOutput.outputPart (out : RenderedOutput) : OutputPart where
  channel := out.channel
  part := out.part
  partSuffix := out.partSuffix
  startFrame := out.startFrame
  endFrame := out.endFrame

/-- The output `out` is part `item.2`, counted from zero, of channel
`item.1`. -/
structure Renders (policy : ResolvedExportPolicy) (context : RenderContext) (framesPerPart : ℕ)
    (item : ℕ × ℕ) (out : RenderedOutput) : Prop where
  contextValues : validateContextValues (policy.patterns context.command).1
    (policy.patterns context.command).2 context = .ok ()
  channelIndex : out.channelIndex = item.1
  name : policy.channelNames[item.1]? = some out.channel
  channel : validateComponentValue out.channel "channel" = .ok ()
  capacity : validatePatternCapacity (policy.patterns context.command).1
    (policy.patterns context.command).2 policy.outputDir context out.channel = .ok ()
  part : out.part = item.2 + 1
  partCount : out.partCount = divCeil context.totalFrames framesPerPart
  partSuffix : out.partSuffix = partSuffixText out.partCount out.part
  startFrame : out.startFrame =
    context.exportStartFrame + (partAt context.totalFrames framesPerPart item.2).startFrame
  endFrame : out.endFrame =
    out.startFrame + (partAt context.totalFrames framesPerPart item.2).frameCount
  endFrame_le : out.endFrame ≤ u64Max
  directory : renderOutputInto (policy.patterns context.command).1 context out.outputPart =
    .ok out.relativeDirectory
  filename : renderOutputInto (policy.patterns context.command).2 context out.outputPart =
    .ok out.filename
  directory_valid : validateRenderedDirectory out.relativeDirectory = .ok ()
  filename_valid : validateFilename out.filename = .ok ()
  finalPath : out.finalPath =
    joinPath (joinPath policy.outputDir out.relativeDirectory) out.filename
  finalPath_valid : validateFinalPath policy.outputDir out.finalPath context.maximumPathBytes =
    .ok ()

def exportItems (retained : List ℕ) (partCount : ℕ) : List (ℕ × ℕ) :=
  retained.flatMap fun channelIndex => (List.range partCount).map (Prod.mk channelIndex)

def Apart (left right : RenderedOutput) : Prop :=
  ¬pathConflict left.finalPath right.finalPath = true

structure IsExportPlan (policy : ResolvedExportPolicy) (context : RenderContext)
    (retained : List ℕ) (framesPerPart : ℕ) (outs : List RenderedOutput) : Prop where
  split : wavFramesPerPart wavSampleBytes context.splitWhenOverBytes = .ok framesPerPart
  maximumPathBytes : context.maximumPathBytes ≠ 0
  count_le : retained.length * divCeil context.totalFrames framesPerPart ≤ u64Max
  rendered : List.Forall₂ (Renders policy context framesPerPart)
    (exportItems retained (divCeil context.totalFrames framesPerPart)) outs
  apart : outs.Pairwise Apart

/-! ### Facts about one output -/

theorem addOr_eq_ok {message : String} {left right sum : ℕ} :
    addOr message left right = .ok sum ↔ sum = left + right ∧ left + right ≤ u64Max := by
  unfold addOr
  split
  · next total hsum =>
      obtain ⟨rfl, hle⟩ := checkedAdd_eq_some.mp hsum
      exact ⟨fun h => ⟨(Except.ok.inj h).symm, hle⟩, fun h => h.1 ▸ rfl⟩
  · next hnone =>
      rw [checkedAdd_eq_none] at hnone
      exact ⟨fun h => (by cases h), fun h => absurd h.2 (by omega)⟩

theorem channelName_eq_ok {policy : ResolvedExportPolicy} {index : ℕ} {name : String} :
    channelName policy index = .ok name ↔ policy.channelNames[index]? = some name := by
  unfold channelName
  split <;> simp_all

theorem Renders.spelled {policy : ResolvedExportPolicy} {context : RenderContext}
    {framesPerPart : ℕ} {item : ℕ × ℕ} {out : RenderedOutput}
    (h : Renders policy context framesPerPart item out) :
    ∃ names : List String, (∀ name ∈ names ++ [out.filename], IsName name) ∧
      out.finalPath = render (names ++ [out.filename]) ∧ nul ∉ out.finalPath.toList := by
  obtain ⟨names, relative, -, hnames, -, hfinal, hnul⟩ :=
    finalPath_render policy.outputDir_valid h.directory_valid h.filename_valid
  refine ⟨names ++ relative, hnames, h.finalPath.trans hfinal, ?_⟩
  rw [h.finalPath, hfinal]
  exact hnul

/-! ### The preview -/

/-- One pass of the two loops of the preview, with the checks of its channel. -/
def previewItem (policy : ResolvedExportPolicy) (context : RenderContext) (framesPerPart : ℕ)
    (outputs : List RenderedOutput) (item : ℕ × ℕ) : Result (List RenderedOutput) := do
  let channel ← channelName policy item.1
  validateComponentValue channel "channel"
  validatePatternCapacity (policy.patterns context.command).1 (policy.patterns context.command).2
    policy.outputDir context channel
  previewPart policy context item.1 channel (divCeil context.totalFrames framesPerPart) outputs
    (partAt context.totalFrames framesPerPart item.2, item.2)

theorem previewItem_eq_ok {policy : ResolvedExportPolicy} {context : RenderContext}
    {framesPerPart : ℕ} {item : ℕ × ℕ}
    (hvalues : validateContextValues (policy.patterns context.command).1
      (policy.patterns context.command).2 context = .ok ())
    (hpart : item.2 + 1 ≤ u64Max) (outputs outputs' : List RenderedOutput) :
    previewItem policy context framesPerPart outputs item = .ok outputs' ↔
      ∃ out, Renders policy context framesPerPart item out ∧
        (∀ output ∈ outputs, ofText output.finalPath ≠ ofText out.finalPath) ∧
        outputs' = outputs ++ [out] := by
  simp only [previewItem, previewPart]
  rcases hpatterns : policy.patterns context.command with ⟨directoryPattern, filenamePattern⟩
  simp only [bind_eq_ok, ensure_eq_ok, addOr_eq_ok, channelName_eq_ok]
  constructor
  · rintro ⟨channel, hname, ⟨⟩, hchannel, ⟨⟩, hcapacity, part, ⟨rfl, -⟩, startFrame, ⟨rfl, -⟩,
      endFrame, ⟨rfl, hend⟩, directory, hdirectory, filename, hfilename, ⟨⟩, hvalidDir, ⟨⟩,
      hvalidFile, ⟨⟩, hfinal, ⟨⟩, hnew, houtputs⟩
    obtain rfl := Except.ok.inj houtputs
    refine ⟨⟨item.1, channel, _, _, _, _, _, directory, filename, _⟩, ?_, hnew, rfl⟩
    exact
      { contextValues := hvalues
        channelIndex := rfl
        name := hname
        channel := hchannel
        capacity := by rw [hpatterns]; exact hcapacity
        part := rfl
        partCount := rfl
        partSuffix := rfl
        startFrame := rfl
        endFrame := rfl
        endFrame_le := hend
        directory := by rw [hpatterns]; exact hdirectory
        filename := by rw [hpatterns]; exact hfilename
        directory_valid := hvalidDir
        filename_valid := hvalidFile
        finalPath := rfl
        finalPath_valid := hfinal }
  · rintro ⟨⟨channelIndex, channel, part, partCount, partSuffix, startFrame, endFrame, directory,
      filename, finalPath⟩, hout, hnew, rfl⟩
    obtain ⟨-, hindex, hname, hchannel, hcapacity, hpartEq, hcount, hsuffix, hstart, hstop, hend,
      hdirectory, hfilename, hvalidDir, hvalidFile, hpath, hfinal⟩ := hout
    dsimp only at hindex hpartEq hcount hsuffix hstart hstop hend hpath
    subst hindex hpartEq hcount hsuffix hstart hstop hpath
    rw [hpatterns] at hcapacity hdirectory hfilename
    exact ⟨channel, hname, (), hchannel, (), hcapacity, _, ⟨rfl, hpart⟩, _, ⟨rfl, by omega⟩, _,
      ⟨rfl, hend⟩, directory, hdirectory, filename, hfilename, (), hvalidDir, (), hvalidFile, (),
      hfinal, (), hnew, rfl⟩

theorem zipIdx_map_range {β : Type} (f : ℕ → β) (n : ℕ) :
    ((List.range n).map f).zipIdx = (List.range n).map fun i => (f i, i) := by
  refine List.ext_getElem (by simp) ?_
  intro i hi hi'
  simp

/-- The loop over the parts of one channel, with the checks of the channel in
every pass. -/
theorem previewChannel_eq_ok {policy : ResolvedExportPolicy} {context : RenderContext}
    {framesPerPart channelIndex : ℕ} {outputs outputs' : List RenderedOutput}
    (hparts : 0 < divCeil context.totalFrames framesPerPart) :
    previewChannel policy context ((List.range (divCeil context.totalFrames framesPerPart)).map
        (partAt context.totalFrames framesPerPart)) outputs channelIndex = .ok outputs' ↔
      ((List.range (divCeil context.totalFrames framesPerPart)).map
        (Prod.mk channelIndex)).foldlM (previewItem policy context framesPerPart) outputs =
        .ok outputs' := by
  have hitem (channel : String) (hname : channelName policy channelIndex = .ok channel)
      (hchannel : validateComponentValue channel "channel" = .ok ())
      (hcapacity : validatePatternCapacity (policy.patterns context.command).1
        (policy.patterns context.command).2 policy.outputDir context channel = .ok ()) :
      (fun outputs z => previewItem policy context framesPerPart outputs (channelIndex, z)) =
        fun outputs z => previewPart policy context channelIndex channel
          (divCeil context.totalFrames framesPerPart) outputs
          (partAt context.totalFrames framesPerPart z, z) := by
    funext outputs z
    rw [previewItem, hname]
    change (do validateComponentValue channel "channel"; _) = _
    rw [hchannel]
    change (do validatePatternCapacity _ _ _ _ _; _) = _
    rw [hcapacity]
    rfl
  simp only [previewChannel, bind_eq_ok, List.length_map, List.length_range, zipIdx_map_range,
    List.foldlM_map]
  constructor
  · rintro ⟨channel, hname, ⟨⟩, hchannel, ⟨⟩, hcapacity, hloop⟩
    rw [hitem channel hname hchannel hcapacity]
    exact hloop
  · intro hloop
    -- there is a first pass, and it has made the checks
    obtain ⟨n, hn⟩ : ∃ n, divCeil context.totalFrames framesPerPart = n + 1 :=
      ⟨_, (Nat.succ_pred_eq_of_pos hparts).symm⟩
    have hfirst := hloop
    rw [hn, List.range_succ_eq_map, List.foldlM_cons, bind_eq_ok] at hfirst
    obtain ⟨_, hfirst, -⟩ := hfirst
    simp only [previewItem, bind_eq_ok] at hfirst
    obtain ⟨channel, hname, ⟨⟩, hchannel, ⟨⟩, hcapacity, -⟩ := hfirst
    rw [hitem channel hname hchannel hcapacity] at hloop
    exact ⟨channel, hname, (), hchannel, (), hcapacity, hloop⟩

theorem validateNoFileParentConflicts_eq_ok {outs : List RenderedOutput} :
    validateNoFileParentConflicts outs = .ok () ↔ outs.Pairwise Apart := by
  induction outs with
  | nil => simp [validateNoFileParentConflicts]
  | cons out outs ih =>
      rw [validateNoFileParentConflicts, List.pairwise_cons]
      cases hfind : outs.find? fun other => pathConflict out.finalPath other.finalPath with
      | none =>
          rw [List.find?_eq_none] at hfind
          exact ⟨fun h => ⟨fun other hother => hfind other hother, ih.mp h⟩, fun h => ih.mpr h.2⟩
      | some other =>
          have hmem := List.mem_of_find?_eq_some hfind
          have hconflict := List.find?_some hfind
          constructor
          · intro h
            cases h
          · intro h
            exact absurd (by simpa using hconflict) (h.1 other hmem)

theorem Apart.ofText_ne {left right : RenderedOutput} (h : Apart left right) :
    ofText left.finalPath ≠ ofText right.finalPath := by
  intro heq
  refine h ?_
  simp [pathConflict, pathStartsWith, heq, startsWith, stripPrefix]

theorem exportItems_le {retained : List ℕ} {partCount : ℕ} {item : ℕ × ℕ}
    (h : item ∈ exportItems retained partCount) : item.1 ∈ retained ∧ item.2 < partCount := by
  simp only [exportItems, List.mem_flatMap, List.mem_map, List.mem_range] at h
  obtain ⟨channelIndex, hchannel, part, hpart, rfl⟩ := h
  exact ⟨hchannel, hpart⟩

theorem exportItems_ne_nil {retained : List ℕ} {partCount : ℕ} (hretained : retained ≠ [])
    (hparts : 0 < partCount) : exportItems retained partCount ≠ [] := by
  obtain ⟨channelIndex, rest, rfl⟩ := List.exists_cons_of_ne_nil hretained
  refine List.ne_nil_of_mem (a := (channelIndex, 0)) ?_
  simp only [exportItems, List.mem_flatMap, List.mem_map, List.mem_range]
  exact ⟨channelIndex, by simp, 0, hparts, rfl⟩

/-- The preview succeeds with the export plan, if there is one. -/
theorem previewExportPaths_eq_ok {policy : ResolvedExportPolicy} {context : RenderContext}
    {retained : List ℕ} {outs : List RenderedOutput} (hretained : retained ≠ [])
    (hrange : context.exportStartFrame < context.exportEndFrame) :
    previewExportPaths policy context retained = .ok outs ↔
      ∃ framesPerPart, IsExportPlan policy context retained framesPerPart outs := by
  have htotal : 0 < context.totalFrames := by
    simp only [RenderContext.totalFrames]
    omega
  have hloop (framesPerPart : ℕ) (hpos : 0 < framesPerPart)
      (hcount : retained.length * divCeil context.totalFrames framesPerPart ≤ u64Max)
      (hvalues : validateContextValues (policy.patterns context.command).1
        (policy.patterns context.command).2 context = .ok ()) (outputs : List RenderedOutput) :
      retained.foldlM (previewChannel policy context
        ((List.range (divCeil context.totalFrames framesPerPart)).map
          (partAt context.totalFrames framesPerPart))) [] = .ok outputs ↔
      List.Forall₂ (Renders policy context framesPerPart)
        (exportItems retained (divCeil context.totalFrames framesPerPart)) outputs ∧
        outputs.Pairwise fun left right => ofText left.finalPath ≠ ofText right.finalPath := by
    have hparts : 0 < divCeil context.totalFrames framesPerPart :=
      (lt_divCeil_iff hpos).mpr (by omega)
    have hone : divCeil context.totalFrames framesPerPart ≤ u64Max :=
      le_trans (Nat.le_mul_of_pos_left _ (List.length_pos_iff.mpr hretained)) hcount
    have hstep (item : ℕ × ℕ)
        (hitem : item ∈ exportItems retained (divCeil context.totalFrames framesPerPart))
        (acc acc' : List RenderedOutput) :
        previewItem policy context framesPerPart acc item = .ok acc' ↔ _ :=
      previewItem_eq_ok hvalues (by have := (exportItems_le hitem).2; omega) acc acc'
    rw [foldlM_ok_congr (fun c _ s s' => previewChannel_eq_ok hparts),
      ← foldlM_flatMap_eq, ← exportItems, foldlM_collect hstep]
    constructor
    · rintro ⟨news, hnews, -, hpair, rfl⟩
      exact ⟨hnews, hpair⟩
    · rintro ⟨hnews, hpair⟩
      exact ⟨outputs, hnews, by simp, hpair, rfl⟩
  have hvalid := policy.outputDir_valid
  simp only [previewExportPaths, bind_eq_ok, ensure_eq_ok, wavPartsForChannel_eq_ok]
  constructor
  · rintro ⟨⟨⟩, -, ⟨⟩, -, ⟨⟩, hpath, ⟨⟩, hvalues, parts, ⟨framesPerPart, hframes, rfl⟩, ⟨⟩, hcount,
      outputs, houtputs, ⟨⟩, hapart, houts⟩
    obtain rfl := Except.ok.inj houts
    rw [List.length_map, List.length_range] at hcount
    exact ⟨framesPerPart,
      { split := hframes
        maximumPathBytes := hpath
        count_le := hcount
        rendered := ((hloop framesPerPart (wavFramesPerPart_eq hframes).2 hcount hvalues _).mp
          houtputs).1
        apart := validateNoFileParentConflicts_eq_ok.mp hapart }⟩
  · rintro ⟨framesPerPart, hplan⟩
    have hpos := (wavFramesPerPart_eq hplan.split).2
    have hparts : 0 < divCeil context.totalFrames framesPerPart :=
      (lt_divCeil_iff hpos).mpr (by omega)
    have hvalues : validateContextValues (policy.patterns context.command).1
        (policy.patterns context.command).2 context = .ok () := by
      have hrendered := hplan.rendered
      obtain ⟨item, items, hitems⟩ :=
        List.exists_cons_of_ne_nil (exportItems_ne_nil hretained hparts)
      rw [hitems] at hrendered
      cases hrendered with
      | cons hfirst _ => exact hfirst.contextValues
    have hcount := hplan.count_le
    refine ⟨(), hvalid, (), hrange.le, (), hplan.maximumPathBytes, (), hvalues, _,
      ⟨framesPerPart, hplan.split, rfl⟩, (), ?_, outs, ?_, (),
      validateNoFileParentConflicts_eq_ok.mpr hplan.apart, rfl⟩
    · rw [List.length_map, List.length_range]
      exact hcount
    · exact (hloop framesPerPart hpos hcount hvalues outs).mpr
        ⟨hplan.rendered, hplan.apart.imp Apart.ofText_ne⟩

end Lamb.Export
