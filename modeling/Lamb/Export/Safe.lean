import Lamb.Export.Agree

/-!
Where an export writes. Literals and token values may hold separators and dots
or be empty, so that a path is judged as a whole: what the preview and the
planner accept lies below the output directory and is spelled with plain names
only, and no accepted path is another one or leads through it.
-/

namespace Lamb.Export

open Lamb.Lib Lamb.Lib.Path Lamb.Arena Lamb.Runtime Lamb.Dump

/-- Paths below a directory, spelled with plain names; none is another one and
none is an ancestor of another one. -/
def SafePaths (outputDir : String) (paths : List String) : Prop :=
  ∃ (base : List String) (relatives : List (List String)),
    outputDir = render base ∧ paths = relatives.map (fun relative => render (base ++ relative)) ∧
    (∀ name ∈ base, IsName name) ∧
    (∀ relative ∈ relatives, relative ≠ [] ∧ ∀ name ∈ relative, IsName name) ∧
    relatives.Pairwise fun left right => ¬left <+: right ∧ ¬right <+: left

/-- A path with a directory and a file name that were both accepted. -/
structure Accepted (policy : ResolvedExportPolicy) (out : RenderedOutput) : Prop where
  directory : validateRenderedDirectory out.relativeDirectory = .ok ()
  filename : validateFilename out.filename = .ok ()
  finalPath : out.finalPath =
    joinPath (joinPath policy.outputDir out.relativeDirectory) out.filename

section Accepted

variable {policy : ResolvedExportPolicy} {context : RenderContext}

theorem Renders.accepted {framesPerPart : ℕ} {item : ℕ × ℕ} {out : RenderedOutput}
    (h : Renders policy context framesPerPart item out) : Accepted policy out :=
  ⟨h.directory_valid, h.filename_valid, h.finalPath⟩

/-- An accepted path has plain names below the output directory. -/
theorem Accepted.relative {out : RenderedOutput} (h : Accepted policy out) {base : List String}
    (hbase : policy.outputDir = render base) (hnames : ∀ name ∈ base, IsName name) :
    ∃ relative : List String, relative ≠ [] ∧ (∀ name ∈ relative, IsName name) ∧
      out.finalPath = render (base ++ relative) := by
  obtain ⟨names, more, hdir, hall, -, hfinal, -⟩ :=
    finalPath_render policy.outputDir_valid h.directory h.filename
  have hsame : names = base := by
    refine render_injective (fun name hname => hall name ?_) hnames (hdir.symm.trans hbase)
    exact List.mem_append_left _ (List.mem_append_left _ hname)
  subst hsame
  refine ⟨more ++ [out.filename], by simp, fun name hname => hall name ?_, ?_⟩
  · rw [List.append_assoc]
    exact List.mem_append_right _ hname
  · rw [h.finalPath, hfinal, List.append_assoc]

/-- Accepted paths without a conflict are safe. -/
theorem safePaths_of_accepted {outs : List RenderedOutput}
    (haccepted : ∀ out ∈ outs, Accepted policy out) (hapart : outs.Pairwise Apart) :
    SafePaths policy.outputDir (outs.map RenderedOutput.finalPath) := by
  obtain ⟨base, hbase, hnames, -⟩ := validateOutputDir_render policy.outputDir_valid
  have hrelative : ∀ out ∈ outs, ∃ relative : List String, relative ≠ [] ∧
      (∀ name ∈ relative, IsName name) ∧ out.finalPath = render (base ++ relative) :=
    fun out hout => (haccepted out hout).relative hbase hnames
  choose! relative hne hplain hfinal using hrelative
  refine ⟨base, outs.map relative, hbase, ?_, hnames, ?_, ?_⟩
  · rw [List.map_map]
    exact List.map_congr_left hfinal
  · intro names hmem
    obtain ⟨out, hout, rfl⟩ := List.mem_map.mp hmem
    exact ⟨hne out hout, hplain out hout⟩
  · rw [List.pairwise_map]
    refine hapart.imp_of_mem fun {left right} hleft hright hconflict => ?_
    have hall : ∀ out ∈ outs, ∀ name ∈ base ++ relative out, IsName name := by
      intro out hout name hname
      rcases List.mem_append.mp hname with hname | hname
      · exact hnames name hname
      · exact hplain out hout name hname
    rw [Apart, hfinal left hleft, hfinal right hright,
      pathConflict_render (hall left hleft) (hall right hright), not_or,
      List.prefix_append_right_inj, List.prefix_append_right_inj] at hconflict
    exact ⟨hconflict.2, hconflict.1⟩

/-! ### The preview -/

theorem previewPart_accepted {channelIndex : ℕ} {channel : String} {partCount : ℕ}
    {outputs outputs' : List RenderedOutput} {wavPart : WavPart × ℕ}
    (hall : ∀ out ∈ outputs, Accepted policy out)
    (h : previewPart policy context channelIndex channel partCount outputs wavPart =
      .ok outputs') : ∀ out ∈ outputs', Accepted policy out := by
  simp only [previewPart, bind_eq_ok] at h
  obtain ⟨_, -, _, -, _, -, directory, -, filename, -, ⟨⟩, hdirectory, ⟨⟩, hfilename, ⟨⟩, -, ⟨⟩, -,
    h⟩ := h
  obtain rfl := Except.ok.inj h
  intro out hout
  rcases List.mem_append.mp hout with hout | hout
  · exact hall out hout
  · obtain rfl := List.mem_singleton.mp hout
    exact ⟨hdirectory, hfilename, rfl⟩

theorem previewExportPaths_accepted {retained : List ℕ} {outputs : List RenderedOutput}
    (h : previewExportPaths policy context retained = .ok outputs) :
    (∀ out ∈ outputs, Accepted policy out) ∧ outputs.Pairwise Apart := by
  simp only [previewExportPaths, bind_eq_ok] at h
  obtain ⟨⟨⟩, -, ⟨⟩, -, ⟨⟩, -, ⟨⟩, -, parts, -, ⟨⟩, -, outputs', hloop, ⟨⟩, hconflicts, h⟩ := h
  obtain rfl := Except.ok.inj h
  refine ⟨?_, validateNoFileParentConflicts_eq_ok.mp hconflicts⟩
  refine foldlM_invariant (P := fun outputs => ∀ out ∈ outputs, Accepted policy out) ?_ ?_ hloop
  · intro channelIndex _ outputs outputs' hall hchannel
    simp only [previewChannel, bind_eq_ok] at hchannel
    obtain ⟨channel, -, ⟨⟩, -, ⟨⟩, -, hparts⟩ := hchannel
    refine foldlM_invariant (P := fun outputs => ∀ out ∈ outputs, Accepted policy out)
      (fun wavPart _ outputs outputs' hall hpart => ?_) hall hparts
    exact previewPart_accepted hall hpart
  · intro out hout
    cases hout

end Accepted

/-! ### The planner -/

theorem planPolicyPaths_accepted {slots slots' : PlanSlots} {policy : ResolvedExportPolicy}
    {decision : FrozenExportDecision} {command : ExportCommand} {profile timestamp : String}
    {details : RequestDetails} {stamp : TransactionStamp}
    (hchannels : decision.channels.length = slots.config.channels)
    (h : planPolicyPaths slots details policy
      (policyContext slots.config command profile timestamp decision) decision stamp =
        .ok slots') :
    ∃ outs : List RenderedOutput, (∀ out ∈ outs, Accepted policy out) ∧ outs.Pairwise Apart ∧
      slots'.planned = outs.map RenderedOutput.planned := by
  by_cases hempty : retainedChannels decision = [] ∨
      decision.exportRange.stop ≤ decision.exportRange.start
  · obtain ⟨_, -, hcount, -⟩ := planPolicyPaths_empty hempty h
    refine ⟨[], by simp, .nil, ?_⟩
    rw [PlanSlots.planned, hcount]
    rfl
  · rw [not_or, not_le] at hempty
    obtain ⟨framesPerPart, outs, hplan, hlist⟩ :=
      PlansExport.plan_ok ⟨hchannels, hempty.2, hempty.1⟩ h
    refine ⟨outs, fun out hout => ?_, hplan.apart, hlist.symm⟩
    obtain ⟨item, hrenders⟩ := exists_of_forall₂ hplan.rendered out hout
    exact hrenders.accepted

/-- Whatever the patterns and the values of the tokens are, the paths that the
preview accepts and those that the planner accepts are safe. -/
theorem export_paths_safe (policy : ResolvedExportPolicy) :
    (∀ (context : RenderContext) (retained : List ℕ) (outputs : List RenderedOutput),
      previewExportPaths policy context retained = .ok outputs →
      SafePaths policy.outputDir (outputs.map RenderedOutput.finalPath)) ∧
    ∀ (slots slots' : PlanSlots) (details : RequestDetails) (command : ExportCommand)
      (profile timestamp : String) (frozen : FrozenCaptureEpoch) (decision : FrozenExportDecision)
      (stamp : TransactionStamp),
      validatePolicyGeometry slots.config frozen policy decision = .ok () →
      planPolicyPaths slots details policy
        (policyContext slots.config command profile timestamp decision) decision stamp =
          .ok slots' →
      SafePaths policy.outputDir (slots'.planned.map PlannedOutput.finalPath) := by
  refine ⟨?_, ?_⟩
  · intro context retained outputs h
    obtain ⟨haccepted, hapart⟩ := previewExportPaths_accepted h
    exact safePaths_of_accepted haccepted hapart
  · intro slots slots' details command profile timestamp frozen decision stamp hgeometry h
    obtain ⟨outs, haccepted, hapart, hlist⟩ :=
      planPolicyPaths_accepted (validatePolicyGeometry_channels hgeometry).1 h
    rw [hlist, List.map_map]
    exact safePaths_of_accepted haccepted hapart

theorem export_paths_safe_mono :
    SafePaths "/out" ["/out/20240101/mic.wav"] := by
  have hplan : (planPolicyPaths monoSlots (policyDetails monoPolicy .dump "/tmp/staging") monoPolicy
      (policyContext monoSlots.config .dump "studio" "20240101" monoDecision) monoDecision
      ⟨1, 2, 3⟩).map (fun slots => slots.planned.map PlannedOutput.finalPath) =
        .ok ["/out/20240101/mic.wav"] := by
    decide +kernel
  cases hslots : planPolicyPaths monoSlots (policyDetails monoPolicy .dump "/tmp/staging")
      monoPolicy (policyContext monoSlots.config .dump "studio" "20240101" monoDecision)
      monoDecision ⟨1, 2, 3⟩ with
  | error e =>
      rw [hslots] at hplan
      cases hplan
  | ok slots =>
      rw [hslots] at hplan
      rw [← Except.ok.inj hplan]
      exact (export_paths_safe monoPolicy).2 monoSlots slots _ .dump "studio" "20240101" monoEpoch
        monoDecision ⟨1, 2, 3⟩ (by decide) hslots

end Lamb.Export
