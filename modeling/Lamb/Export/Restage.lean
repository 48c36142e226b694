import Lamb.Export.Safe

/-!
What happens to the staged paths when the name of a transaction is taken. The
planner numbers the staged files of a recall; after a collision every staged
file gets the base name of its final path instead.
-/

namespace Lamb.Export

open Lamb.Lib Lamb.Lib.Path Lamb.Arena Lamb.Runtime Lamb.Dump

/-- One pass of `refresh_staged_paths`. -/
def refreshStagedPath (slots : PlanSlots) (outputIndex : ℕ) : Result PlanSlots :=
  let stagedIndex := outputPathStart + outputIndex * outputPathSlotsPerPart + stagedPathOffset
  let finalIndex := outputPathStart + outputIndex * outputPathSlotsPerPart + finalPathOffset
  match (ofText (slots.paths finalIndex)).fileName with
  | none => .error (.exportInvariant "planned WAV path has no basename")
  | some basename => do
      let staged ← setPath slots.capacity (slots.paths transactionRootPath)
      let staged ← pushSeparator slots.capacity staged
      let staged ← pushBytes slots.capacity staged basename
      pure (slots.setSlot stagedIndex staged)

def refreshStagedPaths (slots : PlanSlots) : Result PlanSlots :=
  (List.range slots.outputCount).foldlM refreshStagedPath slots

/-- What `create_staging` does when the transaction's directory exists: it
takes the next name. -/
def renameTransaction (details : RequestDetails) (slots : PlanSlots) (stamp : TransactionStamp) :
    Result PlanSlots := do
  let root ← setTransactionPath slots.capacity details.stagingParent details.stagingPrefix stamp
  refreshStagedPaths (slots.setSlot transactionRootPath root)

def PlanSlots.stagedPaths (slots : PlanSlots) : List String :=
  (slots.outputs.take slots.outputCount).map fun output => slots.paths output.stagedPath

/-- The base names of the final paths. -/
def PlanSlots.basenames (slots : PlanSlots) : List (Option String) :=
  (slots.finalPaths slots.outputCount).map fun path => (ofText path).fileName

/-- One more component below a directory. -/
def DirectChild (root path : String) : Prop :=
  ∃ name, IsName name ∧ ofText path = (ofText root).join name

/-- The staged files of a plan are different files of its directory. -/
def PlanSlots.StagedWell (slots : PlanSlots) : Prop :=
  slots.stagedPaths.Nodup ∧
    ∀ path ∈ slots.stagedPaths, DirectChild (slots.paths transactionRootPath) path

/-! ### Names behind a root -/

theorem directChild_withSeparator {root name : String} (hroot : root ≠ "") (hname : IsName name) :
    DirectChild root (withSeparator root ++ name) := by
  refine ⟨name, hname, ?_⟩
  by_cases hsep : endsWithSeparator root
  · obtain ⟨front, hfront⟩ := List.getLast?_eq_some_iff.mp hsep
    have htext : withSeparator root ++ name = String.ofList (front ++ '/' :: name.toList) := by
      rw [← String.toList_inj, withSeparator, if_neg fun h => h.2 hsep]
      simp [hfront]
    have hself : root = String.ofList (front ++ ['/']) := by
      rw [← hfront, String.ofList_toList]
    rw [htext, ofText_append_name _ hname, ← hself]
  · have htext : withSeparator root ++ name =
        String.ofList (root.toList ++ '/' :: name.toList) := by
      rw [← String.toList_inj, withSeparator, if_pos ⟨hroot, hsep⟩]
      simp
    have hne : root.toList ≠ [] := fun hnil => hroot (String.toList_inj.mp hnil)
    rw [htext, ofText_append_name _ hname, ofText_append_singleton hne, String.ofList_toList]

theorem transactionText_ne_empty (details : RequestDetails) (stamp : TransactionStamp) :
    transactionText details stamp ≠ "" := by
  intro h
  have hmem : '-' ∈ (transactionText details stamp).toList := by
    simp [transactionText, TransactionStamp.name]
  rw [h] at hmem
  cases hmem

theorem isName_numbered (index : ℕ) : IsName ("output-" ++ zeroPadded 8 index) := by
  have hlist : ("output-" ++ zeroPadded 8 index).toList =
      "output-".toList ++ (zeroPadded 8 index).toList := String.toList_append
  have hne (text : String) (hshort : text.toList.head? ≠ some 'o') :
      "output-" ++ zeroPadded 8 index ≠ text := by
    rintro rfl
    exact hshort (by rw [hlist]; rfl)
  refine ⟨hne "" (by decide), hne "." (by decide), hne ".." (by decide), ?_⟩
  rw [hlist, List.mem_append, not_or]
  refine ⟨by decide, fun hmem => ?_⟩
  rw [zeroPadded, String.toList_append, List.mem_append, String.toList_ofList,
    toString_eq_toDigits, String.toList_ofList] at hmem
  rcases hmem with hzero | hdigit
  · exact absurd (List.eq_of_mem_replicate hzero) (by decide)
  · exact absurd (Nat.isDigit_of_mem_toDigits (by decide) (by decide) hdigit) (by decide)

section Planned

variable {start slots slots' : PlanSlots} {outs : List RenderedOutput}
  {policy : ResolvedExportPolicy}

theorem Accepted.fileName {out : RenderedOutput} (h : Accepted policy out) :
    ∃ name, (ofText out.finalPath).fileName = some name ∧ IsName name := by
  obtain ⟨names, relative, -, hall, -, hfinal, -⟩ :=
    finalPath_render policy.outputDir_valid h.directory h.filename
  refine ⟨out.filename, ?_, (validateFilename_isName h.filename).1⟩
  rw [h.finalPath, hfinal, ofText_render hall, fileName_absolute_append]

theorem Planned.stagedPaths (h : Planned start slots outs)
    (hcount : slots.outputCount = outs.length) :
    slots.stagedPaths =
      outs.zipIdx.map fun planned => slots.paths (outputSlot planned.2 planned.1).stagedPath := by
  rw [PlanSlots.stagedPaths, hcount, h.outputs, List.map_map]
  rfl

theorem Planned.basenames (h : Planned start slots outs)
    (hcount : slots.outputCount = outs.length) :
    slots.basenames = outs.map fun out => (ofText out.finalPath).fileName := by
  rw [PlanSlots.basenames, hcount, h.finalPaths, List.map_map]
  rfl

/-! ### A plan as it was made -/

theorem StagedApart.nodup (h : StagedApart slots outs) (hplanned : Planned start slots outs)
    (hcount : slots.outputCount = outs.length) : slots.stagedPaths.Nodup := by
  rw [hplanned.stagedPaths hcount, List.Nodup, List.pairwise_iff_getElem]
  intro index index' hindex hindex' hlt hsame
  simp only [List.getElem_map, List.getElem_zipIdx, Nat.zero_add] at hsame
  simp only [List.length_map, List.length_zipIdx] at hindex hindex'
  have heq := h index index' _ _ (List.getElem?_eq_getElem hindex)
    (List.getElem?_eq_getElem hindex') hsame
  omega

/-- Every staged file of a plan has a plain name behind the transaction's
directory. -/
theorem finishStaged_child {kind : PersistenceKind} (h : Planned start slots outs)
    (hstaged : NumberedStaged start slots kind outs.length)
    (haccepted : ∀ out ∈ outs, Accepted policy out) (hcount : slots.outputCount = outs.length)
    (hfinish : slots.finishStaged kind = .ok slots') {index : ℕ} {out : RenderedOutput}
    (hout : outs[index]? = some out) :
    ∃ name, IsName name ∧ slots'.paths (outputSlot index out).stagedPath =
      withSeparator (start.paths transactionRootPath) ++ name := by
  have hlt := (List.getElem?_eq_some_iff.mp hout).1
  cases kind with
  | «recall» =>
      obtain rfl := Except.ok.inj hfinish
      exact ⟨_, isName_numbered index, hstaged rfl index hlt⟩
  | dump =>
      obtain ⟨root, hnamed⟩ := planAtomicStagedPaths_named h hcount hfinish
      obtain ⟨name, hname, -, hpath⟩ := hnamed.staged index out hlt hout
      obtain ⟨name', hname', hplain⟩ := (haccepted out (List.mem_of_getElem? hout)).fileName
      obtain rfl := Option.some.inj (hname.symm.trans hname')
      exact ⟨name, hplain, hpath⟩

/-! ### After a collision -/

/-- The first `count` files are staged under the base names of their final
paths. -/
structure Refreshed (start : PlanSlots) (outs : List RenderedOutput) (count : ℕ)
    (slots : PlanSlots) : Prop where
  planned : Planned start slots outs
  staged : ∀ index out, index < count → outs[index]? = some out → ∃ name,
    (ofText out.finalPath).fileName = some name ∧
    slots.paths (outputSlot index out).stagedPath =
      withSeparator (start.paths transactionRootPath) ++ name

theorem Refreshed.step {count : ℕ} (h : Refreshed start outs count slots)
    (hcount : count < outs.length) (hstep : refreshStagedPath slots count = .ok slots') :
    Refreshed start outs (count + 1) slots' := by
  have hget := List.getElem?_eq_getElem hcount
  generalize outs[count] = current at hget
  have hcapacity := slots.capacity_le
  have hfinal : slots.paths (outputPathStart + count * outputPathSlotsPerPart + finalPathOffset) =
      current.finalPath := h.planned.paths count current hget
  simp only [refreshStagedPath, hfinal, h.planned.root] at hstep
  split at hstep
  · cases hstep
  · next name hname =>
      simp only [bind_eq_ok, setPath_eq_ok hcapacity] at hstep
      obtain ⟨_, ⟨rfl, hfits⟩, slot, hslot, staged, hstaged, hstep⟩ := hstep
      obtain ⟨rfl, hseparated⟩ := (pushSeparator_eq_ok hcapacity hfits).mp hslot
      obtain ⟨rfl, -⟩ := (pushBytes_eq_ok hcapacity hseparated).mp hstaged
      obtain rfl := Except.ok.inj hstep
      refine ⟨h.planned.setSlot ?_ ?_ _, ?_⟩
      · simp only [transactionRootPath, outputPathStart]
        omega
      · intro number
        simp only [outputPathStart, outputPathSlotsPerPart, stagedPathOffset, finalPathOffset]
        omega
      · intro index out hindex hout
        by_cases hlast : index = count
        · subst hlast
          obtain rfl := Option.some.inj (hget.symm.trans hout)
          exact ⟨name, hname, PlanSlots.setSlot_self _ _ _⟩
        · obtain ⟨name', hname', hpath⟩ := h.staged index out (by omega) hout
          refine ⟨name', hname', ?_⟩
          rw [PlanSlots.setSlot_of_ne _ _ _, hpath]
          simp only [outputSlot, outputPathSlotsPerPart]
          omega

/-- The plan with another transaction's directory. -/
theorem Planned.setRoot (h : Planned start slots outs) (root : String) :
    Planned (start.setSlot transactionRootPath root) (slots.setSlot transactionRootPath root)
      outs where
  config := h.config
  length := h.length
  outputCount := h.outputCount
  root := by rw [PlanSlots.setSlot_self, PlanSlots.setSlot_self]
  outputs := h.outputs
  paths index out hout := by
    rw [PlanSlots.setSlot_of_ne _ _ _, h.paths index out hout]
    simp only [outputSlot, transactionRootPath, outputPathStart]
    omega

theorem renameTransaction_refreshed {details : RequestDetails} {stamp : TransactionStamp}
    (h : Planned start slots outs) (hcount : slots.outputCount = outs.length)
    (hrename : renameTransaction details slots stamp = .ok slots') :
    ∃ start', start'.paths transactionRootPath = transactionText details stamp ∧
      start'.outputCount = start.outputCount ∧ Refreshed start' outs outs.length slots' := by
  simp only [renameTransaction, bind_eq_ok, setTransactionPath_eq_ok slots.capacity_le] at hrename
  obtain ⟨root, ⟨rfl, -⟩, hloop⟩ := hrename
  refine ⟨start.setSlot transactionRootPath (transactionText details stamp),
    PlanSlots.setSlot_self _ _ _, rfl, ?_⟩
  have hlength : (slots.setSlot transactionRootPath (transactionText details stamp)).outputCount =
      outs.length := hcount
  rw [refreshStagedPaths, hlength] at hloop
  exact foldlM_range_invariant (P := Refreshed _ outs)
    (fun index hindex middle middle' hmiddle hstep => hmiddle.step hindex hstep)
    ⟨h.setRoot _, by omega⟩ hloop

/-- After any number of collisions the last name of the transaction counts. -/
theorem renameTransactions_refreshed {details : RequestDetails} {stamps : List TransactionStamp}
    (h : Planned start slots outs) (hcount : slots.outputCount = outs.length)
    (hrename : stamps.foldlM (renameTransaction details) slots = .ok slots') :
    stamps = [] ∧ slots' = slots ∨ stamps ≠ [] ∧ slots'.outputCount = outs.length ∧
      ∃ start' stamp, start'.paths transactionRootPath = transactionText details stamp ∧
        Refreshed start' outs outs.length slots' := by
  induction stamps generalizing start slots with
  | nil =>
      obtain rfl := Except.ok.inj hrename
      exact .inl ⟨rfl, rfl⟩
  | cons stamp stamps ih =>
      rw [List.foldlM_cons, bind_eq_ok] at hrename
      obtain ⟨middle, hfirst, hrest⟩ := hrename
      obtain ⟨start', hroot, hsame, hmiddle⟩ := renameTransaction_refreshed h hcount hfirst
      have hcount' : middle.outputCount = outs.length := by
        rw [hmiddle.planned.outputCount, hsame, ← h.outputCount, hcount]
      rcases ih hmiddle.planned hcount' hrest with ⟨rfl, rfl⟩ | ⟨-, hlast⟩
      · exact .inr ⟨by simp, hcount', start', stamp, hroot, hmiddle⟩
      · exact .inr ⟨by simp, hlast⟩

theorem Refreshed.stagedPaths (h : Refreshed start outs outs.length slots)
    (hcount : slots.outputCount = outs.length) :
    slots.stagedPaths = slots.basenames.map fun basename =>
      withSeparator (start.paths transactionRootPath) ++ basename.getD "" := by
  rw [h.planned.stagedPaths hcount, h.planned.basenames hcount, List.map_map]
  refine List.ext_getElem (by simp) fun index hindex hindex' => ?_
  have hlt : index < outs.length := by simpa using hindex'
  obtain ⟨name, hname, hpath⟩ := h.staged index _ hlt (List.getElem?_eq_getElem hlt)
  simp only [List.getElem_map, List.getElem_zipIdx, Nat.zero_add, Function.comp_apply]
  rw [hpath, hname, Option.getD_some]

/-- After a collision the base names decide whether the staged files are
different. -/
theorem Refreshed.nodup_iff (h : Refreshed start outs outs.length slots)
    (hcount : slots.outputCount = outs.length) :
    slots.stagedPaths.Nodup ↔ slots.basenames.Nodup := by
  rw [h.stagedPaths hcount]
  refine ⟨List.Nodup.of_map _, fun hnodup => hnodup.map_on ?_⟩
  have hsome : ∀ basename ∈ slots.basenames, ∃ name, basename = some name := by
    intro basename hmem
    rw [h.planned.basenames hcount] at hmem
    obtain ⟨out, hout, rfl⟩ := List.mem_map.mp hmem
    obtain ⟨index, hindex⟩ := List.getElem?_of_mem hout
    obtain ⟨name, hname, -⟩ := h.staged index out (List.getElem?_eq_some_iff.mp hindex).1 hindex
    exact ⟨name, hname⟩
  intro left hleft right hright hsame
  obtain ⟨name, rfl⟩ := hsome left hleft
  obtain ⟨name', rfl⟩ := hsome right hright
  exact congrArg some (append_left_injective hsame)

theorem Refreshed.child {details : RequestDetails} {stamp : TransactionStamp}
    (h : Refreshed start outs outs.length slots) (hcount : slots.outputCount = outs.length)
    (hroot : start.paths transactionRootPath = transactionText details stamp)
    (haccepted : ∀ out ∈ outs, Accepted policy out) {path : String}
    (hpath : path ∈ slots.stagedPaths) : DirectChild (slots.paths transactionRootPath) path := by
  rw [h.planned.stagedPaths hcount] at hpath
  obtain ⟨⟨out, index⟩, hmem, rfl⟩ := List.mem_map.mp hpath
  have hout : outs[index]? = some out := List.mk_mem_zipIdx_iff_getElem?.mp hmem
  obtain ⟨name, hname, hstaged⟩ := h.staged index out (List.getElem?_eq_some_iff.mp hout).1 hout
  obtain ⟨name', hname', hplain⟩ := (haccepted out (List.mem_of_getElem? hout)).fileName
  obtain rfl := Option.some.inj (hname.symm.trans hname')
  rw [hstaged, h.planned.root, hroot]
  exact directChild_withSeparator (transactionText_ne_empty _ _) hplain

end Planned

/-- The staged files of a plan are different files of the transaction's
directory exactly if the directory never had to be renamed or no two final
paths have one base name. -/
theorem staged_paths_distinct_iff {slots planned slots' : PlanSlots} {policy : ResolvedExportPolicy}
    {frozen : FrozenCaptureEpoch} {decision : FrozenExportDecision} {command : ExportCommand}
    {profile timestamp : String} {details : RequestDetails} {stamp : TransactionStamp}
    {stamps : List TransactionStamp}
    (hgeometry : validatePolicyGeometry slots.config frozen policy decision = .ok ())
    (hplan : planPolicyPaths slots details policy
      (policyContext slots.config command profile timestamp decision) decision stamp =
        .ok planned)
    (hrename : stamps.foldlM (renameTransaction details) planned = .ok slots') :
    slots'.StagedWell ↔ stamps = [] ∨ planned.basenames.Nodup := by
  by_cases hempty : retainedChannels decision = [] ∨
      decision.exportRange.stop ≤ decision.exportRange.start
  · -- nothing is planned, so nothing is staged
    obtain ⟨-, -, hnone, -⟩ := planPolicyPaths_empty hempty hplan
    have hplanned : Planned planned planned [] := ⟨rfl, rfl, rfl, rfl, rfl, by simp⟩
    have hnone' : slots'.outputCount = 0 := by
      rcases renameTransactions_refreshed hplanned hnone hrename with ⟨-, rfl⟩ | ⟨-, hlength, -⟩
      · exact hnone
      · exact hlength
    have hstaged : slots'.stagedPaths = [] := by
      rw [PlanSlots.stagedPaths, hnone', List.take_zero, List.map_nil]
    have hbasenames : planned.basenames = [] := by
      rw [PlanSlots.basenames, hnone, PlanSlots.finalPaths, List.take_zero, List.map_nil,
        List.map_nil]
    rw [PlanSlots.StagedWell, hstaged, hbasenames]
    simp
  · rw [not_or, not_le] at hempty
    obtain ⟨start, framesPerPart, outs, passed, -, hroot, hexport, hpassed, hcount, hnumbered,
      hfinish⟩ := PlansExport.plan_passes
        ⟨(validatePolicyGeometry_channels hgeometry).1, hempty.2, hempty.1⟩ hplan
    have haccepted : ∀ out ∈ outs, Accepted policy out := by
      intro out hout
      obtain ⟨item, hrenders⟩ := exists_of_forall₂ hexport.rendered out hout
      exact hrenders.accepted
    have hplanned := finishStaged_ok hpassed hcount hfinish
    have hcount' : planned.outputCount = outs.length :=
      hplanned.outputCount.trans (hpassed.outputCount.symm.trans hcount)
    rcases renameTransactions_refreshed hplanned hcount' hrename with
      ⟨rfl, rfl⟩ | ⟨hne, hlength, start', stamp', hroot', hrefreshed⟩
    · refine ⟨fun _ => .inl rfl, fun _ => ⟨?_, fun path hpath => ?_⟩⟩
      · exact (finishStaged_apart hpassed hnumbered hexport.apart hcount hfinish).nodup hplanned
          hcount'
      · rw [hplanned.stagedPaths hcount'] at hpath
        obtain ⟨⟨out, index⟩, hmem, rfl⟩ := List.mem_map.mp hpath
        obtain ⟨name, hname, hstaged⟩ := finishStaged_child hpassed hnumbered haccepted hcount
          hfinish (List.mk_mem_zipIdx_iff_getElem?.mp hmem)
        rw [hstaged, hplanned.root, hroot]
        exact directChild_withSeparator (transactionText_ne_empty _ _) hname
    · have hsame : slots'.basenames = planned.basenames := by
        rw [hrefreshed.planned.basenames hlength, hplanned.basenames hcount']
      rw [PlanSlots.StagedWell, hrefreshed.nodup_iff hlength, hsame]
      refine ⟨fun h => .inr h.1, fun h => ⟨h.resolve_left hne, fun path hpath => ?_⟩⟩
      exact hrefreshed.child hlength hroot' haccepted hpath

/-- A workspace of two channels. -/
def stereoSlots : PlanSlots where
  config := ⟨4, 2, 48000, .f32Le, 4, 4, 1000, 48, 255⟩
  outputs := List.replicate 4 ⟨0, 0, 0, 0, 0, 0⟩
  outputCount := 0
  paths := fun _ => ""
  channels_le := by decide
  maximumPathBytes_le := by decide
  pathSlots_le := by decide

/-- A policy that keeps the takes of every channel in a directory of its own. -/
def stereoPolicy (filename : List PatternSegment) : ResolvedExportPolicy where
  outputDir := "/out"
  layout := .custom ⟨[.token .channel]⟩ ⟨filename⟩
  channelNames := ["left", "right"]
  recallPatterns := (⟨[.token .channel]⟩, ⟨filename⟩)
  dumpPatterns := (⟨[.token .channel]⟩, ⟨filename⟩)
  outputDir_valid := validateOutputDir_out
  recallPatterns_eq := rfl
  dumpPatterns_eq := rfl

def stereoEpoch : FrozenCaptureEpoch :=
  ⟨0, ⟨0, 1, 0, ⟨0, 4⟩, ⟨0, 4⟩, 2, 48000, .f32Le⟩, false, false⟩

def stereoDecision : FrozenExportDecision where
  channels := [⟨.always, .active, .retain, some 1⟩, ⟨.always, .active, .retain, some 1⟩]
  exportRange := ⟨0, 4⟩
  sampleRate := 48000
  valid := true
  frozenEpoch := some stereoEpoch.identity

/-- The plan of the two channels, and the plan after one collision. -/
def stereoPlan (filename : List PatternSegment) : Result (PlanSlots × PlanSlots) := do
  let planned ← planPolicyPaths stereoSlots
    (policyDetails (stereoPolicy filename) .recall "/tmp/staging") (stereoPolicy filename)
    (policyContext stereoSlots.config .recall "studio" "20240101" stereoDecision) stereoDecision
    ⟨1, 2, 3⟩
  let slots ← [⟨1, 2, 4⟩].foldlM
    (renameTransaction (policyDetails (stereoPolicy filename) .recall "/tmp/staging")) planned
  pure (planned, slots)

/-- With the channel in the file name the plan survives a collision. -/
theorem staged_paths_distinct_stereo :
    ∃ planned slots, stereoPlan [.token .channel] = .ok (planned, slots) ∧ slots.StagedWell := by
  have hnames : (stereoPlan [.token .channel]).map (fun plan => plan.1.basenames) =
      .ok [some "left", some "right"] := by
    decide +kernel
  cases hplan : stereoPlan [.token .channel] with
  | error e =>
      rw [hplan] at hnames
      cases hnames
  | ok plan =>
      rw [hplan] at hnames
      obtain ⟨planned, hfirst, hplan⟩ := bind_eq_ok.mp hplan
      obtain ⟨slots, hrename, hplan⟩ := bind_eq_ok.mp hplan
      obtain rfl := Except.ok.inj hplan
      refine ⟨planned, slots, rfl, ?_⟩
      have hgeometry : validatePolicyGeometry stereoSlots.config stereoEpoch
          (stereoPolicy [.token .channel]) stereoDecision = .ok () := by decide
      rw [staged_paths_distinct_iff hgeometry hfirst hrename]
      have hbasenames : planned.basenames = _ := Except.ok.inj hnames
      rw [hbasenames]
      exact .inr (by decide)

/-- Without it the two channels are staged at one path after a collision. -/
theorem staged_paths_collide :
    ∃ planned slots, stereoPlan [.literal "take.wav"] = .ok (planned, slots) ∧
      ¬slots.StagedWell := by
  have hstaged : (stereoPlan [.literal "take.wav"]).map (fun plan => plan.2.stagedPaths) =
      .ok ["/tmp/staging/1-2-4/take.wav", "/tmp/staging/1-2-4/take.wav"] := by
    decide +kernel
  cases hplan : stereoPlan [.literal "take.wav"] with
  | error e =>
      rw [hplan] at hstaged
      cases hstaged
  | ok plan =>
      rw [hplan] at hstaged
      refine ⟨plan.1, plan.2, rfl, fun hwell => ?_⟩
      have hsame : plan.2.stagedPaths = _ := Except.ok.inj hstaged
      have hnodup := hwell.1
      rw [hsame] at hnodup
      revert hnodup
      decide

end Lamb.Export
