import Lamb.Export.Directories
import Lamb.Runtime.Retention

/-!
Which accepted layouts can be published. The planner accepts a layout if every
final path fits a slot. The buffers of a publication are sized by the plan of
the session; all of them suffice for an accepted layout. What may not fit is a
partial path, which is made in a slot of the length of the others.
-/

namespace Lamb.Export

open Lamb.Lib Lamb.Lib.Path Lamb.Arena Lamb.Runtime Lamb.Recovery Lamb.Dump

/-! ### Slots hold what fits them -/

/-- The slots hold texts that fit, and are as many as those of `start`. -/
structure Holding (start slots : PlanSlots) : Prop where
  config : slots.config = start.config
  length : slots.outputs.length = start.outputs.length
  fits : ∀ index, Fits start.capacity (slots.paths index)

section Holding

variable {start slots slots' : PlanSlots}

theorem Holding.capacity_eq (h : Holding start slots) : slots.capacity = start.capacity := by
  rw [PlanSlots.capacity, h.config]
  rfl

theorem Holding.setSlot (h : Holding start slots) (index : ℕ) {text : String}
    (htext : Fits start.capacity text) : Holding start (slots.setSlot index text) := by
  refine ⟨h.config, h.length, fun other => ?_⟩
  by_cases hother : other = index
  · rw [hother, PlanSlots.setSlot_self]
    exact htext
  · rw [PlanSlots.setSlot_of_ne _ hother]
    exact h.fits other

theorem Holding.setOutput (h : Holding start slots) (index : ℕ) (output : OutputFileSlot) :
    Holding start (slots.setOutput index output) := by
  refine ⟨h.config, ?_, h.fits⟩
  rw [PlanSlots.setOutput, List.length_set]
  exact h.length

theorem fits_planFinalPath {capacity : ℕ} (hcapacity : capacity ≤ u64Max)
    {outputDir directory filename slot : String}
    (h : planFinalPath capacity outputDir directory filename = .ok slot) : Fits capacity slot := by
  simp only [planFinalPath, bind_eq_ok, setPath_eq_ok hcapacity] at h
  obtain ⟨_, ⟨rfl, hroot⟩, middle, hdirectory, separated, hseparated, hlast⟩ := h
  have hmiddle : Fits capacity middle := by
    unfold appendDirectory at hdirectory
    split at hdirectory
    · obtain rfl := Except.ok.inj hdirectory
      exact hroot
    · exact ((pushSeparator_bind_pushBytes hcapacity hroot).mp hdirectory).2
  have hfits := ((pushSeparator_eq_ok hcapacity hmiddle).mp hseparated).2
  exact ((pushBytes_eq_ok hcapacity hfits).mp hlast).2

theorem Holding.storeStaged (h : Holding start slots) {kind : PersistenceKind} {index : ℕ}
    (hstore : slots.storeStaged kind index = .ok slots') : Holding start slots' := by
  have hroot : Fits slots.capacity (slots.paths transactionRootPath) := by
    rw [h.capacity_eq]
    exact h.fits _
  obtain ⟨hstaged, rfl⟩ := (storeStaged_eq_ok hroot).mp hstore
  cases kind with
  | dump => exact h
  | «recall» =>
      refine h.setSlot _ ?_
      rw [← h.capacity_eq]
      exact hstaged rfl

theorem Holding.planPart {details : RequestDetails} {policy : ResolvedExportPolicy}
    {context : RenderContext} {channelIndex partCount zeroPart : ℕ} {name : String}
    {state state' : PlanSlots × ℕ} (h : Holding start state.1)
    (hpart : planPart details policy context channelIndex name partCount state zeroPart =
      .ok state') : Holding start state'.1 := by
  obtain ⟨slots, index⟩ := state
  simp only [Export.planPart, bind_eq_ok] at hpart
  obtain ⟨_, -, _, -, ⟨directory, filename⟩, -, finalPath, hfinal, _, -, stored, hstored, _, -,
    hdone⟩ := hpart
  obtain rfl := Except.ok.inj hdone
  have hfits := fits_planFinalPath slots.capacity_le hfinal
  rw [h.capacity_eq] at hfits
  exact ((h.setSlot _ hfits).storeStaged hstored).setOutput _ _

/-- A recall that was planned. -/
theorem Holding.planPolicyPaths {details : RequestDetails} {policy : ResolvedExportPolicy}
    {context : RenderContext} {decision : FrozenExportDecision} {stamp : TransactionStamp}
    (h : Holding start slots) (hkind : details.kind = .recall)
    (hplan : planPolicyPaths slots details policy context decision stamp = .ok slots') :
    Holding start slots' := by
  simp only [Export.planPolicyPaths, bind_eq_ok, PlanSlots.begin_eq_ok] at hplan
  obtain ⟨partCount, -, _, -, _, -, begun, ⟨hparent, hfinal, hroot, rfl⟩, ⟨passed, number⟩, hloop,
    hfinish⟩ := hplan
  rw [h.capacity_eq] at hparent hfinal hroot
  have hcounted : Holding start { slots with
      outputCount := decision.channels.countP (fun channel => channel.disposition = .retain) *
        partCount } := ⟨h.config, h.length, h.fits⟩
  have hbegun := ((hcounted.setSlot stagingParentPath hparent).setSlot finalRootPath
    hfinal).setSlot transactionRootPath hroot
  have hpassed : Holding start passed := by
    refine foldlM_invariant (P := fun state : PlanSlots × ℕ => Holding start state.1) ?_ hbegun
      hloop
    intro channel _ state state' hstate hchannel
    unfold planChannel at hchannel
    split at hchannel
    · split at hchannel
      · cases hchannel
      · exact foldlM_invariant (P := fun state : PlanSlots × ℕ => Holding start state.1)
          (fun _ _ _ _ hmiddle hpart => hmiddle.planPart hpart) hstate hchannel
    · obtain rfl := Except.ok.inj hchannel
      exact hstate
  rw [hkind] at hfinish
  obtain rfl := Except.ok.inj hfinish
  exact hpassed

theorem Holding.renameTransaction {details : RequestDetails} {stamp : TransactionStamp}
    (h : Holding start slots)
    (hrename : renameTransaction details slots stamp = .ok slots') : Holding start slots' := by
  simp only [Export.renameTransaction, bind_eq_ok, setTransactionPath_eq_ok slots.capacity_le]
    at hrename
  obtain ⟨root, ⟨rfl, hroot⟩, hloop⟩ := hrename
  rw [h.capacity_eq] at hroot
  refine foldlM_invariant (P := Holding start) ?_ (h.setSlot _ hroot) hloop
  intro index _ middle middle' hmiddle hstep
  have hcapacity := middle.capacity_le
  simp only [refreshStagedPath] at hstep
  split at hstep
  · cases hstep
  · simp only [bind_eq_ok, setPath_eq_ok hcapacity] at hstep
    obtain ⟨_, ⟨rfl, hfits⟩, slot, hslot, staged, hstaged, hstep⟩ := hstep
    obtain ⟨rfl, hseparated⟩ := (pushSeparator_eq_ok hcapacity hfits).mp hslot
    obtain ⟨-, hlast⟩ := (pushBytes_eq_ok hcapacity hseparated).mp hstaged
    obtain rfl := Except.ok.inj hstep
    rw [hmiddle.capacity_eq] at hlast
    exact hmiddle.setSlot _ hlast

end Holding

/-! ### The files of a plan -/

/-- The final paths of a plan are accepted, and stay when its transaction is
renamed. -/
theorem finalPaths_accepted {slots planned slots' : PlanSlots} {policy : ResolvedExportPolicy}
    {decision : FrozenExportDecision} {command : ExportCommand} {profile timestamp : String}
    {details : RequestDetails} {stamp : TransactionStamp} {stamps : List TransactionStamp}
    (hplans : PlansExport slots.config decision)
    (hplan : planPolicyPaths slots details policy
      (policyContext slots.config command profile timestamp decision) decision stamp =
        .ok planned)
    (hrename : stamps.foldlM (renameTransaction details) planned = .ok slots') :
    ∃ outs : List RenderedOutput, outs ≠ [] ∧ (∀ out ∈ outs, Accepted policy out) ∧
      slots'.finalPaths slots'.outputCount = outs.map RenderedOutput.finalPath := by
  obtain ⟨start, framesPerPart, outs, passed, -, -, hexport, hpassed, hcount, -, hfinish⟩ :=
    hplans.plan_passes hplan
  have hne : outs ≠ [] := by
    rintro rfl
    have hrange := hplans.range_lt
    refine exportItems_ne_nil hplans.retained_ne_nil ?_
      (List.forall₂_nil_right_iff.mp hexport.rendered)
    rw [lt_divCeil_iff (wavFramesPerPart_eq hexport.split).2, Nat.zero_mul]
    exact Nat.sub_pos_of_lt hrange
  have haccepted : ∀ out ∈ outs, Accepted policy out := by
    intro out hout
    obtain ⟨item, hrenders⟩ := exists_of_forall₂ hexport.rendered out hout
    exact hrenders.accepted
  have hplanned := finishStaged_ok hpassed hcount hfinish
  have hcount' : planned.outputCount = outs.length :=
    hplanned.outputCount.trans (hpassed.outputCount.symm.trans hcount)
  refine ⟨outs, hne, haccepted, ?_⟩
  rcases renameTransactions_refreshed hplanned hcount' hrename with
    ⟨-, rfl⟩ | ⟨-, hlength, start', stamp', -, hrefreshed⟩
  · rw [hcount', hplanned.finalPaths]
  · rw [hlength, hrefreshed.planned.finalPaths]

/-- The files of a plan lie below the output root and fit their slots. -/
theorem files_laid {slots planned slots' : PlanSlots} {policy : ResolvedExportPolicy}
    {decision : FrozenExportDecision} {command : ExportCommand} {profile timestamp : String}
    {details : RequestDetails} {stamp : TransactionStamp} {stamps : List TransactionStamp}
    {base : List String} (hplans : PlansExport slots.config decision)
    (hplan : planPolicyPaths slots details policy
      (policyContext slots.config command profile timestamp decision) decision stamp =
        .ok planned)
    (hrename : stamps.foldlM (renameTransaction details) planned = .ok slots')
    (hholding : Holding slots slots') (hbase : policy.outputDir = render base)
    (hnames : ∀ name ∈ base, IsName name) :
    slots'.files ≠ [] ∧ ∀ file ∈ slots'.files, Laid slots.capacity base file := by
  obtain ⟨outs, hne, haccepted, hfinals⟩ := finalPaths_accepted hplans hplan hrename
  have hmap : slots'.files.map PreparedFile.finalPath = outs.map RenderedOutput.finalPath := by
    rw [← hfinals, PlanSlots.files, PlanSlots.finalPaths, List.map_map]
    rfl
  refine ⟨?_, fun file hfile => ?_⟩
  · intro hnil
    rw [hnil, List.map_nil] at hmap
    exact hne (List.map_eq_nil_iff.1 hmap.symm)
  · have hmem : file.finalPath ∈ outs.map RenderedOutput.finalPath := by
      rw [← hmap]
      exact List.mem_map_of_mem hfile
    obtain ⟨out, hout, hpath⟩ := List.mem_map.1 hmem
    obtain ⟨relative, hrelative, hplain, hrender⟩ := (haccepted out hout).relative hbase hnames
    obtain ⟨output, -, rfl⟩ := List.mem_map.1 hfile
    exact ⟨hholding.fits _, hholding.fits _, relative, hrelative, hplain, hpath ▸ hrender⟩

theorem mem_of_mem_splitOn {chars piece : List Char} (h : piece ∈ chars.splitOn '/') {c : Char}
    (hc : c ∈ piece) (hne : c ≠ '/') : c ∈ chars := by
  have hcons : '/' :: chars = (chars.splitOn '/').flatMap ('/' :: ·) := by
    rw [← cons_intercalate_eq_flatMap (List.splitOn_ne_nil '/' chars), List.intercalate_splitOn]
  have hmem : c ∈ '/' :: chars := by
    rw [hcons]
    exact List.mem_flatMap.2 ⟨piece, h, List.mem_cons_of_mem _ hc⟩
  exact (List.mem_cons.1 hmem).resolve_left hne

/-- The characters of a file name are those of the text. -/
theorem mem_of_mem_fileName {text name : String} (h : (ofText text).fileName = some name)
    {c : Char} (hc : c ∈ name.toList) (hne : c ≠ '/') : c ∈ text.toList := by
  have hpart : Component.normal name ∈ (ofText text).parts := by
    unfold fileName at h
    split at h
    · next found hlast =>
        obtain rfl := Option.some.inj h
        exact List.mem_of_getLast? hlast
    · cases h
  have hpiece : ∀ pieces : List (List Char), Component.normal name ∈ pieces.filterMap piece →
      name.toList ∈ pieces := by
    intro pieces hmem
    obtain ⟨chars, hchars, hsome⟩ := List.mem_filterMap.1 hmem
    unfold piece at hsome
    split_ifs at hsome
    · cases Option.some.inj hsome
    · obtain rfl := Component.normal.inj (Option.some.inj hsome)
      rwa [String.toList_ofList]
  unfold ofText at hpart
  split at hpart
  · next rest htext =>
      rw [htext]
      exact List.mem_cons_of_mem _ (mem_of_mem_splitOn (hpiece _ hpart) hc hne)
  · split at hpart
    · next pieces hpieces =>
        rcases List.mem_cons.1 hpart with hdot | hpart
        · cases hdot
        · refine mem_of_mem_splitOn ?_ hc hne
          rw [hpieces]
          exact List.mem_cons_of_mem _ (hpiece _ hpart)
    · exact mem_of_mem_splitOn (hpiece _ hpart) hc hne

/-! ### Building the manifest -/

/-- What a publication may make of its manifest: the paths stay, and so does
the number of directories. -/
structure Continues (manifest later : TransactionManifest) : Prop where
  written : later.Written
  texts : later.texts = manifest.texts
  entries : later.entries.length = manifest.entries.length
  directories : later.directories.length = manifest.directories.length

theorem size_lt_of_room {capacity used : ℕ} {texts : List String} (h : Room capacity used texts) :
    ∀ text ∈ texts, text.utf8ByteSize < 2 ^ 32 := by
  induction texts generalizing used with
  | nil => exact fun _ htext => nomatch htext
  | cons text texts ih =>
      rintro other (_ | ⟨_, hother⟩)
      · exact h.1.1
      · exact ih h.2 other hother

section Build

variable {present : Path → Bool} {buffers : PublicationBuffers} {capacity : ℕ}
  {header : TransactionHeader} {identity : ℕ → FileIdentity} {files : List PreparedFile}
  {base : List String} {kept : ArenaManifest}

/-- The entries leave the directories alone. -/
theorem fileSetManifest_directories
    (h : fileSetManifest buffers capacity header identity files = .ok kept) :
    kept.directorySlots.length = buffers.directories.length ∧ kept.directoryCount = 0 := by
  simp only [fileSetManifest, bind_eq_ok, setEntryCount_eq_ok] at h
  obtain ⟨begun, hbegun, _, ⟨-, rfl⟩, hloop⟩ := h
  refine foldlM_invariant (P := fun kept : ArenaManifest =>
    kept.directorySlots.length = buffers.directories.length ∧ kept.directoryCount = 0) ?_ ?_ hloop
  · intro file _ middle middle' hmiddle hstep
    simp only [pushFileSetEntry, bind_eq_ok, Prod.exists, pushPath_eq_ok] at hstep
    obtain ⟨_, -, _, _, ⟨_, -, rfl⟩, _, _, ⟨_, -, rfl⟩, _, _, ⟨_, -, rfl⟩, hstep⟩ := hstep
    obtain rfl := Except.ok.inj hstep
    exact hmiddle
  · simp only [pushHeader, bind_eq_ok, Prod.exists, pushPath_eq_ok] at hbegun
    obtain ⟨_, _, ⟨_, -, rfl⟩, _, _, ⟨_, -, rfl⟩, _, _, ⟨_, -, rfl⟩, hbegun⟩ := hbegun
    obtain rfl := Except.ok.inj hbegun
    exact ⟨by simp [ArenaManifest.newWithDirectories], rfl⟩

/-- A manifest of a publication fits the buffer it is written to. -/
theorem serialize_fits {manifest : TransactionManifest} {slots directories : ℕ}
    (h : manifest.Written) (htexts : ∀ text ∈ manifest.texts, text.utf8ByteSize ≤ capacity)
    (hslots : manifest.entries.length ≤ slots)
    (hdirectories : manifest.directories.length ≤ directories) :
    serializeBounded (manifestSerializationLength slots directories capacity) manifest =
      .ok manifest.serialize.byteLength := by
  have hlength := TransactionManifest.byteLength_serialize_le h htexts
  have hentries := Nat.mul_le_mul_right (18 * capacity + 293) hslots
  have hlist := Nat.mul_le_mul_right 142 hdirectories
  have hbuffer : 24 * capacity + 407 + slots * (18 * capacity + 293) + directories * 142 ≤
      manifestSerializationLength slots directories capacity := by
    simp only [manifestSerializationLength, manifestPathEntries, manifestFixedPathEntries,
      manifestPathEscapeMultiplier, manifestJsonEntryOverheadBytes,
      manifestJsonDirectoryOverheadBytes, manifestJsonFixedOverheadBytes]
    nlinarith
  unfold serializeBounded
  rw [if_neg (by omega)]

/-- With the slots and buffers that a plan reserves, nothing but the paths
decides whether the manifest of laid files can be built. -/
theorem exists_buildFileSetManifest (hcapacity : capacity ≤ u64Max)
    (hbase : ∀ name ∈ base, IsName name) (hroot : header.outputRoot = render base)
    (hlaid : ∀ file ∈ files, Laid capacity base file) (hne : files ≠ [])
    (hid : nul ∉ header.transactionId.toList) (hheader : header.InRange)
    (hidentity : ∀ index, (identity index).InRange)
    (hfits : ∀ text ∈ header.texts, text.utf8ByteSize ≤ capacity)
    (hcount : files.length ≤ buffers.entries.length) (hindex : files.length ≤ 2 ^ 32)
    (hbytes : buffers.pathBytes.length = manifestPathEntries buffers.entries.length * capacity)
    (hdirectories : buffers.entries.length * divCeil capacity 2 = buffers.directories.length)
    (hsync : buffers.syncSlots = buffers.directories.length)
    (hserialization : buffers.serialization =
      manifestSerializationLength buffers.entries.length buffers.directories.length capacity)
    (h : PathsPublishable capacity header files) :
    ∃ built, buildFileSetManifest present buffers capacity header identity files = .ok built ∧
      ∀ later, Continues built later →
        ∃ length, serializeBounded buffers.serialization later = .ok length := by
  obtain ⟨kept, hkept⟩ := @exists_of_publishable buffers capacity header identity files base
    hcapacity hbase hlaid hne hid hfits hcount hbytes h
  obtain ⟨entries, hmade, hsound⟩ := sound_fileSetManifest hheader hidentity hkept
  obtain ⟨hslots, hnone⟩ := fileSetManifest_directories hkept
  have hexists := exists_partialOf hmade
  choose! partialOf hpart using hexists
  have htexts := texts_fileSetManifest hmade hpart
  have hsmall := size_lt_of_room hsound.packed.room
  rw [htexts] at hsmall
  have hfinal : ∀ file ∈ files, file.finalPath.utf8ByteSize < 2 ^ 32 := by
    intro file hfile
    refine hsmall _ (List.mem_append_right _ ?_)
    exact List.mem_flatMap.2 ⟨file, hfile, by simp [PreparedFile.texts]⟩
  have henough : files.length * divCeil capacity 2 ≤ buffers.syncSlots := by
    rw [hsync, ← hdirectories]
    exact Nat.mul_le_mul_right _ hcount
  obtain ⟨kept', syncSlots, hregister, hslots', directories, hsound'⟩ :=
    @exists_registerDirectories present capacity buffers.syncSlots files base header.outputRoot
      kept _ hsound (hslots.trans hsync.symm) hnone hroot hbase hlaid hne hindex hfinal henough
  have hsizes : ∀ text ∈ TransactionManifest.texts { header.manifest with entries := entries },
      text.utf8ByteSize ≤ capacity := by
    rw [htexts]
    refine paths_le hfits hlaid fun file hfile => ?_
    exact ((hlaid file hfile).size_partialPath hcapacity hbase (hpart file hfile)).2
  have hlength : entries.length ≤ buffers.entries.length := by
    rw [← hmade.length_eq, List.length_zipIdx]
    exact hcount
  have hfew : directories.length ≤ buffers.directories.length := by
    have hlist : directories = kept'.directorySlots.take kept'.directoryCount :=
      hsound'.stands.directories
    rw [hlist, List.length_take, hslots', hsync]
    exact Nat.min_le_right _ _
  refine ⟨{ header.manifest with entries := entries, directories := directories }, ?_, ?_⟩
  · unfold buildFileSetManifest
    refine bind_eq_ok.mpr ⟨kept, hkept, bind_eq_ok.mpr ⟨_, hregister, ?_⟩⟩
    simp only [hsound'.stands.resolve_eq]
    rw [hserialization]
    refine bind_eq_ok.mpr ⟨_, serialize_fits hsound'.written ?_ hlength hfew, rfl⟩
    exact hsizes
  · intro later hlater
    rw [hserialization]
    refine ⟨_, serialize_fits hlater.written ?_ ?_ ?_⟩
    · rw [hlater.texts]
      exact hsizes
    · rw [hlater.entries]
      exact hlength
    · rw [hlater.directories]
      exact hfew

end Build

theorem workspace_of_new {machine : Machine} {plan : SessionMemoryPlan}
    {config : PersistenceWorkspaceConfig} {workspace : PersistenceWorkspace}
    (h : PersistenceWorkspace.new machine plan config = .ok workspace) :
    config.Matches plan ∧ workspace.outputs = plan.outputFileSlots := by
  simp only [PersistenceWorkspace.new, validateWorkspacePlan, bind_eq_ok, ensure_eq_ok] at h
  obtain ⟨_, ⟨_, hmatches, -⟩, hnew⟩ := h
  obtain rfl := Except.ok.inj hnew
  exact ⟨hmatches, rfl⟩

/-- An accepted layout of a recall can be published exactly if every partial
path fits a slot and the last path of the manifest starts below the reach of a
reference. Arena, directory slots and serialization buffer are never short. -/
theorem accepted_layout_publishable_iff {machine : Machine} {inputs : SessionMemoryInputs}
    {plan : SessionMemoryPlan} {workspace : PersistenceWorkspace} {buffers : PublicationBuffers}
    {slots planned slots' : PlanSlots} {policy : ResolvedExportPolicy}
    {frozen : FrozenCaptureEpoch} {decision : FrozenExportDecision} {command : ExportCommand}
    {profile timestamp : String} {details : RequestDetails} {stamp : TransactionStamp}
    {stamps : List TransactionStamp} {header : TransactionHeader}
    (hcalculate : SessionMemoryPlan.calculate machine inputs = .ok plan)
    (hworkspace : PersistenceWorkspace.new machine plan slots.config = .ok workspace)
    (hbuffers : buffers.Reserved plan slots.config)
    (houtputs : slots.outputs.length = workspace.outputs)
    (hslots : ∀ index, Fits slots.capacity (slots.paths index))
    (hprepares : PreparesExport slots.config policy frozen decision)
    (hkind : details.kind = .recall)
    (hplan : planPolicyPaths slots details policy
      (policyContext slots.config command profile timestamp decision) decision stamp =
        .ok planned)
    (hrename : stamps.foldlM (renameTransaction details) planned = .ok slots')
    (hstaging : header.stagingDirectory = slots'.paths transactionRootPath)
    (hid : (ofText header.stagingDirectory).fileName = some header.transactionId)
    (hroot : header.outputRoot = policy.outputDir) (hheader : header.InRange)
    (present : Path → Bool) {identity : ℕ → FileIdentity}
    (hidentity : ∀ index, (identity index).InRange) :
    (∃ built, buildFileSetManifest present buffers slots.capacity header identity slots'.files =
        .ok built ∧
      ∀ later, Continues built later →
        ∃ length, serializeBounded buffers.serialization later = .ok length) ↔
      PathsPublishable slots.capacity header slots'.files := by
  have hcapacity := slots.capacity_le
  obtain ⟨hmatches, houtputFiles⟩ := workspace_of_new hworkspace
  have hentries : buffers.entries.length = slots.outputs.length := by
    rw [hbuffers.entries, houtputs, houtputFiles]
  have hholding : Holding slots slots' :=
    foldlM_invariant (P := Holding slots) (fun _ _ _ _ hmiddle hstep =>
      hmiddle.renameTransaction hstep) (Holding.planPolicyPaths ⟨rfl, rfl, hslots⟩ hkind hplan)
      hrename
  obtain ⟨base, hbase, hnames, -⟩ := validateOutputDir_render policy.outputDir_valid
  obtain ⟨hne, hlaid⟩ := files_laid hprepares.plans hplan hrename hholding hbase hnames
  have hcount : slots'.files.length ≤ slots.outputs.length := by
    rw [PlanSlots.files, List.length_map, List.length_take, hholding.length]
    exact Nat.min_le_right _ _
  constructor
  · rintro ⟨built, hbuilt, -⟩
    obtain ⟨kept, hkept, -⟩ := bind_eq_ok.mp hbuilt
    exact publishable_of_fileSetManifest hcapacity hnames hlaid hheader hidentity hkept
  · intro h
    have hnul : nul ∉ header.transactionId.toList := by
      intro hmem
      have hstagingNul := (hholding.fits transactionRootPath).1
      rw [← hstaging] at hstagingNul
      exact hstagingNul (mem_of_mem_fileName hid hmem (by decide))
    obtain ⟨file, rest, hfiles⟩ := List.exists_cons_of_ne_nil hne
    have hfile : file ∈ slots'.files := by
      rw [hfiles]
      exact List.mem_cons_self
    have hpart := h.partial_le file hfile
    refine exists_buildFileSetManifest hcapacity hnames (hroot.trans hbase) hlaid hne hnul hheader
      hidentity ?_ (hentries ▸ hcount) ?_ ?_ ?_ ?_ ?_ h
    · intro text htext
      simp only [TransactionHeader.texts, List.mem_cons, List.not_mem_nil, or_false] at htext
      obtain rfl | rfl | rfl := htext
      · omega
      · rw [hstaging]
        exact (hholding.fits _).2
      · obtain ⟨relative, -, -, hfinal⟩ := (hlaid file hfile).relative
        obtain ⟨tail, htail⟩ := exists_render_append base relative
        have hbytes := congrArg byteLength htail
        rw [byteLength_append, byteLength_toList, byteLength_toList, ← hfinal] at hbytes
        rw [hroot, hbase]
        omega
    · have hle := slots.pathSlots_le
      have hu32 : u32Max = 2 ^ 32 - 1 := rfl
      simp only [outputPathStart, outputPathSlotsPerPart] at hle
      omega
    · rw [hbuffers.pathBytes, hbuffers.entries]
      rfl
    · rw [hbuffers.entries, hbuffers.directories,
        Runtime.SessionMemoryPlan.directorySlots_eq hcalculate, hmatches.2.2.2.2.2.2.2.2]
      rfl
    · rw [hbuffers.syncSlots, hbuffers.directories]
    · rw [hbuffers.serialization, hbuffers.entries, hbuffers.directories]
      rfl

/-! ### A short and a long output root -/

def takeInputs : SessionMemoryInputs where
  retentionFrames := 4
  channels := 1
  sampleRate := 48000
  sampleFormat := .f32Le
  chunkFrames := 4
  maxActiveSnapshots := 1
  sampleBytes := 4
  splitWhenOverBytes := 1000
  controlQueueCapacity := 8
  workerStackBytes := 65536
  captureQueueSlots := 2
  captureSlotFrames := 4
  captureWorkerStackBytes := 65536
  ioBufferBytesPerChannel := 48
  maximumPathBytes := 64
  maximumCalibrationSeconds := 1
  headroom := 0x3FF0000000000000

/-- The slots of a workspace for one file. -/
def takeSlots : PlanSlots where
  config := ⟨4, 1, 48000, .f32Le, 4, 4, 1000, 48, 64⟩
  outputs := [⟨0, 0, 0, 0, 0, 0⟩]
  outputCount := 0
  paths := fun _ => ""
  channels_le := by decide
  maximumPathBytes_le := by decide
  pathSlots_le := by decide

/-- A policy that names its file by the channel. -/
def takePolicy (root : String) (hroot : validateOutputDir root = .ok ()) :
    ResolvedExportPolicy where
  outputDir := root
  layout := .custom ⟨[]⟩ ⟨[.token .channel, .literal ".wav"]⟩
  channelNames := ["mic"]
  recallPatterns := (⟨[]⟩, ⟨[.token .channel, .literal ".wav"]⟩)
  dumpPatterns := (⟨[]⟩, ⟨[.token .channel, .literal ".wav"]⟩)
  outputDir_valid := hroot
  recallPatterns_eq := rfl
  dumpPatterns_eq := rfl

def takeHeader (root : String) : TransactionHeader where
  uid := 0
  kind := .fileSet
  transactionId := "1-2-3"
  stagingDirectory := "/tmp/1-2-3"
  stagingIdentity := ⟨0, 3⟩
  outputRoot := root

/-- The buffers that a plan reserves, as they are at first. -/
def reservedBuffers (plan : SessionMemoryPlan) (config : PersistenceWorkspaceConfig) :
    PublicationBuffers where
  entries := List.replicate plan.outputFileSlots {}
  directories := List.replicate plan.manifestDirectorySlots emptyDirectory
  pathBytes :=
    List.replicate (manifestPathEntries plan.outputFileSlots * config.maximumPathBytes) 0
  serialization := manifestSerializationLength plan.outputFileSlots plan.manifestDirectorySlots
    config.maximumPathBytes
  syncSlots := plan.manifestDirectorySlots

theorem reservedBuffers_reserved (plan : SessionMemoryPlan) (config : PersistenceWorkspaceConfig) :
    (reservedBuffers plan config).Reserved plan config where
  entries := List.length_replicate
  directories := List.length_replicate
  pathBytes := List.length_replicate
  serialization := rfl
  syncSlots := rfl

/-- A session is planned, and in it one recall of the file. -/
def takePlan (policy : ResolvedExportPolicy) :
    Result (SessionMemoryPlan × PersistenceWorkspace × PlanSlots) := do
  let plan ← SessionMemoryPlan.calculate smallMachine takeInputs
  let workspace ← PersistenceWorkspace.new smallMachine plan takeSlots.config
  let planned ← planPolicyPaths takeSlots (policyDetails policy .recall "/tmp") policy
    (policyContext takeSlots.config .recall "studio" "20240101" monoDecision) monoDecision
    ⟨1, 2, 3⟩
  pure (plan, workspace, planned)

theorem takePlan_out : (takePlan (takePolicy "/out" validateOutputDir_out)).map
    (fun (_, _, planned) => (planned.files, planned.paths transactionRootPath)) =
      .ok ([⟨"/tmp/1-2-3/output-00000000", "/out/mic.wav"⟩], "/tmp/1-2-3") := by
  decide +kernel

theorem accepted_layout_publishable_short :
    ∃ plan workspace planned, takePlan (takePolicy "/out" validateOutputDir_out) =
        .ok (plan, workspace, planned) ∧
      ∃ built, buildFileSetManifest (fun _ => false) (reservedBuffers plan takeSlots.config)
        takeSlots.capacity (takeHeader "/out") (fun _ => ⟨0, 4⟩) planned.files = .ok built := by
  have hfiles := takePlan_out
  cases htake : takePlan (takePolicy "/out" validateOutputDir_out) with
  | error e =>
      rw [htake] at hfiles
      cases hfiles
  | ok taken =>
      obtain ⟨plan, workspace, planned⟩ := taken
      rw [htake] at hfiles
      obtain ⟨hfiles, hroot⟩ := Prod.mk.inj (Except.ok.inj hfiles)
      refine ⟨plan, workspace, planned, rfl, ?_⟩
      obtain ⟨plan, hcalculate, htake⟩ := bind_eq_ok.mp htake
      obtain ⟨workspace, hworkspace, htake⟩ := bind_eq_ok.mp htake
      obtain ⟨planned, hplan, htake⟩ := bind_eq_ok.mp htake
      cases Except.ok.inj htake
      have houtputs : takeSlots.outputs.length = workspace.outputs := by
        rw [(workspace_of_new hworkspace).2]
        have hslots : (SessionMemoryPlan.calculate smallMachine takeInputs).map
            SessionMemoryPlan.outputFileSlots = .ok 1 := by
          decide +kernel
        rw [hcalculate] at hslots
        exact (Except.ok.inj hslots).symm
      have hprepares : PreparesExport takeSlots.config (takePolicy "/out" validateOutputDir_out)
          monoEpoch monoDecision := by
        refine ⟨by decide, by decide, ⟨⟨[.always], false, false⟩,
          ⟨4, .ok [⟨.active, some 1, false, true⟩]⟩, .new 1 48000, by decide⟩, by decide⟩
      have hpaths : PathsPublishable takeSlots.capacity (takeHeader "/out") planned.files := by
        rw [hfiles]
        refine ⟨by decide +kernel, fun last hlast => ?_⟩
        cases hlast
        decide +kernel
      have hidentity : ∀ index : ℕ, ((fun _ => (⟨0, 4⟩ : FileIdentity)) index).InRange :=
        fun _ => (by decide : (⟨0, 4⟩ : FileIdentity).InRange)
      have hstaging : (takeHeader "/out").stagingDirectory = planned.paths transactionRootPath :=
        hroot.symm
      have hrename : ([] : List TransactionStamp).foldlM (renameTransaction
          (policyDetails (takePolicy "/out" validateOutputDir_out) .recall "/tmp")) planned =
            .ok planned := rfl
      obtain ⟨built, hbuilt, -⟩ := (accepted_layout_publishable_iff hcalculate hworkspace
        (reservedBuffers_reserved plan takeSlots.config) houtputs (fun _ => Fits.empty _) hprepares
        rfl hplan hrename hstaging (by decide +kernel) rfl ⟨by decide, by decide⟩ (fun _ => false)
        hidentity).mpr hpaths
      exact ⟨built, hbuilt⟩

/-- An output root of 50 bytes. The final path has 58 bytes and is accepted,
the partial path has 73. -/
def longRoot : String :=
  String.ofList ('/' :: List.replicate 49 'a')

theorem validateOutputDir_longRoot : validateOutputDir longRoot = .ok () := by
  decide +kernel

/-- What building the manifest of the plan comes to. -/
def takeOutcome (policy : ResolvedExportPolicy) (header : TransactionHeader) :
    Result (Result Unit) :=
  (takePlan policy).map fun (plan, _, planned) =>
    (buildFileSetManifest (fun _ => false) (reservedBuffers plan takeSlots.config)
      takeSlots.capacity header (fun _ => ⟨0, 4⟩) planned.files).map fun _ => ()

theorem accepted_layout_unpublishable :
    ∃ plan workspace planned, takePlan (takePolicy longRoot validateOutputDir_longRoot) =
        .ok (plan, workspace, planned) ∧
      buildFileSetManifest (fun _ => false) (reservedBuffers plan takeSlots.config)
        takeSlots.capacity (takeHeader longRoot) (fun _ => ⟨0, 4⟩) planned.files =
          .error (.export "path requires 65 bytes but workspace capacity is 64") := by
  have houtcome : takeOutcome (takePolicy longRoot validateOutputDir_longRoot)
      (takeHeader longRoot) =
        .ok (.error (.export "path requires 65 bytes but workspace capacity is 64")) := by
    decide +kernel
  unfold takeOutcome at houtcome
  cases htake : takePlan (takePolicy longRoot validateOutputDir_longRoot) with
  | error e =>
      rw [htake] at houtcome
      cases houtcome
  | ok taken =>
      obtain ⟨plan, workspace, planned⟩ := taken
      rw [htake] at houtcome
      have hbuild : (buildFileSetManifest (fun _ => false) (reservedBuffers plan takeSlots.config)
          takeSlots.capacity (takeHeader longRoot) (fun _ => ⟨0, 4⟩) planned.files).map
            (fun _ => ()) =
          .error (.export "path requires 65 bytes but workspace capacity is 64") :=
        Except.ok.inj houtcome
      refine ⟨plan, workspace, planned, rfl, ?_⟩
      cases hresult : buildFileSetManifest (fun _ => false)
        (reservedBuffers plan takeSlots.config) takeSlots.capacity (takeHeader longRoot)
        (fun _ => ⟨0, 4⟩) planned.files with
      | error e =>
          rw [hresult] at hbuild
          cases Except.error.inj hbuild
          rfl
      | ok built =>
          rw [hresult] at hbuild
          cases hbuild

end Lamb.Export
