import Lamb.Recovery.ResolvedRecall

/-!
A dump is resolved as a whole. Its files get their place by the rename of one
directory, so recovery only asks where that directory is: if it has its final name
and every file in it the dump is complete, and only before the rename is it rolled
back. The manifest goes last.
-/

namespace Lamb.Recovery

open Lamb.Lib

variable {os : Os} {fs fs' : FileSystem} {world : World} {names staging output : List String}
  {path manifestPath : Path} {manifest : TransactionManifest} {identity : FileIdentity}
  {entry : ManifestEntrySlot} {name : String}

/-! ### The directory of a dump -/

def HasDirectory (fs : FileSystem) (path : Path) (identity : FileIdentity) : Prop :=
  ∃ names, path = Path.absolute names ∧ fs.lookup names = some (.directory identity)

/-- The directory has its final name, with every file in it. -/
def DumpInPlace (fs : FileSystem) (manifest : TransactionManifest) : Prop :=
  (∃ path identity, manifest.finalDirectory = some (path, some identity) ∧
    HasDirectory fs path identity) ∧ FinalsInPlace fs manifest

/-- The directory is under neither of its names and no staged file is left. -/
structure DumpUndone (fs : FileSystem) (manifest : TransactionManifest) : Prop where
  finalDirectory : ∀ path identity, manifest.finalDirectory = some (path, some identity) →
    ¬HasDirectory fs path identity
  stagingRoot : Gone fs manifest.stagingRoot manifest.stagingRootIdentity
  staged : ∀ entry ∈ manifest.entries, Gone fs entry.staged.1 entry.staged.2

theorem hasDirectory_iff : HasDirectory fs (Path.absolute names) identity ↔
    fs.lookup names = some (.directory identity) := by
  constructor
  · rintro ⟨names', hnames, hfound⟩
    obtain rfl := Path.absolute_injective hnames
    exact hfound
  · exact fun hfound => ⟨names, rfl, hfound⟩

theorem not_hasDirectory_of_contains (h : ¬HasDirectory fs path identity)
    (hcontains : fs.Contains fs') : ¬HasDirectory fs' path identity := by
  rintro ⟨names, hpath, hfound⟩
  exact h ⟨names, hpath, hcontains.lookup hfound⟩

theorem DumpUndone.of_contains (h : DumpUndone fs manifest) (hcontains : fs.Contains fs') :
    DumpUndone fs' manifest where
  finalDirectory := fun path identity hfinal =>
    not_hasDirectory_of_contains (h.finalDirectory path identity hfinal) hcontains
  stagingRoot := h.stagingRoot.of_contains hcontains
  staged := fun entry hentry => (h.staged entry hentry).of_contains hcontains

/-! ### What the check tells of a dump -/

/-- The final directory lies directly in the output directory, and the final files
directly in it. -/
structure ApprovedDump (fs : FileSystem) (output : List String) (manifest : TransactionManifest) :
    Prop where
  outputFree : LinkFree fs output
  finalDirectory : ∃ name identity,
    manifest.finalDirectory = some (Path.absolute (output ++ [name]), some identity) ∧
      ∀ entry ∈ manifest.entries, ∃ file,
        entry.finalOf.1 = Path.absolute (output ++ [name, file])

theorem validateFinalDirectory_child {paths : List Path}
    (h : validateFinalDirectory manifest .atomicDirectory (Path.absolute output) manifestPath =
      .ok paths) : ∃ name recorded,
        manifest.finalDirectory = some (Path.absolute (output ++ [name]), recorded) := by
  simp only [validateFinalDirectory, bind_eq_ok] at h
  obtain ⟨_, -, _, -, h⟩ := h
  split at h
  · cases h
  · rename_i path recorded _ hfinal
    simp only [bind_eq_ok] at h
    obtain ⟨_, -, _, hchild, -⟩ := h
    obtain ⟨name, rfl, -⟩ := validateDirectChild_eq_ok.1 hchild
    exact ⟨name, recorded, hfinal⟩
  · simp_all
  · simp_all

theorem validateEntry_child {stagingRoot outputRoot : Path} {paths paths' : List Path}
    {recorded : Option FileIdentity}
    (hfinal : manifest.finalDirectory = some (Path.absolute names, recorded))
    (h : validateEntry manifest .atomicDirectory stagingRoot outputRoot paths entry =
      .ok paths') : ∃ file, entry.finalOf.1 = Path.absolute (names ++ [file]) := by
  simp only [validateEntry, validateStrategy, hfinal, bind_eq_ok] at h
  obtain ⟨_, -, _, -, _, -, _, ⟨_, -, _, -, _, hchild, -⟩, -⟩ := h
  obtain ⟨file, hfile, -⟩ := validateDirectChild_eq_ok.1 hchild
  exact ⟨file, hfile⟩

theorem ends_validateEntries_child {stagingRoot outputRoot : Path}
    {entries : List ManifestEntrySlot} {paths : List Path} {recorded : Option FileIdentity}
    (hfinal : manifest.finalDirectory = some (Path.absolute names, recorded)) :
    Attempt.Ends (validateEntries os manifest .atomicDirectory stagingRoot outputRoot entries
        paths) world
      (fun _ _ => ∀ entry ∈ entries, ∃ file, entry.finalOf.1 = Path.absolute (names ++ [file]))
      fun _ _ => True := by
  induction entries generalizing paths world with
  | nil => exact Attempt.Ends.pure (by simp)
  | cons entry entries ih =>
      refine .bindOfExcept (fun _ _ => trivial) ?_
      intro paths' hentry
      refine ends_bind_last fun _ _ => ends_bind_last fun _ _ => ends_bind_last fun _ _ => ?_
      refine Attempt.Ends.mono ih ?_ fun _ _ h => h
      intro _ _ hrest
      exact List.forall_mem_cons.2 ⟨validateEntry_child hfinal hentry, hrest⟩

theorem validatePhaseState_dump (hkind : manifest.renamesDirectory = true)
    (h : validatePhaseState manifest = .ok ()) :
    ∃ identity, manifest.finalDirectory.bind Prod.snd = some identity := by
  unfold validatePhaseState at h
  rw [if_pos hkind, bind_eq_ok] at h
  obtain ⟨_, -, h⟩ := h
  split at h
  · cases h
  · rename_i identity hidentity
    exact ⟨identity, hidentity⟩

theorem ends_validateManifest_dump {stagingRoot : Path} :
    Attempt.Ends (validateManifest os manifest .atomicDirectory stagingRoot (Path.absolute output)
        manifestPath) world
      (fun _ _ => ApprovedDump world.fs output manifest) fun _ _ => True := by
  refine .bindOfExcept (fun _ _ => trivial) ?_
  intro _ hheader
  obtain ⟨hadmits, -, -, -, -, -⟩ := validateHeader_ok hheader
  refine .bind (Q := fun _ world' => world'.fs = world.fs)
    (readOnly_rejectSymlinkPath.ends (fun _ _ _ hfs => hfs) fun _ _ _ => trivial) ?_
  intro _ world₁ hfs₁
  rw [← hfs₁]
  refine .bind (Attempt.Ends.mono ends_rejectSymlinkPath (fun _ _ hq => hq.2)
    fun _ _ _ => trivial) ?_
  intro _ world₂ hfree
  refine ends_bind_last fun _ _ => .bindOfExcept (fun _ _ => trivial) ?_
  intro paths hpaths
  obtain ⟨name, recorded, hfinal⟩ := validateFinalDirectory_child hpaths
  refine ends_bind_last fun _ _ => .bind (ends_validateEntries_child hfinal) ?_
  intro _ world₃ hentries
  refine .bindOfExcept (fun _ _ => trivial) ?_
  intro _ hphase
  refine .ofExcept ?_ fun _ _ => trivial
  intro _ _
  obtain ⟨identity, hidentity⟩ :=
    validatePhaseState_dump (hadmits.renamesDirectory.trans (by simp)) hphase
  rw [hfinal] at hidentity
  obtain rfl : recorded = some identity := hidentity
  exact ⟨hfree, name, identity, hfinal, by simpa using hentries⟩

theorem ends_readValidated_dump {stagingRoot : TransactionManifest → Path} {outputRoot : Path} :
    Attempt.Ends (readValidated os .atomicDirectory stagingRoot outputRoot manifestPath) world
      (fun result world' => ∀ output, outputRoot = Path.absolute output →
        ApprovedDump world'.fs output result.1) fun _ _ => True := by
  by_cases hroot : ∃ output, outputRoot = Path.absolute output
  · obtain ⟨output, rfl⟩ := hroot
    unfold readValidated
    refine .bind (Attempt.Ends.mono ends_readWithIdentityDirectories (fun _ _ hq => hq.1)
      fun _ _ _ => trivial) ?_
    rintro ⟨manifest, identity⟩ world₁ hfs
    refine .bind (Attempt.Ends.mono (Attempt.Ends.and ends_validateManifest
      ends_validateManifest_dump) (fun _ _ hq => hq) fun _ _ _ => trivial) ?_
    rintro _ world₂ ⟨⟨hfs₂, -⟩, happroved⟩
    refine Attempt.Ends.pure ?_
    intro output' heq
    obtain rfl := Path.absolute_injective heq
    rwa [hfs₂]
  · refine Attempt.Ends.mono (.of_reached (P := fun _ => True) trivial) ?_ fun _ _ h => h
    exact fun _ _ _ output heq => absurd ⟨output, heq⟩ hroot

theorem ApprovedDump.of_contains (h : ApprovedDump fs output manifest)
    (hcontains : fs.Contains fs') : ApprovedDump fs' output manifest :=
  { h with outputFree := h.outputFree.of_shrinks hcontains }

/-- No link leads to an entry of a directory that no link leads to. -/
theorem LinkFree.child (h : LinkFree fs output) (name : String) :
    LinkFreeAbove fs (output ++ [name]) := by
  intro names hpre hne
  -- a proper prefix is one of the directory's path
  rcases List.prefix_concat_iff.1 hpre with heq | hpre'
  · exact absurd heq hne
  · exact h names hpre'

/-! ### What completes a dump -/

theorem ends_completeDump (happroved : Approved world.fs .atomicDirectory staging output
      manifestPath manifest) (hdump : ApprovedDump world.fs output manifest) :
    Attempt.Ends (completeFinalSet os manifest) world
      (fun complete world' => world'.fs = world.fs ∧
        (complete = true ↔ DumpInPlace world.fs manifest))
      fun _ world' => world'.fs = world.fs := by
  have hkind : manifest.renamesDirectory = true := happroved.kind
  have hitems : ∀ item ∈ manifest.entries.zipIdx, item.1.Approved world.fs staging output :=
    fun item hin => happroved.entries item.1 (List.fst_mem_of_mem_zipIdx hin)
  obtain ⟨name, identity, hfinal, -⟩ := hdump.finalDirectory
  have hdirectory : (∃ path identity, manifest.finalDirectory = some (path, some identity) ∧
      HasDirectory world.fs path identity) ↔
      world.fs.lookup (output ++ [name]) = some (.directory identity) := by
    rw [hfinal]
    simp [hasDirectory_iff]
  unfold completeFinalSet DumpInPlace
  rw [if_pos hkind, hfinal]
  rw [hfinal] at hdirectory
  rw [hdirectory]
  refine .bind (ends_identityMatches (hdump.outputFree.child name)) ?_
  rintro matches_ world₁ ⟨hfs₁, hmatches⟩
  have hthere : matches_ = true ↔
      world.fs.lookup (output ++ [name]) = some (.directory identity) := by
    rw [hmatches]
    constructor
    · rintro ⟨found, hfound, rfl, hdir⟩
      rw [hfound]
      exact congrArg some (Node.eq_directory hdir)
    · exact fun hfound => ⟨_, hfound, rfl, rfl⟩
  rw [← hthere]
  rw [← hfs₁] at hitems ⊢
  refine .ite (fun htrue => ?_) fun hfalse => ?_
  · refine Attempt.Ends.mono (ends_finalsMatch _ hitems) ?_ fun _ _ h => h
    rintro complete world₂ ⟨hfs₂, hcomplete⟩
    refine ⟨hfs₂, ?_⟩
    rw [hcomplete]
    simp [htrue, FinalsInPlace]
  · exact Attempt.Ends.pure ⟨rfl, by simp [hfalse]⟩

/-! ### The manifest and its temporary -/

theorem eq_of_parent (hparent : manifestPath.parent = some (Path.absolute output))
    (hname : manifestPath.fileName ≠ none) :
    ∃ name, manifestPath = Path.absolute (output ++ [name]) := by
  obtain ⟨rooted, parts⟩ := manifestPath
  simp only [Path.fileName] at hname
  simp only [Path.parent] at hparent
  split at hname
  · rename_i name hlast
    split at hparent
    · cases hparent
    · simp only [Path.absolute, Option.some.injEq, Lib.Path.mk.injEq] at hparent
      obtain ⟨rfl, hparts⟩ := hparent
      refine ⟨name, ?_⟩
      simp only [Path.absolute, List.map_append, List.map_cons, List.map_nil, ← hparts,
        Lib.Path.mk.injEq, true_and]
      exact (List.dropLast_append_getLast? _ hlast).symm
  · exact absurd rfl hname

/-- A file directly in the output directory. -/
def FileIn (output : List String) (location : Location) (found : Entry) : Prop :=
  (∃ name, location = output ++ [name]) ∧ found.isFile = true

theorem removesOnly_removeIfIdentity_file (hfree : LinkFree world.fs output) :
    RemovesOnly (FileIn output)
      (removeIfIdentity os (Path.absolute (output ++ [name])) identity) world := by
  refine removesOnly_removeIfIdentity.mono ?_
  rintro location found ⟨hresolve, -, hfile⟩
  exact ⟨⟨name, (hfree.child name).resolve_eq hresolve⟩, hfile⟩

theorem removesOnly_cleanupDumpTempManifest_file (hfree : LinkFree world.fs output)
    (transactionId : String) :
    RemovesOnly (FileIn output)
      (cleanupDumpTempManifest os (Path.absolute (output ++ [name])) transactionId) world := by
  unfold cleanupDumpTempManifest manifestTempPath
  rw [Path.fileName_absolute_append]
  refine Attempt.Ends.bindOfExcept (fun _ herror => by cases herror) ?_
  rintro _ ⟨⟩
  rw [Path.withFileName_absolute_append]
  refine ends_lookAt (fun _ => .pure (.refl _)) ?_ (fun _ _ => .refl _)
  intro entry hstat
  have hentry := (hfree.child _).lookup_of_stat hstat
  refine .ite (fun _ => .pure (.refl _)) fun hfile => ?_
  have hin {fs' : FileSystem} (hshrinks : world.fs.Shrinks (fun location _ => resolve os world.fs
      (Path.absolute (output ++ [manifestTempName name transactionId])) = .ok location) fs') :
      world.fs.Shrinks (FileIn output) fs' := by
    refine hshrinks.mono ?_
    intro location found hfound hresolve
    obtain rfl := (hfree.child _).resolve_eq hresolve
    rw [hentry] at hfound
    cases hfound
    exact ⟨⟨_, rfl⟩, eq_true_of_ne_false hfile⟩
  refine .bind (Attempt.Ends.mono removesOnly_removeFile (fun _ _ => hin) fun _ _ => hin) ?_
  exact fun _ _ hshrinks => .pure hshrinks

/-- The last part of both ways, which removes the manifest. -/
theorem ends_removeDumpManifest (hfree : LinkFree world.fs output) :
    Attempt.Ends (removeDumpManifest os manifest identity (Path.absolute (output ++ [name]))) world
      (fun _ world' => world.fs.Shrinks (FileIn output) world'.fs ∧
        ¬HasFile world'.fs (Path.absolute (output ++ [name])) identity)
      fun _ world' => world.fs.Shrinks (FileIn output) world'.fs := by
  unfold removeDumpManifest
  refine .bind (Attempt.Ends.mono (Attempt.Ends.and (removesOnly_removeIfIdentity_file hfree)
    (ends_removeIfIdentity (hfree.child name))) (fun _ _ hq => hq) fun _ _ hq => hq.1) ?_
  rintro _ world₁ ⟨h₁, hgone⟩
  refine Attempt.Ends.mono
    (removesOnly_cleanupDumpTempManifest_file (hfree.of_shrinks h₁) manifest.transactionId) ?_ ?_
  · exact fun _ _ h₂ => ⟨h₁.trans h₂, not_hasFile_of_contains hgone h₂.contains⟩
  · exact fun _ _ h₂ => h₁.trans h₂

theorem FileIn.not_directory (location : Location) :
    ¬FileIn output location (.directory identity) := by
  rintro ⟨-, hfile⟩
  cases hfile

theorem DumpInPlace.of_shrinks (h : DumpInPlace fs manifest)
    (hdump : ApprovedDump fs output manifest) (hshrinks : fs.Shrinks (FileIn output) fs') :
    DumpInPlace fs' manifest := by
  obtain ⟨⟨path, identity, hfinal, names, hpath, hdirectory⟩, hfinals⟩ := h
  refine ⟨⟨path, identity, hfinal, names, hpath, ?_⟩, ?_⟩
  · rw [hshrinks.lookup_of_not, hdirectory]
    intro found hfound
    rw [hdirectory] at hfound
    cases hfound
    exact FileIn.not_directory names
  · rintro ⟨entry, index⟩ hin
    obtain ⟨identity', hknown, names', content, hnames', hfound⟩ := hfinals _ hin
    refine ⟨identity', hknown.of_contains hshrinks.contains, names', content, hnames', ?_⟩
    rw [hshrinks.lookup_of_not, hfound]
    rintro found - ⟨⟨name, hname⟩, -⟩
    -- the finals lie one level below the output directory, the files that go lie in it
    obtain ⟨directory, _, -, hentries⟩ := hdump.finalDirectory
    obtain ⟨file, hfile⟩ := hentries entry (List.fst_mem_of_mem_zipIdx hin)
    have heq := Path.absolute_injective (hnames'.symm.trans hfile)
    rw [hname] at heq
    simpa using congrArg List.length heq

/-! ### Resolution -/

def dumpResolution (manifestPath : Path) (manifest : TransactionManifest)
    (identity : FileIdentity) : Resolution where
  manifestPath := manifestPath
  manifest := manifest
  identity := identity
  inPlace := fun fs => DumpInPlace fs manifest
  undone := fun fs => DumpUndone fs manifest
  reported
    | .complete, fs => DumpInPlace fs manifest ∧ ¬HasFile fs manifestPath identity
    | .rolledBack, fs => DumpUndone fs manifest ∧ ¬HasFile fs manifestPath identity
    | .pending, _ => True
  reported_of_contains := by
    intro outcome fs fs' hcontains hinPlace h
    cases outcome with
    | complete => exact ⟨hinPlace h.1, not_hasFile_of_contains h.2 hcontains⟩
    | rolledBack => exact ⟨h.1.of_contains hcontains, not_hasFile_of_contains h.2 hcontains⟩
    | pending => trivial

theorem ends_finishDump {outputParent : Path} (hdump : ApprovedDump world.fs output manifest)
    (hinPlace : DumpInPlace world.fs manifest) :
    Attempt.Ends (finishDump os manifest identity outputParent (Path.absolute (output ++ [name])))
      world
      (fun outcome world' => DumpInPlace world'.fs manifest ∧ (dumpResolution
        (Path.absolute (output ++ [name])) manifest identity).reported outcome world'.fs)
      fun _ world' => DumpInPlace world'.fs manifest := by
  obtain ⟨directory, directoryIdentity, hfinal, -⟩ := hdump.finalDirectory
  have hread {γ : Type} {f : Io γ} (hf : ReadOnly f) {world' : World}
      (hfs : world'.fs = world.fs) : Attempt.Ends f world' (fun _ world'' => world''.fs = world.fs)
        fun _ world'' => DumpInPlace world''.fs manifest := by
    refine hf.ends (fun _ _ _ hsame => hsame.trans hfs) ?_
    intro _ _ hsame
    rwa [hsame, hfs]
  unfold finishDump
  refine .bind (hread (readOnly_syncDumpFinals _) rfl) ?_
  intro _ world₁ hfs₁
  rw [hfinal]
  refine .bind (hread readOnly_syncOwnedDirectory hfs₁) ?_
  intro _ world₂ hfs₂
  refine .bind (hread readOnly_syncDirectory hfs₂) ?_
  intro _ world₃ hfs₃
  rw [← hfs₃] at hdump hinPlace
  refine .bind (Attempt.Ends.mono (ends_removeDumpManifest hdump.outputFree) (fun _ _ hq => hq)
    fun _ _ hq => hinPlace.of_shrinks hdump hq) ?_
  rintro clean world₄ ⟨hshrinks, hgone⟩
  have hstill := hinPlace.of_shrinks hdump hshrinks
  refine .ite (fun _ => ?_) fun _ => Attempt.Ends.pure ⟨hstill, trivial⟩
  refine .bind (Q := fun _ world' => world'.fs = world₄.fs)
    (readOnly_syncDirectory.ends (fun _ _ _ hfs => hfs) ?_) ?_
  · intro _ _ hfs
    rwa [hfs]
  · intro _ world₅ hfs
    refine Attempt.Ends.pure ?_
    rw [hfs]
    exact ⟨hstill, hstill, hgone⟩

theorem ends_finalDirectoryInPlace (h : LinkFreeAbove world.fs names) :
    Attempt.Ends (finalDirectoryInPlace os (Path.absolute names) (some identity)) world
      (fun inPlace world' => world'.fs = world.fs ∧
        (inPlace = false → ¬HasDirectory world.fs (Path.absolute names) identity))
      fun _ world' => world'.fs = world.fs := by
  refine .bind (ends_pathExists h) ?_
  rintro exists_ world₁ ⟨hfs₁, hexists⟩
  rw [← hfs₁] at h hexists ⊢
  rw [hasDirectory_iff]
  refine .ite (fun _ => ?_) fun hnot => ?_
  · refine Attempt.Ends.mono (ends_identityMatches h) ?_ fun _ _ hq => hq
    rintro matches_ world₂ ⟨hfs₂, hmatches⟩
    refine ⟨hfs₂, fun hfalse hfound => ?_⟩
    rw [hmatches.2 ⟨_, hfound, rfl, rfl⟩] at hfalse
    cases hfalse
  · refine Attempt.Ends.pure ⟨rfl, fun _ hfound => ?_⟩
    exact hnot (hexists.2 (by rw [hfound]; simp))

/-- What is staged goes, and the manifest stands meanwhile. -/
theorem ends_cleanupStaged (entries : List ManifestEntrySlot)
    (happroved : ∀ entry ∈ entries, entry.Approved world.fs staging output) :
    Attempt.Ends (cleanupStaged os entries) world
      (fun clean world' => clean = true → ∀ entry ∈ entries,
        Gone world'.fs entry.staged.1 entry.staged.2) fun _ _ => True := by
  induction entries generalizing world with
  | nil => exact Attempt.Ends.pure (by simp)
  | cons entry entries ih =>
      obtain ⟨names, hnames, -, -, hfree⟩ := (happroved entry (by simp)).staged
      unfold cleanupStaged
      rw [hnames]
      refine .bind (ends_cleanupFile hfree.above) ?_
      rintro clean world₁ ⟨h₁, hgone⟩
      refine .ite (fun hclean => ?_) fun _ => Attempt.Ends.pure (by simp)
      have hrest : ∀ entry ∈ entries, entry.Approved world₁.fs staging output :=
        fun entry hin => (happroved entry (by simp [hin])).of_contains h₁
      refine Attempt.Ends.mono (Attempt.Ends.and (removesOnly_cleanupStaged entries (.refl _))
        (ih hrest)) ?_ fun _ _ _ => trivial
      rintro clean' world₂ ⟨h₂, hrestGone⟩ hclean'
      refine List.forall_mem_cons.2 ⟨?_, hrestGone hclean'⟩
      rw [hnames]
      exact (hgone hclean).of_contains h₂.contains

/-- None of the staged files is the manifest. -/
theorem HasManifest.of_cleanupStaged (h : HasManifest fs manifestPath manifest identity)
    (happroved : Approved fs .atomicDirectory staging output manifestPath manifest)
    (hapart : ∀ entry ∈ manifest.entries, entry.Apart [manifestPath])
    (hshrinks : fs.Shrinks (fun location found => ∃ entry ∈ manifest.entries,
      OwnsStaged os fs entry location found) fs') :
    HasManifest fs' manifestPath manifest identity := by
  refine h.of_shrinks hshrinks ?_
  rintro names hnames ⟨entry, hentry, hresolve, -⟩
  obtain ⟨names', hstaged, -, -, hfree⟩ := (happroved.entries entry hentry).staged
  rw [hstaged] at hresolve
  obtain rfl := hfree.above.resolve_eq hresolve
  exact (hapart entry hentry).staged (by simp [hstaged, hnames])

theorem ends_rollBackDump
    (happroved : Approved world.fs .atomicDirectory staging output
      (Path.absolute (output ++ [name])) manifest)
    (hdump : ApprovedDump world.fs output manifest)
    (hapart : ∀ entry ∈ manifest.entries, entry.Apart [Path.absolute (output ++ [name])])
    (hmanifest : HasManifest world.fs (Path.absolute (output ++ [name])) manifest identity) :
    Attempt.Ends (rollBackDump os manifest identity (Path.absolute (output ++ [name]))) world
      (fun outcome world' =>
        (dumpResolution (Path.absolute (output ++ [name])) manifest identity).Settled world'.fs ∧
          (dumpResolution (Path.absolute (output ++ [name])) manifest identity).reported outcome
            world'.fs)
      fun _ world' =>
        (dumpResolution (Path.absolute (output ++ [name])) manifest identity).Settled
          world'.fs := by
  obtain ⟨directory, directoryIdentity, hfinal, -⟩ := hdump.finalDirectory
  unfold rollBackDump
  rw [hfinal]
  refine .bind (Attempt.Ends.mono (ends_finalDirectoryInPlace (hdump.outputFree.child directory))
    (fun _ _ hq => hq) fun _ _ hfs => ?_) ?_
  · rw [hfs]
    exact .inl hmanifest
  rintro inPlace world₁ ⟨hfs₁, hnotThere⟩
  rw [← hfs₁] at happroved hdump hmanifest hnotThere
  refine .ite (fun _ => Attempt.Ends.pure ⟨.inl hmanifest, trivial⟩) fun hnot => ?_
  -- the rename has not happened, or the directory has been taken away since
  have hnowhere := hnotThere (eq_false_of_ne_true hnot)
  have hstands {fs' : FileSystem} (hshrinks : world₁.fs.Shrinks (fun location found =>
      ∃ entry ∈ manifest.entries, OwnsStaged os world₁.fs entry location found) fs') :
      HasManifest fs' (Path.absolute (output ++ [name])) manifest identity :=
    hmanifest.of_cleanupStaged happroved hapart hshrinks
  refine .bind (Attempt.Ends.mono (Attempt.Ends.and
    (removesOnly_cleanupStaged manifest.entries (.refl _))
    (ends_cleanupStaged manifest.entries happroved.entries)) (fun _ _ hq => hq)
    fun _ _ hq => .inl (hstands hq.1)) ?_
  rintro clean world₂ ⟨hshrinks₂, hstaged⟩
  have h₂ := hshrinks₂.contains
  have hmanifest₂ := hstands hshrinks₂
  refine .ite (fun hclean => ?_) fun _ => Attempt.Ends.pure ⟨.inl hmanifest₂, trivial⟩
  have hstagingFree := happroved.stagingFree.of_shrinks h₂
  rw [happroved.stagingRoot]
  -- its directory is no file, and the manifest is one
  have hstands₃ {fs' : FileSystem} (hshrinks : world₂.fs.Shrinks (Named os world₂.fs Node.isDir
      (Path.absolute staging) manifest.stagingRootIdentity) fs') :
      HasManifest fs' (Path.absolute (output ++ [name])) manifest identity :=
    hmanifest₂.of_shrinks hshrinks fun _ _ hnamed => by cases hnamed.2.2
  refine .bind (Attempt.Ends.mono (Attempt.Ends.and removesOnly_removeDirectoryIfIdentity
    (ends_removeDirectoryIfIdentity hstagingFree.above)) (fun _ _ hq => hq)
    fun _ _ hq => .inl (hstands₃ hq.1)) ?_
  rintro removed world₃ ⟨hshrinks₃, h₃, hroot⟩
  refine .ite (fun hremoved => ?_) fun _ =>
    Attempt.Ends.pure ⟨.inl (hstands₃ hshrinks₃), trivial⟩
  have hundone : DumpUndone world₃.fs manifest :=
    { finalDirectory := by
        rw [hfinal]
        rintro _ _ ⟨⟩
        exact not_hasDirectory_of_contains hnowhere (h₂.trans h₃)
      stagingRoot := by
        rw [happroved.stagingRoot]
        exact hroot hremoved
      staged := fun entry hentry => (hstaged hclean entry hentry).of_contains h₃ }
  have hfree₃ := hdump.outputFree.of_shrinks (h₂.trans h₃)
  refine .bind (Attempt.Ends.mono (ends_removeDumpManifest hfree₃) (fun _ _ hq => hq)
    fun _ _ hq => .inr (.inr (hundone.of_contains hq.contains))) ?_
  rintro clean₄ world₄ ⟨hshrinks₄, hgone⟩
  -- a temporary that cannot be removed leaves the answer open, with the manifest gone
  have hundone₄ := hundone.of_contains hshrinks₄.contains
  refine Attempt.Ends.pure ⟨.inr (.inr hundone₄), ?_⟩
  cases clean₄ with
  | false => trivial
  | true => exact ⟨hundone₄, hgone⟩

/-! ### Recoveries of a dump -/

/-- What a recovery of a dump works with, once the manifest has passed. -/
theorem ends_readDump (hmanifest : HasManifest world.fs manifestPath manifest identity)
    {outputParent : Path} (hparent : manifestPath.parent = some outputParent) :
    Attempt.Ends (readValidated os .atomicDirectory TransactionManifest.stagingRoot outputParent
        manifestPath) world
      (fun result world' => world'.fs = world.fs ∧ result = (manifest, identity) ∧
        ∃ staging output name, outputParent = Path.absolute output ∧
          manifestPath = Path.absolute (output ++ [name]) ∧
          Approved world.fs .atomicDirectory staging output manifestPath manifest ∧
          ApprovedDump world.fs output manifest ∧
          ∀ entry ∈ manifest.entries, entry.Apart [manifestPath])
      fun _ world' => world'.fs = world.fs := by
  refine Attempt.Ends.mono (Attempt.Ends.and ends_readValidated
    (Attempt.Ends.and ends_readValidated_apart ends_readValidated_dump)) ?_ fun _ _ hq => hq.1
  rintro ⟨read, readIdentity⟩ world'
    ⟨⟨hfs, hat, staging, output, -, rfl, happroved⟩, hapart, hdump⟩
  obtain ⟨rfl, rfl⟩ := hmanifest.eq hat
  obtain ⟨name, hname⟩ := eq_of_parent hparent happroved.manifestName
  exact ⟨hfs, rfl, staging, output, name, rfl, hname, happroved, hfs ▸ hdump output rfl, hapart⟩

theorem ends_recoverDump (hmanifest : HasManifest world.fs manifestPath manifest identity)
    {outputParent : Path} (hparent : manifestPath.parent = some outputParent) :
    let resolution := dumpResolution manifestPath manifest identity
    Attempt.Ends (recoverDumpParent os outputParent manifestPath) world
      (fun outcome world' => (DumpInPlace world.fs manifest → DumpInPlace world'.fs manifest) ∧
        resolution.Settled world'.fs ∧ resolution.reported outcome world'.fs)
      fun _ world' => (DumpInPlace world.fs manifest → DumpInPlace world'.fs manifest) ∧
        resolution.Settled world'.fs := by
  intro resolution
  have hsame {fs' : FileSystem} (hfs : fs' = world.fs) :
      (DumpInPlace world.fs manifest → DumpInPlace fs' manifest) ∧ resolution.Settled fs' := by
    rw [hfs]
    exact ⟨id, .inl hmanifest⟩
  unfold recoverDumpParent
  refine .bind (Attempt.Ends.mono (ends_readDump hmanifest hparent) (fun _ _ hq => hq)
    fun _ _ hfs => hsame hfs) ?_
  rintro _ world₁ ⟨hfs₁, rfl, staging, output, name, rfl, rfl, happroved, hdump, hapart⟩
  rw [← hfs₁] at hmanifest happroved hdump hsame ⊢
  refine .bind (Attempt.Ends.mono (ends_completeDump happroved hdump) (fun _ _ hq => hq)
    fun _ _ hq => hsame hq) ?_
  rintro complete world₂ ⟨hfs₂, hcomplete⟩
  rw [← hfs₂] at hmanifest happroved hdump hcomplete ⊢
  refine .ite (fun htrue => ?_) fun hfalse => ?_
  · refine Attempt.Ends.mono (ends_finishDump hdump (hcomplete.1 htrue)) ?_ ?_
    · exact fun _ _ hq => ⟨fun _ => hq.1, .inr (.inl hq.1), hq.2⟩
    · exact fun _ _ hq => ⟨fun _ => hq, .inr (.inl hq)⟩
  · have hnot := fun hinPlace => hfalse (hcomplete.2 hinPlace)
    refine Attempt.Ends.mono (ends_rollBackDump happroved hdump hapart hmanifest) ?_ ?_
    · exact fun _ _ hq => ⟨fun hinPlace => absurd hinPlace hnot, hq⟩
    · exact fun _ _ hq => ⟨fun hinPlace => absurd hinPlace hnot, hq⟩

theorem NoManifest.recoverDump {outputParent : Path} (h : NoManifest world.fs manifestPath) :
    Attempt.Ends (recoverDumpParent os outputParent manifestPath) world
      (fun _ _ => False) fun _ world' => world'.fs = world.fs := by
  refine .bind (Attempt.Ends.mono ends_readValidated (fun _ _ hq => hq) fun _ _ hfs => hfs) ?_
  rintro ⟨read, readIdentity⟩ world₁ ⟨-, hat, -⟩
  exact absurd hat h.not_manifestAt

theorem recovers_dump (outputParent : Path) (hparent : manifestPath.parent = some outputParent)
    (os : Os) (world : World)
    (h : (dumpResolution manifestPath manifest identity).Recoverable world.fs) :
    (dumpResolution manifestPath manifest identity).Recovers world.fs
      (recoverDumpParent os outputParent manifestPath world).2.fs
      (recoverDumpParent os outputParent manifestPath world).1 := by
  rcases h.stands with hmanifest | hnone
  · exact hmanifest.recovers removesOnly_recoverDump (ends_recoverDump hmanifest hparent)
  · exact h.recovers_nothing hnone.recoverDump

def recoverDumpAgain (outputParent manifestPath : Path) : List Os → World → World :=
  Resolution.recoverAgain fun os => recoverDumpParent os outputParent manifestPath

/-- However often the recovery of a dump is tried and wherever each try fails, once
the manifest is gone either the final directory is in place with every file or the
dump is undone. A dump in place stays so, and what one of the recoveries reported
still holds after the later ones. -/
theorem dump_all_or_nothing (outputParent manifestPath : Path) (earlier later : List Os) (os : Os)
    (world : World) (manifest : TransactionManifest) (identity : FileIdentity)
    (hparent : manifestPath.parent = some outputParent)
    (hmanifest : HasManifest world.fs manifestPath manifest identity) :
    let before := recoverDumpAgain outputParent manifestPath earlier world
    let outcome := (recoverDumpParent os outputParent manifestPath before).1
    let after := recoverDumpAgain outputParent manifestPath (earlier ++ os :: later) world
    (HasManifest after.fs manifestPath manifest identity ∨
        DumpInPlace after.fs manifest ∨ DumpUndone after.fs manifest) ∧
      (DumpInPlace world.fs manifest → DumpInPlace after.fs manifest) ∧
      (outcome = .ok .complete → DumpInPlace after.fs manifest ∧
        ¬HasFile after.fs manifestPath identity) ∧
      (outcome = .ok .rolledBack → DumpUndone after.fs manifest ∧
        ¬HasFile after.fs manifestPath identity) := by
  have hstands : (dumpResolution manifestPath manifest identity).Stands world.fs := hmanifest
  obtain ⟨hsettled, hinPlace, hreported⟩ :=
    hstands.all_or_nothing (recovers_dump outputParent hparent) earlier later os
  exact ⟨hsettled, hinPlace, hreported .complete, hreported .rolledBack⟩

/-- A dump of one file whose directory has just been renamed. -/
def renamedManifest : TransactionManifest where
  version := manifestVersion
  uid := 0
  kind := .atomicDirectory
  phase := .prepared
  transactionId := "t"
  stagingRootPath := "/o/.tmp-lamb-t"
  stagingRootIdentity := some ⟨0, 3⟩
  outputRoot := "/o"
  finalDirectoryPath := "/o/take"
  finalDirectoryIdentity := some ⟨0, 3⟩
  entries :=
    [{ stagedPath := "/o/.tmp-lamb-t/a"
       stagedIdentity := some ⟨0, 4⟩
       finalPath := "/o/take/a"
       finalIdentity := some ⟨0, 4⟩ }]

def renamedFileSystem : FileSystem :=
  FileTree.ofEntries
    [([], .directory ⟨0, 0⟩), (["o"], .directory ⟨0, 2⟩), (["o", "take"], .directory ⟨0, 3⟩),
      (["o", "take", "a"], .file ⟨0, 4⟩ (.data [])),
      (["o", ".t.manifest.json"], .file ⟨0, 5⟩ (.manifest renamedManifest))]
    (by decide +kernel)

/-- A first recovery fails before the manifest is removed and a second one completes. -/
theorem dump_all_or_nothing_renamed :
    let after := recoverDumpAgain (Path.absolute ["o"]) (Path.absolute ["o", ".t.manifest.json"])
      [Os.failingFrom 30, Os.upward] ⟨renamedFileSystem, 0⟩
    DumpInPlace after.fs renamedManifest ∧
      ¬HasFile after.fs (Path.absolute ["o", ".t.manifest.json"]) ⟨0, 5⟩ :=
  (dump_all_or_nothing (Path.absolute ["o"]) (Path.absolute ["o", ".t.manifest.json"])
    [Os.failingFrom 30] [] Os.upward ⟨renamedFileSystem, 0⟩ renamedManifest ⟨0, 5⟩
    (by decide +kernel)
    ⟨["o", ".t.manifest.json"], by decide +kernel, by decide +kernel⟩).2.2.1 (by decide +kernel)

end Lamb.Recovery
