import Lamb.Recovery.ResolvedDump

/-!
Which final files a recovery keeps. A recall is asked for all of its files at once,
so one of them that is no longer in place costs the others theirs. A dump is
renamed as a whole, and none of its final files is ever removed.
-/

namespace Lamb.Recovery

open Lamb.Lib

variable {os : Os} {fs fs' : FileSystem} {world : World} {names staging output : List String}
  {path manifestPath : Path} {manifest : TransactionManifest} {identity : FileIdentity}
  {entry : ManifestEntrySlot} {name : String}

/-! ### The finals of a recall -/

/-- A final file that is in place, whatever has become of the others. -/
def StandingFinal (fs : FileSystem) (manifest : TransactionManifest) (path : Path)
    (identity : FileIdentity) : Prop :=
  (∃ item ∈ manifest.entries.zipIdx, FinalIdentity fs manifest item.1 item.2 identity ∧
    item.1.finalOf.1 = path) ∧ HasFile fs path identity

theorem StandingFinal.of_shrinks (h : StandingFinal fs manifest path identity)
    (happroved : Approved fs .fileSet staging output manifestPath manifest)
    (hapart : ∀ entry ∈ manifest.entries, entry.Apart [manifestPath])
    (hshrinks : fs.Shrinks (OwnsMetadata os fs manifest manifestPath) fs') :
    HasFile fs' path identity := by
  obtain ⟨⟨⟨entry, index⟩, hin, hknown, rfl⟩, hfile⟩ := h
  exact hknown.hasFile_of_shrinks happroved hapart (List.fst_mem_of_mem_zipIdx hin) hshrinks hfile

/-! ### Removals on a system that does not fail -/

theorem ends_removeFile_there (hreliable : os.Reliable) {content : Content}
    (hfound : world.fs.lookup names = some (.file identity content)) :
    Attempt.Ends (removeFile os (Path.absolute names)) world
      (fun removed world' => removed = .ok () ∧ world'.fs.lookup names = none)
      fun _ _ => False := by
  have hresolve : resolve os world.fs (Path.absolute names) = .ok names :=
    resolve_of_lookup (by rw [hfound]; simp)
  refine ends_call (fun hos => ?_) ?_ ?_
  · rw [hreliable] at hos
    cases hos
  · intro _ fs' hok
    rw [hresolve] at hok
    obtain ⟨-, -, hlookup⟩ := unlinkEntry_ok hok
    refine ⟨rfl, ?_⟩
    rw [World.tick_fs, hlookup, if_pos rfl]
  · intro kind herror
    rw [hresolve] at herror
    change unlinkEntry world.fs names = .error kind at herror
    unfold unlinkEntry at herror
    split at herror
    · rename_i hnone
      rw [hfound] at hnone
      cases hnone
    · rename_i found hfound'
      rw [hfound] at hfound'
      cases hfound'
      cases herror

/-- A file that is known by its identity goes, or it was not there. -/
theorem ends_cleanupFile_known (hreliable : os.Reliable) (h : LinkFreeAbove world.fs names) :
    Attempt.Ends (cleanupFile os (Path.absolute names) (some identity)) world
      (fun _ world' => ¬HasFile world'.fs (Path.absolute names) identity) fun _ _ => True := by
  refine ends_lookAt ?_ ?_ (fun _ _ => trivial)
  · intro hmissing
    refine Attempt.Ends.pure ?_
    rw [hasFile_iff, World.tick_fs, h.lookup_of_notFound hmissing]
    simp
  · intro found hstat
    have hfound := h.lookup_of_stat hstat
    refine .ite (fun hne => Attempt.Ends.pure ?_) fun hsame => ?_
    · rw [hasFile_iff, World.tick_fs, hfound]
      rintro ⟨_, ⟨⟩, hidentity, -⟩
      exact hne hidentity
    · refine .ite (fun hkind => Attempt.Ends.pure ?_) fun hkind => ?_
      · rw [hasFile_iff, World.tick_fs, hfound]
        rintro ⟨_, ⟨⟩, -, hfile⟩
        rw [hkind] at hfile
        cases hfile
      · -- of the three kinds of entries only a file gets here
        cases found with
        | file known content =>
            have hthere : (world.tick world.fs).fs.lookup names = some (.file known content) :=
              hfound
            refine .bind (Attempt.Ends.mono (ends_removeFile_there hreliable hthere)
              (fun _ _ hq => hq) fun _ _ _ => trivial) ?_
            rintro _ world' ⟨-, hnone⟩
            refine Attempt.Ends.pure ?_
            rw [hasFile_iff, hnone]
            simp
        | directory known => exact absurd rfl hkind
        | symlink known target => exact absurd rfl hkind

/-- The rollback of some entries takes every final file whose identity is known,
also when something else of theirs has to stay. -/
theorem ends_cleanupEntries_known (hreliable : os.Reliable)
    (entries : List (ManifestEntrySlot × ℕ))
    (happroved : ∀ item ∈ entries, item.1.Approved world.fs staging output) :
    Attempt.Ends (cleanupEntries os manifest entries) world
      (fun _ world' => ∀ item ∈ entries, ∀ identity,
        FinalIdentity world.fs manifest item.1 item.2 identity →
          ¬HasFile world'.fs item.1.finalOf.1 identity) fun _ _ => True := by
  induction entries generalizing world with
  | nil => exact Attempt.Ends.pure (by simp)
  | cons item entries ih =>
      obtain ⟨entry, index⟩ := item
      have hentry := happroved (entry, index) (by simp)
      unfold cleanupEntries
      refine .bind (Attempt.Ends.mono (ends_inferredFinalIdentity_iff hentry) (fun _ _ hq => hq)
        fun _ _ _ => trivial) ?_
      rintro inferred world₁ ⟨hfs₁, hinferred⟩
      rw [← hfs₁] at hentry happroved hinferred ⊢
      obtain ⟨final, hfinal, -, -, hfinalFree⟩ := hentry.finalOf
      rw [hfinal]
      have hknown : Attempt.Ends (cleanupFile os (Path.absolute final) inferred) world₁
          (fun _ world' => ∀ identity, FinalIdentity world₁.fs manifest entry index identity →
            ¬HasFile world'.fs (Path.absolute final) identity) fun _ _ => True := by
        cases inferred with
        | none =>
            -- no identity is known, so no file counts as the final one
            refine Attempt.Ends.mono (.of_reached (P := fun _ => True) trivial) ?_ fun _ _ h => h
            intro _ _ _ identity hidentity
            cases (hinferred identity).2 hidentity
        | some inferred =>
            refine Attempt.Ends.mono (ends_cleanupFile_known hreliable hfinalFree.above) ?_
              fun _ _ h => h
            intro _ _ hnot identity hidentity
            obtain rfl := Option.some.inj ((hinferred identity).2 hidentity)
            exact hnot
      refine .bind (Attempt.Ends.mono (Attempt.Ends.and (ends_cleanupFile hfinalFree.above) hknown)
        (fun _ _ hq => hq) fun _ _ _ => trivial) ?_
      rintro _ world₂ ⟨⟨h₂, -⟩, hgone⟩
      refine .bind (ends_cleanupPartial (hentry.of_contains h₂)) ?_
      rintro _ world₃ ⟨h₃, -⟩
      obtain ⟨staged, hstaged, -, -, hstagedFree⟩ := (hentry.of_contains (h₂.trans h₃)).staged
      rw [hstaged]
      refine .bind (ends_cleanupFile hstagedFree.above) ?_
      rintro _ world₄ ⟨h₄, -⟩
      have h₁₄ := (h₂.trans h₃).trans h₄
      have hrest : ∀ item ∈ entries, item.1.Approved world₄.fs staging output :=
        fun item hin => (happroved item (by simp [hin])).of_contains h₁₄
      refine .bind (Attempt.Ends.mono (Attempt.Ends.and (ends_cleanupEntries entries hrest)
        (ih hrest)) (fun _ _ hq => hq) fun _ _ _ => trivial) ?_
      rintro _ world₅ ⟨⟨h₅, -⟩, hrestGone⟩
      refine Attempt.Ends.pure (List.forall_mem_cons.2 ⟨?_, ?_⟩)
      · intro identity hidentity
        rw [hfinal]
        exact not_hasFile_of_contains (hgone identity hidentity) ((h₃.trans h₄).trans h₅)
      · intro item hin identity hidentity
        exact hrestGone item hin identity (hidentity.of_contains h₁₄)

/-- A rollback takes every final file that stands, and nothing comes back. -/
theorem ends_rollBackRecall_known (hreliable : os.Reliable)
    (happroved : Approved world.fs .fileSet staging output manifestPath manifest) :
    Attempt.Ends (rollBackRecall os manifest identity manifestPath) world
      (fun outcome world' => outcome ≠ .complete ∧ ∀ path known,
        StandingFinal world.fs manifest path known → ¬HasFile world'.fs path known)
      fun _ _ => True := by
  have hitems : ∀ item ∈ manifest.entries.zipIdx, item.1.Approved world.fs staging output :=
    fun item hin => happroved.entries item.1 (List.fst_mem_of_mem_zipIdx hin)
  unfold rollBackRecall
  refine .bind (ends_cleanupEntries_known hreliable manifest.entries.zipIdx hitems) ?_
  intro pending world₁ hgone
  have hlost {outcome : RecoveryOutcome} {world' : World} (hne : outcome ≠ .complete)
      (hcontains : world₁.fs.Contains world'.fs) : outcome ≠ .complete ∧ ∀ path known,
        StandingFinal world.fs manifest path known → ¬HasFile world'.fs path known := by
    refine ⟨hne, ?_⟩
    rintro _ known ⟨⟨item, hin, hknown, rfl⟩, -⟩
    exact not_hasFile_of_contains (hgone item hin known hknown) hcontains
  have hsame : world₁.fs.Contains world₁.fs := .refl _
  refine .ite (fun _ => Attempt.Ends.pure (hlost (by simp) hsame)) fun _ => ?_
  refine .bind (Attempt.Ends.mono (removesOnly_removeDirectories _ hsame)
    (fun _ _ hshrinks => hshrinks.contains) fun _ _ _ => trivial) ?_
  intro _ world₂ h₂
  refine .bind (Q := fun _ world' => world'.fs = world₂.fs)
    (readOnly_directoryContainsOnly.ends (fun _ _ _ hfs => hfs) fun _ _ _ => trivial) ?_
  intro only world₃ hfs₃
  rw [← hfs₃] at h₂
  refine .ite (fun _ => ?_) fun _ => Attempt.Ends.pure (hlost (by simp) h₂)
  refine .bind (Attempt.Ends.mono removesOnly_removeIfIdentity
    (fun _ _ hshrinks => h₂.trans hshrinks.contains) fun _ _ _ => trivial) ?_
  intro _ world₄ h₄
  refine .bind (Attempt.Ends.mono removesOnly_removeDirectoryIfIdentity
    (fun _ _ hshrinks => h₄.trans hshrinks.contains) fun _ _ _ => trivial) ?_
  intro removed world₅ h₅
  refine Attempt.Ends.pure (hlost ?_ h₅)
  cases removed with
  | false => simp
  | true => simp

/-! ### What a recovery of a recall keeps -/

theorem ends_recoverRecall_kept {transactionRoot outputRoot : Path} (hreliable : os.Reliable)
    (hmanifest : HasManifest world.fs (transactionRoot.join recallManifestName) manifest
      identity) :
    Attempt.Ends (recoverRecallRootWithDirectories os transactionRoot outputRoot) world
      (fun outcome world' => (outcome = .complete ∧ FinalsInPlace world.fs manifest ∧
          ∀ path known, StandingFinal world.fs manifest path known → HasFile world'.fs path known) ∨
        outcome ≠ .complete ∧ ¬FinalsInPlace world.fs manifest ∧
          ∀ path known, StandingFinal world.fs manifest path known →
            ¬HasFile world'.fs path known) fun _ _ => True := by
  unfold recoverRecallRootWithDirectories
  refine .bind (Attempt.Ends.mono (ends_readRecall hmanifest) (fun _ _ hq => hq)
    fun _ _ _ => trivial) ?_
  rintro _ world₁ ⟨hfs₁, rfl, staging, output, rfl, rfl, happroved, hapart⟩
  rw [← hfs₁] at happroved ⊢
  refine .bind (Attempt.Ends.mono (ends_completeFileSet happroved.kind happroved.entries)
    (fun _ _ hq => hq) fun _ _ _ => trivial) ?_
  rintro complete world₂ ⟨hfs₂, hcomplete⟩
  rw [← hfs₂] at happroved hcomplete ⊢
  refine .ite (fun htrue => ?_) fun hfalse => ?_
  · refine Attempt.Ends.mono (Attempt.Ends.and (removesOnly_finishRecall (.refl _))
      outcome_finishRecall) ?_ fun _ _ _ => trivial
    rintro _ world' ⟨hshrinks, rfl⟩
    exact .inl ⟨rfl, hcomplete.1 htrue, fun path known hstanding =>
      hstanding.of_shrinks happroved hapart hshrinks⟩
  · refine Attempt.Ends.mono (ends_rollBackRecall_known hreliable happroved) ?_ fun _ _ h => h
    rintro outcome world' ⟨hne, hlost⟩
    exact .inr ⟨hne, fun hfinals => hfalse (hcomplete.2 hfinals), hlost⟩

/-- On a system that does not fail, a recovery of a recall that gets to an answer keeps
the final files it finds exactly if all of them are in place, or none is. This holds in
every phase: of a completed recall whose files have been moved in part, the rest is
removed as long as the manifest stands. -/
theorem recall_keeps_finals_iff (transactionRoot outputRoot : Path) (os : Os) (world : World)
    (manifest : TransactionManifest) (identity : FileIdentity) (outcome : RecoveryOutcome)
    (hreliable : os.Reliable)
    (hmanifest : HasManifest world.fs (transactionRoot.join recallManifestName) manifest identity)
    (houtcome : (recoverRecallRootWithDirectories os transactionRoot outputRoot world).1 =
      .ok outcome) :
    let after := (recoverRecallRootWithDirectories os transactionRoot outputRoot world).2
    (outcome = .complete ↔ FinalsInPlace world.fs manifest) ∧
      ((∀ path known, StandingFinal world.fs manifest path known → HasFile after.fs path known) ↔
        FinalsInPlace world.fs manifest ∨
          ∀ path known, ¬StandingFinal world.fs manifest path known) := by
  intro after
  rcases (ends_recoverRecall_kept hreliable hmanifest).of_ok houtcome with
    ⟨hcomplete, hfinals, hkept⟩ | ⟨hne, hnot, hlost⟩
  · exact ⟨iff_of_true hcomplete hfinals, iff_of_true hkept (.inl hfinals)⟩
  · refine ⟨iff_of_false hne hnot, ?_⟩
    constructor
    · intro hkept
      refine .inr fun path known hstanding => ?_
      exact hlost path known hstanding (hkept path known hstanding)
    · rintro (hfinals | hnone) path known hstanding
      · exact absurd hfinals hnot
      · exact absurd hstanding (hnone path known)

/-- A completed recall of two files, whose manifest was left behind. -/
def completedManifest : TransactionManifest where
  version := manifestVersion
  uid := 0
  kind := .fileSet
  phase := .complete
  transactionId := "t"
  stagingRootPath := "/s/t"
  stagingRootIdentity := some ⟨0, 3⟩
  outputRoot := "/o"
  entries :=
    [{ stagedPath := "/s/t/a"
       partialPath := "/o/.a.t.partial"
       finalPath := "/o/a"
       finalIdentity := some ⟨0, 6⟩ },
     { stagedPath := "/s/t/b"
       partialPath := "/o/.b.t.partial"
       finalPath := "/o/b"
       finalIdentity := some ⟨0, 7⟩ }]

/-- The first of the files has been moved away since. -/
def movedFileSystem : FileSystem :=
  FileTree.ofEntries
    [([], .directory ⟨0, 0⟩), (["s"], .directory ⟨0, 1⟩), (["o"], .directory ⟨0, 2⟩),
      (["s", "t"], .directory ⟨0, 3⟩),
      (["s", "t", "manifest.json"], .file ⟨0, 5⟩ (.manifest completedManifest)),
      (["o", "b"], .file ⟨0, 7⟩ (.data []))]
    (by decide +kernel)

theorem recall_keeps_finals_iff_moved :
    let after := (recoverRecallRootWithDirectories Os.upward (Path.absolute ["s", "t"])
      (Path.absolute ["o"]) ⟨movedFileSystem, 0⟩).2
    ¬∀ path known, StandingFinal movedFileSystem completedManifest path known →
      HasFile after.fs path known := by
  intro after hkept
  have hiff := (recall_keeps_finals_iff (Path.absolute ["s", "t"]) (Path.absolute ["o"]) Os.upward
    ⟨movedFileSystem, 0⟩ completedManifest ⟨0, 5⟩ .rolledBack Os.upward_reliable
    ⟨["s", "t", "manifest.json"], by decide +kernel, by decide +kernel⟩ (by decide +kernel)).2
  rcases hiff.1 hkept with hfinals | hnone
  · obtain ⟨identity, -, names, content, hnames, hfound⟩ :=
      hfinals (completedManifest.entries[0], 0) (by simp [completedManifest])
    have hpath : completedManifest.entries[0].finalOf.1 = Path.absolute ["o", "a"] := by
      decide +kernel
    obtain rfl := Path.absolute_injective (hnames.symm.trans hpath)
    have hgone : movedFileSystem.lookup ["o", "a"] = none := by decide +kernel
    rw [hgone] at hfound
    cases hfound
  · refine hnone (Path.absolute ["o", "b"]) ⟨0, 7⟩ ⟨⟨(completedManifest.entries[1], 1), ?_, ?_⟩, ?_⟩
    · simp [completedManifest]
    · exact ⟨.inl rfl, by decide +kernel⟩
    · exact ⟨["o", "b"], .data [], rfl, by decide +kernel⟩

/-! ### The finals of a dump -/

theorem validateFinalDirectory_apart {outputRoot : Path} {paths : List Path}
    {recorded : Option FileIdentity}
    (h : validateFinalDirectory manifest .atomicDirectory outputRoot manifestPath = .ok paths)
    (hfinal : manifest.finalDirectory = some (path, recorded)) : path ≠ manifest.stagingRoot := by
  simp only [validateFinalDirectory, hfinal, bind_eq_ok, insertUniquePath_eq_ok] at h
  obtain ⟨_, ⟨-, rfl⟩, _, ⟨-, rfl⟩, _, -, _, -, hnew, -⟩ := h
  rintro rfl
  simp at hnew

theorem ends_readValidated_finalDirectory {stagingRoot : TransactionManifest → Path}
    {outputRoot : Path} :
    Attempt.Ends (readValidated os .atomicDirectory stagingRoot outputRoot manifestPath) world
      (fun result _ => ∀ path recorded, result.1.finalDirectory = some (path, recorded) →
        path ≠ result.1.stagingRoot) fun _ _ => True := by
  refine ends_bind_last ?_
  rintro ⟨manifest, identity⟩ world₁
  refine .bind (Q := fun _ _ => ∀ path recorded, manifest.finalDirectory = some (path, recorded) →
    path ≠ manifest.stagingRoot) ?_ fun _ _ hapart => Attempt.Ends.pure hapart
  refine ends_bind_last fun _ _ => ends_bind_last fun _ _ => ends_bind_last fun _ _ => ?_
  refine ends_bind_last fun _ _ => .bindOfExcept (fun _ _ => trivial) ?_
  intro paths hpaths
  refine Attempt.Ends.mono (.of_reached (P := fun _ => True) trivial) ?_ fun _ _ h => h
  exact fun _ _ _ _ _ hfinal => validateFinalDirectory_apart hpaths hfinal

/-- No file in the final directory is anything that a recovery removes. -/
theorem not_ownsDump
    (happroved : Approved fs .atomicDirectory staging output (Path.absolute (output ++ [name]))
      manifest)
    (hdump : ApprovedDump fs output manifest)
    (hapart : ∀ path recorded, manifest.finalDirectory = some (path, recorded) →
      path ≠ manifest.stagingRoot)
    (hentry : entry ∈ manifest.entries) (hfinal : entry.finalOf.1 = Path.absolute names)
    {content : Content} :
    ¬OwnsDump os fs manifest (Path.absolute (output ++ [name])) names
      (.file identity content) := by
  obtain ⟨directory, _, hdirectory, hentries⟩ := hdump.finalDirectory
  obtain ⟨file, hfile⟩ := hentries entry hentry
  obtain rfl := Path.absolute_injective (hfinal.symm.trans hfile)
  -- what lies directly in the output directory is no file below the final one
  have hbelow (other : String) :
      resolve os fs (Path.absolute (output ++ [other])) ≠ .ok (output ++ [directory, file]) := by
    intro hresolve
    have heq := (hdump.outputFree.child other).resolve_eq hresolve
    simpa using congrArg List.length heq
  rintro (⟨entry', hentry', howns⟩ | ⟨-, -, hdir⟩ | hresolve | ⟨tempPath, htemp, hresolve⟩)
  · obtain ⟨⟨names', hnames', hpre, hne⟩, -⟩ := happroved.ownsStaged hentry' howns
    obtain rfl := Path.absolute_injective hnames'
    obtain ⟨hinside, hother⟩ := happroved.stagingInside rfl
    obtain ⟨rest, rfl⟩ := hinside
    obtain ⟨more, hmore⟩ := hpre
    -- the staging directory would have to be the final one
    rw [List.append_assoc, List.append_cancel_left_eq] at hmore
    rcases List.append_eq_cons_iff.1 hmore with ⟨rfl, -⟩ | ⟨rest', rfl, hrest⟩
    · simp at hother
    · rcases List.append_eq_cons_iff.1 hrest.symm with ⟨rfl, -⟩ | ⟨rest, rfl, hnil⟩
      · exact hapart _ _ hdirectory happroved.stagingRoot.symm
      · obtain ⟨rfl, -⟩ := List.append_eq_nil_iff.1 hnil.symm
        exact hne rfl
  · cases hdir
  · exact hbelow name hresolve
  · unfold manifestTempPath at htemp
    rw [Path.fileName_absolute_append] at htemp
    cases htemp
    rw [Path.withFileName_absolute_append] at hresolve
    exact hbelow _ hresolve

theorem ends_recoverDump_kept (hmanifest : HasManifest world.fs manifestPath manifest identity)
    {outputParent : Path} (hparent : manifestPath.parent = some outputParent)
    (hentry : entry ∈ manifest.entries) {known : FileIdentity}
    (hfile : HasFile world.fs entry.finalOf.1 known) :
    Attempt.Ends (recoverDumpParent os outputParent manifestPath) world
      (fun _ world' => HasFile world'.fs entry.finalOf.1 known)
      fun _ world' => HasFile world'.fs entry.finalOf.1 known := by
  unfold recoverDumpParent
  refine .bind (Attempt.Ends.mono (Attempt.Ends.and (ends_readDump hmanifest hparent)
    ends_readValidated_finalDirectory) (fun _ _ hq => hq) fun _ _ hq => hq.1 ▸ hfile) ?_
  rintro _ world₁ ⟨⟨hfs₁, rfl, staging, output, name, rfl, rfl, happroved, hdump, -⟩, hapart⟩
  rw [← hfs₁] at happroved hdump hfile
  have hkept {fs' : FileSystem} (hshrinks : world₁.fs.Shrinks
      (OwnsDump os world₁.fs manifest (Path.absolute (output ++ [name]))) fs') :
      HasFile fs' entry.finalOf.1 known := by
    obtain ⟨names, content, hnames, hfound⟩ := hfile
    refine ⟨names, content, hnames, ?_⟩
    rw [hshrinks.lookup_of_not, hfound]
    intro found hfound'
    rw [hfound] at hfound'
    cases hfound'
    exact not_ownsDump happroved hdump hapart hentry hnames
  refine Attempt.Ends.mono (RemovesOnly.bindContains (FileTree.Shrinks.refl world₁.fs)
    (.of_readOnly readOnly_completeFinalSet) ?_) (fun _ _ => hkept) fun _ _ => hkept
  intro complete world₂ h₂
  refine .ite (fun _ => ?_) fun _ => ?_
  · exact removesOnly_finishDump happroved.manifestName h₂
  · exact removesOnly_rollBackDump happroved.manifestName h₂

/-- However often the recovery of a dump is tried and wherever each try fails, every
file that the final directory holds under one of its names stays there, also when the
manifest does not know it. -/
theorem dump_keeps_finals (outputParent manifestPath : Path) (systems : List Os) (world : World)
    (manifest : TransactionManifest) (identity : FileIdentity)
    (hparent : manifestPath.parent = some outputParent)
    (hmanifest : HasManifest world.fs manifestPath manifest identity) :
    ∀ entry ∈ manifest.entries, ∀ known, HasFile world.fs entry.finalOf.1 known →
      HasFile (recoverDumpAgain outputParent manifestPath systems world).fs entry.finalOf.1
        known := by
  intro entry hentry known hfile
  have hstands : (dumpResolution manifestPath manifest identity).Stands world.fs := hmanifest
  refine Resolution.Recoverable.keeps_again (P := fun fs => HasFile fs entry.finalOf.1 known)
    (recovers_dump outputParent hparent) hstands.recoverable ?_ systems hfile
  intro os world₁ hrecoverable hfile₁
  -- once the manifest is gone, a recovery does nothing any more
  rcases hrecoverable.stands with hmanifest₁ | hnone
  · exact (ends_recoverDump_kept hmanifest₁ hparent hentry hfile₁).reached
  · have hfs : (recoverDumpParent os outputParent manifestPath world₁).2.fs = world₁.fs :=
      (Attempt.Ends.mono hnone.recoverDump (fun _ _ h => h.elim) fun _ _ hfs => hfs).reached
    rw [hfs]
    exact hfile₁

/-- The renamed dump with its file replaced by one that the manifest does not know. -/
def replacedFileSystem : FileSystem :=
  FileTree.ofEntries
    [([], .directory ⟨0, 0⟩), (["o"], .directory ⟨0, 2⟩), (["o", "take"], .directory ⟨0, 3⟩),
      (["o", "take", "a"], .file ⟨0, 9⟩ (.data [])),
      (["o", ".t.manifest.json"], .file ⟨0, 5⟩ (.manifest renamedManifest))]
    (by decide +kernel)

theorem dump_keeps_finals_replaced :
    HasFile (recoverDumpAgain (Path.absolute ["o"]) (Path.absolute ["o", ".t.manifest.json"])
      [Os.failingFrom 20, Os.upward] ⟨replacedFileSystem, 0⟩).fs
      (Path.absolute ["o", "take", "a"]) ⟨0, 9⟩ := by
  have hpath : renamedManifest.entries[0].finalOf.1 = Path.absolute ["o", "take", "a"] := by
    decide +kernel
  rw [← hpath]
  refine dump_keeps_finals (Path.absolute ["o"]) (Path.absolute ["o", ".t.manifest.json"])
    [Os.failingFrom 20, Os.upward] ⟨replacedFileSystem, 0⟩ renamedManifest ⟨0, 5⟩
    (by decide +kernel) ?_ renamedManifest.entries[0] (by simp [renamedManifest]) ⟨0, 9⟩ ?_
  · exact ⟨["o", ".t.manifest.json"], by decide +kernel, by decide +kernel⟩
  · exact ⟨["o", "take", "a"], .data [], hpath, by decide +kernel⟩

end Lamb.Recovery
