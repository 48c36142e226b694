import Lamb.Recovery.Kept

/-!
On a system on which no call fails, a recovery takes the manifest away only together
with an answer. When it reports that the transaction is pending, or fails, the
manifest stands and the next recovery starts from it again.
-/

namespace Lamb.Recovery

open Lamb.Lib

variable {os : Os} {fs fs' : FileSystem} {world : World} {names staging output : List String}
  {path manifestPath : Path} {manifest : TransactionManifest} {identity known : FileIdentity}
  {name : String}

/-! ### The entries of a directory -/

theorem walkWith_curDir {follow : Location → List Component → Except IoErrorKind Location}
    {base : List String} (hdirs : ∀ names', names' <+: names → names' ≠ [] →
      IsDirectory (fs.lookup (base ++ names'))) :
    walkWith fs follow base (names.map .normal ++ [.curDir]) = .ok (base ++ names) := by
  induction names generalizing base with
  | nil => simp [walkWith]
  | cons name rest ih =>
      obtain ⟨identity, hfound⟩ := hdirs [name] (isPrefix_cons List.nil_prefix) (by simp)
      have hih := @ih (base ++ [name]) (by
        intro names' hpre hne
        simpa using hdirs (name :: names') (isPrefix_cons hpre) (by simp))
      simpa [walkWith, hfound] using hih

theorem resolve_curDir (hfound : fs.lookup names = some (.directory identity)) :
    resolve os fs { Path.absolute names with parts := (Path.absolute names).parts ++ [.curDir] } =
      .ok names := by
  change walkWith fs (fun location parts => walk fs 39 location parts) []
    (names.map .normal ++ [.curDir]) = .ok names
  refine walkWith_curDir fun names' hpre _ => ?_
  by_cases heq : names' = names
  · exact ⟨identity, heq ▸ hfound⟩
  · exact FileTree.isDirectory_of_isPrefix (by rw [hfound]; simp) hpre heq

theorem ends_directoryContainsOnly {allowed : Path}
    (hfound : world.fs.lookup names = some (.directory identity)) :
    Attempt.Ends (directoryContainsOnly os (Path.absolute names) allowed) world
      (fun only world' => world'.fs = world.fs ∧ (only = true → ∀ name,
        world.fs.lookup (names ++ [name]) ≠ none → (Path.absolute names).join name = allowed))
      fun _ world' => world'.fs = world.fs := by
  unfold directoryContainsOnly
  refine .bind (Q := fun found world' => world'.fs = world.fs ∧
    found = (world.fs.children names).filterMap List.getLast?) ?_ ?_
  · refine ends_orFail (ends_query (fun _ => rfl) ?_)
    rw [resolve_curDir hfound]
    exact ⟨rfl, rfl⟩
  · rintro _ world' ⟨hfs, rfl⟩
    refine Attempt.Ends.pure ⟨hfs, fun hall name hsome => ?_⟩
    have hin : name ∈ (world.fs.children names).filterMap List.getLast? :=
      List.mem_filterMap.2 ⟨names ++ [name], FileTree.mem_children.2 ⟨name, rfl, hsome⟩, by simp⟩
    simpa using List.all_eq_true.1 hall name hin

/-! ### What is removed -/

/-- The file is removed, or the call has failed without effect. -/
theorem ends_removeIfIdentity_there {content : Content}
    (hfound : world.fs.lookup names = some (.file identity content)) :
    Attempt.Ends (removeIfIdentity os (Path.absolute names) identity) world
      (fun _ world' => ∀ location, world'.fs.lookup location =
        if location = names then none else world.fs.lookup location)
      fun _ world' => world'.fs = world.fs := by
  have hstat : stat os world.fs (Path.absolute names) = .ok (.file identity content) :=
    stat_of_lookup hfound
  refine ends_lookAt ?_ ?_ (fun _ _ => rfl)
  · intro hmissing
    rw [hstat] at hmissing
    cases hmissing
  · intro found hfound'
    rw [hstat] at hfound'
    cases hfound'
    refine .ite ?_ fun _ => ends_orFail (ends_call (fun _ => rfl) ?_ fun _ _ => rfl)
    · rintro (hne | hkind)
      · exact absurd rfl hne
      · cases hkind
    · intro _ fs' hok
      have hresolve : resolve os world.fs (Path.absolute names) = .ok names :=
        resolve_of_lookup (by rw [hfound]; simp)
      rw [World.tick_fs, hresolve] at hok
      obtain ⟨-, -, hlookup⟩ := unlinkEntry_ok hok
      exact hlookup

theorem ends_removeDir_empty (hreliable : os.Reliable)
    (hfound : world.fs.lookup names = some (.directory identity)) (hne : names ≠ [])
    (hempty : ∀ name, world.fs.lookup (names ++ [name]) = none) :
    Attempt.Ends (removeDir os (Path.absolute names)) world (fun removed _ => removed = .ok ())
      fun _ _ => False := by
  have hresolve : resolve os world.fs (Path.absolute names) = .ok names :=
    resolve_of_lookup (by rw [hfound]; simp)
  refine ends_call (fun hos => ?_) (fun _ _ _ => rfl) ?_
  · rw [hreliable] at hos
    cases hos
  · intro kind herror
    rw [hresolve] at herror
    change removeDirEntry world.fs names = .error kind at herror
    unfold removeDirEntry at herror
    rw [hfound] at herror
    simp [hne, FileTree.children_eq_nil.2 hempty] at herror

/-- An empty directory goes, unless it is another one than was recorded. -/
theorem ends_removeDirectory_empty (hreliable : os.Reliable) {recorded : Option FileIdentity}
    (hrecorded : recorded ≠ none) (hfound : world.fs.lookup names = some (.directory known))
    (hne : names ≠ []) (hempty : ∀ name, world.fs.lookup (names ++ [name]) = none) :
    Attempt.Ends (removeDirectoryIfIdentity os (Path.absolute names) recorded) world
      (fun removed _ => removed = true) fun _ _ => False := by
  obtain ⟨identity, rfl⟩ := Option.ne_none_iff_exists'.1 hrecorded
  have hstat : stat os world.fs (Path.absolute names) = .ok (.directory known) :=
    stat_of_lookup hfound
  refine ends_lookAt ?_ ?_ ?_
  · intro hmissing
    rw [hstat] at hmissing
    cases hmissing
  · intro found hfound'
    rw [hstat] at hfound'
    cases hfound'
    refine .ite (fun _ => Attempt.Ends.pure rfl) fun _ => ?_
    refine .ite (fun hkind => by cases hkind) fun _ => ?_
    have hthere : (world.tick world.fs).fs.lookup names = some (.directory known) := hfound
    refine .bind (ends_removeDir_empty hreliable hthere hne hempty) ?_
    rintro _ _ rfl
    exact Attempt.Ends.pure rfl
  · rintro kind (hos | ⟨-, herror⟩)
    · rw [hreliable] at hos
      cases hos
    · rw [hstat] at herror
      cases herror

/-! ### A recall -/

/-- What is tried only for the best never fails. -/
theorem ends_capture {β : Type} {f : Io β} :
    Attempt.Ends f.capture world (fun _ _ => True) fun _ _ => False :=
  Attempt.Ends.capture (.of_reached (P := fun _ => True) trivial)

theorem ends_cleanupStagedAndPartials_ok (entries : List ManifestEntrySlot) :
    Attempt.Ends (cleanupStagedAndPartials os entries) world (fun _ _ => True)
      fun _ _ => False := by
  induction entries generalizing world with
  | nil => exact Attempt.Ends.pure trivial
  | cons entry entries ih =>
      refine .bind ends_capture fun _ _ _ => ?_
      exact .bind ends_capture fun _ _ _ => ih

theorem ends_bestEffortRemoveRecallMetadata_ok :
    Attempt.Ends (bestEffortRemoveRecallMetadata os manifest manifestPath identity) world
      (fun _ _ => True) fun _ _ => False := by
  refine .bind (ends_cleanupStagedAndPartials_ok _) fun _ _ _ => ?_
  refine .bind ends_capture fun _ _ _ => .ite (fun _ => ?_) fun _ => Attempt.Ends.pure trivial
  refine .bind ends_capture fun _ _ _ => ?_
  exact .bind ends_capture fun _ _ _ => Attempt.Ends.pure trivial

theorem ends_finishRecall_answers {outputRoot : Path} :
    Attempt.Ends (finishRecall os manifest identity outputRoot manifestPath) world
      (fun outcome _ => outcome = .complete) fun _ world' => world'.fs = world.fs := by
  unfold finishRecall
  refine .bind (Q := fun _ world' => world'.fs = world.fs)
    ((readOnly_syncFinals _).ends (fun _ _ _ hfs => hfs) fun _ _ hfs => hfs) ?_
  intro _ world₁ hfs₁
  refine .bind (Q := fun _ _ => True)
    (readOnly_syncFileSetDirectories.ends (fun _ _ _ _ => trivial)
      fun _ _ hfs => hfs.trans hfs₁) ?_
  intro _ world₂ _
  -- from here on nothing fails any more, whatever it leaves behind
  refine .bind (Attempt.Ends.mono ends_bestEffortRemoveRecallMetadata_ok (fun _ _ h => h)
    fun _ _ hno => hno.elim) ?_
  intro _ world₃ _
  split
  · refine .bind (Attempt.Ends.mono ends_capture (fun _ _ h => h) fun _ _ hno => hno.elim) ?_
    exact fun _ _ _ => Attempt.Ends.pure rfl
  · exact Attempt.Ends.pure rfl

/-- With the manifest as its only entry left, the transaction directory goes as well. -/
theorem ends_removeRecallMetadata_answers (hreliable : os.Reliable)
    (happroved : Approved fs .fileSet staging output manifestPath manifest) (hne : staging ≠ [])
    (hmanifest : HasManifest world.fs manifestPath manifest identity)
    (honly : ∀ name, world.fs.lookup (staging ++ [name]) ≠ none →
      (Path.absolute staging).join name = manifestPath) :
    Attempt.Ends (do
        removeIfIdentity os manifestPath identity
        let removed ← removeDirectoryIfIdentity os manifest.stagingRoot
          manifest.stagingRootIdentity
        pure (if removed then RecoveryOutcome.rolledBack else .pending)) world
      (fun outcome _ => outcome = .rolledBack)
      fun _ world' => HasManifest world'.fs manifestPath manifest identity := by
  have hpath := happroved.manifestInside rfl
  obtain ⟨names, hnames, hfound⟩ := hmanifest
  obtain rfl := Path.absolute_injective (hnames.symm.trans hpath)
  obtain ⟨known, hdirectory⟩ : IsDirectory (world.fs.lookup staging) :=
    FileTree.isDirectory_of_isPrefix (by rw [hfound]; simp) (List.prefix_append _ _) (by simp)
  rw [happroved.stagingRoot, hpath]
  refine .bind (Attempt.Ends.mono (ends_removeIfIdentity_there hfound) (fun _ _ hq => hq)
    fun _ _ hfs => ⟨_, rfl, by rw [hfs, hfound]⟩) ?_
  intro _ world₁ hlookup
  have hdirectory₁ : world₁.fs.lookup staging = some (.directory known) := by
    rw [hlookup, if_neg (by simp), hdirectory]
  -- the manifest was the last entry, and it is gone
  have hempty (name : String) : world₁.fs.lookup (staging ++ [name]) = none := by
    rw [hlookup]
    split
    · rfl
    · rename_i hother
      by_contra hsome
      refine hother (Path.absolute_injective ?_)
      rw [Path.absolute_append, honly name hsome, hpath]
  refine .bind (Attempt.Ends.mono (ends_removeDirectory_empty hreliable happroved.stagingIdentity
    hdirectory₁ hne hempty) (fun _ _ hq => hq) fun _ _ hno => hno.elim) ?_
  rintro _ _ rfl
  exact Attempt.Ends.pure rfl

theorem ends_rollBackRecall_answers (hreliable : os.Reliable)
    (happroved : Approved world.fs .fileSet staging output manifestPath manifest)
    (hne : staging ≠ []) (hapart : ∀ entry ∈ manifest.entries, entry.Apart [manifestPath])
    (hmanifest : HasManifest world.fs manifestPath manifest identity) :
    Attempt.Ends (rollBackRecall os manifest identity manifestPath) world
      (fun outcome world' => outcome = .rolledBack ∨
        HasManifest world'.fs manifestPath manifest identity)
      fun _ world' => HasManifest world'.fs manifestPath manifest identity := by
  unfold rollBackRecall
  refine .bind (Attempt.Ends.mono (removesOnly_cleanupEntries manifest.entries.zipIdx (.refl _))
    (fun _ _ => hmanifest.of_cleanupEntries happroved hapart)
    fun _ _ => hmanifest.of_cleanupEntries happroved hapart) ?_
  intro pending world₁ hmanifest₁
  refine .ite (fun _ => Attempt.Ends.pure (.inr hmanifest₁)) fun _ => ?_
  have hsame : world₁.fs.Contains world₁.fs := .refl _
  -- the directories of the transaction are no files, and the manifest is one
  have hstands₂ {fs' : FileSystem} (hshrinks : world₁.fs.Shrinks
      (OwnsDirectory os world₁.fs manifest manifest.directories.reverse) fs') :
      HasManifest fs' manifestPath manifest identity := by
    refine hmanifest₁.of_shrinks hshrinks ?_
    rintro _ _ ⟨slot, -, path, -, hnamed⟩
    cases hnamed.2.2
  refine .bind (Attempt.Ends.mono (removesOnly_removeDirectories _ hsame)
    (fun _ _ => hstands₂) fun _ _ => hstands₂) ?_
  rintro _ world₂ ⟨names, hnames, hfound⟩
  -- the manifest stands in the transaction directory, which so is one
  have hpath := happroved.manifestInside rfl
  obtain rfl := Path.absolute_injective (hnames.symm.trans hpath)
  obtain ⟨known, hdirectory⟩ : IsDirectory (world₂.fs.lookup staging) :=
    FileTree.isDirectory_of_isPrefix (by rw [hfound]; simp) (List.prefix_append _ _) (by simp)
  have hmanifest₂ : HasManifest world₂.fs manifestPath manifest identity :=
    ⟨_, hnames, hfound⟩
  refine .bind (Q := fun only world' => world'.fs = world₂.fs ∧ (only = true → ∀ name,
    world₂.fs.lookup (staging ++ [name]) ≠ none →
      (Path.absolute staging).join name = manifestPath)) ?_ ?_
  · rw [happroved.stagingRoot]
    exact Attempt.Ends.mono (ends_directoryContainsOnly hdirectory) (fun _ _ hq => hq)
      fun _ _ hfs => hfs ▸ hmanifest₂
  rintro only world₃ ⟨hfs₃, honly⟩
  rw [← hfs₃] at hmanifest₂ honly
  refine .ite (fun htrue => ?_) fun _ => Attempt.Ends.pure (.inr hmanifest₂)
  exact Attempt.Ends.mono (ends_removeRecallMetadata_answers hreliable happroved hne hmanifest₂
    (honly htrue)) (fun _ _ hq => .inl hq) fun _ _ hq => hq

theorem ends_readValidated_named {stagingRoot : TransactionManifest → Path} {outputRoot : Path}
    {expected : Strategy} :
    Attempt.Ends (readValidated os expected stagingRoot outputRoot manifestPath) world
      (fun result _ => (stagingRoot result.1).fileName ≠ none) fun _ _ => True := by
  refine ends_bind_last ?_
  rintro ⟨manifest, identity⟩ world₁
  refine .bind (Q := fun _ _ => (stagingRoot manifest).fileName ≠ none) ?_
    fun _ _ hname => Attempt.Ends.pure hname
  refine .bindOfExcept (fun _ _ => trivial) ?_
  intro _ hheader
  simp only [validateHeader, bind_eq_ok, ensure_eq_ok] at hheader
  obtain ⟨_, -, _, -, _, -, _, -, _, -, _, -, _, hname, -⟩ := hheader
  refine Attempt.Ends.mono (.of_reached (P := fun _ => True) trivial) ?_ fun _ _ h => h
  intro _ _ _
  rw [hname]
  simp

theorem ends_recoverRecall_answers {transactionRoot outputRoot : Path} (hreliable : os.Reliable)
    (hmanifest : HasManifest world.fs (transactionRoot.join recallManifestName) manifest
      identity) :
    Attempt.Ends (recoverRecallRootWithDirectories os transactionRoot outputRoot) world
      (fun outcome world' => (outcome = .complete ∨ outcome = .rolledBack) ∨
        HasManifest world'.fs (transactionRoot.join recallManifestName) manifest identity)
      fun _ world' =>
        HasManifest world'.fs (transactionRoot.join recallManifestName) manifest identity := by
  have hsame {fs' : FileSystem} (hfs : fs' = world.fs) :
      HasManifest fs' (transactionRoot.join recallManifestName) manifest identity :=
    hfs ▸ hmanifest
  unfold recoverRecallRootWithDirectories
  refine .bind (Attempt.Ends.mono (Attempt.Ends.and (ends_readRecall hmanifest)
    ends_readValidated_named) (fun _ _ hq => hq) fun _ _ hq => hsame hq.1) ?_
  rintro _ world₁ ⟨⟨hfs₁, rfl, staging, output, rfl, rfl, happroved, hapart⟩, hname⟩
  -- the check has compared the directory's name with the transaction id
  have hne : staging ≠ [] := by
    rintro rfl
    exact hname rfl
  rw [← hfs₁] at hmanifest happroved hsame
  refine .bind (Q := fun _ world' => world'.fs = world₁.fs)
    (readOnly_completeFinalSet.ends (fun _ _ _ hfs => hfs) fun _ _ hfs => hsame hfs) ?_
  intro complete world₂ hfs₂
  rw [← hfs₂] at hmanifest happroved
  refine .ite (fun _ => ?_) fun _ => ?_
  · refine Attempt.Ends.mono ends_finishRecall_answers (fun _ _ hq => .inl (.inl hq)) ?_
    intro _ _ hfs
    exact hfs ▸ hmanifest
  · refine Attempt.Ends.mono (ends_rollBackRecall_answers hreliable happroved hne hapart
      hmanifest) ?_ fun _ _ hq => hq
    rintro _ _ (hq | hq)
    · exact .inl (.inr hq)
    · exact .inr hq

/-! ### A dump -/

/-- The temporary of the manifest lies in a directory, so nothing hinders its removal. -/
theorem ends_cleanupDumpTempManifest_clean (hreliable : os.Reliable) (transactionId : String)
    (hfound : world.fs.lookup output = some (.directory known)) :
    Attempt.Ends (cleanupDumpTempManifest os (Path.absolute (output ++ [name])) transactionId) world
      (fun clean _ => clean = true) fun _ _ => False := by
  unfold cleanupDumpTempManifest manifestTempPath
  rw [Path.fileName_absolute_append]
  refine Attempt.Ends.bindOfExcept (fun _ herror => by cases herror) ?_
  rintro _ ⟨⟩
  rw [Path.withFileName_absolute_append]
  have hclear : Clear world.fs (output ++ [manifestTempName name transactionId]) := by
    intro names hpre hne
    rcases List.prefix_concat_iff.1 hpre with heq | hpre'
    · exact absurd heq hne
    · by_cases heq : names = output
      · exact .inr ⟨known, heq ▸ hfound⟩
      · exact .inr (FileTree.isDirectory_of_isPrefix (by rw [hfound]; simp) hpre' heq)
  have hstat : stat os world.fs (Path.absolute (output ++ [manifestTempName name transactionId])) =
      entryAt world.fs (output ++ [manifestTempName name transactionId]) :=
    hclear.stat_eq_entryAt
  refine ends_lookAt (fun _ => Attempt.Ends.pure rfl) ?_ ?_
  · intro entry hentry
    have hthere : world.fs.lookup (output ++ [manifestTempName name transactionId]) =
        some entry := by
      rw [hstat, entryAt] at hentry
      split at hentry
      · rename_i heq
        cases hentry
        exact heq
      · cases hentry
    refine .ite (fun _ => Attempt.Ends.pure rfl) fun hfile => ?_
    cases entry with
    | file identity content =>
        have hthere₁ : (world.tick world.fs).fs.lookup
            (output ++ [manifestTempName name transactionId]) = some (.file identity content) :=
          hthere
        refine .bind (ends_removeFile_there hreliable hthere₁) ?_
        rintro _ _ ⟨rfl, -⟩
        exact Attempt.Ends.pure rfl
    | directory identity => exact absurd rfl hfile
    | symlink identity target => exact absurd rfl hfile
  · rintro kind (hos | ⟨hkind, herror⟩)
    · rw [hreliable] at hos
      cases hos
    · rw [hstat, entryAt] at herror
      split at herror
      · cases herror
      · cases herror
        exact hkind rfl

theorem ends_syncDirectory_there (hreliable : os.Reliable)
    (hfound : world.fs.lookup names = some (.directory known)) :
    Attempt.Ends (syncDirectory os (Path.absolute names)) world (fun _ _ => True)
      fun _ _ => False := by
  have hno {clock : ℕ} {fs : FileSystem} : ¬os.fails clock fs = true := by
    rw [hreliable]
    exact Bool.false_ne_true
  unfold syncDirectory
  refine .bind (Q := fun _ _ => True) (ends_orFail (ends_query (fun hos => absurd hos hno) ?_)) ?_
  · rw [stat_of_lookup hfound]
    trivial
  · intro _ world' _
    exact ends_orFail (ends_query (fun hos => absurd hos hno) trivial)

/-- The last part of both ways: either the manifest stays, or the directory is left
without it and without its temporary. -/
theorem ends_removeDumpManifest_answers (hreliable : os.Reliable)
    (hfree : LinkFree world.fs output)
    (hmanifest : HasManifest world.fs (Path.absolute (output ++ [name])) manifest identity) :
    Attempt.Ends (removeDumpManifest os manifest identity (Path.absolute (output ++ [name]))) world
      (fun clean world' => clean = true ∧ ∃ known,
        world'.fs.lookup output = some (.directory known))
      fun _ world' =>
        HasManifest world'.fs (Path.absolute (output ++ [name])) manifest identity := by
  obtain ⟨names, hnames, hfound⟩ := hmanifest
  obtain rfl := Path.absolute_injective hnames
  obtain ⟨known, hdirectory⟩ : IsDirectory (world.fs.lookup output) :=
    FileTree.isDirectory_of_isPrefix (by rw [hfound]; simp) (List.prefix_append _ _) (by simp)
  have hstill {fs' fs'' : FileSystem} (hfound' : fs'.lookup output = some (.directory known))
      (hshrinks : fs'.Shrinks (FileIn output) fs'') :
      fs''.lookup output = some (.directory known) := by
    rw [hshrinks.lookup_of_not, hfound']
    intro found hfound''
    rw [hfound'] at hfound''
    cases hfound''
    exact FileIn.not_directory output
  unfold removeDumpManifest
  refine .bind (Attempt.Ends.mono (Attempt.Ends.and (removesOnly_removeIfIdentity_file hfree)
    (ends_removeIfIdentity_there hfound)) (fun _ _ hq => hq) fun _ _ hq => ?_) ?_
  · exact ⟨_, rfl, by rw [hq.2, hfound]⟩
  rintro _ world₁ ⟨h₁, -⟩
  have hdirectory₁ := hstill hdirectory h₁
  refine Attempt.Ends.mono (Attempt.Ends.and
    (removesOnly_cleanupDumpTempManifest_file (hfree.of_shrinks h₁) manifest.transactionId)
    (ends_cleanupDumpTempManifest_clean hreliable manifest.transactionId hdirectory₁)) ?_
    fun _ _ hno => hno.2.elim
  rintro clean world₂ ⟨h₂, rfl⟩
  exact ⟨rfl, known, hstill hdirectory₁ h₂⟩

theorem ends_finishDump_answers (hreliable : os.Reliable)
    (hdump : ApprovedDump world.fs output manifest)
    (hmanifest : HasManifest world.fs (Path.absolute (output ++ [name])) manifest identity) :
    Attempt.Ends (finishDump os manifest identity (Path.absolute output)
        (Path.absolute (output ++ [name]))) world
      (fun outcome _ => outcome = .complete)
      fun _ world' =>
        HasManifest world'.fs (Path.absolute (output ++ [name])) manifest identity := by
  obtain ⟨directory, directoryIdentity, hfinal, -⟩ := hdump.finalDirectory
  have hread {γ : Type} {f : Io γ} (hf : ReadOnly f) {world' : World}
      (hfs : world'.fs = world.fs) : Attempt.Ends f world' (fun _ world'' => world''.fs = world.fs)
        fun _ world'' =>
          HasManifest world''.fs (Path.absolute (output ++ [name])) manifest identity := by
    refine hf.ends (fun _ _ _ hsame => hsame.trans hfs) ?_
    intro _ _ hsame
    rwa [hsame, hfs]
  unfold finishDump
  refine .bind (hread (readOnly_syncDumpFinals _) rfl) ?_
  intro _ world₁ hfs₁
  rw [hfinal]
  refine .bind (hread readOnly_syncOwnedDirectory hfs₁) ?_
  intro _ world₂ hfs₂
  refine .bind (hread readOnly_syncDirectory hfs₂) ?_
  intro _ world₃ hfs₃
  rw [← hfs₃] at hdump hmanifest
  refine .bind (ends_removeDumpManifest_answers hreliable hdump.outputFree hmanifest) ?_
  rintro _ world₄ ⟨rfl, known, hdirectory⟩
  refine .ite (fun _ => ?_) fun hno => absurd rfl hno
  refine .bind (Attempt.Ends.mono (ends_syncDirectory_there hreliable hdirectory)
    (fun _ _ hq => hq) fun _ _ hno => hno.elim) ?_
  exact fun _ _ _ => Attempt.Ends.pure rfl

theorem ends_rollBackDump_answers (hreliable : os.Reliable)
    (happroved : Approved world.fs .atomicDirectory staging output
      (Path.absolute (output ++ [name])) manifest)
    (hdump : ApprovedDump world.fs output manifest)
    (hapart : ∀ entry ∈ manifest.entries, entry.Apart [Path.absolute (output ++ [name])])
    (hmanifest : HasManifest world.fs (Path.absolute (output ++ [name])) manifest identity) :
    Attempt.Ends (rollBackDump os manifest identity (Path.absolute (output ++ [name]))) world
      (fun outcome world' => outcome = .rolledBack ∨
        HasManifest world'.fs (Path.absolute (output ++ [name])) manifest identity)
      fun _ world' =>
        HasManifest world'.fs (Path.absolute (output ++ [name])) manifest identity := by
  obtain ⟨directory, directoryIdentity, hfinal, -⟩ := hdump.finalDirectory
  unfold rollBackDump
  rw [hfinal]
  refine .bind (Q := fun _ world' => world'.fs = world.fs)
    (readOnly_finalDirectoryInPlace.ends (fun _ _ _ hfs => hfs) fun _ _ hfs => hfs ▸ hmanifest) ?_
  intro inPlace world₁ hfs₁
  rw [← hfs₁] at happroved hdump hmanifest
  refine .ite (fun _ => Attempt.Ends.pure (.inr hmanifest)) fun _ => ?_
  refine .bind (Q := fun _ world' => HasManifest world'.fs (Path.absolute (output ++ [name]))
      manifest identity ∧ world₁.fs.Contains world'.fs)
    (Attempt.Ends.mono (removesOnly_cleanupStaged manifest.entries (.refl _)) ?_ ?_) ?_
  · intro _ _ hshrinks
    exact ⟨hmanifest.of_cleanupStaged happroved hapart hshrinks, hshrinks.contains⟩
  · exact fun _ _ hshrinks => hmanifest.of_cleanupStaged happroved hapart hshrinks
  rintro clean world₂ ⟨hmanifest₂, h₂⟩
  refine .ite (fun _ => ?_) fun _ => Attempt.Ends.pure (.inr hmanifest₂)
  -- its directory is no file, and the manifest is one
  have hstands {fs' : FileSystem} (hshrinks : world₂.fs.Shrinks (Named os world₂.fs Node.isDir
      manifest.stagingRoot manifest.stagingRootIdentity) fs') :
      HasManifest fs' (Path.absolute (output ++ [name])) manifest identity :=
    hmanifest₂.of_shrinks hshrinks fun _ _ hnamed => by cases hnamed.2.2
  refine .bind (Q := fun _ world' => HasManifest world'.fs (Path.absolute (output ++ [name]))
      manifest identity ∧ world₁.fs.Contains world'.fs)
    (Attempt.Ends.mono removesOnly_removeDirectoryIfIdentity ?_ fun _ _ => hstands) ?_
  · exact fun _ _ hshrinks => ⟨hstands hshrinks, h₂.trans hshrinks.contains⟩
  rintro removed world₃ ⟨hmanifest₃, h₃⟩
  refine .ite (fun _ => ?_) fun _ => Attempt.Ends.pure (.inr hmanifest₃)
  refine .bind (ends_removeDumpManifest_answers hreliable (hdump.outputFree.of_shrinks h₃)
    hmanifest₃) ?_
  rintro _ world₄ ⟨rfl, -⟩
  exact Attempt.Ends.pure (.inl rfl)

theorem ends_recoverDump_answers (hreliable : os.Reliable) {outputParent : Path}
    (hparent : manifestPath.parent = some outputParent)
    (hmanifest : HasManifest world.fs manifestPath manifest identity) :
    Attempt.Ends (recoverDumpParent os outputParent manifestPath) world
      (fun outcome world' => (outcome = .complete ∨ outcome = .rolledBack) ∨
        HasManifest world'.fs manifestPath manifest identity)
      fun _ world' => HasManifest world'.fs manifestPath manifest identity := by
  have hsame {fs' : FileSystem} (hfs : fs' = world.fs) :
      HasManifest fs' manifestPath manifest identity :=
    hfs ▸ hmanifest
  unfold recoverDumpParent
  refine .bind (Attempt.Ends.mono (ends_readDump hmanifest hparent) (fun _ _ hq => hq)
    fun _ _ hfs => hsame hfs) ?_
  rintro _ world₁ ⟨hfs₁, rfl, staging, output, name, rfl, rfl, happroved, hdump, hapart⟩
  rw [← hfs₁] at hmanifest happroved hdump hsame
  refine .bind (Q := fun _ world' => world'.fs = world₁.fs)
    (readOnly_completeFinalSet.ends (fun _ _ _ hfs => hfs) fun _ _ hfs => hsame hfs) ?_
  intro complete world₂ hfs₂
  rw [← hfs₂] at hmanifest happroved hdump
  refine .ite (fun _ => ?_) fun _ => ?_
  · exact Attempt.Ends.mono (ends_finishDump_answers hreliable hdump hmanifest)
      (fun _ _ hq => .inl (.inl hq)) fun _ _ hq => hq
  · refine Attempt.Ends.mono (ends_rollBackDump_answers hreliable happroved hdump hapart
      hmanifest) ?_ fun _ _ hq => hq
    rintro _ _ (hq | hq)
    · exact .inl (.inr hq)
    · exact .inr hq

/-! ### Retries -/

namespace Resolution

/-- The recovery tells that the transaction has been resolved. -/
def Answers (recovery : Io RecoveryOutcome) (world : World) : Prop :=
  (recovery world).1 = .ok .complete ∨ (recovery world).1 = .ok .rolledBack

theorem answers_or_stands {recovery : Io RecoveryOutcome} {P : FileSystem → Prop}
    (h : Attempt.Ends recovery world
      (fun outcome world' => (outcome = .complete ∨ outcome = .rolledBack) ∨ P world'.fs)
      fun _ world' => P world'.fs) :
    Answers recovery world ∨ P (recovery world).2.fs := by
  unfold Answers
  cases hresult : (recovery world).1 with
  | ok outcome =>
      rcases h.of_ok hresult with hanswer | hstands
      · exact .inl (by simpa using hanswer)
      · exact .inr hstands
  | error e => exact .inr (h.of_error hresult)

/-- One recovery after another, until one of them answers. -/
theorem answered_or_stands {recover : Os → Io RecoveryOutcome} {P : FileSystem → Prop}
    (hstep : ∀ os world, os.Reliable → P world.fs →
      Answers (recover os) world ∨ P (recover os world).2.fs)
    (systems : List Os) (hreliable : ∀ os ∈ systems, os.Reliable) (hstands : P world.fs) :
    (∃ earlier os later, systems = earlier ++ os :: later ∧
        Answers (recover os) (recoverAgain recover earlier world)) ∨
      P (recoverAgain recover systems world).fs := by
  induction systems generalizing world with
  | nil => exact .inr hstands
  | cons os systems ih =>
      rcases hstep os world (hreliable os (by simp)) hstands with hanswer | hstill
      · exact .inl ⟨[], os, systems, rfl, hanswer⟩
      · have hrest : ∀ os ∈ systems, os.Reliable := fun os' hin => hreliable os' (by simp [hin])
        rcases ih hrest hstill with ⟨earlier, os', later, rfl, hanswer⟩ | hend
        · exact .inl ⟨os :: earlier, os', later, rfl, hanswer⟩
        · exact .inr hend

end Resolution

/-- As long as no call fails, the manifest of a recall goes only with an answer: after
any number of recoveries that all failed or reported the transaction pending, it stands
as it did. -/
theorem recall_retryable (transactionRoot outputRoot : Path) (systems : List Os) (world : World)
    (manifest : TransactionManifest) (identity : FileIdentity)
    (hreliable : ∀ os ∈ systems, os.Reliable)
    (hmanifest : HasManifest world.fs (transactionRoot.join recallManifestName) manifest
      identity) :
    (∃ earlier os later, systems = earlier ++ os :: later ∧
        Resolution.Answers (recoverRecallRootWithDirectories os transactionRoot outputRoot)
          (recoverRecallAgain transactionRoot outputRoot earlier world)) ∨
      HasManifest (recoverRecallAgain transactionRoot outputRoot systems world).fs
        (transactionRoot.join recallManifestName) manifest identity := by
  refine Resolution.answered_or_stands (P := fun fs => HasManifest fs
    (transactionRoot.join recallManifestName) manifest identity) ?_ systems hreliable hmanifest
  intro os world hos hstands
  exact Resolution.answers_or_stands (P := fun fs => HasManifest fs
    (transactionRoot.join recallManifestName) manifest identity)
    (ends_recoverRecall_answers hos hstands)

theorem recall_retryable_prepared :
    ∃ earlier os later, [Os.upward] = earlier ++ os :: later ∧
      Resolution.Answers (recoverRecallRootWithDirectories os (Path.absolute ["s", "t"])
          (Path.absolute ["o"]))
        (recoverRecallAgain (Path.absolute ["s", "t"]) (Path.absolute ["o"]) earlier
          ⟨preparedFileSystem, 0⟩) := by
  refine (recall_retryable (Path.absolute ["s", "t"]) (Path.absolute ["o"]) [Os.upward]
    ⟨preparedFileSystem, 0⟩ preparedManifest ⟨0, 5⟩ ?_ ?_).resolve_right ?_
  · simpa using Os.upward_reliable
  · exact ⟨["s", "t", "manifest.json"], by decide +kernel, by decide +kernel⟩
  · rintro ⟨names, hnames, hfound⟩
    have hgone : (recoverRecallAgain (Path.absolute ["s", "t"]) (Path.absolute ["o"]) [Os.upward]
        ⟨preparedFileSystem, 0⟩).fs.lookup ["s", "t", "manifest.json"] = none := by
      decide +kernel
    have hpath : (Path.absolute ["s", "t"]).join recallManifestName =
        Path.absolute ["s", "t", "manifest.json"] := by
      decide +kernel
    obtain rfl := Path.absolute_injective (hnames.symm.trans hpath)
    rw [hgone] at hfound
    cases hfound

/-- A system on which one call fails. -/
def Os.failingAt (clock : ℕ) : Os :=
  { Os.upward with fails := fun now _ => now = clock }

-- one call is enough: the directory cannot be removed once the manifest is gone
example :
    let result := recoverRecallRootWithDirectories (Os.failingAt 31) (Path.absolute ["s", "t"])
      (Path.absolute ["o"]) ⟨preparedFileSystem, 0⟩
    result.1 = .ok .pending ∧ result.2.fs.lookup ["s", "t", "manifest.json"] = none := by
  decide +kernel

/-- The same of a dump. -/
theorem dump_retryable (outputParent manifestPath : Path) (systems : List Os) (world : World)
    (manifest : TransactionManifest) (identity : FileIdentity)
    (hparent : manifestPath.parent = some outputParent)
    (hreliable : ∀ os ∈ systems, os.Reliable)
    (hmanifest : HasManifest world.fs manifestPath manifest identity) :
    (∃ earlier os later, systems = earlier ++ os :: later ∧
        Resolution.Answers (recoverDumpParent os outputParent manifestPath)
          (recoverDumpAgain outputParent manifestPath earlier world)) ∨
      HasManifest (recoverDumpAgain outputParent manifestPath systems world).fs manifestPath
        manifest identity := by
  refine Resolution.answered_or_stands (P := fun fs => HasManifest fs manifestPath manifest
    identity) ?_ systems hreliable hmanifest
  intro os world hos hstands
  exact Resolution.answers_or_stands (P := fun fs => HasManifest fs manifestPath manifest identity)
    (ends_recoverDump_answers hos hparent hstands)

/-- A dump whose file has been replaced stays pending, with its manifest. -/
theorem dump_retryable_replaced :
    (∃ earlier os later, [Os.upward, Os.upward] = earlier ++ os :: later ∧
        Resolution.Answers (recoverDumpParent os (Path.absolute ["o"])
            (Path.absolute ["o", ".t.manifest.json"]))
          (recoverDumpAgain (Path.absolute ["o"]) (Path.absolute ["o", ".t.manifest.json"]) earlier
            ⟨replacedFileSystem, 0⟩)) ∨
      HasManifest (recoverDumpAgain (Path.absolute ["o"])
          (Path.absolute ["o", ".t.manifest.json"]) [Os.upward, Os.upward]
          ⟨replacedFileSystem, 0⟩).fs
        (Path.absolute ["o", ".t.manifest.json"]) renamedManifest ⟨0, 5⟩ := by
  refine dump_retryable (Path.absolute ["o"]) (Path.absolute ["o", ".t.manifest.json"])
    [Os.upward, Os.upward] ⟨replacedFileSystem, 0⟩ renamedManifest ⟨0, 5⟩ (by decide +kernel) ?_ ?_
  · simpa using Os.upward_reliable
  · exact ⟨["o", ".t.manifest.json"], by decide +kernel, by decide +kernel⟩

end Lamb.Recovery
