import Lamb.Recovery.Approved

/-!
Recovery removes only what the transaction owns. Everything that goes lies
strictly inside an approved root and carries an identity the manifest records,
apart from the manifest itself, the name of a dump manifest's temporary and
the transaction directory of a recall; and nothing goes before the manifest
has passed every check.
-/

namespace Lamb.Recovery

open Lamb.Lib

variable {os : Os} {fs : FileSystem} {world : World} {β : Type}

/-! ### What a manifest owns -/

section Owns

variable (os : Os) (fs : FileSystem)

def OwnsStaged (entry : ManifestEntrySlot) : Location → Entry → Prop :=
  Named os fs Node.isFile entry.staged.1 entry.stagedIdentity

def OwnsPartial (entry : ManifestEntrySlot) (location : Location) (found : Entry) : Prop :=
  ∃ path, entry.partialOf = some (path, entry.partialIdentity) ∧
    Named os fs Node.isFile path entry.partialIdentity location found

/-- A final file is known by its own identity or, before that is recorded, by
the one its partial file had. -/
def OwnsFinal (entry : ManifestEntrySlot) (location : Location) (found : Entry) : Prop :=
  Named os fs Node.isFile entry.finalOf.1 entry.finalIdentity location found ∨
    entry.finalIdentity = none ∧
      Named os fs Node.isFile entry.finalOf.1 entry.partialIdentity location found

def OwnsEntry (entries : List ManifestEntrySlot) (location : Location) (found : Entry) : Prop :=
  ∃ entry ∈ entries, OwnsFinal os fs entry location found ∨ OwnsPartial os fs entry location found ∨
    OwnsStaged os fs entry location found

def OwnsDirectory (manifest : TransactionManifest) (slots : List ManifestDirectorySlot)
    (location : Location) (found : Entry) : Prop :=
  ∃ slot ∈ slots, ∃ path, manifest.directoryPath slot = .ok path ∧
    Named os fs Node.isDir path slot.identity location found

def OwnsManifest (manifestPath : Path) (location : Location) (_ : Entry) : Prop :=
  resolve os fs manifestPath = .ok location

def OwnsStagingRoot (manifest : TransactionManifest) : Location → Entry → Prop :=
  Named os fs Node.isDir manifest.stagingRoot manifest.stagingRootIdentity

/-- Everything besides the final files and the directories above them. -/
def OwnsMetadata (manifest : TransactionManifest) (manifestPath : Path) (location : Location)
    (found : Entry) : Prop :=
  (∃ entry ∈ manifest.entries, OwnsPartial os fs entry location found ∨
      OwnsStaged os fs entry location found) ∨
    OwnsManifest os fs manifestPath location found ∨ OwnsStagingRoot os fs manifest location found

def OwnsRecall (manifest : TransactionManifest) (manifestPath : Path) (location : Location)
    (found : Entry) : Prop :=
  OwnsEntry os fs manifest.entries location found ∨
    OwnsDirectory os fs manifest manifest.directories location found ∨
    OwnsManifest os fs manifestPath location found ∨ OwnsStagingRoot os fs manifest location found

def OwnsTempManifest (manifest : TransactionManifest) (manifestPath : Path) (location : Location)
    (_ : Entry) : Prop :=
  ∃ tempPath, manifestTempPath manifestPath manifest.transactionId = .ok tempPath ∧
    resolve os fs tempPath = .ok location

def OwnsDump (manifest : TransactionManifest) (manifestPath : Path) (location : Location)
    (found : Entry) : Prop :=
  (∃ entry ∈ manifest.entries, OwnsStaged os fs entry location found) ∨
    OwnsStagingRoot os fs manifest location found ∨ OwnsManifest os fs manifestPath location found ∨
    OwnsTempManifest os fs manifest manifestPath location found

end Owns

/-! ### Steps after other removals -/

/-- What a path names after some removals it named before them. -/
theorem named_of_contains (h : fs.Contains world.fs) {rightKind : Entry → Bool} {path : Path}
    {identity : Option FileIdentity} {location : Location} {found : Entry}
    (hnamed : Named os world.fs rightKind path identity location found) :
    Named os fs rightKind path identity location found :=
  ⟨resolve_of_shrinks h hnamed.1, hnamed.2⟩

theorem removesOnly_cleanupFile_of_contains (h : fs.Contains world.fs) {path : Path}
    {identity : Option FileIdentity} :
    RemovesOnly (Named os fs Node.isFile path identity) (cleanupFile os path identity) world :=
  removesOnly_cleanupFile.mono fun _ _ => named_of_contains h

theorem removesOnly_cleanupPartial (h : fs.Contains world.fs) (entry : ManifestEntrySlot) :
    RemovesOnly (OwnsPartial os fs entry) (cleanupPartial os entry) world := by
  unfold cleanupPartial
  cases hpiece : entry.partialOf with
  | none => exact .of_readOnly (.pure _)
  | some slot =>
      obtain ⟨path, identity⟩ := slot
      have hidentity : identity = entry.partialIdentity := by
        unfold ManifestEntrySlot.partialOf at hpiece
        split at hpiece
        · cases hpiece
        · exact (Prod.mk.inj (Option.some.inj hpiece)).2.symm
      subst hidentity
      refine (removesOnly_cleanupFile_of_contains h).mono ?_
      exact fun _ _ hnamed => ⟨path, hpiece, hnamed⟩

theorem ends_inferredFinalIdentity {manifest : TransactionManifest} {entry : ManifestEntrySlot}
    {index : ℕ} : Attempt.Ends (inferredFinalIdentity os manifest entry index) world
      (fun identity world' => world'.fs = world.fs ∧
        (identity = none ∨ identity = entry.finalIdentity ∨
          entry.finalIdentity = none ∧ identity = entry.partialIdentity))
      fun _ world' => world'.fs = world.fs := by
  unfold inferredFinalIdentity
  refine .ite (fun _ => Attempt.Ends.pure ⟨rfl, .inr (.inl rfl)⟩) fun hfinal => ?_
  refine .ite (fun _ => Attempt.Ends.pure ⟨rfl, .inl rfl⟩) fun _ => ?_
  cases hidentity : entry.partialIdentity with
  | none => exact Attempt.Ends.pure ⟨rfl, .inl rfl⟩
  | some identity =>
      dsimp only
      split
      · exact Attempt.Ends.fail rfl
      · refine .bind (Q := fun _ world' => world'.fs = world.fs)
          (.of_reached (readOnly_pathExists world)) ?_
        intro exists_ world' hfs
        refine Attempt.Ends.pure ⟨hfs, ?_⟩
        cases exists_ with
        | true => exact .inl rfl
        | false => exact .inr (.inr ⟨by simpa using hfinal, rfl⟩)

/-- The final file of one entry, under the identity inferred for it. -/
theorem removesOnly_cleanupFinal (h : fs.Contains world.fs) {manifest : TransactionManifest}
    (entry : ManifestEntrySlot) (index : ℕ) :
    RemovesOnly (OwnsFinal os fs entry)
      (inferredFinalIdentity os manifest entry index >>= cleanupFile os entry.finalOf.1) world := by
  refine Attempt.Ends.bind (Q := fun identity world' => world'.fs = world.fs ∧
    (identity = none ∨ identity = entry.finalIdentity ∨
      entry.finalIdentity = none ∧ identity = entry.partialIdentity)) ?_ ?_
  · refine Attempt.Ends.mono ends_inferredFinalIdentity (fun _ _ hq => hq) ?_
    intro _ world' hfs
    rw [hfs]
    exact .refl _
  · rintro identity world' ⟨hfs, hidentity⟩
    rw [← hfs] at h ⊢
    refine (removesOnly_cleanupFile_of_contains h).mono ?_
    intro location found hnamed
    rcases hidentity with rfl | rfl | ⟨hnone, rfl⟩
    · cases hnamed.2.1
    · exact .inl hnamed
    · exact .inr ⟨hnone, hnamed⟩

theorem removesOnly_cleanupEntries {manifest : TransactionManifest}
    (entries : List (ManifestEntrySlot × ℕ)) (h : fs.Contains world.fs) :
    RemovesOnly (OwnsEntry os fs (entries.map Prod.fst)) (cleanupEntries os manifest entries)
      world := by
  induction entries generalizing world with
  | nil => exact .of_readOnly (.pure _)
  | cons item entries ih =>
      obtain ⟨entry, index⟩ := item
      have hin : entry ∈ ((entry, index) :: entries).map Prod.fst := by simp
      unfold cleanupEntries
      rw [Attempt.bind_assoc]
      refine .bindContains h ((removesOnly_cleanupFinal h entry index).mono ?_) ?_
      · exact fun _ _ howns => ⟨entry, hin, .inl howns⟩
      intro _ world₁ h₁
      refine .bindContains h₁ ((removesOnly_cleanupPartial h₁ entry).mono ?_) ?_
      · exact fun _ _ howns => ⟨entry, hin, .inr (.inl howns)⟩
      intro _ world₂ h₂
      refine .bindContains h₂ ((removesOnly_cleanupFile_of_contains h₂).mono ?_) ?_
      · exact fun _ _ hnamed => ⟨entry, hin, .inr (.inr hnamed)⟩
      intro _ world₃ h₃
      refine .bindContains h₃ ((ih h₃).mono ?_) ?_
      · rintro location found ⟨entry', hin', howns⟩
        exact ⟨entry', by simp [hin'], howns⟩
      · exact fun _ _ _ => .of_readOnly (.pure _)

theorem removesOnly_removeDirectories {manifest : TransactionManifest}
    (slots : List ManifestDirectorySlot) (h : fs.Contains world.fs) :
    RemovesOnly (OwnsDirectory os fs manifest slots) (removeDirectories os manifest slots)
      world := by
  induction slots generalizing world with
  | nil => exact .of_readOnly (.pure _)
  | cons slot slots ih =>
      unfold removeDirectories
      refine .bindContains h (f := removeOwnedDirectory os manifest slot) ?_ ?_
      · refine .ite (fun _ => ?_) fun _ => .of_readOnly (.pure _)
        refine Attempt.Ends.bindOfExcept (fun _ _ => .refl _) ?_
        intro path hpath
        refine RemovesOnly.bindContains h
          (RemovesOnly.mono removesOnly_removeDirectoryIfIdentity ?_)
          fun _ _ _ => .of_readOnly (.pure _)
        exact fun location found hnamed => ⟨slot, by simp, path, hpath, named_of_contains h hnamed⟩
      · intro _ world₁ h₁
        refine (ih h₁).mono ?_
        rintro location found ⟨slot', hin', howns⟩
        exact ⟨slot', by simp [hin'], howns⟩

theorem removesOnly_cleanupStagedAndPartials (entries : List ManifestEntrySlot)
    (h : fs.Contains world.fs) :
    RemovesOnly (fun location found => ∃ entry ∈ entries, OwnsPartial os fs entry location found ∨
        OwnsStaged os fs entry location found) (cleanupStagedAndPartials os entries) world := by
  induction entries generalizing world with
  | nil => exact .of_readOnly (.pure _)
  | cons entry entries ih =>
      unfold cleanupStagedAndPartials
      refine .bindContains h (.capture ((removesOnly_cleanupFile_of_contains h).mono ?_)) ?_
      · exact fun _ _ hnamed => ⟨entry, by simp, .inr hnamed⟩
      intro _ world₁ h₁
      refine .bindContains h₁ (.capture ((removesOnly_cleanupPartial h₁ entry).mono ?_)) ?_
      · exact fun _ _ howns => ⟨entry, by simp, .inl howns⟩
      intro _ world₂ h₂
      refine (ih h₂).mono ?_
      rintro location found ⟨entry', hin', howns⟩
      exact ⟨entry', by simp [hin'], howns⟩

theorem removesOnly_removeManifest (h : fs.Contains world.fs) {manifestPath : Path}
    {identity : FileIdentity} :
    RemovesOnly (OwnsManifest os fs manifestPath) (removeIfIdentity os manifestPath identity)
      world :=
  removesOnly_removeIfIdentity.mono fun _ _ hnamed => resolve_of_shrinks h hnamed.1

theorem removesOnly_removeStagingRoot (h : fs.Contains world.fs) {manifest : TransactionManifest} :
    RemovesOnly (OwnsStagingRoot os fs manifest)
      (removeDirectoryIfIdentity os manifest.stagingRoot manifest.stagingRootIdentity) world :=
  removesOnly_removeDirectoryIfIdentity.mono fun _ _ => named_of_contains h

/-! ### The two branches of a recall -/

theorem removesOnly_bestEffortRemoveRecallMetadata {manifest : TransactionManifest}
    {manifestPath : Path} {identity : FileIdentity} (h : fs.Contains world.fs) :
    RemovesOnly (OwnsMetadata os fs manifest manifestPath)
      (bestEffortRemoveRecallMetadata os manifest manifestPath identity) world := by
  unfold bestEffortRemoveRecallMetadata
  refine .bindContains h ((removesOnly_cleanupStagedAndPartials manifest.entries h).mono ?_) ?_
  · exact fun _ _ howns => .inl howns
  intro _ world₁ h₁
  refine .bindContains h₁ (.of_readOnly (.capture readOnly_directoryContainsOnly)) ?_
  intro only world₂ h₂
  refine .ite (fun _ => ?_) fun _ => .of_readOnly (.pure _)
  refine .bindContains h₂ (.capture ((removesOnly_removeManifest h₂).mono ?_)) ?_
  · exact fun _ _ howns => .inr (.inl howns)
  intro _ world₃ h₃
  refine .bindContains h₃ (.capture ((removesOnly_removeStagingRoot h₃).mono ?_)) ?_
  · exact fun _ _ howns => .inr (.inr howns)
  · exact fun _ _ _ => .of_readOnly (.pure _)

theorem removesOnly_finishRecall {manifest : TransactionManifest} {identity : FileIdentity}
    {outputRoot manifestPath : Path} (h : fs.Contains world.fs) :
    RemovesOnly (OwnsMetadata os fs manifest manifestPath)
      (finishRecall os manifest identity outputRoot manifestPath) world := by
  unfold finishRecall
  refine .bindContains h (.of_readOnly (readOnly_syncFinals _)) ?_
  intro _ world₁ h₁
  refine .bindContains h₁ (.of_readOnly readOnly_syncFileSetDirectories) ?_
  intro _ world₂ h₂
  refine .bindContains h₂ (removesOnly_bestEffortRemoveRecallMetadata h₂) ?_
  intro _ world₃ h₃
  split
  · exact .of_readOnly (.bind (.capture readOnly_syncDirectory) fun _ => .pure _)
  · exact .of_readOnly (.pure _)

theorem removesOnly_rollBackRecall {manifest : TransactionManifest} {identity : FileIdentity}
    {manifestPath : Path} (h : fs.Contains world.fs) :
    RemovesOnly (OwnsRecall os fs manifest manifestPath)
      (rollBackRecall os manifest identity manifestPath) world := by
  unfold rollBackRecall
  refine .bindContains h ((removesOnly_cleanupEntries manifest.entries.zipIdx h).mono ?_) ?_
  · intro location found howns
    rw [List.zipIdx_map_fst] at howns
    exact .inl howns
  intro pending world₁ h₁
  refine .ite (fun _ => .of_readOnly (.pure _)) fun _ => ?_
  refine .bindContains h₁ ((removesOnly_removeDirectories _ h₁).mono ?_) ?_
  · rintro location found ⟨slot, hin, howns⟩
    exact .inr (.inl ⟨slot, List.mem_reverse.1 hin, howns⟩)
  intro _ world₂ h₂
  refine .bindContains h₂ (.of_readOnly readOnly_directoryContainsOnly) ?_
  intro only world₃ h₃
  refine .ite (fun _ => ?_) fun _ => .of_readOnly (.pure _)
  refine .bindContains h₃ ((removesOnly_removeManifest h₃).mono ?_) ?_
  · exact fun _ _ howns => .inr (.inr (.inl howns))
  intro _ world₄ h₄
  refine .bindContains h₄ ((removesOnly_removeStagingRoot h₄).mono ?_) ?_
  · exact fun _ _ howns => .inr (.inr (.inr howns))
  · exact fun _ _ _ => .of_readOnly (.pure _)

/-! ### The two branches of a dump -/

theorem removesOnly_removeDumpManifest {manifest : TransactionManifest} {identity : FileIdentity}
    {manifestPath : Path} (hname : manifestPath.fileName ≠ none) (h : fs.Contains world.fs) :
    RemovesOnly (OwnsDump os fs manifest manifestPath)
      (removeDumpManifest os manifest identity manifestPath) world := by
  unfold removeDumpManifest
  refine .bindContains h ((removesOnly_removeManifest h).mono ?_) ?_
  · exact fun _ _ howns => .inr (.inr (.inl howns))
  intro _ world₁ h₁
  obtain ⟨name, hsome⟩ := Option.ne_none_iff_exists'.1 hname
  have htemp : manifestTempPath manifestPath manifest.transactionId =
      .ok (manifestPath.withFileName (manifestTempName name manifest.transactionId)) := by
    unfold manifestTempPath
    rw [hsome]
  refine (removesOnly_cleanupDumpTempManifest htemp).mono ?_
  exact fun _ _ hresolve => .inr (.inr (.inr ⟨_, htemp, resolve_of_shrinks h₁ hresolve⟩))

theorem removesOnly_finishDump {manifest : TransactionManifest} {identity : FileIdentity}
    {outputParent manifestPath : Path} (hname : manifestPath.fileName ≠ none)
    (h : fs.Contains world.fs) :
    RemovesOnly (OwnsDump os fs manifest manifestPath)
      (finishDump os manifest identity outputParent manifestPath) world := by
  unfold finishDump
  refine .bindContains h (.of_readOnly (readOnly_syncDumpFinals _)) ?_
  intro _ world₁ h₁
  split
  · exact .of_readOnly (.fail _)
  · exact .of_readOnly (.fail _)
  · refine .bindContains h₁ (.of_readOnly readOnly_syncOwnedDirectory) ?_
    intro _ world₂ h₂
    refine .bindContains h₂ (.of_readOnly readOnly_syncDirectory) ?_
    intro _ world₃ h₃
    refine .bindContains h₃ (removesOnly_removeDumpManifest hname h₃) ?_
    intro clean world₄ h₄
    refine .ite (fun _ => .of_readOnly ?_) fun _ => .of_readOnly (.pure _)
    exact .bind readOnly_syncDirectory fun _ => .pure _

theorem removesOnly_cleanupStaged (entries : List ManifestEntrySlot) (h : fs.Contains world.fs) :
    RemovesOnly (fun location found => ∃ entry ∈ entries, OwnsStaged os fs entry location found)
      (cleanupStaged os entries) world := by
  induction entries generalizing world with
  | nil => exact .of_readOnly (.pure _)
  | cons entry entries ih =>
      unfold cleanupStaged
      refine .bindContains h ((removesOnly_cleanupFile_of_contains h).mono ?_) ?_
      · exact fun _ _ hnamed => ⟨entry, by simp, hnamed⟩
      intro clean world₁ h₁
      refine .ite (fun _ => ?_) fun _ => .of_readOnly (.pure _)
      refine (ih h₁).mono ?_
      rintro location found ⟨entry', hin', howns⟩
      exact ⟨entry', by simp [hin'], howns⟩

theorem removesOnly_rollBackDump {manifest : TransactionManifest} {identity : FileIdentity}
    {manifestPath : Path} (hname : manifestPath.fileName ≠ none) (h : fs.Contains world.fs) :
    RemovesOnly (OwnsDump os fs manifest manifestPath)
      (rollBackDump os manifest identity manifestPath) world := by
  unfold rollBackDump
  split
  · exact .of_readOnly (.fail _)
  · refine .bindContains h (.of_readOnly readOnly_finalDirectoryInPlace) ?_
    intro inPlace world₁ h₁
    refine .ite (fun _ => .of_readOnly (.pure _)) fun _ => ?_
    refine .bindContains h₁ ((removesOnly_cleanupStaged manifest.entries h₁).mono ?_) ?_
    · exact fun _ _ howns => .inl howns
    intro clean world₂ h₂
    refine .ite (fun _ => ?_) fun _ => .of_readOnly (.pure _)
    refine .bindContains h₂ ((removesOnly_removeStagingRoot h₂).mono ?_) ?_
    · exact fun _ _ howns => .inr (.inl howns)
    intro removed world₃ h₃
    refine .ite (fun _ => ?_) fun _ => .of_readOnly (.pure _)
    refine .bindContains h₃ (removesOnly_removeDumpManifest hname h₃) ?_
    exact fun _ _ _ => .of_readOnly (.pure _)

/-! ### Whole calls -/

/-- A location below a root, and not the root itself. -/
def StrictlyInside (root : Path) (location : Location) : Prop :=
  ∃ names, root = Path.absolute names ∧ names <+: location ∧ names ≠ location

theorem Inside.strictlyInside {root : List String} {path : Path} {location : Location}
    (h : Inside fs root path) (hresolve : resolve os fs path = .ok location) :
    StrictlyInside (Path.absolute root) location := by
  obtain ⟨names, rfl, hpre, hne, hfree⟩ := h
  obtain rfl := hfree.above.resolve_eq hresolve
  exact ⟨root, rfl, hpre, hne⟩

section Identities

variable {manifest : TransactionManifest} {identity : FileIdentity}

theorem mem_identities_of_entry {entry : ManifestEntrySlot} (hentry : entry ∈ manifest.entries)
    (h : entry.stagedIdentity = some identity ∨ entry.partialIdentity = some identity ∨
      entry.finalIdentity = some identity) : identity ∈ manifest.identities := by
  unfold TransactionManifest.identities
  refine List.mem_append_left _ (List.mem_append_right _ (List.mem_flatMap.2 ⟨entry, hentry, ?_⟩))
  rcases h with h | h | h
  · simp [h]
  · simp [h]
  · simp [h]

theorem mem_identities_of_directory {slot : ManifestDirectorySlot}
    (hslot : slot ∈ manifest.directories) (h : slot.identity = some identity) :
    identity ∈ manifest.identities := by
  unfold TransactionManifest.identities
  refine List.mem_append_right _ (List.mem_flatMap.2 ⟨slot, hslot, ?_⟩)
  simp [h]

theorem mem_identities_of_stagingRoot (h : manifest.stagingRootIdentity = some identity) :
    identity ∈ manifest.identities := by
  unfold TransactionManifest.identities
  simp [h]

end Identities

/-- What the manifest on disk allows the recovery of a recall to remove. -/
def RemovableRecall (os : Os) (fs : FileSystem) (transactionRoot outputRoot : Path)
    (location : Location) (found : Entry) : Prop :=
  ∃ manifest identity,
    ManifestAt os fs (transactionRoot.join recallManifestName) manifest identity ∧
      ((StrictlyInside transactionRoot location ∨ StrictlyInside outputRoot location) ∧
          found.identity ∈ manifest.identities ∨
        transactionRoot = Path.absolute location ∧
          manifest.stagingRootIdentity = some found.identity ∨
        OwnsManifest os fs (transactionRoot.join recallManifestName) location found)

/-- What the manifest on disk allows the recovery of a dump to remove. -/
def RemovableDump (os : Os) (fs : FileSystem) (outputParent manifestPath : Path)
    (location : Location) (found : Entry) : Prop :=
  ∃ manifest identity, ManifestAt os fs manifestPath manifest identity ∧
    (StrictlyInside outputParent location ∧ found.identity ∈ manifest.identities ∨
      OwnsManifest os fs manifestPath location found ∨
      OwnsTempManifest os fs manifest manifestPath location found)

theorem Approved.ownsStaged {expected : Strategy} {staging output : List String}
    {manifestPath : Path} {manifest : TransactionManifest} {entry : ManifestEntrySlot}
    {location : Location} {found : Entry}
    (h : Approved fs expected staging output manifestPath manifest)
    (hentry : entry ∈ manifest.entries) (howns : OwnsStaged os fs entry location found) :
    StrictlyInside (Path.absolute staging) location ∧ found.identity ∈ manifest.identities := by
  obtain ⟨hresolve, hidentity, -⟩ := howns
  exact ⟨(h.entries entry hentry).staged.strictlyInside hresolve,
    mem_identities_of_entry hentry (.inl hidentity)⟩

theorem Approved.ownsEntry {expected : Strategy} {staging output : List String}
    {manifestPath : Path} {manifest : TransactionManifest} {location : Location} {found : Entry}
    (h : Approved fs expected staging output manifestPath manifest)
    (howns : OwnsEntry os fs manifest.entries location found) :
    (StrictlyInside (Path.absolute staging) location ∨
        StrictlyInside (Path.absolute output) location) ∧
      found.identity ∈ manifest.identities := by
  obtain ⟨entry, hentry, (hfinal | ⟨-, hpiece⟩) | ⟨path, hpath, hnamed⟩ | hstaged⟩ := howns
  · exact ⟨.inr ((h.entries entry hentry).finalOf.strictlyInside hfinal.1),
      mem_identities_of_entry hentry (.inr (.inr hfinal.2.1))⟩
  · exact ⟨.inr ((h.entries entry hentry).finalOf.strictlyInside hpiece.1),
      mem_identities_of_entry hentry (.inr (.inl hpiece.2.1))⟩
  · exact ⟨.inr (((h.entries entry hentry).partialOf _ _ hpath).strictlyInside hnamed.1),
      mem_identities_of_entry hentry (.inr (.inl hnamed.2.1))⟩
  · obtain ⟨hinside, hidentity⟩ := h.ownsStaged hentry hstaged
    exact ⟨.inl hinside, hidentity⟩

theorem Approved.ownsRecall {staging output : List String} {manifest : TransactionManifest}
    {identity : FileIdentity} {location : Location} {found : Entry}
    (h : Approved fs .fileSet staging output
      ((Path.absolute staging).join recallManifestName) manifest)
    (hmanifest : ManifestAt os fs ((Path.absolute staging).join recallManifestName) manifest
      identity)
    (howns : OwnsRecall os fs manifest ((Path.absolute staging).join recallManifestName) location
      found) :
    RemovableRecall os fs (Path.absolute staging) (Path.absolute output) location found := by
  refine ⟨manifest, identity, hmanifest, ?_⟩
  rcases howns with hentry | ⟨slot, hslot, path, hpath, hnamed⟩ | howns | howns
  · exact .inl (h.ownsEntry hentry)
  · obtain ⟨path', hpath', hinside⟩ := h.directories slot hslot
    obtain rfl := Except.ok.inj (hpath.symm.trans hpath')
    exact .inl ⟨.inr (hinside.strictlyInside hnamed.1),
      mem_identities_of_directory hslot hnamed.2.1⟩
  · exact .inr (.inr howns)
  · obtain ⟨hresolve, hidentity, -⟩ := howns
    rw [h.stagingRoot] at hresolve
    obtain rfl := h.stagingFree.above.resolve_eq hresolve
    exact .inr (.inl ⟨rfl, hidentity⟩)

theorem Approved.ownsDump {staging output : List String} {manifestPath : Path}
    {manifest : TransactionManifest} {identity : FileIdentity} {location : Location}
    {found : Entry} (h : Approved fs .atomicDirectory staging output manifestPath manifest)
    (hmanifest : ManifestAt os fs manifestPath manifest identity)
    (howns : OwnsDump os fs manifest manifestPath location found) :
    RemovableDump os fs (Path.absolute output) manifestPath location found := by
  obtain ⟨hpre, hne⟩ := h.stagingInside rfl
  refine ⟨manifest, identity, hmanifest, ?_⟩
  rcases howns with ⟨entry, hentry, howns⟩ | howns | howns | howns
  · obtain ⟨⟨names, hnames, hbelow, -⟩, hidentity⟩ := h.ownsStaged hentry howns
    obtain rfl := Path.absolute_injective hnames
    refine .inl ⟨⟨output, rfl, hpre.trans hbelow, ?_⟩, hidentity⟩
    rintro rfl
    exact hne (hpre.eq_of_length_le hbelow.length_le)
  · obtain ⟨hresolve, hidentity, -⟩ := howns
    rw [h.stagingRoot] at hresolve
    obtain rfl := h.stagingFree.above.resolve_eq hresolve
    exact .inl ⟨⟨output, rfl, hpre, hne⟩, mem_identities_of_stagingRoot hidentity⟩
  · exact .inr (.inl howns)
  · exact .inr (.inr howns)

theorem removesOnly_recoverRecall {transactionRoot outputRoot : Path} :
    RemovesOnly (RemovableRecall os world.fs transactionRoot outputRoot)
      (recoverRecallRootWithDirectories os transactionRoot outputRoot) world := by
  unfold recoverRecallRootWithDirectories
  refine Attempt.Ends.bind (Attempt.Ends.mono ends_readValidated (fun _ _ h => h) ?_) ?_
  · intro _ world' hfs
    rw [hfs]
    exact .refl _
  · rintro ⟨manifest, identity⟩ world₁ ⟨hfs₁, hmanifest, staging, output, rfl, rfl, happroved⟩
    rw [← hfs₁] at hmanifest happroved ⊢
    refine RemovesOnly.bindContains (FileTree.Shrinks.refl world₁.fs)
      (.of_readOnly readOnly_completeFinalSet) ?_
    intro complete world₂ h₂
    refine .ite (fun _ => ?_) fun _ => ?_
    · refine (removesOnly_finishRecall h₂).mono ?_
      rintro location found (⟨entry, hentry, howns⟩ | howns | howns)
      · exact happroved.ownsRecall hmanifest (.inl ⟨entry, hentry, .inr howns⟩)
      · exact happroved.ownsRecall hmanifest (.inr (.inr (.inl howns)))
      · exact happroved.ownsRecall hmanifest (.inr (.inr (.inr howns)))
    · exact (removesOnly_rollBackRecall h₂).mono fun _ _ => happroved.ownsRecall hmanifest

theorem removesOnly_recoverDump {outputParent manifestPath : Path} :
    RemovesOnly (RemovableDump os world.fs outputParent manifestPath)
      (recoverDumpParent os outputParent manifestPath) world := by
  unfold recoverDumpParent
  refine Attempt.Ends.bind (Attempt.Ends.mono ends_readValidated (fun _ _ h => h) ?_) ?_
  · intro _ world' hfs
    rw [hfs]
    exact .refl _
  · rintro ⟨manifest, identity⟩ world₁ ⟨hfs₁, hmanifest, staging, output, -, rfl, happroved⟩
    rw [← hfs₁] at hmanifest happroved ⊢
    refine RemovesOnly.bindContains (FileTree.Shrinks.refl world₁.fs)
      (.of_readOnly readOnly_completeFinalSet) ?_
    intro complete world₂ h₂
    have hname := happroved.manifestName
    refine .ite (fun _ => ?_) fun _ => ?_
    · exact (removesOnly_finishDump hname h₂).mono fun _ _ => happroved.ownsDump hmanifest
    · exact (removesOnly_rollBackDump hname h₂).mono fun _ _ => happroved.ownsDump hmanifest

/-- Whatever a manifest says and whatever calls fail, recovery only removes
entries, and of those only what the manifest on disk makes removable; when
the manifest is rejected the file system stays as it is. -/
theorem recovery_removes_only_owned (os : Os) (world : World) :
    (∀ transactionRoot outputRoot,
      world.fs.Shrinks (RemovableRecall os world.fs transactionRoot outputRoot)
          (recoverRecallRootWithDirectories os transactionRoot outputRoot world).2.fs ∧
        ∀ e, (readValidated os .fileSet (fun _ => transactionRoot) outputRoot
            (transactionRoot.join recallManifestName) world).1 = .error e →
          (recoverRecallRootWithDirectories os transactionRoot outputRoot world).1 = .error e ∧
            (recoverRecallRootWithDirectories os transactionRoot outputRoot world).2.fs =
              world.fs) ∧
    ∀ outputParent manifestPath,
      world.fs.Shrinks (RemovableDump os world.fs outputParent manifestPath)
          (recoverDumpParent os outputParent manifestPath world).2.fs ∧
        ∀ e, (readValidated os .atomicDirectory TransactionManifest.stagingRoot outputParent
            manifestPath world).1 = .error e →
          (recoverDumpParent os outputParent manifestPath world).1 = .error e ∧
            (recoverDumpParent os outputParent manifestPath world).2.fs = world.fs := by
  have hread {expected : Strategy} {stagingRoot : TransactionManifest → Path}
      {outputRoot manifestPath : Path} :
      (readValidated os expected stagingRoot outputRoot manifestPath world).2.fs = world.fs := by
    refine Attempt.Ends.reached (P := fun world' : World => world'.fs = world.fs) ?_
    exact Attempt.Ends.mono ends_readValidated (fun _ _ h => h.1) fun _ _ h => h
  refine ⟨?_, ?_⟩
  · intro transactionRoot outputRoot
    refine ⟨removesOnly_recoverRecall.reached, ?_⟩
    intro e herror
    unfold recoverRecallRootWithDirectories
    rw [Attempt.bind_of_error herror]
    exact ⟨rfl, hread⟩
  · intro outputParent manifestPath
    refine ⟨removesOnly_recoverDump.reached, ?_⟩
    intro e herror
    unfold recoverDumpParent
    rw [Attempt.bind_of_error herror]
    exact ⟨rfl, hread⟩

/-! ### The transaction directory -/

/-- A recall of one file that was interrupted before anything was published. -/
def preparedManifest : TransactionManifest where
  version := manifestVersion
  uid := 0
  kind := .fileSet
  phase := .prepared
  transactionId := "t"
  stagingRootPath := "/s/t"
  stagingRootIdentity := some ⟨0, 3⟩
  outputRoot := "/o"
  entries :=
    [{ stagedPath := "/s/t/a"
       stagedIdentity := some ⟨0, 4⟩
       partialPath := "/o/.a.t.partial"
       finalPath := "/o/a" }]

def preparedFileSystem : FileSystem :=
  FileTree.ofEntries
    [([], .directory ⟨0, 0⟩), (["s"], .directory ⟨0, 1⟩), (["o"], .directory ⟨0, 2⟩),
      (["s", "t"], .directory ⟨0, 3⟩), (["s", "t", "a"], .file ⟨0, 4⟩ (.data [])),
      (["s", "t", "manifest.json"], .file ⟨0, 5⟩ (.manifest preparedManifest))]
    (by decide +kernel)

/-- The transaction directory of a recall goes too, and it is inside neither
root. -/
theorem recovery_strictly_inside_fails :
    ¬∀ (os : Os) (world : World) (transactionRoot outputRoot : Path),
      world.fs.Shrinks
        (fun location found => ∃ manifest identity,
          ManifestAt os world.fs (transactionRoot.join recallManifestName) manifest identity ∧
            ((StrictlyInside transactionRoot location ∨ StrictlyInside outputRoot location) ∧
                found.identity ∈ manifest.identities ∨
              OwnsManifest os world.fs (transactionRoot.join recallManifestName) location found))
        (recoverRecallRootWithDirectories os transactionRoot outputRoot world).2.fs := by
  intro h
  have hgone : (recoverRecallRootWithDirectories Os.upward (Path.absolute ["s", "t"])
      (Path.absolute ["o"]) ⟨preparedFileSystem, 0⟩).2.fs.lookup ["s", "t"] = none := by
    decide +kernel
  have hthere : preparedFileSystem.lookup ["s", "t"] = some (.directory ⟨0, 3⟩) := by
    decide +kernel
  rcases h Os.upward ⟨preparedFileSystem, 0⟩ (Path.absolute ["s", "t"]) (Path.absolute ["o"])
    ["s", "t"] with heq | ⟨-, found, -, manifest, identity, -, ⟨hinside, -⟩ | hmanifest⟩
  · rw [hgone, hthere] at heq
    cases heq
  · rcases hinside with ⟨names, hnames, -, hne⟩ | ⟨names, hnames, hpre, -⟩
    · exact hne (Path.absolute_injective hnames).symm
    · obtain rfl := Path.absolute_injective hnames
      revert hpre
      decide
  · revert hmanifest
    unfold OwnsManifest
    decide +kernel

end Lamb.Recovery
