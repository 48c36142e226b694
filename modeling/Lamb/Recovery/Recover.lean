import Lamb.Lib.Scan
import Lamb.Recovery.Validate

/-!
Recovery of one interrupted transaction. Everything recovery decides, it
decides from the manifest and from what it finds on disk; it removes an entry
only when the entry carries a recorded identity.
-/

namespace Lamb.Recovery

open Lamb.Lib

inductive RecoveryOutcome
  | complete
  | rolledBack
  | pending
  deriving DecidableEq, Repr

/-! ### Entries on disk -/

def pathExists (os : Os) (path : Path) : Io Bool :=
  lookAt os path (pure false) fun _ => pure true

def identityMatches (os : Os) (path : Path) (expected : FileIdentity) (directory : Bool) :
    Io Bool :=
  lookAt os path (pure false) fun entry =>
    pure ((if directory then entry.isDir else entry.isFile) && entry.identity = expected)

/-- Whether a removal left nothing behind. -/
def isGone : Except IoErrorKind Unit → Bool
  | .ok () => true
  | .error kind => kind = .notFound

/-- Removes the entry at `path` if it has the identity. The answer is whether
nothing of the transaction is left there. -/
def removeOwned (os : Os) (rightKind : Entry → Bool)
    (remove : Os → Path → Io (Except IoErrorKind Unit)) (path : Path)
    (identity : Option FileIdentity) : Io Bool :=
  match identity with
  | none => do
      let exists_ ← pathExists os path
      pure !exists_
  | some identity =>
      lookAt os path (pure true) fun entry =>
        if entry.identity ≠ identity then pure true
        else if rightKind entry = false then pure false
        else do
          let removed ← remove os path
          pure (isGone removed)

def cleanupFile (os : Os) (path : Path) (identity : Option FileIdentity) : Io Bool :=
  removeOwned os Node.isFile removeFile path identity

def removeDirectoryIfIdentity (os : Os) (path : Path) (identity : Option FileIdentity) : Io Bool :=
  removeOwned os Node.isDir removeDir path identity

def removeIfIdentity (os : Os) (path : Path) (expected : FileIdentity) : Io Unit :=
  lookAt os path (pure ()) fun entry =>
    if entry.identity ≠ expected ∨ entry.isFile = false then pure ()
    else orFail (removeFile os path)

def directoryContainsOnly (os : Os) (directory allowed : Path) : Io Bool := do
  let names ← orFail (readDir os directory)
  pure (names.all fun name => directory.join name = allowed)

def manifestTempName (fileName transactionId : String) : String :=
  "." ++ fileName ++ "." ++ transactionId ++ ".tmp"

def manifestTempPath (manifestPath : Path) (transactionId : String) : Result Path :=
  match manifestPath.fileName with
  | none => .error (.validation "manifest filename is invalid")
  | some fileName => .ok (manifestPath.withFileName (manifestTempName fileName transactionId))

/-- Unlike every other removal this one asks for a name only. -/
def cleanupDumpTempManifest (os : Os) (manifestPath : Path) (transactionId : String) : Io Bool := do
  let tempPath ← Attempt.ofExcept (manifestTempPath manifestPath transactionId)
  lookAt os tempPath (pure true) fun entry =>
    if entry.isFile = false then pure true
    else do
      let removed ← removeFile os tempPath
      pure (isGone removed)

/-! ### Synchronization -/

def syncDirectory (os : Os) (path : Path) : Io Unit := do
  let _ ← orFail (openDirectory os path)
  orFail (onOpenFile os)

def syncOwnedDirectory (os : Os) (path : Path) (expected : FileIdentity) : Io Unit := do
  let entry ← orFail (openDirectory os path)
  orFail (onOpenFile os)
  Attempt.require (entry.identity = expected)
    (.validation "published directory identity changed before synchronization")
  orFail (onOpenFile os)
  let matches_ ← identityMatches os path expected true
  Attempt.require (matches_ = true)
    (.validation "published directory identity changed during synchronization")

def syncRegularFile (os : Os) (path : Path) (expected : FileIdentity) : Io Unit := do
  let entry ← orFail (openNoFollow os path)
  orFail (onOpenFile os)
  Attempt.require (entry.isFile = true)
    (.validation "published path is not a regular file")
  Attempt.require (entry.identity = expected)
    (.validation "published file identity changed before synchronization")
  orFail (onOpenFile os)
  let matches_ ← identityMatches os path expected false
  Attempt.require (matches_ = true)
    (.validation "published file identity changed during synchronization")

def syncUnseen (os : Os) (seen : Path → Bool) (candidate : Path) : Io Unit :=
  if seen candidate then pure () else syncDirectory os candidate

/-- The directories above one final path, from the byte offset `stop` of its
parent's text on. Slicing off a character boundary panics. The offset grows
with every round, so a fuel above the length of the text is never used up. -/
def syncAncestors (os : Os) (seen : Path → Bool) (parent : List Char) : ℕ → ℕ → Io Unit
  | 0, _ => pure ()
  | fuel + 1, stop =>
      if stop < Path.byteLength parent then
        match Path.dropBytes parent (stop + 1) with
        | none => Attempt.fail .panicked
        | some tail =>
            let stop := stop + 1 + Path.byteLength (tail.takeWhile (· ≠ '/'))
            match Path.takeBytes parent stop with
            | none => Attempt.fail .panicked
            | some text => do
                syncUnseen os seen (Path.ofText (String.ofList text))
                syncAncestors os seen parent fuel stop
      else pure ()

def syncParents (os : Os) (outputRoot : Path) (prior : List ManifestEntrySlot)
    (entry : ManifestEntrySlot) : Io Unit :=
  match Path.parentChars entry.finalPath.toList with
  | none => pure ()
  | some parent =>
      let seen := fun candidate => prior.any fun earlier =>
        earlier.finalOf.1.parent.any fun parent => parent.startsWith candidate
      syncAncestors os seen parent (Path.byteLength parent + 1)
        (Path.byteLength outputRoot.display.toList)

def syncEntryAncestors (os : Os) (outputRoot : Path) :
    List ManifestEntrySlot → List ManifestEntrySlot → Io Unit
  | _, [] => pure ()
  | prior, entry :: entries => do
      syncParents os outputRoot prior entry
      syncEntryAncestors os outputRoot (prior ++ [entry]) entries

def syncFileSetDirectories (os : Os) (manifest : TransactionManifest) (outputRoot : Path) :
    Io Unit := do
  syncDirectory os outputRoot
  syncEntryAncestors os outputRoot [] manifest.entries

/-! ### What is in place -/

/-- The identity of the final file of an entry. Between its rename and the
next manifest it is the one recorded for the partial file, which is gone. -/
def inferredFinalIdentity (os : Os) (manifest : TransactionManifest) (entry : ManifestEntrySlot)
    (index : ℕ) : Io (Option FileIdentity) :=
  if entry.finalIdentity.isSome then pure entry.finalIdentity
  else if manifest.phase ≠ .publishing index then pure none
  else
    match entry.partialIdentity with
    | none => pure none
    | some partialIdentity =>
        match entry.partialOf with
        | none => Attempt.fail .panicked
        | some (partialPath, _) => do
            let exists_ ← pathExists os partialPath
            pure (if exists_ then none else some partialIdentity)

def finalsMatch (os : Os) (manifest : TransactionManifest) :
    List (ManifestEntrySlot × ℕ) → Io Bool
  | [] => pure true
  | (entry, index) :: entries => do
      match ← inferredFinalIdentity os manifest entry index with
      | none => pure false
      | some identity =>
          let matches_ ← identityMatches os entry.finalOf.1 identity false
          if matches_ then finalsMatch os manifest entries else pure false

def completeFinalSet (os : Os) (manifest : TransactionManifest) : Io Bool := do
  if manifest.renamesDirectory then
    match manifest.finalDirectory with
    | some (finalDirectoryPath, some identity) =>
        let matches_ ← identityMatches os finalDirectoryPath identity true
        if matches_ then finalsMatch os manifest manifest.entries.zipIdx else pure false
    | _ => pure false
  else finalsMatch os manifest manifest.entries.zipIdx

/-! ### Reading the manifest -/

def readManifestIdentity (os : Os) (path : Path) : Io (Except IoErrorKind FileIdentity) := do
  match ← symlinkMetadata os path with
  | .error kind => pure (.error kind)
  | .ok entry =>
      if entry.isFile = false then pure (.error .invalidData) else pure (.ok entry.identity)

def readFileBounded (os : Os) (manifestPath : Path) : Io Content := do
  let entry ← orFail (openNoFollow os manifestPath)
  orFail (onOpenFile os)
  match entry with
  | .file _ content => do
      orFail (onOpenFile os)
      pure content
  | _ => Attempt.fail (.validation "manifest must be a regular file")

def readWithIdentityDirectories (os : Os) (manifestPath : Path) :
    Io (TransactionManifest × FileIdentity) := do
  let content ← readFileBounded os manifestPath
  match ← readManifestIdentity os manifestPath with
  | .error _ => Attempt.fail (.validation "failed to read manifest identity")
  | .ok identity =>
      match content with
      | .manifest manifest => pure (manifest, identity)
      | .data _ => Attempt.fail (.validation "malformed transaction manifest")

/-! ### File sets -/

def syncFinals (os : Os) (manifest : TransactionManifest) :
    List (ManifestEntrySlot × ℕ) → Io Unit
  | [] => pure ()
  | (entry, index) :: entries => do
      match ← inferredFinalIdentity os manifest entry index with
      | none => Attempt.fail (.validation "complete recall identity disappeared")
      | some identity => do
          syncRegularFile os entry.finalOf.1 identity
          syncFinals os manifest entries

def cleanupPartial (os : Os) (entry : ManifestEntrySlot) : Io Bool :=
  match entry.partialOf with
  | none => pure true
  | some (partialPath, partialIdentity) => cleanupFile os partialPath partialIdentity

/-- Rolls the entries back. The answer is whether something is left that the
manifest does not identify. -/
def cleanupEntries (os : Os) (manifest : TransactionManifest) :
    List (ManifestEntrySlot × ℕ) → Io Bool
  | [] => pure false
  | (entry, index) :: entries => do
      let finalIdentity ← inferredFinalIdentity os manifest entry index
      let finalClean ← cleanupFile os entry.finalOf.1 finalIdentity
      let partialClean ← cleanupPartial os entry
      let stagedClean ← cleanupFile os entry.staged.1 entry.staged.2
      let pending ← cleanupEntries os manifest entries
      pure (!finalClean || !partialClean || !stagedClean || pending)

def removeOwnedDirectory (os : Os) (manifest : TransactionManifest)
    (slot : ManifestDirectorySlot) : Io Unit :=
  if slot.state = some .owned then do
    let path ← Attempt.ofExcept (manifest.directoryPath slot)
    let _ ← removeDirectoryIfIdentity os path slot.identity
    pure ()
  else pure ()

/-- The directories the transaction made, deepest first. One that is not
empty stays. -/
def removeDirectories (os : Os) (manifest : TransactionManifest) :
    List ManifestDirectorySlot → Io Unit
  | [] => pure ()
  | slot :: slots => do
      removeOwnedDirectory os manifest slot
      removeDirectories os manifest slots

def cleanupStagedAndPartials (os : Os) : List ManifestEntrySlot → Io Unit
  | [] => pure ()
  | entry :: entries => do
      let _ ← (cleanupFile os entry.staged.1 entry.staged.2).capture
      let _ ← (cleanupPartial os entry).capture
      cleanupStagedAndPartials os entries

def bestEffortRemoveRecallMetadata (os : Os) (manifest : TransactionManifest)
    (manifestPath : Path) (manifestIdentity : FileIdentity) : Io Unit := do
  cleanupStagedAndPartials os manifest.entries
  let only ← (directoryContainsOnly os manifest.stagingRoot manifestPath).capture
  if only.toOption.getD false then do
    let _ ← (removeIfIdentity os manifestPath manifestIdentity).capture
    let _ ← (removeDirectoryIfIdentity os manifest.stagingRoot
      manifest.stagingRootIdentity).capture
    pure ()
  else pure ()

def finishRecall (os : Os) (manifest : TransactionManifest) (manifestIdentity : FileIdentity)
    (outputRoot manifestPath : Path) : Io RecoveryOutcome := do
  syncFinals os manifest manifest.entries.zipIdx
  syncFileSetDirectories os manifest outputRoot
  bestEffortRemoveRecallMetadata os manifest manifestPath manifestIdentity
  match manifest.stagingRoot.parent with
  | some parent => do
      let _ ← (syncDirectory os parent).capture
      pure .complete
  | none => pure .complete

def rollBackRecall (os : Os) (manifest : TransactionManifest) (manifestIdentity : FileIdentity)
    (manifestPath : Path) : Io RecoveryOutcome := do
  let pending ← cleanupEntries os manifest manifest.entries.zipIdx
  if pending then pure .pending
  else do
    removeDirectories os manifest manifest.directories.reverse
    let only ← directoryContainsOnly os manifest.stagingRoot manifestPath
    if only then do
      removeIfIdentity os manifestPath manifestIdentity
      let removed ← removeDirectoryIfIdentity os manifest.stagingRoot manifest.stagingRootIdentity
      pure (if removed then .rolledBack else .pending)
    else pure .pending

/-- The manifest at `manifestPath`, once it has passed every check. -/
def readValidated (os : Os) (expected : Strategy)
    (stagingRoot : TransactionManifest → Path) (outputRoot manifestPath : Path) :
    Io (TransactionManifest × FileIdentity) := do
  let (manifest, manifestIdentity) ← readWithIdentityDirectories os manifestPath
  validateManifest os manifest expected (stagingRoot manifest) outputRoot manifestPath
  pure (manifest, manifestIdentity)

def recoverRecallRootWithDirectories (os : Os) (transactionRoot outputRoot : Path) :
    Io RecoveryOutcome := do
  let manifestPath := transactionRoot.join recallManifestName
  let (manifest, manifestIdentity) ←
    readValidated os .fileSet (fun _ => transactionRoot) outputRoot manifestPath
  let complete ← completeFinalSet os manifest
  if complete then finishRecall os manifest manifestIdentity outputRoot manifestPath
  else rollBackRecall os manifest manifestIdentity manifestPath

/-! ### Dump directories -/

def syncDumpFinals (os : Os) : List ManifestEntrySlot → Io Unit
  | [] => pure ()
  | entry :: entries =>
      match entry.finalOf.2 with
      | none => Attempt.fail (.validation "complete dump identity disappeared")
      | some identity => do
          syncRegularFile os entry.finalOf.1 identity
          syncDumpFinals os entries

def cleanupStaged (os : Os) : List ManifestEntrySlot → Io Bool
  | [] => pure true
  | entry :: entries => do
      let clean ← cleanupFile os entry.staged.1 entry.staged.2
      if clean then cleanupStaged os entries else pure false

/-- Removes the manifest and then whatever an interrupted replacement left
under the name of its temporary. -/
def removeDumpManifest (os : Os) (manifest : TransactionManifest)
    (manifestIdentity : FileIdentity) (manifestPath : Path) : Io Bool := do
  removeIfIdentity os manifestPath manifestIdentity
  cleanupDumpTempManifest os manifestPath manifest.transactionId

def finishDump (os : Os) (manifest : TransactionManifest) (manifestIdentity : FileIdentity)
    (outputParent manifestPath : Path) : Io RecoveryOutcome := do
  syncDumpFinals os manifest.entries
  match manifest.finalDirectory with
  | none => Attempt.fail (.validation "dump manifest has no final directory")
  | some (_, none) =>
      Attempt.fail (.validation "complete dump directory identity disappeared")
  | some (finalDirectory, some directoryIdentity) => do
      syncOwnedDirectory os finalDirectory directoryIdentity
      syncDirectory os outputParent
      let clean ← removeDumpManifest os manifest manifestIdentity manifestPath
      if clean then do
        syncDirectory os outputParent
        pure .complete
      else pure .pending

/-- Whether the final directory stands in the way of a rollback. -/
def finalDirectoryInPlace (os : Os) (finalDirectory : Path) (identity : Option FileIdentity) :
    Io Bool := do
  let exists_ ← pathExists os finalDirectory
  if exists_ then
    match identity with
    | none => pure true
    | some identity => identityMatches os finalDirectory identity true
  else pure false

def rollBackDump (os : Os) (manifest : TransactionManifest) (manifestIdentity : FileIdentity)
    (manifestPath : Path) : Io RecoveryOutcome := do
  match manifest.finalDirectory with
  | none => Attempt.fail (.validation "dump manifest has no final directory")
  | some (finalDirectory, identity) => do
      let inPlace ← finalDirectoryInPlace os finalDirectory identity
      if inPlace then pure .pending
      else do
        let clean ← cleanupStaged os manifest.entries
        if clean then do
          let removed ← removeDirectoryIfIdentity os manifest.stagingRoot
            manifest.stagingRootIdentity
          if removed then do
            let clean ← removeDumpManifest os manifest manifestIdentity manifestPath
            pure (if clean then .rolledBack else .pending)
          else pure .pending
        else pure .pending

def recoverDumpParent (os : Os) (outputParent manifestPath : Path) : Io RecoveryOutcome := do
  let (manifest, manifestIdentity) ← readValidated os .atomicDirectory
    TransactionManifest.stagingRoot outputParent manifestPath
  let complete ← completeFinalSet os manifest
  if complete then finishDump os manifest manifestIdentity outputParent manifestPath
  else rollBackDump os manifest manifestIdentity manifestPath

end Lamb.Recovery
