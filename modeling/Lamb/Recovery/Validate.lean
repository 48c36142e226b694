import Lamb.Recovery.System

/-!
What recovery demands of a manifest before it acts on it. The checks stand in
the order of the source; those of one kind that follow each other without a
call into the system form one function.
-/

namespace Lamb.Recovery

open Lamb.Lib

/-! ### Path checks -/

def validateComponent (component description : String) : Result Unit :=
  match Path.ofText component with
  | ⟨false, [.normal _]⟩ => .ok ()
  | _ => .error (.validation (description ++ " is not a safe path component"))

def validateLexicalPath (path : Path) : Result Unit :=
  ensure (path.rooted = true ∧ ∀ part ∈ path.parts, part ≠ .curDir ∧ part ≠ .parentDir)
    (.validation ("path is not absolute and lexically canonical: " ++ path.display))

def validateContained (root path : Path) : Result Unit := do
  validateLexicalPath path
  match path.stripPrefix root with
  | none =>
      .error (.validation ("path escapes approved root " ++ root.display ++ ": " ++ path.display))
  | some relative =>
      ensure (relative ≠ [] ∧ ∀ part ∈ relative, part ≠ .curDir ∧ part ≠ .parentDir)
        (.validation
          ("path is not canonically contained by " ++ root.display ++ ": " ++ path.display))

def validateDirectChild (parent path : Path) : Result Unit := do
  validateContained parent path
  match path.stripPrefix parent with
  | some [.normal name] => validateComponent name "manifest filename"
  | _ =>
      .error (.validation
        ("path is not an adjacent child of " ++ parent.display ++ ": " ++ path.display))

def insertUniquePath (paths : List Path) (path : Path) : Result (List Path) := do
  ensure (path ∉ paths)
    (.validation ("transaction manifest contains duplicate path " ++ path.display))
  .ok (path :: paths)

def rejectSymlinks (os : Os) : List Path → Io Unit
  | [] => pure ()
  | path :: paths =>
      lookAt os path (pure ()) fun entry =>
        if entry.isSymlink then
          Attempt.fail (.validation ("manifest path traverses a symlink: " ++ path.display))
        else rejectSymlinks os paths

def rejectSymlinkPath (os : Os) (path : Path) : Io Unit :=
  rejectSymlinks os path.prefixes

/-! ### The header -/

def validateManifestBasics (os : Os) (manifest : TransactionManifest) : Result Unit := do
  ensure (manifest.version = manifestVersion ∨ manifest.version = legacyManifestVersion)
    (.validation ("unsupported transaction manifest version " ++ toString manifest.version))
  ensure
    (manifest.version = legacyManifestVersion ∧
        (manifest.kind = .recall ∨ manifest.kind = .dump) ∨
      manifest.version = manifestVersion ∧
        (manifest.kind = .fileSet ∨ manifest.kind = .atomicDirectory))
    (.validation "transaction manifest version and strategy do not match")
  ensure (manifest.uid = os.euid)
    (.validation "transaction manifest belongs to a different uid")
  validateComponent manifest.transactionId "transaction id"
  ensure (manifest.entries ≠ []) (.validation "transaction manifest has no file entries")
  ensure (manifest.version = manifestVersion → manifest.directoryJournalPresent = true)
    (.validation "version-two manifest omits created directory journal")
  ensure (manifest.version = legacyManifestVersion → manifest.directories = [])
    (.validation "version-one manifest may not contain created directory journal")

/-- The two ways a transaction is published. `Recall` and `Dump` are their
legacy spellings, so recovery never expects those. -/
inductive Strategy
  | fileSet
  | atomicDirectory
  deriving DecidableEq, Repr

def Strategy.Admits (strategy : Strategy) (version : ℕ) (kind : TransactionKind) : Prop :=
  match strategy with
  | .fileSet => version = legacyManifestVersion ∧ kind = .recall ∨
      version = manifestVersion ∧ kind = .fileSet
  | .atomicDirectory => version = legacyManifestVersion ∧ kind = .dump ∨
      version = manifestVersion ∧ kind = .atomicDirectory

instance (strategy : Strategy) (version : ℕ) (kind : TransactionKind) :
    Decidable (strategy.Admits version kind) :=
  match strategy with
  | .fileSet => inferInstanceAs (Decidable (_ ∨ _))
  | .atomicDirectory => inferInstanceAs (Decidable (_ ∨ _))

def Strategy.stagingName (strategy : Strategy) (transactionId : String) : String :=
  match strategy with
  | .fileSet => transactionId
  | .atomicDirectory => ".tmp-lamb-" ++ transactionId

def ManifestPhase.Within (phase : ManifestPhase) (entryCount : ℕ) : Prop :=
  match phase with
  | .publishing index => index < entryCount
  | _ => True

instance (phase : ManifestPhase) (entryCount : ℕ) : Decidable (phase.Within entryCount) :=
  match phase with
  | .publishing _ => inferInstanceAs (Decidable (_ < _))
  | .prepared => isTrue trivial
  | .complete => isTrue trivial

def validateManifestPath (manifest : TransactionManifest) (expected : Strategy)
    (stagingRoot manifestPath : Path) : Result Unit :=
  match expected with
  | .fileSet =>
      ensure (manifestPath = stagingRoot.join recallManifestName)
        (.validation "recall manifest is not inside its transaction directory")
  | .atomicDirectory =>
      ensure (manifestPath.fileName = some ("." ++ manifest.transactionId ++ ".manifest.json"))
        (.validation "dump manifest name does not match its transaction id")

/-- `validate_manifest` up to its first look at the file system. -/
def validateHeader (os : Os) (manifest : TransactionManifest) (expected : Strategy)
    (stagingRoot outputRoot manifestPath : Path) : Result Unit := do
  validateManifestBasics os manifest
  ensure (expected.Admits manifest.version manifest.kind)
    (.validation "transaction manifest kind does not match recovery API")
  validateLexicalPath stagingRoot
  validateLexicalPath outputRoot
  ensure (manifest.stagingRoot = stagingRoot ∧ Path.ofText manifest.outputRoot = outputRoot)
    (.validation "transaction manifest roots do not match approved recovery roots")
  ensure (manifest.stagingRootIdentity.isSome)
    (.validation "transaction staging root has no recorded identity")
  ensure (stagingRoot.fileName = some (expected.stagingName manifest.transactionId))
    (.validation "transaction id does not match its staging directory")
  ensure (manifest.phase.Within manifest.entries.length)
    (.validation "manifest publication index exceeds its file entries")
  validateManifestPath manifest expected stagingRoot manifestPath

/-! ### Directories and entries -/

/-- The first paths of the transaction, none of which may come again. -/
def validateFinalDirectory (manifest : TransactionManifest) (expected : Strategy)
    (outputRoot manifestPath : Path) : Result (List Path) := do
  let paths ← insertUniquePath [] manifest.stagingRoot
  let paths ← insertUniquePath paths manifestPath
  match expected, manifest.finalDirectory with
  | .atomicDirectory, none => .error (.validation "dump manifest has no final directory")
  | .atomicDirectory, some (finalDirectoryPath, _) => do
      validateDirectChild outputRoot manifest.stagingRoot
      validateDirectChild outputRoot finalDirectoryPath
      insertUniquePath paths finalDirectoryPath
  | .fileSet, some _ => .error (.validation "recall manifest must not name a final directory")
  | .fileSet, none => .ok paths

def validateDirectory (manifest : TransactionManifest) (outputRoot : Path) (previous : List Path)
    (slot : ManifestDirectorySlot) : Result Path := do
  let path ← manifest.directoryPath slot
  match manifest.entries[slot.entryIndex]? with
  | none => .error (.validation "directory entry index exceeds sparse entry count")
  | some entry => do
      validateContained outputRoot path
      validateContained path entry.finalOf.1
      ensure (path ≠ outputRoot)
        (.validation "created directory journal may not own output root")
      ensure (path ∉ previous)
        (.validation "created directory journal contains duplicate derived path")
      ensure (∀ earlier ∈ previous, ¬earlier.startsWith path = true)
        (.validation "created directory journal is not parent-first")
      ensure (slot.state = some .intent ∧ slot.identity = none ∨
          slot.state = some .owned ∧ slot.identity.isSome)
        (.validation "created directory journal state and identity disagree")
      .ok path

def validateDirectorySlots (manifest : TransactionManifest) (outputRoot : Path) :
    List ManifestDirectorySlot → List Path → Result Unit
  | [], _ => .ok ()
  | slot :: slots, previous => do
      let path ← validateDirectory manifest outputRoot previous slot
      validateDirectorySlots manifest outputRoot slots (previous ++ [path])

def validateDirectories (manifest : TransactionManifest) (expected : Strategy)
    (outputRoot : Path) : Result Unit :=
  match expected with
  | .fileSet => validateDirectorySlots manifest outputRoot manifest.directories []
  | .atomicDirectory =>
      ensure (manifest.directories = [])
        (.validation "atomic-directory manifest may not contain created directory journal")

def validateAdjacent (finalPath partialPath : Path) : Result Unit :=
  match finalPath.parent with
  | none => .error (.validation "final path has no parent")
  | some finalParent =>
      ensure (partialPath.parent = some finalParent)
        (.validation "file-set partial is not adjacent to its final")

def validateHidden (partialPath : Path) : Result Unit :=
  match partialPath.fileName with
  | none => .error (.validation "partial path has an invalid filename")
  | some partialName => do
      validateComponent partialName "partial filename"
      ensure (['.'] <+: partialName.toList ∧ ".partial".toList <:+ partialName.toList)
        (.validation "recall partial filename is not transaction-hidden")

def validateStagedParent (stagedPath : Path) : Result Unit :=
  match stagedPath.parent with
  | none => .error (.validation "staged path has no parent")
  | some stagedParent => validateDirectChild stagedParent stagedPath

/-- What only one of the strategies asks of an entry. -/
def validateStrategy (manifest : TransactionManifest) (expected : Strategy) (paths : List Path)
    (entry : ManifestEntrySlot) : Result (List Path) :=
  match expected with
  | .fileSet =>
      match entry.partialOf with
      | none => .error (.validation "recall entry has no adjacent partial path")
      | some (partialPath, _) => do
          validateAdjacent entry.finalOf.1 partialPath
          validateHidden partialPath
          insertUniquePath paths partialPath
  | .atomicDirectory => do
      ensure (entry.partialOf = none)
        (.validation "dump entry must not contain a partial file")
      match manifest.finalDirectory with
      | none => .error .panicked
      | some (finalDirectoryPath, _) => do
          validateDirectChild manifest.stagingRoot entry.staged.1
          validateDirectChild finalDirectoryPath entry.finalOf.1
          .ok paths

/-- The checks of one entry that need no call. The paths seen so far grow by
those of the entry. -/
def validateEntry (manifest : TransactionManifest) (expected : Strategy)
    (stagingRoot outputRoot : Path) (paths : List Path) (entry : ManifestEntrySlot) :
    Result (List Path) := do
  validateContained stagingRoot entry.staged.1
  validateContained outputRoot entry.finalOf.1
  validateStagedParent entry.staged.1
  let paths ← validateStrategy manifest expected paths entry
  let paths ← insertUniquePath paths entry.staged.1
  insertUniquePath paths entry.finalOf.1

def rejectPartialSymlink (os : Os) (entry : ManifestEntrySlot) : Io Unit :=
  match entry.partialOf with
  | some (partialPath, _) => rejectSymlinkPath os partialPath
  | none => pure ()

def validateEntries (os : Os) (manifest : TransactionManifest) (expected : Strategy)
    (stagingRoot outputRoot : Path) : List ManifestEntrySlot → List Path → Io Unit
  | [], _ => pure ()
  | entry :: entries, paths => do
      let paths ← Attempt.ofExcept
        (validateEntry manifest expected stagingRoot outputRoot paths entry)
      rejectSymlinkPath os entry.staged.1
      rejectPartialSymlink os entry
      rejectSymlinkPath os entry.finalOf.1
      validateEntries os manifest expected stagingRoot outputRoot entries paths

/-! ### Phases and identities -/

/-- Whether the manifest is published by one rename of a directory. -/
def TransactionManifest.renamesDirectory (manifest : TransactionManifest) : Bool :=
  manifest.kind = .dump ∨ manifest.kind = .atomicDirectory

/-- What the phase says about an entry of a file set. -/
def ManifestPhase.Allows (phase : ManifestPhase) (index : ℕ) (entry : ManifestEntrySlot) : Prop :=
  match phase with
  | .prepared => entry.finalIdentity = none ∧ entry.partialIdentity = none
  | .complete => entry.finalIdentity ≠ none ∧ entry.partialIdentity = none
  | .publishing active =>
      (index < active → entry.finalIdentity ≠ none ∧ entry.partialIdentity = none) ∧
        (index = active → ¬(entry.finalIdentity ≠ none ∧ entry.partialIdentity ≠ none)) ∧
        (active < index → entry.finalIdentity = none ∧ entry.partialIdentity = none)

instance (phase : ManifestPhase) (index : ℕ) (entry : ManifestEntrySlot) :
    Decidable (phase.Allows index entry) :=
  match phase with
  | .prepared => inferInstanceAs (Decidable (_ ∧ _))
  | .complete => inferInstanceAs (Decidable (_ ∧ _))
  | .publishing _ => inferInstanceAs (Decidable ((_ → _) ∧ (_ → _) ∧ (_ → _)))

def ManifestPhase.contradiction : ManifestPhase → String
  | .prepared => "prepared recall manifest contains publication identities"
  | .complete => "complete recall manifest has incomplete identities"
  | .publishing _ => "recall manifest identities contradict publication phase"

def ManifestPhase.isPublishing : ManifestPhase → Bool
  | .publishing _ => true
  | _ => false

def validatePhaseState (manifest : TransactionManifest) : Result Unit :=
  if manifest.renamesDirectory then do
    ensure (manifest.phase.isPublishing = false)
      (.validation "dump manifest has an impossible publishing phase")
    match manifest.finalDirectory.bind Prod.snd with
    | none => .error (.validation "dump final directory identity is missing")
    | some directoryIdentity =>
        ensure (manifest.stagingRootIdentity = some directoryIdentity ∧
            ∀ entry ∈ manifest.entries, entry.stagedIdentity ≠ none ∧
              entry.finalIdentity = entry.stagedIdentity)
          (.validation "dump manifest identities do not describe one directory rename")
  else
    ensure (∀ item ∈ manifest.entries.zipIdx, manifest.phase.Allows item.2 item.1)
      (.validation manifest.phase.contradiction)

/-- The identities that must differ from each other, in the order in which
they are collected. -/
def TransactionManifest.ownedIdentities (manifest : TransactionManifest) : List FileIdentity :=
  manifest.stagingRootIdentity.toList ++
    (manifest.entries.flatMap fun entry => entry.stagedIdentity.toList ++
      if manifest.renamesDirectory then []
      else entry.partialIdentity.toList ++ entry.finalIdentity.toList) ++
    manifest.directories.flatMap fun slot => slot.identity.toList

def validateIdentityUniqueness (manifest : TransactionManifest) : Result Unit :=
  ensure manifest.ownedIdentities.Nodup
    (.validation "transaction manifest contains duplicate owned identity")

def validateManifest (os : Os) (manifest : TransactionManifest) (expected : Strategy)
    (stagingRoot outputRoot manifestPath : Path) : Io Unit := do
  Attempt.ofExcept (validateHeader os manifest expected stagingRoot outputRoot manifestPath)
  rejectSymlinkPath os stagingRoot
  rejectSymlinkPath os outputRoot
  rejectSymlinkPath os manifestPath
  let paths ← Attempt.ofExcept (validateFinalDirectory manifest expected outputRoot manifestPath)
  Attempt.ofExcept (validateDirectories manifest expected outputRoot)
  validateEntries os manifest expected stagingRoot outputRoot manifest.entries paths
  Attempt.ofExcept (validatePhaseState manifest)
  Attempt.ofExcept (validateIdentityUniqueness manifest)

end Lamb.Recovery
