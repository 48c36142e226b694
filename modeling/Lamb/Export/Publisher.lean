import Lamb.Export.Planner
import Lamb.Recovery.Arena
import Lamb.Recovery.Store

/-!
How a publisher builds the manifest of its transaction: the paths of every
file, the directories it means to create, and the directories to synchronize.
Everything goes into buffers that were sized when the session started.

Which directories are there is a parameter, as are the identities of the staged
files: the calls that find them out are left out here, with the component
buffers they use, which hold any component of a path that fits its slot.
-/

namespace Lamb.Export

open Lamb.Lib Lamb.Runtime Lamb.Recovery

/-! ### Buffers -/

/-- The buffers of `PersistenceWorkspace::allocate` that a publication uses.
Every slot may hold what an earlier transaction left. -/
structure PublicationBuffers where
  entries : List EntryRefs
  directories : List ManifestDirectorySlot
  pathBytes : List UInt8
  serialization : ℕ
  syncSlots : ℕ

def manifestFixedPathEntries : ℕ := 5

def manifestPathEscapeMultiplier : ℕ := 6

def manifestJsonEntryOverheadBytes : ℕ := 256

def manifestJsonDirectoryOverheadBytes : ℕ := 192

def manifestJsonFixedOverheadBytes : ℕ := 1024

/-- The number of paths a manifest holds. -/
def manifestPathEntries (outputSlots : ℕ) : ℕ :=
  outputSlots * 3 + manifestFixedPathEntries

def manifestSerializationLength (outputSlots directorySlots maximumPathBytes : ℕ) : ℕ :=
  manifestPathEntries outputSlots *
      (maximumPathBytes * manifestPathEscapeMultiplier + manifestJsonEntryOverheadBytes) +
    directorySlots * manifestJsonDirectoryOverheadBytes + manifestJsonFixedOverheadBytes

/-- The buffers have the lengths that the plan reserves. That none of the sums
overflows is checked when the plan is made. -/
structure PublicationBuffers.Reserved (buffers : PublicationBuffers) (plan : SessionMemoryPlan)
    (config : PersistenceWorkspaceConfig) : Prop where
  entries : buffers.entries.length = plan.outputFileSlots
  directories : buffers.directories.length = plan.manifestDirectorySlots
  pathBytes : buffers.pathBytes.length =
    manifestPathEntries plan.outputFileSlots * config.maximumPathBytes
  serialization : buffers.serialization = manifestSerializationLength plan.outputFileSlots
    plan.manifestDirectorySlots config.maximumPathBytes
  syncSlots : buffers.syncSlots = plan.manifestDirectorySlots

/-! ### Files -/

structure PreparedFile where
  stagedPath : String
  finalPath : String
  deriving DecidableEq, Repr

/-- The files of a plan, in order. -/
def PlanSlots.files (slots : PlanSlots) : List PreparedFile :=
  (slots.outputs.take slots.outputCount).map fun output =>
    ⟨slots.paths output.stagedPath, slots.paths output.finalPath⟩

/-- The name next to the final path under which a file is copied. -/
def partialPath (capacity : ℕ) (finalPath transactionId : String) : Result String :=
  match (Path.ofText finalPath).fileName with
  | none => .error (.exportInvariant "prepared recall final filename is invalid")
  | some fileName =>
      match parentText finalPath with
      | none => .error (.exportInvariant "prepared file-set final path has no parent")
      | some parent => do
          let slot ← setPath capacity parent
          let slot ← pushSeparator capacity slot
          let slot ← pushBytes capacity slot "."
          let slot ← pushBytes capacity slot fileName
          let slot ← pushBytes capacity slot "."
          let slot ← pushBytes capacity slot transactionId
          pushBytes capacity slot ".partial"

/-! ### The manifest of a file set -/

structure TransactionHeader where
  uid : ℕ
  kind : TransactionKind
  transactionId : String
  stagingDirectory : String
  stagingIdentity : FileIdentity
  outputRoot : String

/-- The fields before the entries. -/
def pushHeader (manifest : ArenaManifest) (header : TransactionHeader) : Result ArenaManifest := do
  let manifest := { manifest with
    version := manifestVersion, uid := header.uid, kind := header.kind, phase := .prepared }
  let (transactionId, manifest) ← manifest.pushPath header.transactionId
  let (stagingRootPath, manifest) ← manifest.pushPath header.stagingDirectory
  let (outputRoot, manifest) ← manifest.pushPath header.outputRoot
  .ok { manifest with
    transactionId := transactionId
    stagingRootPath := stagingRootPath
    stagingRootIdentity := some header.stagingIdentity
    outputRoot := outputRoot }

/-- One pass over the files of a file set: the partial name is made in the
scratch slot, then the three paths are pushed. -/
def pushFileSetEntry (capacity : ℕ) (transactionId : String) (identity : ℕ → FileIdentity)
    (manifest : ArenaManifest) (file : PreparedFile × ℕ) : Result ArenaManifest := do
  let partialText ← partialPath capacity file.1.finalPath transactionId
  let (staged, manifest) ← manifest.pushPath file.1.stagedPath
  let (partialRef, manifest) ← manifest.pushPath partialText
  let (final, manifest) ← manifest.pushPath file.1.finalPath
  .ok { manifest with
    slots := manifest.slots.modify file.2 fun slot => { slot with
      stagedPath := staged
      stagedIdentity := some (identity file.2)
      partialPath := partialRef
      finalPath := final } }

def fileSetManifest (buffers : PublicationBuffers) (capacity : ℕ) (header : TransactionHeader)
    (identity : ℕ → FileIdentity) (files : List PreparedFile) : Result ArenaManifest := do
  let manifest ← pushHeader
    (ArenaManifest.newWithDirectories buffers.entries buffers.directories buffers.pathBytes) header
  let manifest ← manifest.setEntryCount files.length
  files.zipIdx.foldlM (pushFileSetEntry capacity header.transactionId identity) manifest

/-! ### Directories -/

structure DirectorySyncSlot where
  entryIndex : ℕ
  prefixLen : ℕ
  deriving DecidableEq, Repr

def pathPrefix (text : String) (prefixLen : ℕ) : Result Path :=
  match Path.takeBytes text.toList prefixLen with
  | none => .error (.exportInvariant "file-set path prefix is not a UTF-8 boundary")
  | some chars => .ok (Path.ofText (String.ofList chars))

/-- `text.get(start..end)`. -/
def textRange (text : String) (start stop : ℕ) : Option (List Char) :=
  (Path.dropBytes text.toList start).bind fun rest => Path.takeBytes rest (stop - start)

def nextComponentPrefixLen (text : String) (prefixLen : ℕ) (name : String) : Result ℕ :=
  let start := if prefixLen = 1 then 1 else prefixLen + 1
  let stop := start + name.utf8ByteSize
  if textRange text start stop = some name.toList then .ok stop
  else .error (.exportInvariant "file-set path is not normalized")

/-- Whether the candidate is among the directories to synchronize. -/
def isSynced (files : List PreparedFile) (candidate : Path) : List DirectorySyncSlot → Result Bool
  | [] => .ok false
  | slot :: slots =>
      match files[slot.entryIndex]? with
      | none => .error (.exportInvariant "directory sync entry is invalid")
      | some file => do
          let existing ← pathPrefix file.finalPath slot.prefixLen
          if existing = candidate then .ok true else isSynced files candidate slots

/-- `add_directory_sync`. The slots in use come first; `capacity` is the number
of all slots. -/
def addDirectorySync (capacity : ℕ) (files : List PreparedFile) (entryIndex prefixLen : ℕ)
    (slots : List DirectorySyncSlot) : Result (List DirectorySyncSlot) :=
  match files[entryIndex]? with
  | none => .error (.exportInvariant "directory sync entry is invalid")
  | some file => do
      let candidate ← pathPrefix file.finalPath prefixLen
      if ← isSynced files candidate slots then .ok slots
      else if capacity ≤ slots.length then
        .error (.exportInvariant "prepared directory sync capacity exhausted; retry transaction")
      else .ok (slots ++ [⟨entryIndex % 2 ^ 32, prefixLen % 2 ^ 32⟩])

/-- The state of the walk over the parents of one file. -/
structure ParentWalk where
  manifest : ArenaManifest
  syncSlots : List DirectorySyncSlot
  prefixLen : ℕ
  /-- The directory reached so far is there. -/
  directory : Bool

section Parents

variable (present : Path → Bool) (capacity : ℕ) (files : List PreparedFile)

/-- One component of a parent. -/
def registerParent (entryIndex : ℕ) (finalPath : String) (walk : ParentWalk)
    (part : Component) : Result ParentWalk :=
  match part with
  | .normal name => do
      let prefixLen ← nextComponentPrefixLen finalPath walk.prefixLen name
      let syncSlots ← addDirectorySync capacity files entryIndex prefixLen walk.syncSlots
      let path ← pathPrefix finalPath prefixLen
      let next := walk.directory && present path
      if next || walk.manifest.directoryPaths.contains (some path) then
        .ok ⟨walk.manifest, syncSlots, prefixLen, next⟩
      else do
        let manifest ← walk.manifest.pushDirectoryIntent entryIndex prefixLen
        .ok ⟨manifest, syncSlots, prefixLen, next⟩
  | _ => .error (.validation "file-set parent is not lexically contained")

/-- `register_file_set_parent_intents`. -/
def registerFileSetParentIntents (outputRoot : String)
    (state : ArenaManifest × List DirectorySyncSlot) (file : PreparedFile × ℕ) :
    Result (ArenaManifest × List DirectorySyncSlot) :=
  match (Path.ofText file.1.finalPath).parent with
  | none => .error (.exportInvariant "prepared file-set final path has no parent")
  | some parent =>
      match parent.stripPrefix (Path.ofText outputRoot) with
      | none => .error (.validation "file-set final path escapes output root")
      | some relative => do
          let walk ← relative.foldlM
            (registerParent present capacity files file.2 file.1.finalPath)
            ⟨state.1, state.2, outputRoot.utf8ByteSize, true⟩
          .ok (walk.manifest, walk.syncSlots)

/-- The directories of every file, the output root first. -/
def registerDirectories (outputRoot : String) (manifest : ArenaManifest) :
    Result (ArenaManifest × List DirectorySyncSlot) := do
  let syncSlots ← addDirectorySync capacity files 0 outputRoot.utf8ByteSize []
  files.zipIdx.foldlM (registerFileSetParentIntents present capacity files outputRoot)
    (manifest, syncSlots)

end Parents

/-- What `publish_recall_inner` does up to the first write of its manifest. -/
def buildFileSetManifest (present : Path → Bool) (buffers : PublicationBuffers) (capacity : ℕ)
    (header : TransactionHeader) (identity : ℕ → FileIdentity) (files : List PreparedFile) :
    Result TransactionManifest := do
  let manifest ← fileSetManifest buffers capacity header identity files
  let (manifest, _) ← registerDirectories present buffers.syncSlots files header.outputRoot manifest
  match manifest.resolve with
  | none => .error .panicked
  | some manifest => do
      let _ ← serializeBounded buffers.serialization manifest
      .ok manifest

end Lamb.Export
