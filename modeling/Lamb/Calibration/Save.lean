import Lamb.Error
import Lamb.Lib.Path
import Lamb.Lib.SharedDisk

/-!
The atomic save of the configuration file. The candidate is written to a new
file beside the target, which is then exchanged with the target, or moved to
it where there is none. What stands under a name is checked by its identity
before and after; a late failure exchanges the names back.

The others may act before every call and in every hook. A walk along the
parent path is one call. The paths in errors are left out.
-/

namespace Lamb.Calibration

open Lamb.Lib Lamb.Lib.SharedDisk

/-- A regular file as the save writes it. -/
structure FileData where
  text : String
  mode : ℕ
  uid : ℕ
  gid : ℕ
  deriving DecidableEq, Repr

abbrev Io (β : Type) := Attempt (World FileData) LambError β

inductive DurabilityCheckpoint
  | configTempSynced
  | configRenamed
  | configParentSynced
  | createdParentSynced
  deriving DecidableEq, Repr

abbrev DurabilityHook := DurabilityCheckpoint → World FileData → Result Unit

/-- The process: its file system and what it starts from. -/
structure Host where
  os : Os FileData
  root : Ino
  cwd : Ino
  uid : ℕ
  gid : ℕ

/-! ### System calls -/

section Calls

variable (host : Host)

def sys {β : Type} (operation : World FileData → Except IoErrorKind (β × Event FileData)) :
    Io (Except IoErrorKind β) :=
  call host.os .other operation

/-- `result.map_err(|source| io_error(path, source))?`. -/
def orFail {β : Type} (attempt : Io (Except IoErrorKind β)) : Io β := do
  match ← attempt with
  | .ok b => pure b
  | .error kind => Attempt.fail (.io kind)

/-- The others act while the hook runs; then it returns. -/
def runHook (hook : DurabilityHook) (checkpoint : DurabilityCheckpoint) : Io Unit := fun world =>
  let world := world.disturb (host.os.others world)
  (hook checkpoint world, world)

/-- What stands under a name of an open directory. -/
def lookupAt (disk : Disk FileData) (dir : Ino) (name : String) :
    Except IoErrorKind (Ino × Kind FileData) :=
  match disk.entry dir name with
  | none => .error .notFound
  | some ino =>
      match disk.inode ino with
      | some kind => .ok (ino, kind)
      | none => .error .other

/-- `fstatat` with `AT_SYMLINK_NOFOLLOW`. -/
def fstatat (dir : Ino) (name : String) : Io (Except IoErrorKind (Ino × Kind FileData)) :=
  sys host fun world =>
    (lookupAt world.disk dir name).map fun found => (found, .found dir name (some found.1))

/-- `openat` with `O_DIRECTORY|O_NOFOLLOW`. -/
def openDirectoryAt (dir : Ino) (name : String) : Io (Except IoErrorKind Ino) :=
  sys host fun world =>
    match lookupAt world.disk dir name with
    | .ok (ino, .directory) => .ok (ino, .idle)
    | .ok _ => .error .other
    | .error kind => .error kind

/-- `fstat` of an open directory. -/
def fstat (ino : Ino) : Io (Except IoErrorKind Ino) :=
  sys host fun _ => .ok (ino, .idle)

def mkdirat (dir : Ino) (name : String) : Io (Except IoErrorKind Unit) :=
  sys host fun world =>
    match lookupAt world.disk dir name with
    | .error .notFound => .ok ((), .made dir name (host.os.allocate world))
    | .error kind => .error kind
    | .ok _ => .error .alreadyExists

/-- `openat` with `O_CREAT|O_EXCL`. -/
def createat (dir : Ino) (name : String) (mode : ℕ) : Io (Except IoErrorKind Ino) :=
  sys host fun world =>
    match lookupAt world.disk dir name with
    | .error .notFound =>
        let ino := host.os.allocate world
        .ok (ino, .created dir name ino ⟨"", mode, host.uid, host.gid⟩)
    | .error kind => .error kind
    | .ok _ => .error .alreadyExists

/-- A write to an open file: its content, its owner or its mode. -/
def modifyFile (ino : Ino) (change : FileData → FileData) : Io (Except IoErrorKind Unit) :=
  sys host fun world =>
    match world.disk.inode ino with
    | some (.file data) => .ok ((), .wrote ino (change data))
    | _ => .error .other

/-- `sync_all` of an open file or directory. -/
def syncAll (ino : Ino) : Io (Except IoErrorKind Unit) :=
  sys host fun _ => .ok ((), .synced ino)

def unlinkat (dir : Ino) (name : String) : Io (Except IoErrorKind Unit) :=
  sys host fun world =>
    match lookupAt world.disk dir name with
    | .ok (_, .directory) => .error .other
    | .ok _ => .ok ((), .unlinked dir name)
    | .error kind => .error kind

/-- `renameat2` with `RENAME_EXCHANGE` or `RENAME_NOREPLACE`. -/
def renameat2 (dir : Ino) (source target : String) (exchange : Bool) :
    Io (Except IoErrorKind Unit) :=
  sys host fun world =>
    match lookupAt world.disk dir source, lookupAt world.disk dir target with
    | .error kind, _ => .error kind
    | .ok _, .error .notFound =>
        if exchange then .error .notFound else .ok ((), .moved dir source target)
    | .ok _, .error kind => .error kind
    | .ok _, .ok _ =>
        if exchange then .ok ((), .exchanged dir source target) else .error .alreadyExists

end Calls

/-! ### Directories -/

section Directories

variable (host : Host)

def startOf (path : Path) : Ino :=
  if path.rooted then host.root else host.cwd

/-- The components of a path if they are all plain names. -/
def plainNames : List Component → Option (List String)
  | [] => some []
  | .normal name :: parts => (plainNames parts).map (name :: ·)
  | _ :: _ => none

def openExistingDirectory (path : Path) : Io Ino :=
  match plainNames path.parts with
  | none => Attempt.fail (.validation "directory path is not normalized")
  | some names =>
      orFail (sys host fun world =>
        match world.disk.walk (startOf host path) names with
        | some ino => .ok (ino, .idle)
        | none => .error .other)

def sameDirectory (first second : Ino) : Io Bool := do
  let first ← orFail (fstat host first)
  let second ← orFail (fstat host second)
  pure (first = second)

def verifyChildAt (parent : Ino) (name : String) (expected : Ino) : Io Unit := do
  let current ← orFail (openDirectoryAt host parent name)
  if ← sameDirectory host current expected then pure ()
  else Attempt.fail (.config "calibration ancestry changed after creation")

def openOrCreateFrom (hook : DurabilityHook) : Ino → List Component → Io Ino
  | directory, [] => pure directory
  | directory, .normal name :: parts => do
      match ← openDirectoryAt host directory name with
      | .ok next => openOrCreateFrom hook next parts
      | .error .notFound => do
          orFail (mkdirat host directory name)
          orFail (syncAll host directory)
          let child ← orFail (openDirectoryAt host directory name)
          runHook host hook .createdParentSynced
          verifyChildAt host directory name child
          openOrCreateFrom hook child parts
      | .error kind => Attempt.fail (.io kind)
  | _, _ :: _ => Attempt.fail (.validation "directory path is not normalized")

def openOrCreateDirectory (path : Path) (hook : DurabilityHook) : Io Ino :=
  openOrCreateFrom host hook (startOf host path) path.parts

def parentPathMatches (path : Path) (expected : Ino) : Io Bool := do
  let found ← (do fstat host (← openExistingDirectory host path) : Io _).capture
  pure (found = .ok (.ok expected))

end Directories

/-! ### Identities -/

section Identities

variable (host : Host)

structure ConfigTarget where
  identity : Ino
  mode : ℕ
  uid : ℕ
  gid : ℕ
  deriving DecidableEq, Repr

def metadataAt (parent : Ino) (name : String) : Io (Option (Ino × Kind FileData)) := do
  match ← fstatat host parent name with
  | .ok metadata => pure (some metadata)
  | .error .notFound => pure none
  | .error kind => Attempt.fail (.io kind)

def captureConfigTargetAt (parent : Ino) (name : String) : Io (Option ConfigTarget) := do
  match ← metadataAt host parent name with
  | none => pure none
  | some (ino, .file data) => pure (some ⟨ino, data.mode, data.uid, data.gid⟩)
  | some _ =>
      Attempt.fail (.validation "config target must be a non-symlink regular file")

def targetMatchesAt (parent : Ino) (name : String) (expected : Option ConfigTarget) : Io Bool := do
  let actual ← (captureConfigTargetAt host parent name).capture
  pure <| match actual, expected with
    | .ok none, none => true
    | .ok (some actual), some expected => actual.identity = expected.identity
    | _, _ => false

def fileIdentityAt (parent : Ino) (name : String) : Io Ino := do
  match ← metadataAt host parent name with
  | none => Attempt.fail (.io .notFound)
  | some (ino, .file _) => pure ino
  | some _ => Attempt.fail (.validation "is not a non-symlink regular file")

/-- `file_identity_at(..).ok() == Some(expected)`. -/
def identifies (parent : Ino) (name : String) (expected : Ino) : Io Bool := do
  let found ← (fileIdentityAt host parent name).capture
  pure (found = .ok expected)

def removeIfIdentityAt (parent : Ino) (name : String) (expected : Ino) : Io Unit := do
  let found ← fileIdentityAt host parent name
  Attempt.require (found = expected) (.config "refusing to remove identity-changed file")
  orFail (unlinkat host parent name)

/-- Fails with `operation` after removing the file. -/
def cleanupOwnedErrorAt (operation : LambError) (parent : Ino) (name : String) (expected : Ino) :
    Io Unit := do
  match ← (removeIfIdentityAt host parent name expected).capture with
  | .ok _ => Attempt.fail operation
  | .error cleanup => Attempt.fail (.persistenceCleanup operation cleanup)

/-- `.{target}.{tag}.{sequence}.tmp`. -/
def adjacentName (target tag : String) (sequence : ℕ) : String :=
  "." ++ target ++ "." ++ tag ++ "." ++ toString sequence ++ ".tmp"

/-- At most `attempts` names are tried. -/
def createUniqueAdjacentAt (parent : Ino) (target tag : String)
    (names : World FileData → Result ℕ) : ℕ → Io (String × Ino)
  | 0 =>
      Attempt.fail
        (.config "could not create a unique adjacent temporary file after 128 attempts")
  | attempts + 1 => do
      let sequence ← Attempt.ofExcept (names (← Attempt.get))
      let name := adjacentName target tag sequence
      match ← createat host parent name 0o600 with
      | .ok ino => pure (name, ino)
      | .error .alreadyExists => createUniqueAdjacentAt parent target tag names attempts
      | .error kind => Attempt.fail (.io kind)

end Identities

/-! ### The save -/

/-- The parts of the configuration's format that the save relies on: its
check, and the TOML library. -/
structure ConfigFormat (α : Type) where
  validatePersistedConfig : α → Result Unit
  toStringPretty : α → Result String
  fromStr : String → Result α

section Save

variable {α : Type} [DecidableEq α] (host : Host) (format : ConfigFormat α)

/-- The text without its last line ends, and one line end. -/
def endLine (text : String) : String :=
  String.ofList ((text.toList.reverse.dropWhile (· = '\n')).reverse ++ ['\n'])

/-- The text of the candidate, which reads back as the candidate. -/
def serialized (candidate : α) : Result String := do
  format.validatePersistedConfig candidate
  let text := endLine (← format.toStringPretty candidate)
  let roundTrip ← format.fromStr text
  ensure (roundTrip = candidate) (.config "serialized app config did not round-trip exactly")
  pure text

/-- The `fchown` of the new file to the owner of the old one. -/
def fchown (previous : Option ConfigTarget) (file : Ino) : Io Unit :=
  match previous with
  | some previous =>
      orFail (modifyFile host file fun data =>
        { data with uid := previous.uid, gid := previous.gid })
  | none => pure ()

/-- The closure `prepare`: owner, content and mode of the new file. -/
def prepare (hook : DurabilityHook) (text : String) (previous : Option ConfigTarget) (file : Ino) :
    Io Unit := do
  fchown host previous file
  orFail (modifyFile host file fun data => { data with text := data.text ++ text })
  orFail (modifyFile host file fun data =>
    { data with mode := previous.elim 0o600 ConfigTarget.mode })
  orFail (syncAll host file)
  runHook host hook .configTempSynced

/-- The closure `publication`: the installed name is made durable. -/
def publication (hook : DurabilityHook) (parentPath : Path) (parent : Ino) : Io Unit := do
  runHook host hook .configRenamed
  if ← parentPathMatches host parentPath parent then orFail (syncAll host parent)
  else Attempt.fail (.config "config parent changed after atomic installation")
  runHook host hook .configParentSynced

/-- The names are exchanged back after a failed publication. -/
def undoExchange (parentPath : Path) (parent : Ino) (targetName tempName : String)
    (newIdentity previous : Ino) (operation : LambError) : Io Unit := do
  let indeterminate := Attempt.fail (.indeterminatePublication operation)
  if ← parentPathMatches host parentPath parent then
    if ← identifies host parent targetName newIdentity then
      if ← identifies host parent tempName previous then
        match ← renameat2 host parent tempName targetName true with
        | .error _ => indeterminate
        | .ok _ =>
            if ← identifies host parent targetName previous then
              if ← identifies host parent tempName newIdentity then
                match ← syncAll host parent with
                | .error _ => indeterminate
                | .ok _ =>
                    match ← (do
                      removeIfIdentityAt host parent tempName newIdentity
                      orFail (syncAll host parent) : Io Unit).capture with
                    | .ok _ => Attempt.fail operation
                    | .error cleanup => Attempt.fail (.persistenceCleanup operation cleanup)
              else indeterminate
            else indeterminate
      else indeterminate
    else indeterminate
  else indeterminate

def installOver (hook : DurabilityHook) (parentPath : Path) (parent : Ino)
    (targetName tempName : String) (newIdentity : Ino) (previous : ConfigTarget) : Io Unit := do
  match ← (orFail (renameat2 host parent tempName targetName true)).capture with
  | .error operation => cleanupOwnedErrorAt host operation parent tempName newIdentity
  | .ok _ =>
      let installedIsNew ← identifies host parent targetName newIdentity
      let recoveryIsOld ← identifies host parent tempName previous.identity
      if !installedIsNew || !recoveryIsOld then
        Attempt.fail (.indeterminatePublication
          (.config "config identities changed during atomic exchange"))
      else
        match ← (publication host hook parentPath parent).capture with
        | .error operation =>
            undoExchange host parentPath parent targetName tempName newIdentity previous.identity
              operation
        | .ok _ =>
            -- the old target is removed as far as that succeeds
            match ← (removeIfIdentityAt host parent tempName previous.identity).capture with
            | .ok _ =>
                let _ ← syncAll host parent
                pure ()
            | .error _ => pure ()

/-- The installed file is removed after a failed publication. -/
def undoMove (parentPath : Path) (parent : Ino) (targetName : String) (newIdentity : Ino)
    (operation : LambError) : Io Unit := do
  let indeterminate := Attempt.fail (.indeterminatePublication operation)
  if ← parentPathMatches host parentPath parent then
    if ← identifies host parent targetName newIdentity then
      match ← (do
        removeIfIdentityAt host parent targetName newIdentity
        orFail (syncAll host parent) : Io Unit).capture with
      | .ok _ => Attempt.fail operation
      | .error cleanup => Attempt.fail (.persistenceCleanup operation cleanup)
    else indeterminate
  else indeterminate

def installNew (hook : DurabilityHook) (parentPath : Path) (parent : Ino)
    (targetName tempName : String) (newIdentity : Ino) : Io Unit := do
  match ← (orFail (renameat2 host parent tempName targetName false)).capture with
  | .error operation => cleanupOwnedErrorAt host operation parent tempName newIdentity
  | .ok _ =>
      if ← identifies host parent targetName newIdentity then
        match ← (publication host hook parentPath parent).capture with
        | .error operation => undoMove host parentPath parent targetName newIdentity operation
        | .ok _ => pure ()
      else
        Attempt.fail (.indeterminatePublication
          (.config "installed config identity cannot be established"))

/-- What follows once the temporary file is there and identified. -/
def install (hook : DurabilityHook) (text : String) (parentPath : Path) (parent : Ino)
    (targetName tempName : String) (file newIdentity : Ino) (previous : Option ConfigTarget) :
    Io Unit := do
  match ← (prepare host hook text previous file).capture with
  | .error operation => cleanupOwnedErrorAt host operation parent tempName newIdentity
  | .ok _ =>
      let changed := cleanupOwnedErrorAt host
        (.config "config target changed before atomic installation") parent tempName newIdentity
      if ← parentPathMatches host parentPath parent then
        if ← targetMatchesAt host parent targetName previous then
          match previous with
          | some previous =>
              installOver host hook parentPath parent targetName tempName newIdentity previous
          | none => installNew host hook parentPath parent targetName tempName newIdentity
        else changed
      else changed

/-- What follows once the parent is open. -/
def replaceTarget (hook : DurabilityHook) (text : String) (parentPath : Path) (parent : Ino)
    (targetName : String) (nameSource : World FileData → Result ℕ) : Io Unit := do
  let previous ← captureConfigTargetAt host parent targetName
  let (tempName, file) ← createUniqueAdjacentAt host parent targetName "config" nameSource 128
  let newIdentity ← fileIdentityAt host parent tempName
  install host hook text parentPath parent targetName tempName file newIdentity previous

def saveConfigAtomicWithHookAndNameSource (path : Path) (candidate : α) (hook : DurabilityHook)
    (nameSource : World FileData → Result ℕ) : Io Unit := do
  let text ← Attempt.ofExcept (serialized format candidate)
  match path.parent with
  | none => Attempt.fail (.config "config path has no parent")
  | some parentPath =>
      match path.fileName with
      | none => Attempt.fail (.config "path has no filename")
      | some targetName => do
          let parent ← openOrCreateDirectory host parentPath hook
          let parent ← orFail (fstat host parent)
          replaceTarget host hook text parentPath parent targetName nameSource

end Save

inductive ConfigSaveFailureOutcome
  | definitelyNotPublished
  | notEstablished
  deriving DecidableEq, Repr

def configSaveFailureOutcome : LambError → ConfigSaveFailureOutcome
  | .indeterminatePublication _ => .notEstablished
  | .persistenceCleanup _ _ => .notEstablished
  | _ => .definitelyNotPublished

end Lamb.Calibration
