import Lamb.Lib.Attempt
import Lamb.Recovery.Manifest

/-!
The cleanup of the artifact of an interrupted publication. The artifact is moved
into a directory only the daemon can write to, the quarantine, checked there once
more and removed; what has been done is kept in a slot, from which the next call
goes on. Before every call into the operating system others may put something else
under the artifact's name or take it away; they do not reach into the quarantine,
and they have no other name for the artifact itself.
-/

namespace Lamb.Quarantine

open Lamb.Lib
open Lamb.Recovery (FileIdentity)

/-! ### The operating system -/

inductive CleanupError
  | notFound
  | alreadyExists
  | directoryNotEmpty
  | invalidInput
  | other
  deriving DecidableEq, Repr

/-- What stands under a name, as `fstatat` sees it. -/
structure Object where
  identity : FileIdentity
  isDir : Bool
  deriving DecidableEq, Repr

/-- What stands under the name of the quarantine. -/
structure Directory where
  identity : FileIdentity
  isDir : Bool
  uid : ℕ
  mode : ℕ
  artifact : Option Object
  deriving DecidableEq, Repr

/-- The directory the artifact was published in, and what the cleanup has made and
removed so far. -/
structure World where
  parentIdentity : FileIdentity
  parentUid : ℕ
  parentMode : ℕ
  publicName : Option Object
  quarantine : Option Directory
  made : List FileIdentity
  removed : List FileIdentity
  clock : ℕ
  deriving DecidableEq, Repr

/-- The operating system, and what others do before each call. -/
structure Os where
  euid : ℕ
  /-- The mode of a new directory, after the umask. -/
  createdMode : ℕ
  createdMode_private : createdMode &&& 0o077 = 0
  fails : World → Bool
  allocate : World → ℕ
  others : World → Option (Option Object)

/-- `ArtifactQuarantineState`. -/
structure Slot where
  parentIdentity : Option FileIdentity
  identity : Option FileIdentity
  created : Bool
  setupComplete : Bool
  handoff : Bool
  artifactRemoved : Bool
  removed : Bool
  deriving DecidableEq, Repr

def Slot.new : Slot :=
  ⟨none, none, false, false, false, false, false⟩

structure Cell where
  world : World
  slot : Slot
  deriving DecidableEq, Repr

abbrev Cleanup (β : Type) := Attempt Cell CleanupError β

def Os.disturb (os : Os) (world : World) : World :=
  match os.others world with
  | some publicName => { world with publicName := publicName }
  | none => world

def World.tick (world : World) : World :=
  { world with clock := world.clock + 1 }

/-- The world the next call finds. -/
def Os.next (os : Os) (world : World) : World :=
  (os.disturb world).tick

/-- One call: first the others, then the call itself, which may fail without effect. -/
def call {β : Type} (os : Os) (operation : World → Except CleanupError (β × World)) :
    Cleanup (Except CleanupError β) := fun cell =>
  let world := os.next cell.world
  if os.fails world then (.ok (.error .other), { cell with world := world })
  else
    match operation world with
    | .ok (b, world') => (.ok (.ok b), { cell with world := world' })
    | .error e => (.ok (.error e), { cell with world := world })

def query {β : Type} (os : Os) (read : World → Except CleanupError β) :
    Cleanup (Except CleanupError β) :=
  call os fun world => (read world).map fun b => (b, world)

/-- `?`. -/
def orFail {β : Type} (attempt : Cleanup (Except CleanupError β)) : Cleanup β := do
  match ← attempt with
  | .ok b => pure b
  | .error e => Attempt.fail e

def slot : Cleanup Slot := fun cell => (.ok cell.slot, cell)

def modifySlot (f : Slot → Slot) : Cleanup Unit :=
  Attempt.modify fun cell => { cell with slot := f cell.slot }

/-- A call on an open directory that changes nothing: `openat`, `sync_all`, the seams
of `CleanupIo`. -/
def onOpenFile (os : Os) : Cleanup (Except CleanupError Unit) :=
  query os fun _ => .ok ()

def identityAt (found : Option Object) : Except CleanupError FileIdentity :=
  match found with
  | some object => .ok object.identity
  | none => .error .notFound

def World.directory (world : World) : Except CleanupError Directory :=
  match world.quarantine with
  | some directory => if directory.isDir then .ok directory else .error .other
  | none => .error .notFound

/-- `mkdirat` of the quarantine. -/
def mkdirQuarantine (os : Os) : Cleanup (Except CleanupError Unit) :=
  call os fun world =>
    match world.quarantine with
    | some _ => .error .alreadyExists
    | none =>
        let identity : FileIdentity := ⟨world.parentIdentity.device, os.allocate world⟩
        .ok ((), { world with
          quarantine := some ⟨identity, true, os.euid, os.createdMode, none⟩
          made := identity :: world.made })

def fchmodQuarantine (os : Os) (mode : ℕ) : Cleanup (Except CleanupError Unit) :=
  call os fun world =>
    world.directory.map fun directory =>
      ((), { world with quarantine := some { directory with mode := mode } })

/-- `renameat2` with `RENAME_NOREPLACE`, of the artifact's name into the quarantine. -/
def renameToQuarantine (os : Os) : Cleanup (Except CleanupError Unit) :=
  call os fun world =>
    match world.publicName, world.directory with
    | _, .error e => .error e
    | none, _ => .error .notFound
    | some object, .ok directory =>
        if directory.artifact.isSome then .error .alreadyExists
        else
          .ok ((), { world with
            publicName := none
            quarantine := some { directory with artifact := some object } })

def unlinkArtifact (os : Os) : Cleanup (Except CleanupError Unit) :=
  call os fun world =>
    match world.directory with
    | .error e => .error e
    | .ok directory =>
        match directory.artifact with
        | none => .error .notFound
        | some object =>
            if object.isDir then .error .other
            else
              .ok ((), { world with
                quarantine := some { directory with artifact := none }
                removed := object.identity :: world.removed })

/-- `unlinkat` with `AT_REMOVEDIR`, of the quarantine. -/
def removeQuarantine (os : Os) : Cleanup (Except CleanupError Unit) :=
  call os fun world =>
    match world.directory with
    | .error e => .error e
    | .ok directory =>
        if directory.artifact.isSome then .error .directoryNotEmpty
        else
          .ok ((), { world with
            quarantine := none
            removed := directory.identity :: world.removed })

/-! ### The cleanup -/

/-- `prepare_cleanup_component`, with a scratch buffer of `capacity` bytes. -/
def prepareCleanupComponent (capacity : ℕ) (name : String) : Except CleanupError Unit :=
  if '\x00' ∈ name.toList ∨ capacity ≤ name.utf8ByteSize then .error .invalidInput else .ok ()

/-- `prepare_recovery_component`: a prefix, two numbers of 16 digits, a suffix. -/
def prepareRecoveryComponent (capacity : ℕ) : Except CleanupError Unit :=
  if capacity < 15 + 16 + 1 + 16 + 9 + 1 then .error .invalidInput else .ok ()

/-- Opens the directories on an absolute path one after the other. -/
def openParentWithoutSymlinks (os : Os) (capacity : ℕ) (parent : List String) : Cleanup Unit := do
  orFail (onOpenFile os)
  parent.forM fun name => do
    Attempt.ofExcept (prepareCleanupComponent capacity name)
    orFail (onOpenFile os)

def retainAndValidateQuarantineParent (os : Os) : Cleanup Bool := do
  let parent ← orFail (query os fun world =>
    .ok (world.parentIdentity, world.parentUid, world.parentMode))
  let state ← slot
  let trusted := parent.2.1 = os.euid ∧ parent.2.2 &&& 0o022 = 0
  match state.parentIdentity with
  | some expected => pure (decide (expected = parent.1 ∧ trusted))
  | none => do
      modifySlot fun state => { state with parentIdentity := some parent.1 }
      pure (decide trusted)

def quarantineMode : ℕ := 0o700

/-- The end of `open_authoritative_quarantine`, once the directory is open. -/
def normalizeQuarantine (os : Os) (parentDevice : ℕ) (directory : Directory) : Cleanup Bool := do
  let state ← slot
  if state.setupComplete then pure (decide (directory.mode &&& 0o7777 = quarantineMode))
  else do
    orFail (fchmodQuarantine os quarantineMode)
    let normalized ← orFail (query os World.directory)
    if normalized.identity ≠ directory.identity ∨ normalized.identity.device ≠ parentDevice ∨
        normalized.uid ≠ os.euid ∨ normalized.mode &&& 0o7777 ≠ quarantineMode then
      pure false
    else do
      orFail (onOpenFile os)
      modifySlot fun state => { state with setupComplete := true }
      pure true

/-- The checks of `open_authoritative_quarantine` on the directory it has made. -/
def inspectQuarantine (os : Os) : Cleanup Bool := do
  let _ ← orFail (query os World.directory)
  let parent ← orFail (query os fun world => .ok world.parentIdentity)
  let directory ← orFail (query os World.directory)
  let state ← slot
  if directory.identity.device ≠ parent.device ∨ directory.uid ≠ os.euid ∨
      directory.mode &&& 0o077 ≠ 0 ∨ state.identity.any (· ≠ directory.identity) then
    pure false
  else do
    modifySlot fun state => { state with identity := some (state.identity.getD directory.identity) }
    normalizeQuarantine os parent.device directory

def openAuthoritativeQuarantine (os : Os) : Cleanup Bool := do
  let state ← slot
  if state.created then inspectQuarantine os
  else
    match ← mkdirQuarantine os with
    | .error .alreadyExists => pure false
    | .error e => Attempt.fail e
    | .ok () => do
        modifySlot fun state => { state with created := true }
        inspectQuarantine os

def removeEmptyQuarantine (os : Os) : Cleanup Bool := do
  let state ← slot
  match state.identity with
  | none => pure false
  | some authority => do
      orFail (onOpenFile os)
      let valid ← retainAndValidateQuarantineParent os
      if valid = false then pure false
      else do
        let directory ← orFail (query os World.directory)
        if directory.identity ≠ authority then pure false
        else
          match ← query os World.directory with
          | .error .notFound => pure false
          | .error e => Attempt.fail e
          | .ok directory =>
              if directory.identity ≠ authority then pure false
              else
                match ← removeQuarantine os with
                | .error .notFound => pure false
                | .error .directoryNotEmpty => pure false
                | .error e => Attempt.fail e
                | .ok () => do
                    modifySlot fun state => { state with removed := true }
                    orFail (onOpenFile os)
                    pure true

/-- Goes on when the artifact in the quarantine is the expected one. -/
def checkPrivate (os : Os) (expected : FileIdentity) (next : Cleanup Bool) : Cleanup Bool := do
  match ← query os fun world => world.directory.bind fun directory =>
      identityAt directory.artifact with
  | .error .notFound => pure false
  | .error e => Attempt.fail e
  | .ok identity => if identity = expected then next else pure false

def unlinkPrivate (os : Os) : Cleanup Bool := do
  match ← unlinkArtifact os with
  | .error .notFound => pure false
  | .error .directoryNotEmpty => pure false
  | .error e => Attempt.fail e
  | .ok () => do
      modifySlot fun state => { state with artifactRemoved := true }
      orFail (onOpenFile os)
      removeEmptyQuarantine os

def resolvePrivateArtifact (os : Os) (expected : FileIdentity) : Cleanup Bool := do
  let state ← slot
  if state.artifactRemoved then removeEmptyQuarantine os
  else
    checkPrivate os expected do
      orFail (onOpenFile os)
      checkPrivate os expected (unlinkPrivate os)

/-- The hand-over of the artifact into the quarantine, and the rest of the cleanup. -/
def handOff (os : Os) (expected : FileIdentity) : Cleanup Bool := do
  match ← query os fun world => world.directory.bind fun directory =>
      identityAt directory.artifact with
  | .ok _ => pure false
  | .error .notFound =>
      match ← query os fun world => identityAt world.publicName with
      | .error .notFound => removeEmptyQuarantine os
      | .error e => Attempt.fail e
      | .ok identity =>
          if identity ≠ expected then pure false
          else
            match ← renameToQuarantine os with
            | .error .notFound => pure false
            | .error .alreadyExists => pure false
            | .error e => Attempt.fail e
            | .ok () => do
                modifySlot fun state => { state with handoff := true }
                orFail (onOpenFile os)
                resolvePrivateArtifact os expected
  | .error e => Attempt.fail e

/-- The path of the artifact by its names, and the sizes of the two scratch buffers. -/
structure Coordinates where
  parent : List String
  publicName : String
  componentA : ℕ
  componentB : ℕ

def resolveCurrentArtifactByHandoff (os : Os) (coordinates : Coordinates)
    (expected : FileIdentity) : Cleanup Bool := do
  openParentWithoutSymlinks os coordinates.componentA coordinates.parent
  Attempt.ofExcept (prepareCleanupComponent coordinates.componentA coordinates.publicName)
  Attempt.ofExcept (prepareRecoveryComponent coordinates.componentB)
  let valid ← retainAndValidateQuarantineParent os
  if valid = false then pure false
  else do
    let state ← slot
    if state.removed then do
      orFail (onOpenFile os)
      pure true
    else do
      let opened ← openAuthoritativeQuarantine os
      if opened = false then pure false
      else do
        let state ← slot
        if state.handoff then resolvePrivateArtifact os expected else handOff os expected

/-! ### Sequences of calls -/

/-- The first call of a cleanup: nothing has been made or removed. -/
def Cell.start (world : World) : Cell :=
  { world := { world with made := [], removed := [] }, slot := Slot.new }

def calls (os : Os) (coordinates : Coordinates) (expected : FileIdentity) : ℕ → Cell → Cell
  | 0, cell => cell
  | n + 1, cell =>
      (resolveCurrentArtifactByHandoff os coordinates expected
        (calls os coordinates expected n cell)).2

/-- Others put only other objects under the name of the artifact. -/
def Os.Foreign (os : Os) (expected : FileIdentity) : Prop :=
  ∀ world object, os.others world = some (some object) → object.identity ≠ expected

def Os.Quiet (os : Os) : Prop :=
  (∀ world, os.fails world = false) ∧ ∀ world, os.others world = none

def Os.quiet (os : Os) : Os :=
  { os with fails := fun _ => false, others := fun _ => none }

/-- The object does not stand under the name of the artifact. -/
def World.Absent (world : World) (expected : FileIdentity) : Prop :=
  ∀ object, world.publicName = some object → object.identity ≠ expected

/-- The object stands under the name of the artifact or in the quarantine. -/
def World.Holds (world : World) (expected : FileIdentity) : Prop :=
  (∃ object, world.publicName = some object ∧ object.identity = expected) ∨
    ∃ directory object, world.quarantine = some directory ∧
      directory.artifact = some object ∧ object.identity = expected

/-- Another object stands where the cleanup would go on. -/
def Cell.Blocked (cell : Cell) (expected : FileIdentity) : Prop :=
  (cell.slot.handoff = false ∧
    ∃ object, cell.world.publicName = some object ∧ object.identity ≠ expected) ∨
  (cell.slot.handoff = true ∧ ∃ directory object, cell.world.quarantine = some directory ∧
    directory.artifact = some object ∧ object.identity ≠ expected)

/-- What the cleanup needs of the place it starts in. -/
structure Usable (os : Os) (coordinates : Coordinates) (expected : FileIdentity)
    (start : World) : Prop where
  owner : start.parentUid = os.euid
  unshared : start.parentMode &&& 0o022 = 0
  free : start.quarantine = none
  file : ∀ object, start.publicName = some object → object.identity = expected →
    object.isDir = false
  parentFits : ∀ name ∈ coordinates.parent,
    prepareCleanupComponent coordinates.componentA name = .ok ()
  nameFits : prepareCleanupComponent coordinates.componentA coordinates.publicName = .ok ()
  quarantineFits : prepareRecoveryComponent coordinates.componentB = .ok ()

end Lamb.Quarantine
