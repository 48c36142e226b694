import Lamb.Recovery.Format
import Lamb.Recovery.Recover
import Lamb.Recovery.Validate

/-!
The manifest store of a prepared publication. The manifest is written to a
temporary file and renamed over the one before it, relative to the open staging
directory. Before an outcome is reported, the file is read back by its path.

A file that holds a manifest holds the text which is written for it; the buffer
of the store is its capacity.
-/

namespace Lamb.Recovery

open Lamb.Lib

/-- `serialize_bounded`, in its length. -/
def serializeBounded (capacity : ℕ) (manifest : TransactionManifest) : Result ℕ :=
  if capacity < manifest.serialize.byteLength then
    .error (.validation "manifest exceeds planned serialization capacity")
  else .ok manifest.serialize.byteLength

/-! ### Files of an open directory -/

section Directory

variable (os : Os) (parent : Location)

def openRegularAt (name : String) : Io (Except IoErrorKind Entry) := do
  match ← openNoFollowAt os parent name with
  | .error kind => pure (.error kind)
  | .ok entry =>
      match ← onOpenFile os with
      | .error kind => pure (.error kind)
      | .ok _ => if entry.isFile then pure (.ok entry) else pure (.error .other)

def identityAt (name : String) : Io FileIdentity := do
  let entry ← orFail (openRegularAt os parent name)
  orFail (onOpenFile os)
  pure entry.identity

def unlinkIfIdentityAt (name : String) (expected : FileIdentity) : Io Unit := do
  let found ← identityAt os parent name
  Attempt.require (found = expected)
    (.validation "refusing to remove identity-changed manifest temporary")
  orFail (unlinkAt os parent name)

end Directory

/-! ### Writing -/

section Write

variable (os : Os) (capacity : ℕ) (parent : Location) (manifestName tempName : String)
  (display : Path) (manifest : TransactionManifest)

/-- The manifest under the name is the one this publication wrote last, or
there is none. -/
def checkCurrent (current : Option FileIdentity) : Io Unit := do
  match current with
  | none =>
      match ← openRegularAt os parent manifestName with
      | .error .notFound => pure ()
      | .ok _ => Attempt.fail (.validation "refusing to replace an unowned manifest")
      | .error kind => Attempt.fail (.io kind)
  | some expected => do
      let found ← identityAt os parent manifestName
      Attempt.require (found = expected)
        (.validation "manifest identity changed during prepared publication")

/-- Everything up to the identity of the temporary file. -/
def createTemp (current : Option FileIdentity) : Io FileIdentity := do
  Attempt.ofExcept (validateManifestBasics os manifest)
  Attempt.require display.parent.isSome (.validation "manifest path has no parent directory")
  let _ ← Attempt.ofExcept (serializeBounded capacity manifest)
  checkCurrent os parent manifestName current
  let tempIdentity ← orFail (createNewAt os parent tempName)
  orFail (onOpenFile os)
  pure tempIdentity

/-- The temporary file takes the place of the manifest. -/
def installTemp (current : Option FileIdentity) : Io Unit := do
  orFail (writeAll os (parent ++ [tempName]) (.manifest manifest))
  orFail (onOpenFile os)
  orFail (onOpenFile os)
  match current with
  | none => orFail (renameNoReplaceAt os parent tempName manifestName)
  | some expected => do
      orFail (renameExchangeAt os parent tempName manifestName)
      let replaced ← identityAt os parent tempName
      if replaced = expected then unlinkIfIdentityAt os parent tempName expected
      else
        match ← (orFail (renameExchangeAt os parent tempName manifestName)).capture with
        | .ok _ =>
            Attempt.fail (.validation "manifest identity changed during atomic replacement")
        | .error error => Attempt.fail (.indeterminatePublication error)

/-- `write_prepared_at`: its result, and the identity of the manifest that it
leaves with the caller. -/
def writePreparedAt (directorySync : Io Unit) (current : Option FileIdentity) :
    Io (Result Unit × Option FileIdentity) := do
  match ← (createTemp os capacity parent manifestName tempName display manifest
    current).capture with
  | .error error => pure (.error error, current)
  | .ok tempIdentity =>
      match ← (installTemp os parent manifestName tempName manifest current).capture with
      | .error error => do
          let _ ← (unlinkIfIdentityAt os parent tempName tempIdentity).capture
          pure (.error error, current)
      | .ok _ =>
          match ← directorySync.capture with
          | .error error => do
              let _ ← (unlinkIfIdentityAt os parent tempName tempIdentity).capture
              pure (.error error, some tempIdentity)
          | .ok _ => pure (.ok (), some tempIdentity)

end Write

/-! ### Reading back -/

section Verify

variable (os : Os) (capacity : ℕ) (manifestPath : Path)

/-- The length of a file. -/
def Content.byteLength : Content → ℕ
  | .manifest held => held.serialize.byteLength
  | .data bytes => bytes.length

def readIdentityFields : Io ExistingManifestCheck := do
  Attempt.require (capacity ≠ 0) (.validation "manifest buffer must not be empty")
  let content ← readFileBounded os manifestPath
  Attempt.require (content.byteLength ≤ capacity)
    (.validation "manifest exceeds the fixed recovery buffer")
  match content with
  | .data _ => Attempt.fail (.validation "malformed transaction manifest")
  | .manifest manifest =>
      match ExistingManifestCheck.deserialize manifest.serialize with
      | some check => pure check
      | none => Attempt.fail (.validation "malformed transaction manifest")

def verifyMatches (expected : TransactionManifest) : Io Unit := do
  let previous ← readIdentityFields os capacity manifestPath
  Attempt.require (previous.version = expected.version ∧ previous.uid = expected.uid ∧
      previous.transactionId = expected.transactionId ∧ previous.kind = expected.kind ∧
      Path.ofText previous.stagingRootPath = Path.ofText expected.stagingRootPath ∧
      Path.ofText previous.outputRoot = Path.ofText expected.outputRoot)
    (.validation "transaction manifest changed before publication outcome")

def verifyManifestMatches (expected : TransactionManifest) : Io FileIdentity := do
  let identity ← orFail (readManifestIdentity os manifestPath)
  verifyMatches os capacity manifestPath expected
  pure identity

end Verify

end Lamb.Recovery
