import Lamb.Error
import Lamb.Lib.FileTree
import Lamb.Lib.Path

/-!
The transaction manifest. It is kept as the parser returns it, with the path
arena resolved: a path is its text, and an empty text stands for a path
reference of length zero. Its JSON form is not modelled; a file holds either
a manifest, meaning bytes which parse to it within the reserved buffers, or
other data.
-/

namespace Lamb.Recovery

open Lamb.Lib

def manifestVersion : ℕ := 2

def legacyManifestVersion : ℕ := 1

def recallManifestName : String := "manifest.json"

inductive TransactionKind
  | recall
  | dump
  | fileSet
  | atomicDirectory
  deriving DecidableEq, Repr

inductive ManifestPhase
  | prepared
  | publishing (index : ℕ)
  | complete
  deriving DecidableEq, Repr

structure FileIdentity where
  device : ℕ
  inode : ℕ
  deriving DecidableEq, Repr

structure ManifestEntrySlot where
  stagedPath : String
  stagedIdentity : Option FileIdentity := none
  partialPath : String := ""
  partialIdentity : Option FileIdentity := none
  finalPath : String
  finalIdentity : Option FileIdentity := none
  deriving DecidableEq, Repr

/-- A directory is written as an intent before it is made, and as owned once
its identity is known. -/
inductive ManifestDirectoryState
  | intent
  | owned
  deriving DecidableEq, Repr

/-- A directory above the final path of an entry, named by the length of the
text that is its path. -/
structure ManifestDirectorySlot where
  entryIndex : ℕ
  prefixLen : ℕ
  state : Option ManifestDirectoryState := none
  identity : Option FileIdentity := none
  deriving DecidableEq, Repr

structure TransactionManifest where
  version : ℕ
  uid : ℕ
  kind : TransactionKind
  phase : ManifestPhase
  transactionId : String
  stagingRootPath : String
  stagingRootIdentity : Option FileIdentity
  outputRoot : String
  finalDirectoryPath : String := ""
  finalDirectoryIdentity : Option FileIdentity := none
  entries : List ManifestEntrySlot
  directories : List ManifestDirectorySlot := []
  directoryJournalPresent : Bool := true
  deriving DecidableEq, Repr

namespace ManifestEntrySlot

def staged (entry : ManifestEntrySlot) : Path × Option FileIdentity :=
  (Path.ofText entry.stagedPath, entry.stagedIdentity)

/-- `TransactionManifest::partial`. -/
def partialOf (entry : ManifestEntrySlot) : Option (Path × Option FileIdentity) :=
  if entry.partialPath = "" then none
  else some (Path.ofText entry.partialPath, entry.partialIdentity)

def finalOf (entry : ManifestEntrySlot) : Path × Option FileIdentity :=
  (Path.ofText entry.finalPath, entry.finalIdentity)

end ManifestEntrySlot

namespace TransactionManifest

def directoryPath (manifest : TransactionManifest) (slot : ManifestDirectorySlot) : Result Path :=
  match manifest.entries[slot.entryIndex]? with
  | none => .error (.validation "directory entry index exceeds manifest entries")
  | some entry =>
      match Path.takeBytes entry.finalPath.toList slot.prefixLen with
      | none => .error (.validation "directory prefix is not a UTF-8 boundary")
      | some text => .ok (Path.ofText (String.ofList text))

def finalDirectory (manifest : TransactionManifest) : Option (Path × Option FileIdentity) :=
  if manifest.finalDirectoryPath = "" then none
  else some (Path.ofText manifest.finalDirectoryPath, manifest.finalDirectoryIdentity)

def stagingRoot (manifest : TransactionManifest) : Path :=
  Path.ofText manifest.stagingRootPath

/-- Every identity the manifest records. -/
def identities (manifest : TransactionManifest) : List FileIdentity :=
  manifest.stagingRootIdentity.toList ++ manifest.finalDirectoryIdentity.toList ++
    (manifest.entries.flatMap fun entry => entry.stagedIdentity.toList ++
      entry.partialIdentity.toList ++ entry.finalIdentity.toList) ++
    manifest.directories.flatMap fun slot => slot.identity.toList

end TransactionManifest

inductive Content
  | manifest (manifest : TransactionManifest)
  | data (bytes : List UInt8)
  deriving DecidableEq, Repr

abbrev Entry := Node FileIdentity Content

abbrev FileSystem := FileTree FileIdentity Content

end Lamb.Recovery
