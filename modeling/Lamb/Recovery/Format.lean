import Mathlib.Data.Option.Basic
import Lamb.Lib.Json
import Lamb.Recovery.Manifest

/-!
The JSON form of a manifest: what the store writes, and the few fields that it
reads back before it replaces a manifest or reports an outcome. Those fields
are borrowed from the text of the file.

The derived readers of an identity and of the short check also take an array of
the values in order, which is never written and left out here.
-/

namespace Lamb.Recovery

open Lamb.Lib

/-! ### Writing -/

namespace FileIdentity

def serialize (identity : FileIdentity) : Json :=
  .obj [("device", .num identity.device), ("inode", .num identity.inode)]

end FileIdentity

def serializeIdentity : Option FileIdentity → Json
  | none => .null
  | some identity => identity.serialize

def TransactionKind.serialize : TransactionKind → Json
  | .recall => .ofString "recall"
  | .dump => .ofString "dump"
  | .fileSet => .ofString "file_set"
  | .atomicDirectory => .ofString "atomic_directory"

def ManifestPhase.serialize : ManifestPhase → Json
  | .prepared => .obj [("state", .ofString "prepared")]
  | .publishing index => .obj [("state", .ofString "publishing"), ("index", .num index)]
  | .complete => .obj [("state", .ofString "complete")]

def ManifestDirectoryState.serialize : ManifestDirectoryState → Json
  | .intent => .ofString "intent"
  | .owned => .ofString "owned"

/-- `ManifestPathSer`. -/
def serializePath (path : String) (identity : Option FileIdentity) : Json :=
  .obj [("path", .ofString path), ("identity", serializeIdentity identity)]

/-- A path that is absent when its text is empty. -/
def serializeOptionalPath (path : String) (identity : Option FileIdentity) : Json :=
  if path = "" then .null else serializePath path identity

/-- `ManifestEntrySer`. -/
def ManifestEntrySlot.serialize (slot : ManifestEntrySlot) : Json :=
  .obj [("staged", serializePath slot.stagedPath slot.stagedIdentity),
    ("partial", serializeOptionalPath slot.partialPath slot.partialIdentity),
    ("final_path", serializePath slot.finalPath slot.finalIdentity)]

/-- `ManifestCreatedDirectorySer`. -/
def ManifestDirectorySlot.serialize (slot : ManifestDirectorySlot) : Json :=
  .obj [("entry_index", .num slot.entryIndex), ("prefix_len", .num slot.prefixLen),
    ("state", slot.state.elim .null ManifestDirectoryState.serialize),
    ("identity", serializeIdentity slot.identity)]

namespace TransactionManifest

def serialize (manifest : TransactionManifest) : Json :=
  .obj ([("version", .num manifest.version), ("uid", .num manifest.uid),
    ("transaction_id", .ofString manifest.transactionId),
    ("kind", manifest.kind.serialize), ("phase", manifest.phase.serialize),
    ("staging_root", serializePath manifest.stagingRootPath manifest.stagingRootIdentity),
    ("output_root", .ofString manifest.outputRoot),
    ("final_directory",
      serializeOptionalPath manifest.finalDirectoryPath manifest.finalDirectoryIdentity),
    ("entries", .arr (manifest.entries.map ManifestEntrySlot.serialize))] ++
    if manifest.version = manifestVersion then
      [("created_directories", .arr (manifest.directories.map ManifestDirectorySlot.serialize))]
    else [])

/-- The fields lie in the ranges of their types. -/
structure InRange (manifest : TransactionManifest) : Prop where
  version : manifest.version < 2 ^ 32
  uid : manifest.uid < 2 ^ 32
  identities : ∀ identity ∈ manifest.identities,
    identity.device < 2 ^ 64 ∧ identity.inode < 2 ^ 64
  phase : ∀ index, manifest.phase = .publishing index → index < 2 ^ 64
  directories : ∀ slot ∈ manifest.directories,
    slot.entryIndex < 2 ^ 32 ∧ slot.prefixLen < 2 ^ 32

end TransactionManifest

/-! ### Reading -/

def FileIdentity.deserialize : Json → Option FileIdentity
  | .obj fields => do
      guard (∀ entry ∈ fields, entry.1 = "device" ∨ entry.1 = "inode")
      let device ← (← Json.field fields "device").asUnsigned 64
      let inode ← (← Json.field fields "inode").asUnsigned 64
      some ⟨device, inode⟩
  | _ => none

def TransactionKind.deserialize (json : Json) : Option TransactionKind := do
  let name ← json.asString
  if name = "recall" then some .recall
  else if name = "dump" then some .dump
  else if name = "file_set" then some .fileSet
  else if name = "atomic_directory" then some .atomicDirectory
  else none

theorem FileIdentity.deserialize_serialize {identity : FileIdentity}
    (hdevice : identity.device < 2 ^ 64) (hinode : identity.inode < 2 ^ 64) :
    deserialize identity.serialize = some identity := by
  simp [serialize, deserialize, Json.field, Json.asUnsigned_num hdevice,
    Json.asUnsigned_num hinode]

theorem deserialize_serializeIdentity {identity : Option FileIdentity}
    (h : ∀ found ∈ identity, found.device < 2 ^ 64 ∧ found.inode < 2 ^ 64) :
    (serializeIdentity identity).asOption FileIdentity.deserialize = some identity := by
  cases identity with
  | none => rfl
  | some identity =>
      obtain ⟨hdevice, hinode⟩ := h identity rfl
      have hread := FileIdentity.deserialize_serialize hdevice hinode
      simp only [serializeIdentity]
      rw [FileIdentity.serialize] at hread ⊢
      rw [Json.asOption, hread, Option.map_some]
      exact fun h => nomatch h

theorem TransactionKind.deserialize_serialize (kind : TransactionKind) :
    deserialize kind.serialize = some kind := by
  cases kind <;> simp [serialize, deserialize]

/-! ### The short check -/

/-- The fields that tell whose manifest it is. -/
structure ExistingManifestCheck where
  version : ℕ
  uid : ℕ
  transactionId : String
  kind : TransactionKind
  stagingRootPath : String
  outputRoot : String
  deriving DecidableEq, Repr

/-- `ExistingCheckPath`; a missing identity reads as none. -/
def existingCheckPath : Json → Option String
  | .obj fields => do
      let path ← (← Json.field fields "path").asBorrowed
      if fields.any fun entry => entry.1 = "identity" then do
        let _ ← (← Json.field fields "identity").asOption FileIdentity.deserialize
        some path
      else some path
  | _ => none

def ExistingManifestCheck.deserialize : Json → Option ExistingManifestCheck
  | .obj fields => do
      let version ← (← Json.field fields "version").asUnsigned 32
      let uid ← (← Json.field fields "uid").asUnsigned 32
      let transactionId ← (← Json.field fields "transaction_id").asBorrowed
      let kind ← TransactionKind.deserialize (← Json.field fields "kind")
      let stagingRootPath ← existingCheckPath (← Json.field fields "staging_root")
      let outputRoot ← (← Json.field fields "output_root").asBorrowed
      some ⟨version, uid, transactionId, kind, stagingRootPath, outputRoot⟩
  | _ => none

/-- Texts that JSON writes as they are. -/
def Unescaped (text : String) : Prop :=
  ∀ c ∈ text.toList, Json.Plain c

instance (text : String) : Decidable (Unescaped text) :=
  List.decidableBAll Json.Plain text.toList

theorem asBorrowed_ofString (text : String) :
    (Json.ofString text).asBorrowed = if Unescaped text then some text else none := by
  rw [Json.asBorrowed_ofString]
  by_cases h : Unescaped text
  · rw [if_pos h, if_neg]
    rintro ⟨c, hmem, hnot⟩
    exact hnot (h c hmem)
  · rw [if_neg h, if_pos]
    simpa [Unescaped] using h

theorem existingCheckPath_serializePath {path : String} {identity : Option FileIdentity}
    (h : ∀ found ∈ identity, found.device < 2 ^ 64 ∧ found.inode < 2 ^ 64) :
    existingCheckPath (serializePath path identity) = (Json.ofString path).asBorrowed := by
  simp [serializePath, existingCheckPath, Json.field, deserialize_serializeIdentity h]

namespace TransactionManifest

variable {manifest : TransactionManifest}

/-- The texts that the short check borrows are written as they are. -/
def Borrowable (manifest : TransactionManifest) : Prop :=
  Unescaped manifest.transactionId ∧ Unescaped manifest.stagingRootPath ∧
    Unescaped manifest.outputRoot

instance (manifest : TransactionManifest) : Decidable manifest.Borrowable :=
  inferInstanceAs (Decidable (_ ∧ _ ∧ _))

/-- What the short check reads of a manifest that was written in full. -/
theorem check_serialize (h : manifest.InRange) :
    ExistingManifestCheck.deserialize manifest.serialize =
      if manifest.Borrowable then
        some ⟨manifest.version, manifest.uid, manifest.transactionId, manifest.kind,
          manifest.stagingRootPath, manifest.outputRoot⟩
      else none := by
  have hidentity : ∀ found ∈ manifest.stagingRootIdentity,
      found.device < 2 ^ 64 ∧ found.inode < 2 ^ 64 := by
    intro found hfound
    apply h.identities
    simp [identities, Option.mem_toList.2 hfound]
  have hpath : existingCheckPath (serializePath manifest.stagingRootPath
      manifest.stagingRootIdentity) = _ := existingCheckPath_serializePath hidentity
  -- the journal comes last and is none of the fields that are read
  have hread : ExistingManifestCheck.deserialize manifest.serialize =
      (Json.ofString manifest.transactionId).asBorrowed.bind fun transactionId =>
        (Json.ofString manifest.stagingRootPath).asBorrowed.bind fun stagingRootPath =>
          (Json.ofString manifest.outputRoot).asBorrowed.bind fun outputRoot =>
            some ⟨manifest.version, manifest.uid, transactionId, manifest.kind, stagingRootPath,
              outputRoot⟩ := by
    simp only [serialize, ExistingManifestCheck.deserialize]
    split
    · simp [Json.field, Json.asUnsigned_num h.version, Json.asUnsigned_num h.uid, hpath,
        TransactionKind.deserialize_serialize]
    · simp [Json.field, Json.asUnsigned_num h.version, Json.asUnsigned_num h.uid, hpath,
        TransactionKind.deserialize_serialize]
  rw [hread, asBorrowed_ofString, asBorrowed_ofString, asBorrowed_ofString]
  by_cases hid : Unescaped manifest.transactionId
  · by_cases hstaging : Unescaped manifest.stagingRootPath
    · by_cases houtput : Unescaped manifest.outputRoot
      · simp [Borrowable, hid, hstaging, houtput]
      · simp [Borrowable, houtput]
    · simp [Borrowable, hstaging]
  · simp [Borrowable, hid]

end TransactionManifest

end Lamb.Recovery
