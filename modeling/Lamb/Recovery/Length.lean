import Lamb.Recovery.RoundTrip

/-!
How long the JSON form of a manifest gets. Every path is written once, and a
byte of it becomes six bytes at most; the rest of an entry, of a directory and
of the manifest itself is bounded by the widths of the numbers.
-/

namespace Lamb.Recovery

open Lamb.Lib

variable {identity : Option FileIdentity} {path : String}

theorem byteLength_num64_le {value : ℕ} (h : value < 2 ^ 64) : (Json.num value).byteLength ≤ 20 :=
  Json.byteLength_num_le (by decide) (lt_of_lt_of_le h (by decide))

theorem byteLength_num32_le {value : ℕ} (h : value < 2 ^ 32) : (Json.num value).byteLength ≤ 10 :=
  Json.byteLength_num_le (by decide) (lt_of_lt_of_le h (by decide))

theorem byteLength_null : Json.null.byteLength = 4 := by
  rw [Json.byteLength]
  rfl

theorem byteLength_serializeIdentity_le (h : IdentityInRange identity) :
    (serializeIdentity identity).byteLength ≤ 61 := by
  cases identity with
  | none =>
      rw [serializeIdentity, byteLength_null]
      decide
  | some identity =>
      obtain ⟨hdevice, hinode⟩ := h identity rfl
      have hlength := Json.byteLength_obj_le
        [("device", .num identity.device), ("inode", .num identity.inode)]
      have hfirst := byteLength_num64_le hdevice
      have hsecond := byteLength_num64_le hinode
      have hkey : Json.keyLength "device" = 8 := rfl
      have hkey' : Json.keyLength "inode" = 7 := rfl
      simp only [List.map_cons, List.map_nil, List.sum_cons, List.sum_nil, hkey, hkey'] at hlength
      rw [serializeIdentity, FileIdentity.serialize]
      omega

theorem byteLength_serializePath_le (h : IdentityInRange identity) :
    (serializePath path identity).byteLength ≤ 6 * path.utf8ByteSize + 85 := by
  have hlength := Json.byteLength_obj_le
    [("path", .ofString path), ("identity", serializeIdentity identity)]
  have hpath := Json.byteLength_ofString_le path
  have hidentity := byteLength_serializeIdentity_le h
  have hkey : Json.keyLength "path" = 6 := rfl
  have hkey' : Json.keyLength "identity" = 10 := rfl
  simp only [List.map_cons, List.map_nil, List.sum_cons, List.sum_nil, hkey, hkey'] at hlength
  rw [serializePath]
  omega

theorem byteLength_serializeOptionalPath_le (h : IdentityInRange identity) :
    (serializeOptionalPath path identity).byteLength ≤ 6 * path.utf8ByteSize + 85 := by
  unfold serializeOptionalPath
  split
  · rw [byteLength_null]
    omega
  · exact byteLength_serializePath_le h

theorem size_le_of_optionalText {maximum : ℕ}
    (h : ∀ text ∈ optionalText path, text.utf8ByteSize ≤ maximum) :
    path.utf8ByteSize ≤ maximum := by
  by_cases hempty : path = ""
  · rw [hempty]
    exact Nat.zero_le maximum
  · refine h path ?_
    rw [optionalText, if_neg hempty]
    exact List.mem_singleton_self path

/-- An entry whose paths are at most `maximum` bytes long. -/
theorem ManifestEntrySlot.byteLength_serialize_le {entry : ManifestEntrySlot}
    (h : entry.Written) {maximum : ℕ}
    (htexts : ∀ text ∈ entry.texts, text.utf8ByteSize ≤ maximum) :
    entry.serialize.byteLength ≤ 18 * maximum + 292 := by
  have hlength := Json.byteLength_obj_le
    [("staged", serializePath entry.stagedPath entry.stagedIdentity),
      ("partial", serializeOptionalPath entry.partialPath entry.partialIdentity),
      ("final_path", serializePath entry.finalPath entry.finalIdentity)]
  have hstaged := @byteLength_serializePath_le _ entry.stagedPath h.staged
  have hpart := @byteLength_serializeOptionalPath_le _ entry.partialPath h.partialOf
  have hfinal := @byteLength_serializePath_le _ entry.finalPath h.final
  have hstagedLe := htexts entry.stagedPath (by simp [texts])
  have hfinalLe := htexts entry.finalPath (by simp [texts])
  have hpartialLe : entry.partialPath.utf8ByteSize ≤ maximum :=
    size_le_of_optionalText fun text htext => htexts text (by simp [texts, htext])
  have hstagedKey : Json.keyLength "staged" = 8 := rfl
  have hpartialKey : Json.keyLength "partial" = 9 := rfl
  have hfinalKey : Json.keyLength "final_path" = 12 := rfl
  simp only [List.map_cons, List.map_nil, List.sum_cons, List.sum_nil, hstagedKey, hpartialKey,
    hfinalKey] at hlength
  rw [serialize]
  omega

theorem byteLength_directoryState_le (state : Option ManifestDirectoryState) :
    (state.elim Json.null ManifestDirectoryState.serialize).byteLength ≤ 8 := by
  rw [Json.byteLength]
  rcases state with _ | _ | _
  · decide
  · decide
  · decide

theorem ManifestDirectorySlot.byteLength_serialize_le {slot : ManifestDirectorySlot}
    (h : slot.Written) : slot.serialize.byteLength ≤ 141 := by
  have hlength := Json.byteLength_obj_le
    [("entry_index", .num slot.entryIndex), ("prefix_len", .num slot.prefixLen),
      ("state", slot.state.elim .null ManifestDirectoryState.serialize),
      ("identity", serializeIdentity slot.identity)]
  have hindex := byteLength_num32_le h.entryIndex
  have hinitial := byteLength_num32_le h.prefixLen
  have hstate := byteLength_directoryState_le slot.state
  have hidentity := byteLength_serializeIdentity_le h.identity
  have hindexKey : Json.keyLength "entry_index" = 13 := rfl
  have hprefixKey : Json.keyLength "prefix_len" = 12 := rfl
  have hstateKey : Json.keyLength "state" = 7 := rfl
  have hidentityKey : Json.keyLength "identity" = 10 := rfl
  simp only [List.map_cons, List.map_nil, List.sum_cons, List.sum_nil, hindexKey, hprefixKey,
    hstateKey, hidentityKey] at hlength
  rw [serialize]
  omega

theorem TransactionKind.byteLength_serialize_le (kind : TransactionKind) :
    kind.serialize.byteLength ≤ 18 := by
  rw [Json.byteLength]
  cases kind <;> decide

theorem ManifestPhase.byteLength_serialize_le {phase : ManifestPhase}
    (h : ∀ index, phase = .publishing index → index < 2 ^ 64) :
    phase.serialize.byteLength ≤ 52 := by
  cases phase with
  | prepared =>
      rw [Json.byteLength]
      decide
  | complete =>
      rw [Json.byteLength]
      decide
  | publishing index =>
      have hlength := Json.byteLength_obj_le
        [("state", .ofString "publishing"), ("index", .num index)]
      have hindex := byteLength_num64_le (h index rfl)
      have hstate : (Json.ofString "publishing").byteLength = 12 := by
        rw [Json.byteLength]
        rfl
      have hkey : Json.keyLength "state" = 7 := rfl
      have hkey' : Json.keyLength "index" = 7 := rfl
      simp only [List.map_cons, List.map_nil, List.sum_cons, List.sum_nil, hkey, hkey', hstate]
        at hlength
      rw [serialize]
      omega

/-- An array is no longer than its items may get. -/
theorem byteLength_arr_map_le {β : Type} {items : List β} {serialize : β → Json} {bound : ℕ}
    (h : ∀ item ∈ items, (serialize item).byteLength ≤ bound) :
    (Json.arr (items.map serialize)).byteLength ≤ items.length * (bound + 1) + 2 := by
  have hlength := Json.byteLength_arr_le (items.map serialize)
  have hsum : ((items.map serialize).map fun item => item.byteLength + 1).sum ≤
      items.length * (bound + 1) := by
    clear hlength
    induction items with
    | nil => exact Nat.zero_le _
    | cons item items ih =>
        have hhead := h item List.mem_cons_self
        have htail := ih fun other hother => h other (List.mem_cons_of_mem _ hother)
        rw [List.map_cons, List.map_cons, List.sum_cons, List.length_cons, Nat.succ_mul]
        omega
  omega

theorem keyLengths :
    Json.keyLength "version" = 9 ∧ Json.keyLength "uid" = 5 ∧
    Json.keyLength "transaction_id" = 16 ∧ Json.keyLength "kind" = 6 ∧
    Json.keyLength "phase" = 7 ∧ Json.keyLength "staging_root" = 14 ∧
    Json.keyLength "output_root" = 13 ∧ Json.keyLength "final_directory" = 17 ∧
    Json.keyLength "entries" = 9 ∧ Json.keyLength "created_directories" = 21 :=
  ⟨rfl, rfl, rfl, rfl, rfl, rfl, rfl, rfl, rfl, rfl⟩

/-- The length of a manifest whose paths are at most `maximum` bytes long. -/
theorem TransactionManifest.byteLength_serialize_le {manifest : TransactionManifest}
    (h : manifest.Written) {maximum : ℕ}
    (htexts : ∀ text ∈ manifest.texts, text.utf8ByteSize ≤ maximum) :
    manifest.serialize.byteLength ≤ 24 * maximum + 407 +
      manifest.entries.length * (18 * maximum + 293) + manifest.directories.length * 142 := by
  have hentries : (Json.arr (manifest.entries.map ManifestEntrySlot.serialize)).byteLength ≤
      manifest.entries.length * (18 * maximum + 293) + 2 := by
    refine byteLength_arr_map_le fun entry hentry => ?_
    refine entry.byteLength_serialize_le (h.entries entry hentry) fun text htext => ?_
    refine htexts text (List.mem_append_right _ ?_)
    exact List.mem_flatMap.2 ⟨entry, hentry, htext⟩
  have hdirectories :
      (Json.arr (manifest.directories.map ManifestDirectorySlot.serialize)).byteLength ≤
        manifest.directories.length * 142 + 2 :=
    byteLength_arr_map_le fun slot hslot => slot.byteLength_serialize_le (h.directories slot hslot)
  have hid := htexts manifest.transactionId (by simp [texts])
  have hstaging := htexts manifest.stagingRootPath (by simp [texts])
  have houtput := htexts manifest.outputRoot (by simp [texts])
  have hfinal : manifest.finalDirectoryPath.utf8ByteSize ≤ maximum :=
    size_le_of_optionalText fun text htext => htexts text (by simp [texts, htext])
  have hidLe := Json.byteLength_ofString_le manifest.transactionId
  have houtputLe := Json.byteLength_ofString_le manifest.outputRoot
  have hstagingLe := @byteLength_serializePath_le _ manifest.stagingRootPath h.stagingRoot
  have hfinalLe := @byteLength_serializeOptionalPath_le _ manifest.finalDirectoryPath
    h.finalDirectory
  have hversion : (Json.num manifest.version).byteLength ≤ 10 :=
    byteLength_num32_le (by rw [h.version]; decide)
  have huid := byteLength_num32_le h.uid
  have hkind := manifest.kind.byteLength_serialize_le
  have hphase := ManifestPhase.byteLength_serialize_le h.phase
  rw [serialize, if_pos h.version]
  refine le_trans (Json.byteLength_obj_le _) ?_
  simp only [List.cons_append, List.nil_append, List.map_cons, List.map_nil, List.sum_cons,
    List.sum_nil, keyLengths]
  omega

end Lamb.Recovery
