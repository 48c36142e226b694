import Mathlib.Algebra.Order.BigOperators.Group.List
import Lamb.Recovery.Parse

/-!
A manifest that was written reads back as it was. The writer and the reader go
over the paths in one order, so reading is a sequence of pushes; it succeeds if
there is room for all of them. What was read is compared by content, path
references being resolved in the arena at the end.
-/

namespace Lamb.Recovery

open Lamb.Lib

/-! ### Room for a sequence of paths -/

def textsSize (texts : List String) : ℕ :=
  (texts.map String.utf8ByteSize).sum

@[simp] theorem textsSize_nil : textsSize [] = 0 :=
  rfl

@[simp] theorem textsSize_cons (text : String) (texts : List String) :
    textsSize (text :: texts) = text.utf8ByteSize + textsSize texts := by
  simp [textsSize]

@[simp] theorem textsSize_append (texts texts' : List String) :
    textsSize (texts ++ texts') = textsSize texts + textsSize texts' := by
  simp [textsSize]

/-- The texts can be pushed in this order, from `used` bytes on. -/
def Room (capacity : ℕ) : ℕ → List String → Prop
  | _, [] => True
  | used, text :: texts =>
      (text.utf8ByteSize < 2 ^ 32 ∧ used < 2 ^ 32 ∧ used + text.utf8ByteSize ≤ capacity) ∧
        Room capacity (used + text.utf8ByteSize) texts

theorem room_append {capacity used : ℕ} {texts texts' : List String} :
    Room capacity used (texts ++ texts') ↔
      Room capacity used texts ∧ Room capacity (used + textsSize texts) texts' := by
  induction texts generalizing used with
  | nil => simp [Room]
  | cons text texts ih => simp [Room, ih, and_assoc, Nat.add_assoc]

/-- More bytes than are pushed change nothing. -/
theorem Room.of_le {capacity capacity' used : ℕ} {texts : List String}
    (h : Room capacity used texts) (hle : used + textsSize texts ≤ capacity') :
    Room capacity' used texts := by
  induction texts generalizing used with
  | nil => trivial
  | cons text texts ih =>
      rw [textsSize_cons] at hle
      refine ⟨⟨h.1.1, h.1.2.1, by omega⟩, ih h.2 ?_⟩
      omega

namespace PathArena

variable {arena arena' arena'' : PathArena}

/-- What pushing the texts does to the arena. -/
structure Stored (arena : PathArena) (texts : List String) (arena' : PathArena) : Prop where
  grows : arena.Grows arena'
  used : arena'.used = arena.used + textsSize texts
  length : arena'.bytes.length = arena.bytes.length

theorem Stored.refl (arena : PathArena) : arena.Stored [] arena :=
  ⟨.refl arena, rfl, rfl⟩

theorem Stored.trans {texts texts' : List String} (h : arena.Stored texts arena')
    (h' : arena'.Stored texts' arena'') : arena.Stored (texts ++ texts') arena'' := by
  refine ⟨h.grows.trans h'.grows, ?_, h'.length.trans h.length⟩
  rw [h'.used, h.used, textsSize_append]
  omega

theorem Pushed.stored {value : String} {path : PathRef} (h : arena.Pushed value path arena') :
    arena.Stored [value] arena' :=
  ⟨h.grows, by simp [h.used], h.length⟩

/-- There is room for the texts behind what is in use. -/
def HasRoom (arena : PathArena) (texts : List String) : Prop :=
  Room arena.bytes.length arena.used texts

theorem HasRoom.left {texts texts' : List String} (h : arena.HasRoom (texts ++ texts')) :
    arena.HasRoom texts :=
  (room_append.1 h).1

theorem HasRoom.right {texts texts' : List String} (h : arena.HasRoom (texts ++ texts'))
    (hstored : arena.Stored texts arena') : arena'.HasRoom texts' := by
  rw [HasRoom, hstored.used, hstored.length]
  exact (room_append.1 h).2

theorem HasRoom.push {value : String} (h : arena.HasRoom [value]) :
    ∃ path arena', arena.push value = .ok (path, arena') ∧ arena.Pushed value path arena' := by
  obtain ⟨path, arena', hpush⟩ := exists_push h.1.1 h.1.2.2 h.1.2.1
  exact ⟨path, arena', hpush, pushed_of_push hpush⟩

end PathArena

/-! ### Reading a path -/

variable {arena : PathArena} {path : String} {identity : Option FileIdentity}

/-- The numbers of an identity lie in their type. -/
def FileIdentity.InRange (identity : FileIdentity) : Prop :=
  identity.device < 2 ^ 64 ∧ identity.inode < 2 ^ 64

instance (identity : FileIdentity) : Decidable identity.InRange :=
  inferInstanceAs (Decidable (_ ∧ _))

def IdentityInRange (identity : Option FileIdentity) : Prop :=
  ∀ found ∈ identity, found.InRange

theorem identityInRange_none : IdentityInRange none :=
  fun _ h => nomatch h

theorem identityInRange_some {identity : FileIdentity} (h : identity.InRange) :
    IdentityInRange (some identity) := by
  intro found hfound
  cases hfound
  exact h

theorem readStr_ofString (text : String) : readStr (.ofString text) arena = arena.push text := by
  simp [readStr, orMalformed, Bind.bind, Except.bind]

theorem readPath_serializePath {ref : PathRef} {arena' : PathArena}
    (hidentity : IdentityInRange identity) (hpush : arena.push path = .ok (ref, arena')) :
    readPath (serializePath path identity) arena = .ok ((ref, identity), arena') := by
  simp [readPath, serializePath, readPathField, readStr_ofString, hpush, orMalformed,
    deserialize_serializeIdentity hidentity, Bind.bind, Except.bind, Pure.pure, Except.pure]

/-- The texts of a path that may be absent. -/
def optionalText (path : String) : List String :=
  if path = "" then [] else [path]

theorem exists_readPath (hidentity : IdentityInRange identity) (hroom : arena.HasRoom [path]) :
    ∃ ref arena', readPath (serializePath path identity) arena = .ok ((ref, identity), arena') ∧
      arena'.Holds ref path ∧ arena.Stored [path] arena' := by
  obtain ⟨ref, arena', hpush, hpushed⟩ := hroom.push
  exact ⟨ref, arena', readPath_serializePath hidentity hpush, hpushed.holds, hpushed.stored⟩

/-- An absent path has no identity. -/
theorem exists_readOptionalPath (hidentity : IdentityInRange identity)
    (habsent : path = "" → identity = none) (hroom : arena.HasRoom (optionalText path)) :
    ∃ ref arena', readOptionalPath (serializeOptionalPath path identity) arena =
        .ok ((ref, identity), arena') ∧
      arena'.Holds ref path ∧ arena.Stored (optionalText path) arena' := by
  by_cases hempty : path = ""
  · subst hempty
    rw [habsent rfl, optionalText, if_pos rfl]
    exact ⟨{}, arena, rfl, PathArena.holds_empty arena, .refl arena⟩
  · rw [optionalText, if_neg hempty] at hroom ⊢
    rw [serializeOptionalPath, if_neg hempty]
    exact exists_readPath hidentity hroom

/-! ### Reading the entries -/

namespace ManifestEntrySlot

variable (entry : ManifestEntrySlot)

/-- The paths of an entry in the order they are written. -/
def texts : List String :=
  [entry.stagedPath] ++ optionalText entry.partialPath ++ [entry.finalPath]

/-- What a publisher keeps of an entry: no identity for a path it has not
named. -/
structure Written : Prop where
  staged : IdentityInRange entry.stagedIdentity
  partialOf : IdentityInRange entry.partialIdentity
  final : IdentityInRange entry.finalIdentity
  absent : entry.partialPath = "" → entry.partialIdentity = none

end ManifestEntrySlot

/-- The slot stands for the entry. -/
structure EntryRefs.Holds (arena : PathArena) (slot : EntryRefs) (entry : ManifestEntrySlot) :
    Prop where
  staged : arena.Holds slot.stagedPath entry.stagedPath
  stagedIdentity : slot.stagedIdentity = entry.stagedIdentity
  partialOf : arena.Holds slot.partialPath entry.partialPath
  partialIdentity : slot.partialIdentity = entry.partialIdentity
  final : arena.Holds slot.finalPath entry.finalPath
  finalIdentity : slot.finalIdentity = entry.finalIdentity

theorem EntryRefs.Holds.grows {arena' : PathArena} {slot : EntryRefs} {entry : ManifestEntrySlot}
    (h : slot.Holds arena entry) (hgrows : arena.Grows arena') : slot.Holds arena' entry where
  staged := h.staged.grows hgrows
  stagedIdentity := h.stagedIdentity
  partialOf := h.partialOf.grows hgrows
  partialIdentity := h.partialIdentity
  final := h.final.grows hgrows
  finalIdentity := h.finalIdentity

theorem EntryRefs.Holds.resolve_eq {slot : EntryRefs} {entry : ManifestEntrySlot}
    (h : slot.Holds arena entry) : slot.resolve arena = some entry := by
  simp [EntryRefs.resolve, h.staged.slice_eq, h.partialOf.slice_eq, h.final.slice_eq,
    h.stagedIdentity, h.partialIdentity, h.finalIdentity]

theorem exists_readEntry {entry : ManifestEntrySlot} (hentry : entry.Written) {index : ℕ}
    {slots : List EntryRefs} (hindex : index < slots.length) (hroom : arena.HasRoom entry.texts) :
    ∃ slot arena', readEntry entry.serialize index slots arena = .ok (slots.set index slot, arena') ∧
      slot.Holds arena' entry ∧ arena.Stored entry.texts arena' := by
  rw [ManifestEntrySlot.texts] at hroom ⊢
  obtain ⟨staged, arena₁, hstaged, hstagedHolds, hstagedStored⟩ :=
    exists_readPath hentry.staged hroom.left.left
  obtain ⟨partialRef, arena₂, hpart, hpartialHolds, hpartialStored⟩ :=
    exists_readOptionalPath hentry.partialOf hentry.absent (hroom.left.right hstagedStored)
  have hstored := hstagedStored.trans hpartialStored
  obtain ⟨final, arena₃, hfinal, hfinalHolds, hfinalStored⟩ :=
    exists_readPath hentry.final (hroom.right hstored)
  refine ⟨⟨staged, entry.stagedIdentity, partialRef, entry.partialIdentity, final,
    entry.finalIdentity⟩, arena₃, ?_, ?_, hstored.trans hfinalStored⟩
  · simp [readEntry, ManifestEntrySlot.serialize, readEntryField, hstaged, hpart, hfinal,
      hindex, Bind.bind, Except.bind, Pure.pure, Except.pure]
  · refine ⟨?_, rfl, hpartialHolds.grows hfinalStored.grows, rfl, hfinalHolds, rfl⟩
    exact hstagedHolds.grows (hpartialStored.grows.trans hfinalStored.grows)

/-- The paths of the entries in the order they are written. -/
def entriesTexts (entries : List ManifestEntrySlot) : List String :=
  entries.flatMap ManifestEntrySlot.texts

theorem entriesTexts_cons (entry : ManifestEntrySlot) (entries : List ManifestEntrySlot) :
    entriesTexts (entry :: entries) = entry.texts ++ entriesTexts entries :=
  List.flatMap_cons

theorem take_succ_set {β : Type} {slots : List β} {index : ℕ} {slot : β}
    (h : index < slots.length) :
    (slots.set index slot).take (index + 1) = slots.take index ++ [slot] := by
  rw [List.take_add_one, List.take_set_of_le le_rfl, List.getElem?_set_self h]
  rfl

/-- Entries are read into the slots from `count` on; the slots before stay. -/
theorem exists_readEntries {entries : List ManifestEntrySlot} (hentries : ∀ entry ∈ entries,
    entry.Written) {count : ℕ} {slots : List EntryRefs} {arena : PathArena}
    (hcount : count + entries.length ≤ slots.length)
    (hroom : arena.HasRoom (entriesTexts entries)) :
    ∃ slots' arena', readEntries (entries.map ManifestEntrySlot.serialize) count slots arena =
        .ok (count + entries.length, slots', arena') ∧
      arena.Stored (entriesTexts entries) arena' ∧
      (∃ filled, slots'.take (count + entries.length) = slots.take count ++ filled ∧
        List.Forall₂ (fun slot entry => slot.Holds arena' entry) filled entries) ∧
      slots'.length = slots.length := by
  induction entries generalizing count slots arena with
  | nil => exact ⟨slots, arena, rfl, .refl arena, ⟨[], by simp, .nil⟩, rfl⟩
  | cons entry entries ih =>
      rw [entriesTexts_cons] at hroom ⊢
      simp only [List.length_cons] at hcount ⊢
      obtain ⟨slot, arena₁, hread, hholds, hstored⟩ :=
        exists_readEntry (hentries entry List.mem_cons_self) (by omega : count < slots.length)
          hroom.left
      obtain ⟨slots', arena', hrest, hstored', ⟨filled, hfilled, hall⟩, hlength⟩ :=
        @ih (fun other hother => hentries other (List.mem_cons_of_mem _ hother)) (count + 1)
          (slots.set count slot) arena₁ (by simp; omega) (hroom.right hstored)
      refine ⟨slots', arena', ?_, hstored.trans hstored', ⟨slot :: filled, ?_, .cons ?_ hall⟩, ?_⟩
      · rw [List.map_cons, readEntries, hread]
        have hsum : count + (entries.length + 1) = count + 1 + entries.length := by omega
        rw [hsum]
        exact hrest
      · have hsum : count + (entries.length + 1) = count + 1 + entries.length := by omega
        rw [hsum, hfilled, take_succ_set (by omega), List.append_assoc]
        rfl
      · exact hholds.grows hstored'.grows
      · rw [hlength, List.length_set]

/-! ### Reading the directories -/

/-- What a publisher keeps of a directory it means to create. -/
structure ManifestDirectorySlot.Written (slot : ManifestDirectorySlot) : Prop where
  entryIndex : slot.entryIndex < 2 ^ 32
  prefixLen : slot.prefixLen < 2 ^ 32
  state : slot.state.isSome
  identity : IdentityInRange slot.identity

theorem ManifestDirectoryState.deserialize_serialize (state : ManifestDirectoryState) :
    deserialize state.serialize = some state := by
  cases state with
  | intent => simp [serialize, deserialize]
  | owned => simp [serialize, deserialize]

theorem readDirectory_serialize {slot : ManifestDirectorySlot} (hslot : slot.Written) {index : ℕ}
    {slots : List ManifestDirectorySlot} (hindex : index < slots.length) :
    readDirectory slot.serialize index slots = .ok (slots.set index slot) := by
  obtain ⟨entryIndex, prefixLen, state, identity⟩ := slot
  obtain ⟨state, rfl⟩ := Option.isSome_iff_exists.1 hslot.state
  simp [readDirectory, ManifestDirectorySlot.serialize, readDirectoryField, orMalformed,
    Json.asUnsigned_num hslot.entryIndex, Json.asUnsigned_num hslot.prefixLen,
    ManifestDirectoryState.deserialize_serialize, deserialize_serializeIdentity hslot.identity,
    hindex, Bind.bind, Except.bind, Pure.pure, Except.pure]

theorem exists_readDirectories {directories : List ManifestDirectorySlot}
    (hdirectories : ∀ slot ∈ directories, slot.Written) {count : ℕ}
    {slots : List ManifestDirectorySlot} (hcount : count + directories.length ≤ slots.length) :
    ∃ slots', readDirectories (directories.map ManifestDirectorySlot.serialize) count slots =
        .ok (count + directories.length, slots') ∧
      slots'.take (count + directories.length) = slots.take count ++ directories := by
  induction directories generalizing count slots with
  | nil => exact ⟨slots, rfl, by simp⟩
  | cons slot directories ih =>
      simp only [List.length_cons] at hcount ⊢
      obtain ⟨slots', hrest, hfilled⟩ :=
        @ih (fun other hother => hdirectories other (List.mem_cons_of_mem _ hother)) (count + 1)
          (slots.set count slot) (by simp; omega)
      have hsum : count + (directories.length + 1) = count + 1 + directories.length := by omega
      refine ⟨slots', ?_, ?_⟩
      · rw [List.map_cons, readDirectories,
          readDirectory_serialize (hdirectories slot List.mem_cons_self) (by omega), hsum]
        exact hrest
      · rw [hsum, hfilled, take_succ_set (by omega), List.append_assoc]
        rfl

/-! ### Reading the manifest -/

theorem ManifestPhase.deserialize_serialize {phase : ManifestPhase}
    (h : ∀ index, phase = .publishing index → index < 2 ^ 64) :
    deserialize phase.serialize = some phase := by
  cases phase with
  | prepared => simp [serialize, deserialize, Json.field]
  | publishing index =>
      simp [serialize, deserialize, Json.field, Json.asUnsigned_num (h index rfl)]
  | complete => simp [serialize, deserialize, Json.field]

namespace TransactionManifest

/-- The paths of a manifest in the order they are written. -/
def texts (manifest : TransactionManifest) : List String :=
  [manifest.transactionId] ++ [manifest.stagingRootPath] ++ [manifest.outputRoot] ++
    optionalText manifest.finalDirectoryPath ++ entriesTexts manifest.entries

/-- What every manifest that a publisher writes keeps to. -/
structure Written (manifest : TransactionManifest) : Prop where
  version : manifest.version = manifestVersion
  uid : manifest.uid < 2 ^ 32
  phase : ∀ index, manifest.phase = .publishing index → index < 2 ^ 64
  stagingRoot : IdentityInRange manifest.stagingRootIdentity
  finalDirectory : IdentityInRange manifest.finalDirectoryIdentity
  absent : manifest.finalDirectoryPath = "" → manifest.finalDirectoryIdentity = none
  entries : ∀ entry ∈ manifest.entries, entry.Written
  directories : ∀ slot ∈ manifest.directories, slot.Written
  journal : manifest.directoryJournalPresent = true

end TransactionManifest

/-- The entries of a manifest are found again in its slots. -/
theorem mapM_resolve {slots : List EntryRefs} {entries : List ManifestEntrySlot}
    (h : List.Forall₂ (fun slot entry => slot.Holds arena entry) slots entries) :
    slots.mapM (EntryRefs.resolve arena) = some entries := by
  induction h with
  | nil => rfl
  | cons hholds _ ih => simp [List.mapM_cons, hholds.resolve_eq, ih]

/-- Reading what was written, into any slots and over any bytes. -/
theorem exists_parseManifest {manifest : TransactionManifest} (h : manifest.Written)
    {slots : List EntryRefs} {directorySlots : List ManifestDirectorySlot}
    {pathBytes : List UInt8} (hslots : manifest.entries.length ≤ slots.length)
    (hdirectories : manifest.directories.length ≤ directorySlots.length)
    (hroom : Room pathBytes.length 0 manifest.texts) :
    ∃ parsed, parseManifest slots directorySlots pathBytes manifest.serialize = .ok parsed ∧
      parsed.resolve = some manifest := by
  have hroom : (⟨pathBytes, 0⟩ : PathArena).HasRoom manifest.texts := hroom
  rw [TransactionManifest.texts] at hroom
  obtain ⟨transactionId, arena₁, hid, hidPushed⟩ := hroom.left.left.left.left.push
  obtain ⟨stagingRoot, arena₂, hstaging, hstagingHolds, hstagingStored⟩ :=
    exists_readPath h.stagingRoot (hroom.left.left.left.right hidPushed.stored)
  have hstored₂ := hidPushed.stored.trans hstagingStored
  obtain ⟨outputRoot, arena₃, houtput, houtputPushed⟩ :=
    (hroom.left.left.right hstored₂).push
  have hstored₃ := hstored₂.trans houtputPushed.stored
  obtain ⟨finalDirectory, arena₄, hfinal, hfinalHolds, hfinalStored⟩ :=
    exists_readOptionalPath h.finalDirectory h.absent (hroom.left.right hstored₃)
  have hstored₄ := hstored₃.trans hfinalStored
  obtain ⟨slots', arena₅, hentries, hentriesStored, ⟨filled, hfilled, hall⟩, -⟩ :=
    @exists_readEntries manifest.entries h.entries 0 (slots.map fun _ => {}) arena₄
      (by simpa using hslots) (hroom.right hstored₄)
  obtain ⟨directorySlots', hread, hdirectoriesFilled⟩ :=
    @exists_readDirectories manifest.directories h.directories 0
      (directorySlots.map fun _ => emptyDirectory) (by simpa using hdirectories)
  rw [Nat.zero_add] at hentries hfilled hread hdirectoriesFilled
  refine ⟨{ version := manifest.version, uid := manifest.uid, kind := manifest.kind,
            phase := manifest.phase, transactionId := transactionId,
            stagingRootPath := stagingRoot,
            stagingRootIdentity := manifest.stagingRootIdentity, outputRoot := outputRoot,
            finalDirectoryPath := finalDirectory,
            finalDirectoryIdentity := manifest.finalDirectoryIdentity,
            entryCount := manifest.entries.length, slots := slots',
            directorySlots := directorySlots', directoryCount := manifest.directories.length,
            directoryJournalPresent := true, arena := arena₅ }, ?_, ?_⟩
  · have hversion : Json.asUnsigned 32 (.num manifestVersion) = some manifestVersion := rfl
    simp [parseManifest, TransactionManifest.serialize, h.version, hversion, readManifestField,
      emptyManifest, ArenaManifest.newWithDirectories, readStr_ofString, orMalformed,
      Json.asUnsigned_num h.uid, TransactionKind.deserialize_serialize,
      ManifestPhase.deserialize_serialize h.phase, hid, hstaging, houtput, hfinal, hentries,
      hread, readItems, Bind.bind, Except.bind, Pure.pure, Except.pure, -List.map_const']
  · have hgrows₄ := hentriesStored.grows
    have hgrows₃ := hfinalStored.grows.trans hgrows₄
    have hgrows₂ := houtputPushed.grows.trans hgrows₃
    have hgrows₁ := hstagingStored.grows.trans hgrows₂
    simp [ArenaManifest.resolve, (hidPushed.holds.grows hgrows₁).slice_eq,
      (hstagingHolds.grows hgrows₂).slice_eq, (houtputPushed.holds.grows hgrows₃).slice_eq,
      (hfinalHolds.grows hgrows₄).slice_eq, hfilled, mapM_resolve hall, hdirectoriesFilled,
      ← h.journal]

end Lamb.Recovery
