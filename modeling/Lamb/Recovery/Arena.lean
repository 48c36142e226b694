import Lamb.Recovery.Manifest

/-!
The manifest as it is kept in memory: entries and created directories in slots
that are reserved once, and every path in one arena of bytes. A path is pushed
behind the paths before it and is known by its offset and its length. Neither
the slots nor the arena are cleared between manifests beyond what a new
manifest resets.

A length and an offset are 32 bits wide. The bytes that a push leaves behind
when it fails are not modelled, as the manifest is given up then.
-/

namespace Lamb.Recovery

open Lamb.Lib

structure PathRef where
  offset : ℕ := 0
  len : ℕ := 0
  deriving DecidableEq, Repr

structure PathArena where
  bytes : List UInt8
  used : ℕ := 0
  deriving DecidableEq, Repr

/-- The bytes of a text in UTF-8. -/
def textBytes (text : String) : List UInt8 :=
  text.toByteArray.data.toList

namespace PathArena

def push (arena : PathArena) (value : String) : Result (PathRef × PathArena) :=
  if 2 ^ 32 ≤ value.utf8ByteSize then .error (.validation "manifest path is too long")
  else if arena.bytes.length < arena.used + value.utf8ByteSize then
    .error (.validation "manifest path arena capacity exceeded")
  else if 2 ^ 32 ≤ arena.used then .error (.validation "manifest path arena overflow")
  else
    .ok (⟨arena.used, value.utf8ByteSize⟩,
      ⟨arena.bytes.take arena.used ++ textBytes value ++
        arena.bytes.drop (arena.used + value.utf8ByteSize), arena.used + value.utf8ByteSize⟩)

/-- The text of a reference; none where the source would panic. -/
def slice (arena : PathArena) (path : PathRef) : Option String :=
  String.fromUTF8? ⟨((arena.bytes.drop path.offset).take path.len).toArray⟩

end PathArena

/-! ### Slots -/

/-- `ManifestEntrySlot`, with its paths in the arena. -/
structure EntryRefs where
  stagedPath : PathRef := {}
  stagedIdentity : Option FileIdentity := none
  partialPath : PathRef := {}
  partialIdentity : Option FileIdentity := none
  finalPath : PathRef := {}
  finalIdentity : Option FileIdentity := none
  deriving DecidableEq, Repr

def EntryRefs.resolve (arena : PathArena) (slot : EntryRefs) : Option ManifestEntrySlot := do
  let stagedPath ← arena.slice slot.stagedPath
  let partialPath ← arena.slice slot.partialPath
  let finalPath ← arena.slice slot.finalPath
  some ⟨stagedPath, slot.stagedIdentity, partialPath, slot.partialIdentity, finalPath,
    slot.finalIdentity⟩

/-- `ManifestDirectorySlot::default()`. -/
def emptyDirectory : ManifestDirectorySlot where
  entryIndex := 0
  prefixLen := 0

/-- `TransactionManifest`, with its paths in the arena. -/
structure ArenaManifest where
  version : ℕ
  uid : ℕ
  kind : TransactionKind
  phase : ManifestPhase
  transactionId : PathRef := {}
  stagingRootPath : PathRef := {}
  stagingRootIdentity : Option FileIdentity := none
  outputRoot : PathRef := {}
  finalDirectoryPath : PathRef := {}
  finalDirectoryIdentity : Option FileIdentity := none
  entryCount : ℕ := 0
  slots : List EntryRefs
  directorySlots : List ManifestDirectorySlot
  directoryCount : ℕ := 0
  directoryJournalPresent : Bool
  arena : PathArena
  deriving DecidableEq, Repr

namespace ArenaManifest

/-- `TransactionManifest::new_with_directories`. -/
def newWithDirectories (slots : List EntryRefs) (directorySlots : List ManifestDirectorySlot)
    (pathBytes : List UInt8) : ArenaManifest where
  version := 0
  uid := 0
  kind := .fileSet
  phase := .prepared
  slots := slots.map fun _ => {}
  directorySlots := directorySlots.map fun _ => emptyDirectory
  directoryJournalPresent := true
  arena := ⟨pathBytes, 0⟩

/-- The manifest with its paths by content. -/
def resolve (manifest : ArenaManifest) : Option TransactionManifest := do
  let transactionId ← manifest.arena.slice manifest.transactionId
  let stagingRootPath ← manifest.arena.slice manifest.stagingRootPath
  let outputRoot ← manifest.arena.slice manifest.outputRoot
  let finalDirectoryPath ← manifest.arena.slice manifest.finalDirectoryPath
  let entries ← (manifest.slots.take manifest.entryCount).mapM (EntryRefs.resolve manifest.arena)
  some
    { version := manifest.version
      uid := manifest.uid
      kind := manifest.kind
      phase := manifest.phase
      transactionId := transactionId
      stagingRootPath := stagingRootPath
      stagingRootIdentity := manifest.stagingRootIdentity
      outputRoot := outputRoot
      finalDirectoryPath := finalDirectoryPath
      finalDirectoryIdentity := manifest.finalDirectoryIdentity
      entries := entries
      directories := manifest.directorySlots.take manifest.directoryCount
      directoryJournalPresent := manifest.directoryJournalPresent }

def pushPath (manifest : ArenaManifest) (value : String) : Result (PathRef × ArenaManifest) := do
  let (path, arena) ← manifest.arena.push value
  .ok (path, { manifest with arena := arena })

/-- `entry_mut`, to change the entry. -/
def modifyEntry (manifest : ArenaManifest) (index : ℕ) (change : EntryRefs → EntryRefs) :
    ArenaManifest :=
  { manifest with slots := manifest.slots.modify index change }

/-- `directory_mut`, to change the record. -/
def modifyDirectory (manifest : ArenaManifest) (index : ℕ)
    (change : ManifestDirectorySlot → ManifestDirectorySlot) : ArenaManifest :=
  { manifest with directorySlots := manifest.directorySlots.modify index change }

/-- The path of a directory, if it has one. -/
def directoryPath (manifest : ArenaManifest) (slot : ManifestDirectorySlot) : Option Path := do
  let entry ← (manifest.slots.take manifest.entryCount)[slot.entryIndex]?
  let text ← manifest.arena.slice entry.finalPath
  let chars ← Path.takeBytes text.toList slot.prefixLen
  some (Path.ofText (String.ofList chars))

/-- The directories recorded so far. -/
def directoryPaths (manifest : ArenaManifest) : List (Option Path) :=
  (manifest.directorySlots.take manifest.directoryCount).map manifest.directoryPath

def setEntryCount (manifest : ArenaManifest) (count : ℕ) : Result ArenaManifest :=
  if manifest.slots.length < count then
    .error (.validation "manifest exceeds the reserved entry capacity")
  else .ok { manifest with entryCount := count }

def pushDirectoryIntent (manifest : ArenaManifest) (entryIndex prefixLen : ℕ) :
    Result ArenaManifest :=
  if manifest.directorySlots.length ≤ manifest.directoryCount then
    .error (.validation "manifest exceeds the reserved directory capacity")
  else if 2 ^ 32 ≤ entryIndex then .error (.validation "directory entry index overflow")
  else if 2 ^ 32 ≤ prefixLen then .error (.validation "directory prefix length overflow")
  else
    .ok { manifest with
      directorySlots := manifest.directorySlots.set manifest.directoryCount
        ⟨entryIndex, prefixLen, some .intent, none⟩
      directoryCount := manifest.directoryCount + 1 }

end ArenaManifest

/-! ### What a push keeps -/

@[simp] theorem length_textBytes (text : String) : (textBytes text).length = text.utf8ByteSize := by
  rw [textBytes, Array.length_toList]
  rfl

theorem fromUTF8_textBytes (text : String) :
    String.fromUTF8? ⟨(textBytes text).toArray⟩ = some text := by
  have hbytes : (⟨(textBytes text).toArray⟩ : ByteArray) = text.toByteArray := by
    simp [textBytes]
  rw [hbytes, String.fromUTF8?, dif_pos text.isValidUTF8]
  rfl

namespace PathArena

variable {arena arena' : PathArena} {path : PathRef} {text value : String}

/-- The reference stands for the text, below what is in use. -/
structure Holds (arena : PathArena) (path : PathRef) (text : String) : Prop where
  le_used : path.offset + path.len ≤ arena.used
  bytes : (arena.bytes.drop path.offset).take path.len = textBytes text

theorem Holds.slice_eq (h : arena.Holds path text) : arena.slice path = some text := by
  rw [slice, h.bytes]
  exact fromUTF8_textBytes text

theorem Holds.len_eq (h : arena.Holds path text) (hfits : arena.used ≤ arena.bytes.length) :
    path.len = text.utf8ByteSize := by
  have hlength := congrArg List.length h.bytes
  rw [List.length_take, List.length_drop, length_textBytes] at hlength
  have := h.le_used
  omega

theorem holds_empty (arena : PathArena) : arena.Holds {} "" where
  le_used := Nat.zero_le _
  bytes := rfl

/-- The bytes in use stay as they are. -/
structure Grows (arena arena' : PathArena) : Prop where
  le : arena.used ≤ arena'.used
  take : arena'.bytes.take arena.used = arena.bytes.take arena.used

theorem Grows.refl (arena : PathArena) : arena.Grows arena :=
  ⟨le_rfl, rfl⟩

theorem Grows.trans {arena'' : PathArena} (h : arena.Grows arena') (h' : arena'.Grows arena'') :
    arena.Grows arena'' := by
  refine ⟨le_trans h.le h'.le, ?_⟩
  have htake := congrArg (List.take arena.used) h'.take
  rw [List.take_take, List.take_take, min_eq_left h.le] at htake
  exact htake.trans h.take

theorem Holds.grows (h : arena.Holds path text) (hgrows : arena.Grows arena') :
    arena'.Holds path text := by
  refine ⟨le_trans h.le_used hgrows.le, ?_⟩
  have hwindow : ∀ bytes : List UInt8, (bytes.drop path.offset).take path.len =
      ((bytes.take arena.used).drop path.offset).take path.len := by
    intro bytes
    rw [List.drop_take, List.take_take, min_eq_left (by have := h.le_used; omega)]
  rw [hwindow, hgrows.take, ← hwindow]
  exact h.bytes

/-- A push that succeeds: what it asked for, and what it did. -/
structure Pushed (arena : PathArena) (value : String) (path : PathRef) (arena' : PathArena) :
    Prop where
  holds : arena'.Holds path value
  grows : arena.Grows arena'
  used : arena'.used = arena.used + value.utf8ByteSize
  offset : path = ⟨arena.used, value.utf8ByteSize⟩
  length : arena'.bytes.length = arena.bytes.length
  fits : arena'.used ≤ arena'.bytes.length
  short : value.utf8ByteSize < 2 ^ 32
  addressed : arena.used < 2 ^ 32

theorem pushed_of_push (h : arena.push value = .ok (path, arena')) :
    arena.Pushed value path arena' := by
  unfold push at h
  split_ifs at h with hlong hfull hfar
  cases h
  have htake : (arena.bytes.take arena.used).length = arena.used := by
    rw [List.length_take]
    omega
  have hlength : (arena.bytes.take arena.used ++ textBytes value ++
      arena.bytes.drop (arena.used + value.utf8ByteSize)).length = arena.bytes.length := by
    rw [List.length_append, List.length_append, htake, length_textBytes, List.length_drop]
    omega
  refine ⟨⟨le_rfl, ?_⟩, ⟨Nat.le_add_right _ _, ?_⟩, rfl, rfl, hlength, ?_, by omega, by omega⟩
  · rw [List.append_assoc, List.drop_left' htake, List.take_left' (length_textBytes value)]
  · rw [List.append_assoc, List.take_left' htake]
  · rw [hlength]
    exact Nat.le_of_not_lt hfull

/-- A push succeeds if the text is short enough, fits, and starts where a
reference can reach. -/
theorem exists_push (hshort : value.utf8ByteSize < 2 ^ 32)
    (hfits : arena.used + value.utf8ByteSize ≤ arena.bytes.length) (haddressed : arena.used < 2 ^ 32) :
    ∃ path arena', arena.push value = .ok (path, arena') := by
  unfold push
  rw [if_neg (by omega), if_neg (by omega), if_neg (by omega)]
  exact ⟨_, _, rfl⟩

end PathArena

end Lamb.Recovery
