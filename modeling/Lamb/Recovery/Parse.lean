import Lamb.Recovery.Arena
import Lamb.Recovery.Format

/-!
The full reader of a manifest. It walks over the fields in the order of the
document, decodes every path into the arena and fills the slots, which keep
what an earlier manifest left beyond the ones that are filled.
-/

namespace Lamb.Recovery

open Lamb.Lib

def malformed (message : String) : LambError := .validation message

/-- The value a reader returns, or an error of the reader. -/
def orMalformed {β : Type} (message : String) : Option β → Result β
  | some b => .ok b
  | none => .error (malformed message)

/-! ### Small values -/

def ManifestDirectoryState.deserialize (json : Json) : Option ManifestDirectoryState := do
  let name ← json.asString
  if name = "intent" then some .intent
  else if name = "owned" then some .owned
  else none

/-- The tag decides which other fields there may be; next to a phase without
fields they are ignored. -/
def ManifestPhase.deserialize : Json → Option ManifestPhase
  | .obj fields => do
      let state ← (← Json.field fields "state").asString
      if state = "prepared" then some .prepared
      else if state = "publishing" then do
        guard (∀ entry ∈ fields, entry.1 = "state" ∨ entry.1 = "index")
        let index ← (← Json.field fields "index").asUnsigned 64
        some (.publishing index)
      else if state = "complete" then some .complete
      else none
  | _ => none

/-! ### Paths -/

/-- `StrSeed`. -/
def readStr (json : Json) (arena : PathArena) : Result (PathRef × PathArena) := do
  arena.push (← orMalformed "expected a UTF-8 path string" json.asString)

abbrev PathFields := (PathRef × Option FileIdentity) × PathArena

def readPathField (state : PathFields) (entry : String × Json) : Result PathFields :=
  if entry.1 = "path" then do
    let (path, arena) ← readStr entry.2 state.2
    .ok ((path, state.1.2), arena)
  else if entry.1 = "identity" then do
    let identity ← orMalformed "invalid identity" (entry.2.asOption FileIdentity.deserialize)
    .ok ((state.1.1, identity), state.2)
  else .error (malformed ("unknown field " ++ entry.1))

/-- `ManifestPathSeed`. -/
def readPath (json : Json) (arena : PathArena) : Result PathFields :=
  match json with
  | .obj fields => fields.foldlM readPathField (({}, none), arena)
  | _ => .error (malformed "expected a manifest path with identity")

/-- `OptionManifestPathSeed`; an absent path is the empty reference. -/
def readOptionalPath (json : Json) (arena : PathArena) : Result PathFields :=
  match json with
  | .null => .ok (({}, none), arena)
  | json => readPath json arena

/-! ### Entries and directories -/

def readEntryField (state : EntryRefs × PathArena) (entry : String × Json) :
    Result (EntryRefs × PathArena) :=
  if entry.1 = "staged" then do
    let ((path, identity), arena) ← readPath entry.2 state.2
    .ok ({ state.1 with stagedPath := path, stagedIdentity := identity }, arena)
  else if entry.1 = "partial" then do
    let ((path, identity), arena) ← readOptionalPath entry.2 state.2
    .ok ({ state.1 with partialPath := path, partialIdentity := identity }, arena)
  else if entry.1 = "final_path" then do
    let ((path, identity), arena) ← readPath entry.2 state.2
    .ok ({ state.1 with finalPath := path, finalIdentity := identity }, arena)
  else .error (malformed ("unknown field " ++ entry.1))

/-- `EntrySlotSeed`. -/
def readEntry (json : Json) (index : ℕ) (slots : List EntryRefs) (arena : PathArena) :
    Result (List EntryRefs × PathArena) :=
  match json with
  | .obj fields => do
      let (slot, arena) ← fields.foldlM readEntryField ({}, arena)
      if index < slots.length then .ok (slots.set index slot, arena)
      else .error (malformed "manifest exceeds entry capacity")
  | _ => .error (malformed "expected a manifest entry")

/-- `EntriesSeed`, from the slot `count` on. -/
def readEntries : List Json → ℕ → List EntryRefs → PathArena →
    Result (ℕ × List EntryRefs × PathArena)
  | [], count, slots, arena => .ok (count, slots, arena)
  | json :: items, count, slots, arena => do
      let (slots, arena) ← readEntry json count slots arena
      readEntries items (count + 1) slots arena

structure DirectoryFields where
  entryIndex : Option ℕ := none
  prefixLen : Option ℕ := none
  state : Option ManifestDirectoryState := none
  identity : Option (Option FileIdentity) := none

def duplicateField : LambError := malformed "duplicate created directory field"

def readDirectoryField (found : DirectoryFields) (entry : String × Json) :
    Result DirectoryFields :=
  if entry.1 = "entry_index" then
    if found.entryIndex.isSome then .error duplicateField
    else do
      let value ← orMalformed "invalid entry index" (entry.2.asUnsigned 32)
      .ok { found with entryIndex := some value }
  else if entry.1 = "prefix_len" then
    if found.prefixLen.isSome then .error duplicateField
    else do
      let value ← orMalformed "invalid prefix length" (entry.2.asUnsigned 32)
      .ok { found with prefixLen := some value }
  else if entry.1 = "state" then
    if found.state.isSome then .error duplicateField
    else do
      let value ← orMalformed "invalid state" (ManifestDirectoryState.deserialize entry.2)
      .ok { found with state := some value }
  else if entry.1 = "identity" then
    if found.identity.isSome then .error duplicateField
    else do
      let value ← orMalformed "invalid identity" (entry.2.asOption FileIdentity.deserialize)
      .ok { found with identity := some value }
  else .error (malformed ("unknown field " ++ entry.1))

/-- `DirectorySlotSeed`. -/
def readDirectory (json : Json) (index : ℕ) (slots : List ManifestDirectorySlot) :
    Result (List ManifestDirectorySlot) :=
  match json with
  | .obj fields => do
      let found ← fields.foldlM readDirectoryField {}
      if index < slots.length then do
        let entryIndex ← orMalformed "created directory entry index missing" found.entryIndex
        let prefixLen ← orMalformed "created directory prefix length missing" found.prefixLen
        let state ← orMalformed "created directory state missing" found.state
        let identity ← orMalformed "created directory identity missing" found.identity
        .ok (slots.set index ⟨entryIndex, prefixLen, some state, identity⟩)
      else .error (malformed "manifest exceeds directory capacity")
  | _ => .error (malformed "expected a created directory record")

/-- `DirectoriesSeed`, from the slot `count` on. -/
def readDirectories : List Json → ℕ → List ManifestDirectorySlot →
    Result (ℕ × List ManifestDirectorySlot)
  | [], count, slots => .ok (count, slots)
  | json :: items, count, slots => do
      let slots ← readDirectory json count slots
      readDirectories items (count + 1) slots

/-! ### The manifest -/

def readItems : Json → Result (List Json)
  | .arr items => .ok items
  | _ => .error (malformed "expected an array")

def readManifestField (manifest : ArenaManifest) (entry : String × Json) :
    Result ArenaManifest :=
  if entry.1 = "version" then do
    let version ← orMalformed "invalid version" (entry.2.asUnsigned 32)
    .ok { manifest with version := version }
  else if entry.1 = "uid" then do
    let uid ← orMalformed "invalid uid" (entry.2.asUnsigned 32)
    .ok { manifest with uid := uid }
  else if entry.1 = "transaction_id" then do
    let (path, arena) ← readStr entry.2 manifest.arena
    .ok { manifest with transactionId := path, arena := arena }
  else if entry.1 = "kind" then do
    let kind ← orMalformed "invalid kind" (TransactionKind.deserialize entry.2)
    .ok { manifest with kind := kind }
  else if entry.1 = "phase" then do
    let phase ← orMalformed "invalid phase" (ManifestPhase.deserialize entry.2)
    .ok { manifest with phase := phase }
  else if entry.1 = "staging_root" then do
    let ((path, identity), arena) ← readPath entry.2 manifest.arena
    .ok { manifest with
      stagingRootPath := path, stagingRootIdentity := identity, arena := arena }
  else if entry.1 = "output_root" then do
    let (path, arena) ← readStr entry.2 manifest.arena
    .ok { manifest with outputRoot := path, arena := arena }
  else if entry.1 = "final_directory" then do
    let ((path, identity), arena) ← readOptionalPath entry.2 manifest.arena
    .ok { manifest with
      finalDirectoryPath := path, finalDirectoryIdentity := identity, arena := arena }
  else if entry.1 = "entries" then do
    let (count, slots, arena) ← readEntries (← readItems entry.2) 0 manifest.slots manifest.arena
    .ok { manifest with entryCount := count, slots := slots, arena := arena }
  else if entry.1 = "created_directories" then
    if manifest.directoryJournalPresent then
      .error (malformed "duplicate created_directories field")
    else do
      let (count, slots) ← readDirectories (← readItems entry.2) 0 manifest.directorySlots
      .ok { manifest with
        directoryJournalPresent := true, directoryCount := count, directorySlots := slots }
  else .error (malformed ("unknown manifest field " ++ entry.1))

/-- What `ManifestParseSeed` starts from: the slots are reset, the arena is
not. -/
def emptyManifest (slots : List EntryRefs) (directorySlots : List ManifestDirectorySlot)
    (pathBytes : List UInt8) : ArenaManifest :=
  { ArenaManifest.newWithDirectories slots directorySlots pathBytes with
    kind := .recall, directoryJournalPresent := false }

/-- `ManifestParseSeed::deserialize`. -/
def parseManifest (slots : List EntryRefs) (directorySlots : List ManifestDirectorySlot)
    (pathBytes : List UInt8) (json : Json) : Result ArenaManifest :=
  match json with
  | .obj fields => fields.foldlM readManifestField (emptyManifest slots directorySlots pathBytes)
  | _ => .error (malformed "expected a transaction manifest")

end Lamb.Recovery
