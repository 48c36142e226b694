import Lamb.Export.Publisher
import Lamb.Recovery.RoundTrip

/-!
Every manifest that a publisher writes reads back as it was. A publisher fills
the header, pushes the paths of its files, and from then on only records
identities, directories and phases. The paths stay packed in the arena in the
order in which the reader pushes them again.
-/

namespace Lamb.Export

open Lamb.Lib Lamb.Runtime Lamb.Recovery

/-! ### The manifest of an atomic directory -/

/-- One pass over the files of an atomic directory. -/
def pushAtomicEntry (identity : ℕ → FileIdentity) (manifest : ArenaManifest)
    (file : PreparedFile × ℕ) : Result ArenaManifest := do
  let (staged, manifest) ← manifest.pushPath file.1.stagedPath
  let (final, manifest) ← manifest.pushPath file.1.finalPath
  .ok { manifest with
    slots := manifest.slots.modify file.2 fun slot => { slot with
      stagedPath := staged
      stagedIdentity := some (identity file.2)
      partialPath := {}
      finalPath := final
      finalIdentity := some (identity file.2) } }

/-- What `publish_dump_inner` builds; it has no directories to create. -/
def atomicManifest (buffers : PublicationBuffers) (header : TransactionHeader)
    (finalDirectory : String) (identity : ℕ → FileIdentity) (files : List PreparedFile) :
    Result ArenaManifest := do
  let manifest ← pushHeader
    (ArenaManifest.newWithDirectories buffers.entries [] buffers.pathBytes) header
  let (path, manifest) ← manifest.pushPath finalDirectory
  let manifest := { manifest with
    finalDirectoryPath := path, finalDirectoryIdentity := some header.stagingIdentity }
  let manifest ← manifest.setEntryCount files.length
  files.zipIdx.foldlM (pushAtomicEntry identity) manifest

/-! ### What a publication records later -/

structure TransactionHeader.InRange (header : TransactionHeader) : Prop where
  uid : header.uid < 2 ^ 32
  stagingIdentity : header.stagingIdentity.InRange

/-- The manifests that a publisher has in its hands. -/
inductive Published : ArenaManifest → Prop
  | fileSet {buffers : PublicationBuffers} {capacity : ℕ} {header : TransactionHeader}
      {identity : ℕ → FileIdentity} {files : List PreparedFile} {manifest : ArenaManifest}
      (hheader : header.InRange) (hkind : header.kind = .fileSet)
      (hidentity : ∀ index, (identity index).InRange)
      (h : fileSetManifest buffers capacity header identity files = .ok manifest) :
      Published manifest
  | atomic {buffers : PublicationBuffers} {header : TransactionHeader} {finalDirectory : String}
      {identity : ℕ → FileIdentity} {files : List PreparedFile} {manifest : ArenaManifest}
      (hheader : header.InRange) (hkind : header.kind = .atomicDirectory)
      (hfinal : finalDirectory ≠ "") (hidentity : ∀ index, (identity index).InRange)
      (h : atomicManifest buffers header finalDirectory identity files = .ok manifest) :
      Published manifest
  /-- `register_file_set_parent_intents`. -/
  | intent {manifest manifest' : ArenaManifest} {entryIndex prefixLen : ℕ}
      (h : Published manifest)
      (hpush : manifest.pushDirectoryIntent entryIndex prefixLen = .ok manifest') :
      Published manifest'
  /-- `materialize_file_set_parents`. -/
  | owned {manifest : ArenaManifest} {index : ℕ} {identity : FileIdentity}
      (h : Published manifest) (hidentity : identity.InRange) :
      Published (manifest.modifyDirectory index fun slot =>
        { slot with state := some .owned, identity := some identity })
  | phase {manifest : ArenaManifest} {phase : ManifestPhase} (h : Published manifest)
      (hphase : ∀ index, phase = .publishing index → index < 2 ^ 64) :
      Published { manifest with phase := phase }
  /-- The partial copy of a file set is there. -/
  | copied {manifest : ArenaManifest} {index : ℕ} {identity : FileIdentity}
      (h : Published manifest) (hkind : manifest.kind = .fileSet)
      (hindex : index < manifest.entryCount) (hidentity : identity.InRange) :
      Published (manifest.modifyEntry index fun slot =>
        { slot with partialIdentity := some identity })
  /-- The partial copy has its final name. -/
  | renamed {manifest : ArenaManifest} {index : ℕ} {identity : FileIdentity}
      (h : Published manifest) (hkind : manifest.kind = .fileSet)
      (hindex : index < manifest.entryCount) (hidentity : identity.InRange) :
      Published (manifest.modifyEntry index fun slot =>
        { slot with finalIdentity := some identity, partialIdentity := none })

/-! ### Packed paths -/

/-- The arena holds these texts and nothing else, one behind the other. -/
structure Packed (arena : PathArena) (texts : List String) : Prop where
  room : Room arena.bytes.length 0 texts
  used : arena.used = textsSize texts

theorem Packed.empty (pathBytes : List UInt8) : Packed ⟨pathBytes, 0⟩ [] :=
  ⟨trivial, rfl⟩

theorem Packed.push {arena arena' : PathArena} {texts : List String} {value : String}
    {path : PathRef} (h : Packed arena texts) (hpush : arena.push value = .ok (path, arena')) :
    Packed arena' (texts ++ [value]) := by
  have hpushed := PathArena.pushed_of_push hpush
  refine ⟨?_, ?_⟩
  · rw [room_append, hpushed.length]
    refine ⟨h.room, ⟨hpushed.short, ?_, ?_⟩, trivial⟩
    · rw [Nat.zero_add, ← h.used]
      exact hpushed.addressed
    · rw [Nat.zero_add, ← h.used, ← hpushed.used, ← hpushed.length]
      exact hpushed.fits
  · rw [hpushed.used, h.used]
    simp

theorem pushPath_eq_ok {manifest manifest' : ArenaManifest} {value : String} {path : PathRef} :
    manifest.pushPath value = .ok (path, manifest') ↔
      ∃ arena, manifest.arena.push value = .ok (path, arena) ∧
        manifest' = { manifest with arena := arena } := by
  simp only [ArenaManifest.pushPath, bind_eq_ok, Prod.exists]
  constructor
  · rintro ⟨path', arena, hpush, h⟩
    cases h
    exact ⟨arena, hpush, rfl⟩
  · rintro ⟨arena, hpush, rfl⟩
    exact ⟨path, arena, hpush, rfl⟩

/-! ### Manifests by content -/

/-- What the manifest in memory stands for. -/
structure Stands (kept : ArenaManifest) (manifest : TransactionManifest) : Prop where
  version : manifest.version = kept.version
  uid : manifest.uid = kept.uid
  kind : manifest.kind = kept.kind
  phase : manifest.phase = kept.phase
  transactionId : kept.arena.Holds kept.transactionId manifest.transactionId
  stagingRootPath : kept.arena.Holds kept.stagingRootPath manifest.stagingRootPath
  stagingRootIdentity : manifest.stagingRootIdentity = kept.stagingRootIdentity
  outputRoot : kept.arena.Holds kept.outputRoot manifest.outputRoot
  finalDirectoryPath : kept.arena.Holds kept.finalDirectoryPath manifest.finalDirectoryPath
  finalDirectoryIdentity : manifest.finalDirectoryIdentity = kept.finalDirectoryIdentity
  entries : List.Forall₂ (fun slot entry => slot.Holds kept.arena entry)
    (kept.slots.take kept.entryCount) manifest.entries
  directories : manifest.directories = kept.directorySlots.take kept.directoryCount
  journal : manifest.directoryJournalPresent = kept.directoryJournalPresent

theorem Stands.resolve_eq {kept : ArenaManifest} {manifest : TransactionManifest}
    (h : Stands kept manifest) : kept.resolve = some manifest := by
  obtain ⟨version, uid, kind, phase, transactionId, stagingRootPath, stagingRootIdentity,
    outputRoot, finalDirectoryPath, finalDirectoryIdentity, entries, directories, journal⟩ := h
  simp [ArenaManifest.resolve, transactionId.slice_eq, stagingRootPath.slice_eq,
    outputRoot.slice_eq, finalDirectoryPath.slice_eq, mapM_resolve entries, ← version, ← uid,
    ← kind, ← phase, ← stagingRootIdentity, ← finalDirectoryIdentity, ← directories, ← journal]

/-- A manifest of a publisher: its paths are packed in the order they are
written, and a file set names a partial path for every entry. -/
structure Sound (kept : ArenaManifest) (manifest : TransactionManifest) : Prop where
  stands : Stands kept manifest
  written : manifest.Written
  packed : Packed kept.arena manifest.texts
  named : manifest.kind = .fileSet → ∀ entry ∈ manifest.entries, entry.partialPath ≠ ""

/-! ### Changing one element -/

theorem take_modify {β : Type} (items : List β) (n index : ℕ) (change : β → β) :
    (items.modify index change).take n = (items.take n).modify index change := by
  refine List.ext_getElem? fun i => ?_
  simp only [List.getElem?_take, List.getElem?_modify]
  split
  · rfl
  · simp

theorem forall₂_modify {β γ : Type} {R : β → γ → Prop} {left : List β} {right : List γ}
    (h : List.Forall₂ R left right) (index : ℕ) {change : β → β} {change' : γ → γ}
    (hchange : ∀ b c, R b c → R (change b) (change' c)) :
    List.Forall₂ R (left.modify index change) (right.modify index change') := by
  induction h generalizing index with
  | nil => simp
  | cons hhead htail ih =>
      cases index with
      | zero => exact .cons (hchange _ _ hhead) htail
      | succ index => exact .cons hhead (ih index)

theorem forall_mem_modify {β : Type} {P : β → Prop} {items : List β} (h : ∀ b ∈ items, P b)
    (index : ℕ) {change : β → β} (hchange : ∀ b, P b → P (change b)) :
    ∀ b ∈ items.modify index change, P b := by
  induction items generalizing index with
  | nil => simp
  | cons head items ih =>
      have htail : ∀ b ∈ items, P b := fun b hb => h b (List.mem_cons_of_mem _ hb)
      cases index with
      | zero =>
          rintro b (_ | ⟨_, hb⟩)
          · exact hchange _ (h _ List.mem_cons_self)
          · exact htail b hb
      | succ index =>
          rintro b (_ | ⟨_, hb⟩)
          · exact h _ List.mem_cons_self
          · exact ih htail index b hb

theorem entriesTexts_modify (entries : List ManifestEntrySlot) (index : ℕ)
    {change : ManifestEntrySlot → ManifestEntrySlot}
    (hchange : ∀ entry, (change entry).texts = entry.texts) :
    entriesTexts (entries.modify index change) = entriesTexts entries := by
  induction entries generalizing index with
  | nil => simp
  | cons entry entries ih =>
      cases index with
      | zero =>
          rw [List.modify_zero_cons, entriesTexts_cons, entriesTexts_cons, hchange]
      | succ index => rw [List.modify_succ_cons, entriesTexts_cons, entriesTexts_cons, ih]

/-! ### What is recorded later -/

namespace Sound

variable {kept kept' : ArenaManifest} {manifest : TransactionManifest}

theorem phase (h : Sound kept manifest) {phase : ManifestPhase}
    (hphase : ∀ index, phase = .publishing index → index < 2 ^ 64) :
    Sound { kept with phase := phase } { manifest with phase := phase } where
  stands := { h.stands with phase := rfl }
  written := { h.written with phase := hphase }
  packed := h.packed
  named := h.named

theorem intent (h : Sound kept manifest) {entryIndex prefixLen : ℕ}
    (hpush : kept.pushDirectoryIntent entryIndex prefixLen = .ok kept') :
    Sound kept' { manifest with
      directories := manifest.directories ++ [⟨entryIndex, prefixLen, some .intent, none⟩] } := by
  unfold ArenaManifest.pushDirectoryIntent at hpush
  split_ifs at hpush with hfull hindex hlen
  cases hpush
  refine ⟨{ h.stands with directories := ?_ }, { h.written with directories := ?_ }, h.packed,
    h.named⟩
  · rw [take_succ_set (by omega), h.stands.directories]
  · intro slot hslot
    rcases List.mem_append.1 hslot with hslot | hslot
    · exact h.written.directories slot hslot
    · cases List.mem_singleton.1 hslot
      exact ⟨not_le.1 hindex, not_le.1 hlen, rfl, identityInRange_none⟩

theorem modifyDirectory (h : Sound kept manifest) (index : ℕ)
    {change : ManifestDirectorySlot → ManifestDirectorySlot}
    (hchange : ∀ slot, slot.Written → (change slot).Written) :
    Sound (kept.modifyDirectory index change)
      { manifest with directories := manifest.directories.modify index change } where
  stands := { h.stands with
    directories := by
      rw [ArenaManifest.modifyDirectory, take_modify, ← h.stands.directories] }
  written := { h.written with
    directories := forall_mem_modify h.written.directories index hchange }
  packed := h.packed
  named := h.named

/-- Identities of an entry are recorded. -/
theorem modifyEntry (h : Sound kept manifest) (index : ℕ) {change : EntryRefs → EntryRefs}
    {change' : ManifestEntrySlot → ManifestEntrySlot}
    (hholds : ∀ slot entry, EntryRefs.Holds kept.arena slot entry →
      EntryRefs.Holds kept.arena (change slot) (change' entry))
    (htexts : ∀ entry, (change' entry).texts = entry.texts)
    (hpart : ∀ entry, (change' entry).partialPath = entry.partialPath)
    (hwritten : ∀ entry, entry.partialPath ≠ "" → entry.Written → (change' entry).Written)
    (hkind : kept.kind = .fileSet) :
    Sound (kept.modifyEntry index change)
      { manifest with entries := manifest.entries.modify index change' } := by
  have hnamed := h.named (h.stands.kind.trans hkind)
  have hboth : ∀ entry ∈ manifest.entries.modify index change',
      entry.partialPath ≠ "" ∧ entry.Written := by
    refine forall_mem_modify (fun entry hentry => ⟨hnamed entry hentry,
      h.written.entries entry hentry⟩) index ?_
    rintro entry ⟨hne, hentry⟩
    exact ⟨by rwa [hpart], hwritten entry hne hentry⟩
  refine ⟨{ h.stands with entries := ?_ }, { h.written with entries := ?_ }, ?_, ?_⟩
  · rw [ArenaManifest.modifyEntry, take_modify]
    exact forall₂_modify h.stands.entries index hholds
  · exact fun entry hentry => (hboth entry hentry).2
  · have hsame : TransactionManifest.texts
        { manifest with entries := manifest.entries.modify index change' } = manifest.texts := by
      rw [TransactionManifest.texts, TransactionManifest.texts, entriesTexts_modify _ _ htexts]
    rw [hsame]
    exact h.packed
  · exact fun _ entry hentry => (hboth entry hentry).1

theorem copied (h : Sound kept manifest) (index : ℕ) {identity : FileIdentity}
    (hidentity : identity.InRange) (hkind : kept.kind = .fileSet) :
    Sound (kept.modifyEntry index fun slot => { slot with partialIdentity := some identity })
      { manifest with
        entries := manifest.entries.modify index fun entry =>
          { entry with partialIdentity := some identity } } := by
  refine h.modifyEntry index ?_ (fun _ => rfl) (fun _ => rfl) ?_ hkind
  · exact fun slot entry hslot => { hslot with partialIdentity := rfl }
  · intro entry hne hentry
    exact { hentry with
      partialOf := identityInRange_some hidentity
      absent := fun hempty => absurd hempty hne }

theorem renamed (h : Sound kept manifest) (index : ℕ) {identity : FileIdentity}
    (hidentity : identity.InRange) (hkind : kept.kind = .fileSet) :
    Sound (kept.modifyEntry index fun slot =>
        { slot with finalIdentity := some identity, partialIdentity := none })
      { manifest with
        entries := manifest.entries.modify index fun entry =>
          { entry with finalIdentity := some identity, partialIdentity := none } } := by
  refine h.modifyEntry index ?_ (fun _ => rfl) (fun _ => rfl) ?_ hkind
  · exact fun slot entry hslot => { hslot with finalIdentity := rfl, partialIdentity := rfl }
  · intro entry hne hentry
    exact { hentry with
      partialOf := identityInRange_none
      final := identityInRange_some hidentity
      absent := fun _ => rfl }

end Sound

/-! ### Filling the entries -/

/-- The slots hold these entries and are empty behind them; nothing but the
slots and the arena has changed since `start`. -/
structure Filling (start kept : ArenaManifest) (header : List String)
    (entries : List ManifestEntrySlot) : Prop where
  filled : List.Forall₂ (fun slot entry => slot.Holds kept.arena entry)
    (kept.slots.take entries.length) entries
  rest : ∀ slot ∈ kept.slots.drop entries.length, slot = {}
  packed : Packed kept.arena (header ++ entriesTexts entries)
  grows : start.arena.Grows kept.arena
  length : kept.slots.length = start.slots.length
  same : kept = { start with arena := kept.arena, slots := kept.slots }

theorem Filling.store {start kept : ArenaManifest} {header : List String}
    {entries : List ManifestEntrySlot} {entry : ManifestEntrySlot} {arena : PathArena}
    {change : EntryRefs → EntryRefs} (h : Filling start kept header entries)
    (hroom : entries.length < start.slots.length)
    (hholds : (change {}).Holds arena entry) (hgrows : kept.arena.Grows arena)
    (hpacked : Packed arena (header ++ entriesTexts entries ++ entry.texts)) :
    Filling start { kept with arena := arena, slots := kept.slots.modify entries.length change }
      header (entries ++ [entry]) := by
  have hlt : entries.length < kept.slots.length := by
    rw [h.length]
    exact hroom
  have hempty : kept.slots[entries.length] = {} := by
    refine h.rest _ ?_
    rw [List.drop_eq_getElem_cons hlt]
    exact List.mem_cons_self
  have htake : (kept.slots.modify entries.length change).take (entries.length + 1) =
      kept.slots.take entries.length ++ [change {}] := by
    rw [List.modify_eq_set_getElem?, List.getElem?_eq_getElem hlt, hempty]
    exact take_succ_set hlt
  have hdrop : (kept.slots.modify entries.length change).drop (entries.length + 1) =
      kept.slots.drop (entries.length + 1) := by
    refine List.ext_getElem? fun i => ?_
    have hne : entries.length ≠ entries.length + 1 + i := by omega
    simp [List.getElem?_drop, hne]
  refine ⟨?_, ?_, ?_, h.grows.trans hgrows, ?_, ?_⟩
  · rw [List.length_append, List.length_singleton, htake]
    refine List.rel_append ?_ (.cons hholds .nil)
    exact h.filled.imp fun slot entry hslot => hslot.grows hgrows
  · rw [List.length_append, List.length_singleton, hdrop]
    intro slot hslot
    rw [← List.drop_drop] at hslot
    exact h.rest slot (List.mem_of_mem_drop hslot)
  · rw [entriesTexts, List.flatMap_append, List.flatMap_singleton, ← entriesTexts,
      ← List.append_assoc]
    exact hpacked
  · simp [h.length]
  · rw [h.same]

/-- A loop over the files, by what one pass makes of a file. -/
theorem Filling.foldlM {start : ArenaManifest} {header : List String}
    {push : ArenaManifest → PreparedFile × ℕ → Result ArenaManifest}
    {Made : PreparedFile × ℕ → ManifestEntrySlot → Prop}
    (hstep : ∀ kept kept' entries file, Filling start kept header entries →
      entries.length < start.slots.length → push kept (file, entries.length) = .ok kept' →
        ∃ entry, Made (file, entries.length) entry ∧
          Filling start kept' header (entries ++ [entry]))
    {files : List PreparedFile} {kept kept' : ArenaManifest} {entries : List ManifestEntrySlot}
    (h : Filling start kept header entries)
    (hroom : entries.length + files.length ≤ start.slots.length)
    (hpush : (files.zipIdx entries.length).foldlM push kept = .ok kept') :
    ∃ more, List.Forall₂ Made (files.zipIdx entries.length) more ∧
      Filling start kept' header (entries ++ more) := by
  induction files generalizing kept entries with
  | nil =>
      cases hpush
      exact ⟨[], .nil, by simpa using h⟩
  | cons file files ih =>
      rw [List.zipIdx_cons, List.foldlM_cons, bind_eq_ok] at hpush
      obtain ⟨kept₁, hfirst, hrest⟩ := hpush
      rw [List.length_cons] at hroom
      obtain ⟨entry, hmade, hfilling⟩ := hstep _ _ _ _ h (by omega) hfirst
      have hlength : (entries ++ [entry]).length = entries.length + 1 := by simp
      obtain ⟨more, hall, hdone⟩ := ih hfilling (by omega) (by rwa [hlength])
      rw [hlength] at hall
      refine ⟨entry :: more, ?_, ?_⟩
      · rw [List.zipIdx_cons]
        exact .cons hmade hall
      · rwa [List.append_assoc] at hdone

theorem pushBytes_eq {capacity : ℕ} {slot value slot' : String}
    (h : pushBytes capacity slot value = .ok slot') : slot' = slot ++ value := by
  unfold pushBytes at h
  split at h
  · cases h
  · split at h
    · cases h
    · split at h
      · cases h
      · cases h
        rfl

theorem partialPath_ne_empty {capacity : ℕ} {finalPath transactionId text : String}
    (h : partialPath capacity finalPath transactionId = .ok text) : text ≠ "" := by
  unfold partialPath at h
  split at h
  · cases h
  · split at h
    · cases h
    · simp only [bind_eq_ok] at h
      obtain ⟨_, -, _, -, _, -, _, -, _, -, slot, -, hlast⟩ := h
      rw [pushBytes_eq hlast]
      intro hempty
      have := congrArg String.utf8ByteSize hempty
      rw [String.utf8ByteSize_append] at this
      simp at this

/-- The entry of a file in a file set. -/
def FileSetEntry (capacity : ℕ) (transactionId : String) (identity : ℕ → FileIdentity)
    (file : PreparedFile × ℕ) (entry : ManifestEntrySlot) : Prop :=
  ∃ partialText, partialPath capacity file.1.finalPath transactionId = .ok partialText ∧
    entry = { stagedPath := file.1.stagedPath
              stagedIdentity := some (identity file.2)
              partialPath := partialText
              finalPath := file.1.finalPath }

theorem Filling.pushFileSetEntry {start kept kept' : ArenaManifest} {header : List String}
    {entries : List ManifestEntrySlot} {capacity : ℕ} {transactionId : String}
    {identity : ℕ → FileIdentity} {file : PreparedFile} (h : Filling start kept header entries)
    (hroom : entries.length < start.slots.length)
    (hpush : pushFileSetEntry capacity transactionId identity kept (file, entries.length) =
      .ok kept') :
    ∃ entry, FileSetEntry capacity transactionId identity (file, entries.length) entry ∧
      Filling start kept' header (entries ++ [entry]) := by
  simp only [Export.pushFileSetEntry, bind_eq_ok, Prod.exists, pushPath_eq_ok] at hpush
  obtain ⟨partialText, hpart, staged, _, ⟨arena₁, hstaged, rfl⟩, partialRef, _,
    ⟨arena₂, hcopy, rfl⟩, final, _, ⟨arena₃, hfinal, rfl⟩, hkept⟩ := hpush
  cases hkept
  have hstagedPushed := PathArena.pushed_of_push hstaged
  have hcopyPushed := PathArena.pushed_of_push hcopy
  have hfinalPushed := PathArena.pushed_of_push hfinal
  have hgrows := hcopyPushed.grows.trans hfinalPushed.grows
  refine ⟨_, ⟨partialText, hpart, rfl⟩, h.store hroom ?_
    (hstagedPushed.grows.trans hgrows) ?_⟩
  · exact ⟨hstagedPushed.holds.grows hgrows, rfl, hcopyPushed.holds.grows hfinalPushed.grows, rfl,
      hfinalPushed.holds, rfl⟩
  · have hpacked := ((h.packed.push hstaged).push hcopy).push hfinal
    rw [ManifestEntrySlot.texts, optionalText, if_neg (partialPath_ne_empty hpart)]
    simpa [List.append_assoc] using hpacked

/-- The entry of a file in an atomic directory. -/
def AtomicEntry (identity : ℕ → FileIdentity) (file : PreparedFile × ℕ)
    (entry : ManifestEntrySlot) : Prop :=
  entry = { stagedPath := file.1.stagedPath
            stagedIdentity := some (identity file.2)
            finalPath := file.1.finalPath
            finalIdentity := some (identity file.2) }

theorem Filling.pushAtomicEntry {start kept kept' : ArenaManifest} {header : List String}
    {entries : List ManifestEntrySlot} {identity : ℕ → FileIdentity} {file : PreparedFile}
    (h : Filling start kept header entries) (hroom : entries.length < start.slots.length)
    (hpush : pushAtomicEntry identity kept (file, entries.length) = .ok kept') :
    ∃ entry, AtomicEntry identity (file, entries.length) entry ∧
      Filling start kept' header (entries ++ [entry]) := by
  simp only [Export.pushAtomicEntry, bind_eq_ok, Prod.exists, pushPath_eq_ok] at hpush
  obtain ⟨staged, _, ⟨arena₁, hstaged, rfl⟩, final, _, ⟨arena₂, hfinal, rfl⟩, hkept⟩ := hpush
  cases hkept
  have hstagedPushed := PathArena.pushed_of_push hstaged
  have hfinalPushed := PathArena.pushed_of_push hfinal
  refine ⟨_, rfl, h.store hroom ?_ (hstagedPushed.grows.trans hfinalPushed.grows) ?_⟩
  · exact ⟨hstagedPushed.holds.grows hfinalPushed.grows, rfl, PathArena.holds_empty arena₂, rfl,
      hfinalPushed.holds, rfl⟩
  · have hpacked := (h.packed.push hstaged).push hfinal
    rw [ManifestEntrySlot.texts, optionalText, if_pos rfl]
    simpa [List.append_assoc] using hpacked

/-! ### The header -/

/-- A manifest before its entries. -/
def TransactionHeader.manifest (header : TransactionHeader) : TransactionManifest where
  version := manifestVersion
  uid := header.uid
  kind := header.kind
  phase := .prepared
  transactionId := header.transactionId
  stagingRootPath := header.stagingDirectory
  stagingRootIdentity := some header.stagingIdentity
  outputRoot := header.outputRoot
  entries := []

/-- What holds before the first entry. -/
structure Begun (kept : ArenaManifest) (manifest : TransactionManifest) : Prop where
  stands : Stands kept manifest
  entries : manifest.entries = []
  packed : Packed kept.arena manifest.texts
  slots : ∀ slot ∈ kept.slots, slot = {}

theorem begun_pushHeader {slots : List EntryRefs} {directorySlots : List ManifestDirectorySlot}
    {pathBytes : List UInt8} {header : TransactionHeader} {kept : ArenaManifest}
    (h : pushHeader (.newWithDirectories slots directorySlots pathBytes) header = .ok kept) :
    Begun kept header.manifest := by
  simp only [pushHeader, bind_eq_ok, Prod.exists, pushPath_eq_ok] at h
  obtain ⟨transactionId, _, ⟨arena₁, hid, rfl⟩, staging, _, ⟨arena₂, hstaging, rfl⟩, output, _,
    ⟨arena₃, houtput, rfl⟩, hkept⟩ := h
  cases hkept
  have hidPushed := PathArena.pushed_of_push hid
  have hstagingPushed := PathArena.pushed_of_push hstaging
  have houtputPushed := PathArena.pushed_of_push houtput
  refine ⟨?_, rfl, ?_, ?_⟩
  · refine ⟨rfl, rfl, rfl, rfl, ?_, ?_, rfl, houtputPushed.holds, PathArena.holds_empty arena₃,
      rfl, ?_, ?_, rfl⟩
    · exact hidPushed.holds.grows (hstagingPushed.grows.trans houtputPushed.grows)
    · exact hstagingPushed.holds.grows houtputPushed.grows
    · simp [ArenaManifest.newWithDirectories, TransactionHeader.manifest]
    · simp [ArenaManifest.newWithDirectories, TransactionHeader.manifest]
  · have hpacked := (((Packed.empty pathBytes).push hid).push hstaging).push houtput
    simpa [TransactionManifest.texts, TransactionHeader.manifest, optionalText, entriesTexts]
      using hpacked
  · intro slot hslot
    simp only [ArenaManifest.newWithDirectories, List.mem_map] at hslot
    obtain ⟨_, -, rfl⟩ := hslot
    rfl

theorem setEntryCount_eq_ok {kept kept' : ArenaManifest} {count : ℕ} :
    kept.setEntryCount count = .ok kept' ↔
      count ≤ kept.slots.length ∧ kept' = { kept with entryCount := count } := by
  unfold ArenaManifest.setEntryCount
  split
  · next hlt => exact iff_of_false (fun h => nomatch h) fun h => absurd h.1 (by omega)
  · next hge =>
      constructor
      · intro h
        cases h
        exact ⟨by omega, rfl⟩
      · rintro ⟨-, rfl⟩
        rfl

/-- The slots of a manifest whose entries are about to be pushed. -/
theorem Begun.filling {kept : ArenaManifest} {manifest : TransactionManifest}
    (h : Begun kept manifest) (count : ℕ) :
    Filling { kept with entryCount := count } { kept with entryCount := count } manifest.texts
      [] where
  filled := by simp
  rest := h.slots
  packed := by simpa [entriesTexts] using h.packed
  grows := .refl _
  length := rfl
  same := rfl

theorem Begun.texts_append {kept : ArenaManifest} {manifest : TransactionManifest}
    (h : Begun kept manifest) (entries : List ManifestEntrySlot) :
    TransactionManifest.texts { manifest with entries := entries } =
      manifest.texts ++ entriesTexts entries := by
  simp [TransactionManifest.texts, h.entries, entriesTexts]

/-- All entries are in place. -/
theorem Begun.stands_filled {kept kept' : ArenaManifest} {manifest : TransactionManifest}
    {entries : List ManifestEntrySlot} (h : Begun kept manifest)
    (hfilling : Filling { kept with entryCount := entries.length } kept' manifest.texts entries) :
    Stands kept' { manifest with entries := entries } := by
  obtain ⟨stands, -, -, -⟩ := h
  obtain ⟨hfilled, -, -, hgrows, -, hsame⟩ := hfilling
  rw [hsame]
  exact
    { version := stands.version
      uid := stands.uid
      kind := stands.kind
      phase := stands.phase
      transactionId := stands.transactionId.grows hgrows
      stagingRootPath := stands.stagingRootPath.grows hgrows
      stagingRootIdentity := stands.stagingRootIdentity
      outputRoot := stands.outputRoot.grows hgrows
      finalDirectoryPath := stands.finalDirectoryPath.grows hgrows
      finalDirectoryIdentity := stands.finalDirectoryIdentity
      entries := hfilled
      directories := stands.directories
      journal := stands.journal }

theorem TransactionHeader.InRange.written {header : TransactionHeader} (h : header.InRange) :
    header.manifest.Written where
  version := rfl
  uid := h.uid
  phase := fun _ hphase => nomatch hphase
  stagingRoot := identityInRange_some h.stagingIdentity
  finalDirectory := identityInRange_none
  absent := fun _ => rfl
  entries := fun _ hentry => nomatch hentry
  directories := fun _ hslot => nomatch hslot
  journal := rfl

theorem exists_of_made {Made : PreparedFile × ℕ → ManifestEntrySlot → Prop}
    {files : List (PreparedFile × ℕ)} {entries : List ManifestEntrySlot}
    (h : List.Forall₂ Made files entries) : ∀ entry ∈ entries, ∃ file, Made file entry := by
  induction h with
  | nil => exact fun _ hentry => nomatch hentry
  | cons hmade _ ih =>
      rintro entry (_ | ⟨_, hentry⟩)
      · exact ⟨_, hmade⟩
      · exact ih entry hentry

theorem sound_fileSetManifest {buffers : PublicationBuffers} {capacity : ℕ}
    {header : TransactionHeader} {identity : ℕ → FileIdentity} {files : List PreparedFile}
    {kept : ArenaManifest} (hheader : header.InRange)
    (hidentity : ∀ index, (identity index).InRange)
    (h : fileSetManifest buffers capacity header identity files = .ok kept) :
    ∃ entries, List.Forall₂ (FileSetEntry capacity header.transactionId identity) files.zipIdx
        entries ∧
      Sound kept { header.manifest with entries := entries } := by
  simp only [fileSetManifest, bind_eq_ok, setEntryCount_eq_ok] at h
  obtain ⟨begun, hbegun, counted, ⟨hcount, rfl⟩, hfold⟩ := h
  have hstart := begun_pushHeader hbegun
  obtain ⟨entries, hmade, hfilling⟩ :=
    Filling.foldlM (fun _ _ _ _ => Filling.pushFileSetEntry) (hstart.filling files.length)
      (by simpa using hcount) hfold
  have hlength : entries.length = files.length := by
    have := hmade.length_eq
    simpa using this.symm
  rw [List.nil_append] at hfilling
  have hentries : ∀ entry ∈ entries, entry.Written ∧ entry.partialPath ≠ "" := by
    intro entry hentry
    obtain ⟨file, partialText, hpart, rfl⟩ := exists_of_made hmade entry hentry
    exact ⟨⟨identityInRange_some (hidentity _), identityInRange_none, identityInRange_none,
      fun _ => rfl⟩, partialPath_ne_empty hpart⟩
  refine ⟨entries, hmade, hstart.stands_filled ?_, ?_, ?_, ?_⟩
  · rw [hlength]
    exact hfilling
  · exact { hheader.written with entries := fun entry hentry => (hentries entry hentry).1 }
  · rw [hstart.texts_append]
    exact hfilling.packed
  · exact fun _ entry hentry => (hentries entry hentry).2

/-- The final directory comes between the header and the entries. -/
theorem Begun.finalDirectory {kept : ArenaManifest} {manifest : TransactionManifest}
    (h : Begun kept manifest) {finalDirectory : String} (hnone : manifest.finalDirectoryPath = "")
    (hfinal : finalDirectory ≠ "") {path : PathRef} {arena : PathArena}
    (hpush : kept.arena.push finalDirectory = .ok (path, arena)) (identity : FileIdentity) :
    Begun { kept with
        arena := arena, finalDirectoryPath := path, finalDirectoryIdentity := some identity }
      { manifest with
        finalDirectoryPath := finalDirectory, finalDirectoryIdentity := some identity } := by
  have hpushed := PathArena.pushed_of_push hpush
  refine ⟨?_, h.entries, ?_, h.slots⟩
  · exact
      { h.stands with
        transactionId := h.stands.transactionId.grows hpushed.grows
        stagingRootPath := h.stands.stagingRootPath.grows hpushed.grows
        outputRoot := h.stands.outputRoot.grows hpushed.grows
        finalDirectoryPath := hpushed.holds
        finalDirectoryIdentity := rfl
        entries := h.stands.entries.imp fun _ _ hslot => hslot.grows hpushed.grows }
  · have hpacked := h.packed.push hpush
    simpa [TransactionManifest.texts, optionalText, hnone, hfinal, h.entries, entriesTexts]
      using hpacked

theorem sound_atomicManifest {buffers : PublicationBuffers} {header : TransactionHeader}
    {finalDirectory : String} {identity : ℕ → FileIdentity} {files : List PreparedFile}
    {kept : ArenaManifest} (hheader : header.InRange) (hkind : header.kind = .atomicDirectory)
    (hfinal : finalDirectory ≠ "") (hidentity : ∀ index, (identity index).InRange)
    (h : atomicManifest buffers header finalDirectory identity files = .ok kept) :
    ∃ manifest, Sound kept manifest := by
  simp only [atomicManifest, bind_eq_ok, setEntryCount_eq_ok, Prod.exists, pushPath_eq_ok] at h
  obtain ⟨begun, hbegun, path, _, ⟨arena, hpush, rfl⟩, counted, ⟨hcount, rfl⟩, hfold⟩ := h
  have hstart := (begun_pushHeader hbegun).finalDirectory rfl hfinal hpush header.stagingIdentity
  obtain ⟨entries, hmade, hfilling⟩ :=
    Filling.foldlM (fun _ _ _ _ => Filling.pushAtomicEntry) (hstart.filling files.length)
      (by simpa using hcount) hfold
  have hlength : entries.length = files.length := by
    have := hmade.length_eq
    simpa using this.symm
  rw [List.nil_append] at hfilling
  have hentries : ∀ entry ∈ entries, entry.Written := by
    intro entry hentry
    obtain ⟨file, rfl⟩ := exists_of_made hmade entry hentry
    exact ⟨identityInRange_some (hidentity _), identityInRange_none,
      identityInRange_some (hidentity _), fun _ => rfl⟩
  refine ⟨_, hstart.stands_filled (by rw [hlength]; exact hfilling), ?_, ?_, ?_⟩
  · exact
      { hheader.written with
        finalDirectory := identityInRange_some hheader.stagingIdentity
        absent := fun hempty => absurd hempty hfinal
        entries := hentries }
  · rw [hstart.texts_append]
    exact hfilling.packed
  · intro hset
    cases hkind.symm.trans hset

/-! ### Every manifest of a publisher -/

theorem Published.sound {kept : ArenaManifest} (h : Published kept) :
    ∃ manifest, Sound kept manifest := by
  induction h with
  | fileSet hheader hkind hidentity h =>
      obtain ⟨entries, -, hsound⟩ := sound_fileSetManifest hheader hidentity h
      exact ⟨_, hsound⟩
  | atomic hheader hkind hfinal hidentity h =>
      exact sound_atomicManifest hheader hkind hfinal hidentity h
  | intent _ hpush ih =>
      obtain ⟨manifest, hsound⟩ := ih
      exact ⟨_, hsound.intent hpush⟩
  | owned _ hidentity ih =>
      obtain ⟨manifest, hsound⟩ := ih
      refine ⟨_, hsound.modifyDirectory _ ?_⟩
      exact fun slot hslot =>
        ⟨hslot.entryIndex, hslot.prefixLen, rfl, identityInRange_some hidentity⟩
  | phase _ hphase ih =>
      obtain ⟨manifest, hsound⟩ := ih
      exact ⟨_, hsound.phase hphase⟩
  | copied _ hkind hindex hidentity ih =>
      obtain ⟨manifest, hsound⟩ := ih
      exact ⟨_, hsound.copied _ hidentity hkind⟩
  | renamed _ hkind hindex hidentity ih =>
      obtain ⟨manifest, hsound⟩ := ih
      exact ⟨_, hsound.renamed _ hidentity hkind⟩

/-- Reading what a publisher wrote gives its manifest back, whatever the slots
and the arena held before. -/
theorem published_manifest_round_trip {kept : ArenaManifest} (h : Published kept)
    {slots : List EntryRefs} {directorySlots : List ManifestDirectorySlot}
    {pathBytes : List UInt8} (hslots : kept.entryCount ≤ slots.length)
    (hdirectories : kept.directoryCount ≤ directorySlots.length)
    (hbytes : kept.arena.used ≤ pathBytes.length) :
    ∃ manifest parsed, kept.resolve = some manifest ∧
      parseManifest slots directorySlots pathBytes manifest.serialize = .ok parsed ∧
      parsed.resolve = some manifest := by
  obtain ⟨manifest, hsound⟩ := h.sound
  have hentries : manifest.entries.length ≤ slots.length := by
    rw [← hsound.stands.entries.length_eq, List.length_take]
    omega
  have hcreated : manifest.directories.length ≤ directorySlots.length := by
    rw [hsound.stands.directories, List.length_take]
    omega
  have hroom : Room pathBytes.length 0 manifest.texts := by
    refine hsound.packed.room.of_le ?_
    rw [Nat.zero_add, ← hsound.packed.used]
    exact hbytes
  obtain ⟨parsed, hparse, hresolve⟩ :=
    exists_parseManifest hsound.written hentries hcreated hroom
  exact ⟨manifest, parsed, hsound.stands.resolve_eq, hparse, hresolve⟩

/-- Buffers with room for one file, full of what was there before. -/
def usedBuffers : PublicationBuffers where
  entries := [{ partialIdentity := some ⟨7, 7⟩, finalPath := ⟨3, 5⟩ }]
  directories := [⟨4, 4, some .owned, some ⟨8, 8⟩⟩]
  pathBytes := List.replicate 40 255
  serialization := 4096
  syncSlots := 1

def singleHeader : TransactionHeader where
  uid := 0
  kind := .fileSet
  transactionId := "t"
  stagingDirectory := "/s/t"
  stagingIdentity := ⟨0, 3⟩
  outputRoot := "/o"

theorem published_manifest_round_trip_single :
    ∃ kept, fileSetManifest usedBuffers 64 singleHeader (fun _ => ⟨0, 4⟩)
        [⟨"/s/t/a", "/o/a"⟩] = .ok kept ∧
      ∃ manifest parsed, kept.resolve = some manifest ∧
        parseManifest usedBuffers.entries usedBuffers.directories usedBuffers.pathBytes
          manifest.serialize = .ok parsed ∧
        parsed.resolve = some manifest := by
  have hsizes : (fileSetManifest usedBuffers 64 singleHeader (fun _ => ⟨0, 4⟩)
      [⟨"/s/t/a", "/o/a"⟩]).map (fun kept =>
        (kept.entryCount, kept.directoryCount, kept.arena.used)) = .ok (1, 0, 32) := by
    decide +kernel
  cases hkept : fileSetManifest usedBuffers 64 singleHeader (fun _ => ⟨0, 4⟩)
    [⟨"/s/t/a", "/o/a"⟩] with
  | error e =>
      rw [hkept] at hsizes
      cases hsizes
  | ok kept =>
      rw [hkept] at hsizes
      obtain ⟨hcount, hdirectories, hused⟩ :
          kept.entryCount = 1 ∧ kept.directoryCount = 0 ∧ kept.arena.used = 32 := by
        simpa [Except.map] using hsizes
      refine ⟨kept, rfl, published_manifest_round_trip (.fileSet ⟨by decide, by decide⟩ rfl
        (fun _ => by decide) hkept) ?_ ?_ ?_⟩
      · rw [hcount]
        decide
      · rw [hdirectories]
        decide
      · rw [hused]
        decide

end Lamb.Export
