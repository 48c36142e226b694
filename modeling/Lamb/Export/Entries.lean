import Lamb.Export.Published
import Lamb.Export.Restage
import Lamb.Recovery.Length

/-!
When the entries of a manifest can be pushed. The planner has seen to it that
every staged and every final path fits a slot; the partial path next to a final
path is longer by the name of the transaction. The paths are packed in an arena
whose references are 32 bits wide.
-/

namespace Lamb.Export

open Lamb.Lib Lamb.Lib.Path Lamb.Runtime Lamb.Recovery

/-- A file as its plan gives it: the final path has plain names below the
output root, and both paths fit a slot. -/
structure Laid (capacity : ℕ) (base : List String) (file : PreparedFile) : Prop where
  staged : Fits capacity file.stagedPath
  final : Fits capacity file.finalPath
  relative : ∃ relative : List String, relative ≠ [] ∧ (∀ name ∈ relative, IsName name) ∧
    file.finalPath = render (base ++ relative)

/-! ### The partial path -/

theorem render_concat {names : List String} {name : String} (hnames : ∀ name ∈ names, IsName name)
    (hname : IsName name) : render (names ++ [name]) = withSeparator (render names) ++ name := by
  rw [← joinPath_name hnames hname]
  refine joinPath_eq ?_
  simpa using head?_ne_separator hname []

theorem parentText_render {names : List String} {name : String}
    (hnames : ∀ name ∈ names, IsName name) (hname : IsName name) :
    parentText (render (names ++ [name])) = some (render names) := by
  have hall : ∀ other ∈ names ++ [name], IsName other := by
    intro other hother
    rcases List.mem_append.1 hother with hother | hother
    · exact hnames other hother
    · exact List.mem_singleton.1 hother ▸ hname
  rw [parentText, ofText_render hall, parent_absolute_append, Option.map_some]
  by_cases hne : names = []
  · rw [hne]
    rfl
  · rw [display_absolute]

/-- The partial path of the file `name` in the directory `names`. -/
def partialText (names : List String) (name transactionId : String) : String :=
  withSeparator (render names) ++ "." ++ name ++ "." ++ transactionId ++ ".partial"

theorem partialPath_eq_ok {capacity : ℕ} (hcapacity : capacity ≤ u64Max) {names : List String}
    {name transactionId text : String} (hnames : ∀ name ∈ names, IsName name)
    (hname : IsName name) :
    partialPath capacity (render (names ++ [name])) transactionId = .ok text ↔
      text = partialText names name transactionId ∧ Fits capacity text := by
  have hall : ∀ other ∈ names ++ [name], IsName other := by
    intro other hother
    rcases List.mem_append.1 hother with hother | hother
    · exact hnames other hother
    · exact List.mem_singleton.1 hother ▸ hname
  have hfile : (ofText (render (names ++ [name]))).fileName = some name := by
    rw [ofText_render hall, fileName_absolute_append]
  unfold partialPath
  rw [hfile, parentText_render hnames hname]
  simp only [bind_eq_ok, setPath_eq_ok hcapacity]
  constructor
  · rintro ⟨_, ⟨rfl, hparent⟩, _, hseparator, _, hdot, _, hfileName, _, hdot', _, hid, hlast⟩
    obtain ⟨rfl, hfits⟩ := (pushSeparator_eq_ok hcapacity hparent).mp hseparator
    obtain ⟨rfl, hfits⟩ := (pushBytes_eq_ok hcapacity hfits).mp hdot
    obtain ⟨rfl, hfits⟩ := (pushBytes_eq_ok hcapacity hfits).mp hfileName
    obtain ⟨rfl, hfits⟩ := (pushBytes_eq_ok hcapacity hfits).mp hdot'
    obtain ⟨rfl, hfits⟩ := (pushBytes_eq_ok hcapacity hfits).mp hid
    exact (pushBytes_eq_ok hcapacity hfits).mp hlast
  · rintro ⟨rfl, hfits⟩
    -- every text on the way is a front part of the last one
    have hid := hfits.of_append
    have hdot' := hid.of_append
    have hfileName := hdot'.of_append
    have hdot := hfileName.of_append
    have hseparator := hdot.of_append
    obtain ⟨more, hmore⟩ := exists_withSeparator (render names)
    have hparent : Fits capacity (render names) := (hmore ▸ hseparator).of_append
    exact ⟨_, ⟨rfl, hparent⟩, _, (pushSeparator_eq_ok hcapacity hparent).mpr ⟨rfl, hseparator⟩, _,
      (pushBytes_eq_ok hcapacity hseparator).mpr ⟨rfl, hdot⟩, _,
      (pushBytes_eq_ok hcapacity hdot).mpr ⟨rfl, hfileName⟩, _,
      (pushBytes_eq_ok hcapacity hfileName).mpr ⟨rfl, hdot'⟩, _,
      (pushBytes_eq_ok hcapacity hdot').mpr ⟨rfl, hid⟩,
      (pushBytes_eq_ok hcapacity hid).mpr ⟨rfl, hfits⟩⟩

theorem utf8ByteSize_partialText {names : List String} {name : String} (transactionId : String)
    (hnames : ∀ name ∈ names, IsName name) (hname : IsName name) :
    (partialText names name transactionId).utf8ByteSize =
      (render (names ++ [name])).utf8ByteSize + transactionId.utf8ByteSize + 10 := by
  have hdot : ".".utf8ByteSize = 1 := rfl
  have hlast : ".partial".utf8ByteSize = 8 := rfl
  rw [render_concat hnames hname, partialText]
  simp only [String.utf8ByteSize_append, hdot, hlast]
  omega

section Laid

variable {capacity : ℕ} {base : List String} {file : PreparedFile} {transactionId text : String}

/-- The directory and the name of a laid file. -/
theorem Laid.split (h : Laid capacity base file) (hbase : ∀ name ∈ base, IsName name) :
    ∃ (names : List String) (name : String), (∀ name ∈ names, IsName name) ∧ IsName name ∧
      file.finalPath = render (names ++ [name]) := by
  obtain ⟨relative, hne, hplain, hfinal⟩ := h.relative
  obtain ⟨front, name, rfl⟩ := (List.eq_nil_or_concat' relative).resolve_left hne
  refine ⟨base ++ front, name, fun other hother => ?_, hplain name (by simp), ?_⟩
  · rcases List.mem_append.1 hother with hother | hother
    · exact hbase other hother
    · exact hplain other (List.mem_append_left _ hother)
  · rw [hfinal, List.append_assoc]

/-- How long a partial path is. -/
theorem Laid.size_partialPath (hcapacity : capacity ≤ u64Max) (h : Laid capacity base file)
    (hbase : ∀ name ∈ base, IsName name)
    (hok : partialPath capacity file.finalPath transactionId = .ok text) :
    text.utf8ByteSize = file.finalPath.utf8ByteSize + transactionId.utf8ByteSize + 10 ∧
      text.utf8ByteSize ≤ capacity := by
  obtain ⟨names, name, hnames, hname, hfinal⟩ := h.split hbase
  rw [hfinal] at hok ⊢
  obtain ⟨rfl, hfits⟩ := (partialPath_eq_ok hcapacity hnames hname).mp hok
  exact ⟨utf8ByteSize_partialText transactionId hnames hname, hfits.2⟩

/-- A partial path can be made if it is no longer than a slot. -/
theorem Laid.exists_partialPath (hcapacity : capacity ≤ u64Max) (h : Laid capacity base file)
    (hbase : ∀ name ∈ base, IsName name) (hid : nul ∉ transactionId.toList)
    (hsize : file.finalPath.utf8ByteSize + transactionId.utf8ByteSize + 10 ≤ capacity) :
    ∃ text, partialPath capacity file.finalPath transactionId = .ok text := by
  obtain ⟨names, name, hnames, hname, hfinal⟩ := h.split hbase
  have hnul := h.final.1
  rw [hfinal] at hsize hnul ⊢
  refine ⟨_, (partialPath_eq_ok hcapacity hnames hname).mpr ⟨rfl, ?_, ?_⟩⟩
  · rw [render_concat hnames hname] at hnul
    have hdots : nul ∉ ".".toList ∧ nul ∉ ".partial".toList := by decide
    simp only [partialText, String.toList_append, List.mem_append, not_or] at hnul ⊢
    exact ⟨⟨⟨⟨⟨hnul.1, hdots.1⟩, hnul.2⟩, hdots.1⟩, hid⟩, hdots.2⟩
  · rw [utf8ByteSize_partialText transactionId hnames hname]
    exact hsize

end Laid

/-! ### Room for all paths -/

/-- Texts have room if they fit and the last of them starts where a reference
can reach. -/
theorem room_concat {capacity used : ℕ} {texts : List String} {last : String}
    (haddressed : used + textsSize texts < 2 ^ 32) (hlast : last.utf8ByteSize < 2 ^ 32)
    (hfits : used + textsSize (texts ++ [last]) ≤ capacity) :
    Room capacity used (texts ++ [last]) := by
  induction texts generalizing used with
  | nil => exact ⟨⟨hlast, by simpa using haddressed, by simpa using hfits⟩, trivial⟩
  | cons text texts ih =>
      rw [textsSize_cons] at haddressed
      rw [List.cons_append, textsSize_cons] at hfits
      refine ⟨⟨by omega, by omega, by omega⟩, ih ?_ ?_⟩
      · omega
      · omega

theorem textsSize_le {texts : List String} {maximum : ℕ}
    (h : ∀ text ∈ texts, text.utf8ByteSize ≤ maximum) :
    textsSize texts ≤ texts.length * maximum := by
  induction texts with
  | nil => exact Nat.zero_le _
  | cons text texts ih =>
      have hhead := h text List.mem_cons_self
      have htail := ih fun other hother => h other (List.mem_cons_of_mem _ hother)
      rw [textsSize_cons, List.length_cons, Nat.succ_mul]
      omega

theorem addressed_of_room {capacity used : ℕ} {texts : List String} {last : String}
    (h : Room capacity used (texts ++ [last])) : used + textsSize texts < 2 ^ 32 :=
  (room_append.1 h).2.1.2.1

/-- The paths of a file in the order they are pushed. -/
def PreparedFile.texts (partialOf : PreparedFile → String) (file : PreparedFile) : List String :=
  [file.stagedPath, partialOf file, file.finalPath]

def TransactionHeader.texts (header : TransactionHeader) : List String :=
  [header.transactionId, header.stagingDirectory, header.outputRoot]

theorem exists_pushPath {manifest : ArenaManifest} {value : String}
    (h : manifest.arena.HasRoom [value]) :
    ∃ path arena, manifest.pushPath value = .ok (path, { manifest with arena := arena }) ∧
      manifest.arena.Stored [value] arena := by
  obtain ⟨path, arena, hpush, hpushed⟩ := h.push
  exact ⟨path, arena, pushPath_eq_ok.mpr ⟨arena, hpush, rfl⟩, hpushed.stored⟩

theorem exists_pushHeader {manifest : ArenaManifest} {header : TransactionHeader}
    (h : manifest.arena.HasRoom header.texts) :
    ∃ manifest', pushHeader manifest header = .ok manifest' ∧
      manifest.arena.Stored header.texts manifest'.arena ∧ manifest'.slots = manifest.slots := by
  have hroom : manifest.arena.HasRoom
    ([header.transactionId] ++ [header.stagingDirectory] ++ [header.outputRoot]) := h
  obtain ⟨id, arena₁, hid, hstored₁⟩ := @exists_pushPath
    { manifest with
      version := manifestVersion, uid := header.uid, kind := header.kind, phase := .prepared }
    header.transactionId hroom.left.left
  obtain ⟨staging, arena₂, hstaging, hstored₂⟩ := @exists_pushPath
    { manifest with
      version := manifestVersion, uid := header.uid, kind := header.kind, phase := .prepared,
      arena := arena₁ } header.stagingDirectory (hroom.left.right hstored₁)
  have hstored := hstored₁.trans hstored₂
  obtain ⟨output, arena₃, houtput, hstored₃⟩ := @exists_pushPath
    { manifest with
      version := manifestVersion, uid := header.uid, kind := header.kind, phase := .prepared,
      arena := arena₂ } header.outputRoot (hroom.right hstored)
  exact ⟨_, bind_eq_ok.mpr ⟨_, hid, bind_eq_ok.mpr ⟨_, hstaging,
    bind_eq_ok.mpr ⟨_, houtput, rfl⟩⟩⟩, hstored.trans hstored₃, rfl⟩

theorem exists_pushFileSetEntry {manifest : ArenaManifest} {capacity : ℕ}
    {transactionId : String} {identity : ℕ → FileIdentity} {partialOf : PreparedFile → String}
    {file : PreparedFile} (index : ℕ)
    (hpart : partialPath capacity file.finalPath transactionId = .ok (partialOf file))
    (h : manifest.arena.HasRoom (file.texts partialOf)) :
    ∃ manifest', pushFileSetEntry capacity transactionId identity manifest (file, index) =
        .ok manifest' ∧ manifest.arena.Stored (file.texts partialOf) manifest'.arena := by
  have hroom : manifest.arena.HasRoom
    ([file.stagedPath] ++ [partialOf file] ++ [file.finalPath]) := h
  obtain ⟨staged, arena₁, hstaged, hstored₁⟩ := exists_pushPath hroom.left.left
  obtain ⟨copy, arena₂, hcopy, hstored₂⟩ := @exists_pushPath { manifest with arena := arena₁ }
    (partialOf file) (hroom.left.right hstored₁)
  have hstored := hstored₁.trans hstored₂
  obtain ⟨final, arena₃, hfinal, hstored₃⟩ := @exists_pushPath { manifest with arena := arena₂ }
    file.finalPath (hroom.right hstored)
  exact ⟨_, bind_eq_ok.mpr ⟨_, hpart, bind_eq_ok.mpr ⟨_, hstaged, bind_eq_ok.mpr ⟨_, hcopy,
    bind_eq_ok.mpr ⟨_, hfinal, rfl⟩⟩⟩⟩, hstored.trans hstored₃⟩

theorem exists_pushFileSetEntries {capacity : ℕ} {transactionId : String}
    {identity : ℕ → FileIdentity} {partialOf : PreparedFile → String} {files : List PreparedFile}
    (hpart : ∀ file ∈ files,
      partialPath capacity file.finalPath transactionId = .ok (partialOf file))
    {manifest : ArenaManifest} (count : ℕ)
    (h : manifest.arena.HasRoom (files.flatMap (PreparedFile.texts partialOf))) :
    ∃ manifest', (files.zipIdx count).foldlM (pushFileSetEntry capacity transactionId identity)
      manifest = .ok manifest' := by
  induction files generalizing manifest count with
  | nil => exact ⟨manifest, rfl⟩
  | cons file files ih =>
      rw [List.flatMap_cons] at h
      obtain ⟨manifest₁, hfirst, hstored⟩ :=
        exists_pushFileSetEntry count (hpart file List.mem_cons_self) h.left
      obtain ⟨manifest', hrest⟩ :=
        ih (fun other hother => hpart other (List.mem_cons_of_mem _ hother)) (count + 1)
          (h.right hstored)
      refine ⟨manifest', ?_⟩
      rw [List.zipIdx_cons, List.foldlM_cons]
      exact bind_eq_ok.mpr ⟨manifest₁, hfirst, hrest⟩

theorem exists_fileSetManifest {buffers : PublicationBuffers} {capacity : ℕ}
    {header : TransactionHeader} {identity : ℕ → FileIdentity} {files : List PreparedFile}
    {partialOf : PreparedFile → String}
    (hpart : ∀ file ∈ files,
      partialPath capacity file.finalPath header.transactionId = .ok (partialOf file))
    (hcount : files.length ≤ buffers.entries.length)
    (h : Room buffers.pathBytes.length 0
      (header.texts ++ files.flatMap (PreparedFile.texts partialOf))) :
    ∃ kept, fileSetManifest buffers capacity header identity files = .ok kept := by
  have hroom : (ArenaManifest.newWithDirectories buffers.entries buffers.directories
      buffers.pathBytes).arena.HasRoom
        (header.texts ++ files.flatMap (PreparedFile.texts partialOf)) := h
  obtain ⟨begun, hbegun, hstored, hslots⟩ := exists_pushHeader hroom.left
  have hlength : files.length ≤ begun.slots.length := by
    rw [hslots]
    simpa [ArenaManifest.newWithDirectories] using hcount
  obtain ⟨kept, hkept⟩ := @exists_pushFileSetEntries capacity header.transactionId identity
    partialOf files hpart { begun with entryCount := files.length } 0 (hroom.right hstored)
  refine ⟨kept, ?_⟩
  unfold fileSetManifest
  refine bind_eq_ok.mpr ⟨begun, hbegun, ?_⟩
  exact bind_eq_ok.mpr ⟨_, setEntryCount_eq_ok.mpr ⟨hlength, rfl⟩, hkept⟩

/-! ### When a manifest can be filled -/

/-- The bytes of all paths of a manifest. -/
def manifestPathBytes (header : TransactionHeader) (files : List PreparedFile) : ℕ :=
  textsSize header.texts + (files.map fun file => file.stagedPath.utf8ByteSize +
    (file.finalPath.utf8ByteSize + header.transactionId.utf8ByteSize + 10) +
      file.finalPath.utf8ByteSize).sum

/-- Every partial path fits a slot, and the last path starts where a reference
can reach. -/
structure PathsPublishable (capacity : ℕ) (header : TransactionHeader)
    (files : List PreparedFile) : Prop where
  partial_le : ∀ file ∈ files,
    file.finalPath.utf8ByteSize + header.transactionId.utf8ByteSize + 10 ≤ capacity
  addressed : ∀ last, files.getLast? = some last →
    manifestPathBytes header files < 2 ^ 32 + last.finalPath.utf8ByteSize

section Filled

variable {buffers : PublicationBuffers} {capacity : ℕ} {header : TransactionHeader}
  {identity : ℕ → FileIdentity} {files : List PreparedFile} {base : List String}
  {partialOf : PreparedFile → String}

theorem textsSize_paths (hsize : ∀ file ∈ files, (partialOf file).utf8ByteSize =
    file.finalPath.utf8ByteSize + header.transactionId.utf8ByteSize + 10) :
    textsSize (header.texts ++ files.flatMap (PreparedFile.texts partialOf)) =
      manifestPathBytes header files := by
  have hfiles : textsSize (files.flatMap (PreparedFile.texts partialOf)) =
      (files.map fun file => file.stagedPath.utf8ByteSize +
        (file.finalPath.utf8ByteSize + header.transactionId.utf8ByteSize + 10) +
          file.finalPath.utf8ByteSize).sum := by
    induction files with
    | nil => rfl
    | cons file files ih =>
        rw [List.flatMap_cons, textsSize_append, List.map_cons, List.sum_cons,
          ih fun other hother => hsize other (List.mem_cons_of_mem _ hother)]
        simp only [PreparedFile.texts, textsSize_cons, textsSize_nil,
          hsize file List.mem_cons_self]
        omega
  rw [textsSize_append, hfiles, manifestPathBytes]

theorem length_paths :
    (header.texts ++ files.flatMap (PreparedFile.texts partialOf)).length =
      files.length * 3 + 3 := by
  simp [TransactionHeader.texts, PreparedFile.texts, List.length_flatMap]

theorem paths_le (hheader : ∀ text ∈ header.texts, text.utf8ByteSize ≤ capacity)
    (hlaid : ∀ file ∈ files, Laid capacity base file)
    (hpart : ∀ file ∈ files, (partialOf file).utf8ByteSize ≤ capacity) :
    ∀ text ∈ header.texts ++ files.flatMap (PreparedFile.texts partialOf),
      text.utf8ByteSize ≤ capacity := by
  intro text htext
  rcases List.mem_append.1 htext with htext | htext
  · exact hheader text htext
  · obtain ⟨file, hfile, htext⟩ := List.mem_flatMap.1 htext
    simp only [PreparedFile.texts, List.mem_cons, List.not_mem_nil, or_false] at htext
    obtain rfl | rfl | rfl := htext
    · exact (hlaid file hfile).staged.2
    · exact hpart file hfile
    · exact (hlaid file hfile).final.2

/-- The paths up to the final path of the last file, and that path. -/
theorem paths_concat (front : List PreparedFile) (last : PreparedFile) :
    header.texts ++ (front ++ [last]).flatMap (PreparedFile.texts partialOf) =
      header.texts ++ front.flatMap (PreparedFile.texts partialOf) ++
        [last.stagedPath, partialOf last] ++ [last.finalPath] := by
  simp [PreparedFile.texts]

theorem texts_of_made {entries : List ManifestEntrySlot} {count : ℕ}
    (h : List.Forall₂ (FileSetEntry capacity header.transactionId identity)
      (files.zipIdx count) entries)
    (hpart : ∀ file ∈ files,
      partialPath capacity file.finalPath header.transactionId = .ok (partialOf file)) :
    entriesTexts entries = files.flatMap (PreparedFile.texts partialOf) := by
  induction files generalizing entries count with
  | nil =>
      cases h
      rfl
  | cons file files ih =>
      rw [List.zipIdx_cons] at h
      obtain ⟨entry, entries, ⟨text, htext, rfl⟩, hrest, rfl⟩ := List.forall₂_cons_left_iff.1 h
      have hsame : text = partialOf file :=
        Except.ok.inj (htext.symm.trans (hpart file List.mem_cons_self))
      subst hsame
      rw [entriesTexts_cons, List.flatMap_cons,
        ih hrest fun other hother => hpart other (List.mem_cons_of_mem _ hother)]
      simp [ManifestEntrySlot.texts, PreparedFile.texts, optionalText,
        partialPath_ne_empty htext]

theorem exists_partialOf {entries : List ManifestEntrySlot} {count : ℕ}
    (h : List.Forall₂ (FileSetEntry capacity header.transactionId identity)
      (files.zipIdx count) entries) :
    ∀ file ∈ files, ∃ text,
      partialPath capacity file.finalPath header.transactionId = .ok text := by
  induction files generalizing entries count with
  | nil => exact fun _ hfile => nomatch hfile
  | cons file files ih =>
      rw [List.zipIdx_cons] at h
      obtain ⟨entry, entries, ⟨text, htext, -⟩, hrest, -⟩ := List.forall₂_cons_left_iff.1 h
      rintro other (_ | ⟨_, hother⟩)
      · exact ⟨text, htext⟩
      · exact ih hrest other hother

/-- The paths of a manifest that was filled. -/
theorem texts_fileSetManifest {entries : List ManifestEntrySlot}
    (h : List.Forall₂ (FileSetEntry capacity header.transactionId identity) files.zipIdx entries)
    (hpart : ∀ file ∈ files,
      partialPath capacity file.finalPath header.transactionId = .ok (partialOf file)) :
    TransactionManifest.texts { header.manifest with entries := entries } =
      header.texts ++ files.flatMap (PreparedFile.texts partialOf) := by
  rw [TransactionManifest.texts, texts_of_made h hpart]
  rfl

theorem publishable_of_fileSetManifest {kept : ArenaManifest} (hcapacity : capacity ≤ u64Max)
    (hbase : ∀ name ∈ base, IsName name) (hlaid : ∀ file ∈ files, Laid capacity base file)
    (hheader : header.InRange) (hidentity : ∀ index, (identity index).InRange)
    (h : fileSetManifest buffers capacity header identity files = .ok kept) :
    PathsPublishable capacity header files := by
  obtain ⟨entries, hmade, hsound⟩ := sound_fileSetManifest hheader hidentity h
  have hexists := exists_partialOf hmade
  choose! partialOf hpart using hexists
  have hsize (file : PreparedFile) (hfile : file ∈ files) :=
    (hlaid file hfile).size_partialPath hcapacity hbase (hpart file hfile)
  refine ⟨fun file hfile => ?_, fun last hlast => ?_⟩
  · rw [← (hsize file hfile).1]
    exact (hsize file hfile).2
  · obtain ⟨front, rfl⟩ := List.getLast?_eq_some_iff.1 hlast
    have hroom := hsound.packed.room
    rw [texts_fileSetManifest hmade hpart, paths_concat] at hroom
    have haddressed := addressed_of_room hroom
    rw [← textsSize_paths fun file hfile => (hsize file hfile).1, paths_concat, textsSize_append,
      textsSize_cons, textsSize_nil]
    omega

theorem exists_of_publishable (hcapacity : capacity ≤ u64Max)
    (hbase : ∀ name ∈ base, IsName name) (hlaid : ∀ file ∈ files, Laid capacity base file)
    (hne : files ≠ []) (hid : nul ∉ header.transactionId.toList)
    (hfits : ∀ text ∈ header.texts, text.utf8ByteSize ≤ capacity)
    (hcount : files.length ≤ buffers.entries.length)
    (hbytes : buffers.pathBytes.length =
      manifestPathEntries buffers.entries.length * capacity)
    (h : PathsPublishable capacity header files) :
    ∃ kept, fileSetManifest buffers capacity header identity files = .ok kept := by
  have hexists : ∀ file ∈ files, ∃ text,
      partialPath capacity file.finalPath header.transactionId = .ok text := fun file hfile =>
    (hlaid file hfile).exists_partialPath hcapacity hbase hid (h.partial_le file hfile)
  choose! partialOf hpart using hexists
  have hsize (file : PreparedFile) (hfile : file ∈ files) :=
    (hlaid file hfile).size_partialPath hcapacity hbase (hpart file hfile)
  refine exists_fileSetManifest hpart hcount ?_
  have htotal : _ = manifestPathBytes header files :=
    textsSize_paths fun file hfile => (hsize file hfile).1
  have hle := textsSize_le (paths_le hfits hlaid fun file hfile => (hsize file hfile).2)
  have hroom : textsSize (header.texts ++ files.flatMap (PreparedFile.texts partialOf)) ≤
      buffers.pathBytes.length := by
    refine le_trans hle ?_
    rw [hbytes, length_paths]
    refine Nat.mul_le_mul_right _ ?_
    simp only [manifestPathEntries, manifestFixedPathEntries]
    omega
  obtain ⟨front, last, rfl⟩ := (List.eq_nil_or_concat' files).resolve_left hne
  have haddressed := h.addressed last (by simp)
  have hlast := (hsize last (by simp)).1
  rw [← htotal, paths_concat, textsSize_append] at haddressed
  rw [paths_concat] at hroom ⊢
  simp only [textsSize_append, textsSize_cons, textsSize_nil] at haddressed
  refine room_concat ?_ ?_ (by rwa [Nat.zero_add])
  · simp only [textsSize_append, textsSize_cons, textsSize_nil]
    omega
  · omega

end Filled

end Lamb.Export
