import Lamb.Export.Entries

/-!
The directories of a publication. Every directory that is recorded or
synchronized is a front part of a final path, named by the file and the length
of the part. A component takes two bytes at least, so that a path has no more
directories than half its length: the slots never run out.
-/

namespace Lamb.Export

open Lamb.Lib Lamb.Lib.Path Lamb.Runtime Lamb.Recovery

/-! ### Front parts of a path -/

theorem exists_render_append (names more : List String) :
    ∃ rest, (render (names ++ more)).toList = (render names).toList ++ rest := by
  rw [toList_render, toList_render]
  by_cases hnames : names = []
  · subst hnames
    by_cases hmore : more = []
    · subst hmore
      exact ⟨[], rfl⟩
    · obtain ⟨name, tail, rfl⟩ := List.exists_cons_of_ne_nil hmore
      refine ⟨name.toList ++ spell tail, ?_⟩
      rw [List.nil_append, renderChars_of_ne_nil hmore, spell_cons]
      rfl
  · exact ⟨_, renderChars_append hnames more⟩

theorem pathPrefix_render (names more : List String) :
    pathPrefix (render (names ++ more)) (render names).utf8ByteSize =
      .ok (ofText (render names)) := by
  obtain ⟨rest, hrest⟩ := exists_render_append names more
  rw [pathPrefix, hrest, ← byteLength_toList, takeBytes_append]
  simp

theorem byteLength_spell_ge {names : List String} (hnames : ∀ name ∈ names, IsName name) :
    2 * names.length ≤ byteLength (spell names) := by
  induction names with
  | nil => exact Nat.le_refl 0
  | cons name names ih =>
      have htail := ih fun other hother => hnames other (List.mem_cons_of_mem _ hother)
      have hne := toList_ne_nil (hnames name List.mem_cons_self)
      obtain ⟨c, chars, hchars⟩ := List.exists_cons_of_ne_nil hne
      have hc := c.utf8Size_pos
      have hslash : Char.utf8Size '/' = 1 := rfl
      rw [spell_cons, hchars, List.length_cons]
      simp only [List.cons_append, byteLength_cons, byteLength_append, hslash]
      omega

theorem utf8ByteSize_render (names : List String) :
    (render names).utf8ByteSize = if names = [] then 1 else byteLength (spell names) := by
  rw [← byteLength_toList, toList_render]
  by_cases hnames : names = []
  · rw [hnames]
    rfl
  · rw [if_neg hnames, renderChars_of_ne_nil hnames]

/-- Where the component behind `names` begins. -/
theorem component_start {names : List String} (hnames : ∀ name ∈ names, IsName name) :
    (if (render names).utf8ByteSize = 1 then 1 else (render names).utf8ByteSize + 1) =
      byteLength (spell names) + 1 := by
  rw [utf8ByteSize_render]
  by_cases hne : names = []
  · rw [hne]
    rfl
  · have hlength := byteLength_spell_ge hnames
    have hpos := List.length_pos_of_ne_nil hne
    rw [if_neg hne, if_neg (by omega)]

theorem nextComponentPrefixLen_render {names more : List String} {name : String}
    (hnames : ∀ name ∈ names, IsName name) :
    nextComponentPrefixLen (render (names ++ name :: more)) (render names).utf8ByteSize name =
      .ok (render (names ++ [name])).utf8ByteSize := by
  have hslash : Char.utf8Size '/' = 1 := rfl
  have htext : (render (names ++ name :: more)).toList =
      (spell names ++ ['/']) ++ (name.toList ++ spell more) := by
    rw [toList_render, renderChars_of_ne_nil (by simp)]
    simp
  have hfront : byteLength (spell names ++ ['/']) = byteLength (spell names) + 1 := by
    rw [byteLength_append]
    rfl
  have hstop : (render (names ++ [name])).utf8ByteSize =
      byteLength (spell names) + 1 + name.utf8ByteSize := by
    rw [utf8ByteSize_render, if_neg (by simp), spell_append, byteLength_append, spell_cons,
      spell_nil, List.append_nil, byteLength_cons, byteLength_toList, hslash]
    omega
  have hrange : textRange (render (names ++ name :: more)) (byteLength (spell names) + 1)
      (byteLength (spell names) + 1 + name.utf8ByteSize) = some name.toList := by
    rw [textRange, htext, ← hfront, dropBytes_append, Option.bind_some, Nat.add_sub_cancel_left,
      ← byteLength_toList, takeBytes_append]
  unfold nextComponentPrefixLen
  simp only [component_start hnames]
  rw [if_pos hrange, hstop]

/-! ### Directories to synchronize -/

/-- The slot names a front part of a final path. -/
def SyncedSlot (files : List PreparedFile) (slot : DirectorySyncSlot) : Prop :=
  ∃ file path, files[slot.entryIndex]? = some file ∧
    pathPrefix file.finalPath slot.prefixLen = .ok path

theorem exists_isSynced {files : List PreparedFile} {slots : List DirectorySyncSlot}
    (h : ∀ slot ∈ slots, SyncedSlot files slot) (candidate : Path) :
    ∃ found, isSynced files candidate slots = .ok found := by
  induction slots with
  | nil => exact ⟨false, rfl⟩
  | cons slot slots ih =>
      obtain ⟨file, path, hfile, hpath⟩ := h slot List.mem_cons_self
      obtain ⟨found, hfound⟩ := ih fun other hother => h other (List.mem_cons_of_mem _ hother)
      simp only [isSynced, hfile]
      by_cases hsame : path = candidate
      · refine ⟨true, bind_eq_ok.mpr ⟨path, hpath, ?_⟩⟩
        rw [if_pos hsame]
      · refine ⟨found, bind_eq_ok.mpr ⟨path, hpath, ?_⟩⟩
        rw [if_neg hsame, hfound]

theorem exists_addDirectorySync {capacity : ℕ} {files : List PreparedFile} {file : PreparedFile}
    {entryIndex prefixLen : ℕ} {path : Path} {slots : List DirectorySyncSlot}
    (hfile : files[entryIndex]? = some file)
    (hpath : pathPrefix file.finalPath prefixLen = .ok path) (hindex : entryIndex < 2 ^ 32)
    (hinitial : prefixLen < 2 ^ 32) (hcapacity : slots.length < capacity)
    (h : ∀ slot ∈ slots, SyncedSlot files slot) :
    ∃ slots', addDirectorySync capacity files entryIndex prefixLen slots = .ok slots' ∧
      (∀ slot ∈ slots', SyncedSlot files slot) ∧ slots'.length ≤ slots.length + 1 := by
  obtain ⟨found, hfound⟩ := exists_isSynced h path
  simp only [addDirectorySync, hfile]
  cases found with
  | true =>
      refine ⟨slots, bind_eq_ok.mpr ⟨path, hpath, bind_eq_ok.mpr ⟨true, hfound, rfl⟩⟩, h, ?_⟩
      omega
  | false =>
      refine ⟨slots ++ [⟨entryIndex, prefixLen⟩],
        bind_eq_ok.mpr ⟨path, hpath, bind_eq_ok.mpr ⟨false, hfound, ?_⟩⟩, ?_, by simp⟩
      · rw [if_neg (by simp), if_neg (by omega), Nat.mod_eq_of_lt hindex, Nat.mod_eq_of_lt hinitial]
      · intro slot hslot
        rcases List.mem_append.1 hslot with hslot | hslot
        · exact h slot hslot
        · rw [List.mem_singleton.1 hslot]
          exact ⟨file, path, hfile, hpath⟩

/-! ### One file after the other -/

/-- A publication that has recorded at most `count` directories. -/
structure Recording (start : TransactionManifest) (files : List PreparedFile) (slots count : ℕ)
    (state : ArenaManifest × List DirectorySyncSlot) : Prop where
  sound : ∃ directories, Sound state.1 { start with directories := directories }
  length : state.1.directorySlots.length = slots
  count_le : state.1.directoryCount ≤ count
  synced : ∀ slot ∈ state.2, SyncedSlot files slot
  sync_le : state.2.length ≤ count + 1

theorem Recording.mono {start : TransactionManifest} {files : List PreparedFile}
    {slots count count' : ℕ} {state : ArenaManifest × List DirectorySyncSlot}
    (h : Recording start files slots count state) (hle : count ≤ count') :
    Recording start files slots count' state :=
  ⟨h.sound, h.length, le_trans h.count_le hle, h.synced, le_trans h.sync_le (by omega)⟩

theorem exists_pushDirectoryIntent {manifest : ArenaManifest} {entryIndex prefixLen : ℕ}
    (hroom : manifest.directoryCount < manifest.directorySlots.length)
    (hindex : entryIndex < 2 ^ 32) (hinitial : prefixLen < 2 ^ 32) :
    ∃ manifest', manifest.pushDirectoryIntent entryIndex prefixLen = .ok manifest' ∧
      manifest'.directorySlots.length = manifest.directorySlots.length ∧
      manifest'.directoryCount = manifest.directoryCount + 1 := by
  unfold ArenaManifest.pushDirectoryIntent
  rw [if_neg (by omega), if_neg (by omega), if_neg (by omega)]
  exact ⟨_, rfl, List.length_set, rfl⟩

section Walk

variable {present : Path → Bool} {start : TransactionManifest} {files : List PreparedFile}
  {slots count index : ℕ} {file : PreparedFile} {names : List String}

theorem Recording.registerParent {name : String} {more : List String} {walk : ParentWalk}
    (h : Recording start files slots count (walk.manifest, walk.syncSlots))
    (hfile : files[index]? = some file) (hindex : index < 2 ^ 32)
    (hsize : file.finalPath.utf8ByteSize < 2 ^ 32) (hnames : ∀ name ∈ names, IsName name)
    (hfinal : file.finalPath = render (names ++ name :: more))
    (hinitial : walk.prefixLen = (render names).utf8ByteSize) (hroom : count + 1 < slots) :
    ∃ walk', registerParent present slots files index file.finalPath walk (.normal name) =
        .ok walk' ∧
      Recording start files slots (count + 1) (walk'.manifest, walk'.syncSlots) ∧
      walk'.prefixLen = (render (names ++ [name])).utf8ByteSize := by
  have hlonger : (render (names ++ [name])).utf8ByteSize < 2 ^ 32 := by
    obtain ⟨rest, hrest⟩ := exists_render_append (names ++ [name]) more
    have hbytes := congrArg byteLength hrest
    rw [byteLength_append, byteLength_toList, byteLength_toList, List.append_assoc,
      List.singleton_append, ← hfinal] at hbytes
    omega
  have hpath : pathPrefix file.finalPath (render (names ++ [name])).utf8ByteSize =
      .ok (ofText (render (names ++ [name]))) := by
    rw [hfinal, ← List.singleton_append, ← List.append_assoc]
    exact pathPrefix_render _ _
  have hnext : nextComponentPrefixLen file.finalPath walk.prefixLen name =
      .ok (render (names ++ [name])).utf8ByteSize := by
    rw [hfinal, hinitial]
    exact nextComponentPrefixLen_render hnames
  have hsync := h.sync_le
  have hcount := h.count_le
  have hlength := h.length
  dsimp only at hsync hcount hlength
  obtain ⟨syncSlots, hadd, hsynced, hsyncLe⟩ := exists_addDirectorySync hfile hpath hindex hlonger
    (by omega : walk.syncSlots.length < slots) h.synced
  obtain ⟨manifest, hintent, hslots, hone⟩ := @exists_pushDirectoryIntent walk.manifest index
    (render (names ++ [name])).utf8ByteSize (by omega) hindex hlonger
  obtain ⟨directories, hsound⟩ := h.sound
  -- the directory is there, recorded before, or a new intent
  by_cases hknown : (walk.directory && present (ofText (render (names ++ [name]))) ||
      walk.manifest.directoryPaths.contains (some (ofText (render (names ++ [name]))))) = true
  · refine ⟨⟨walk.manifest, syncSlots, _, _⟩, bind_eq_ok.mpr ⟨_, hnext, bind_eq_ok.mpr ⟨_, hadd,
      bind_eq_ok.mpr ⟨_, hpath, if_pos hknown⟩⟩⟩, ?_, rfl⟩
    refine ⟨⟨directories, hsound⟩, hlength, ?_, hsynced, ?_⟩
    · dsimp only
      omega
    · dsimp only
      omega
  · refine ⟨⟨manifest, syncSlots, (render (names ++ [name])).utf8ByteSize,
      walk.directory && present (ofText (render (names ++ [name])))⟩, bind_eq_ok.mpr ⟨_, hnext,
        bind_eq_ok.mpr ⟨_, hadd, bind_eq_ok.mpr ⟨_, hpath, ?_⟩⟩⟩, ?_, rfl⟩
    · rw [if_neg hknown]
      exact bind_eq_ok.mpr ⟨manifest, hintent, rfl⟩
    · refine ⟨⟨_, hsound.intent hintent⟩, hslots.trans hlength, ?_, hsynced, ?_⟩
      · dsimp only
        omega
      · dsimp only
        omega

/-- The directories of one file. -/
theorem Recording.registerParents {directories : List String} {name : String} {walk : ParentWalk}
    (h : Recording start files slots count (walk.manifest, walk.syncSlots))
    (hfile : files[index]? = some file) (hindex : index < 2 ^ 32)
    (hsize : file.finalPath.utf8ByteSize < 2 ^ 32)
    (hnames : ∀ name ∈ names ++ directories, IsName name)
    (hfinal : file.finalPath = render (names ++ directories ++ [name]))
    (hinitial : walk.prefixLen = (render names).utf8ByteSize)
    (hroom : count + directories.length < slots) :
    ∃ walk', (directories.map Component.normal).foldlM
        (Export.registerParent present slots files index file.finalPath) walk = .ok walk' ∧
      Recording start files slots (count + directories.length)
        (walk'.manifest, walk'.syncSlots) := by
  induction directories generalizing names count walk with
  | nil => exact ⟨walk, rfl, h⟩
  | cons directory directories ih =>
      have hsplit : names ++ directory :: directories = names ++ [directory] ++ directories := by
        simp
      have hcount : count + (directories.length + 1) = count + 1 + directories.length := by omega
      rw [List.length_cons] at hroom ⊢
      rw [hsplit] at hnames hfinal
      obtain ⟨walk₁, hfirst, hrecording, hprefix₁⟩ := h.registerParent hfile hindex hsize
        (fun other hother => hnames other (by simp [hother]))
        (by rw [hfinal]; simp : file.finalPath =
          render (names ++ directory :: (directories ++ [name]))) hinitial (by omega)
      obtain ⟨walk', hrest, hdone⟩ := ih hrecording hnames hfinal hprefix₁ (by omega)
      rw [hcount]
      refine ⟨walk', ?_, hdone⟩
      rw [List.map_cons, List.foldlM_cons]
      exact bind_eq_ok.mpr ⟨walk₁, hfirst, hrest⟩

theorem Recording.registerIntents {capacity depth : ℕ} {base : List String} {outputRoot : String}
    {state : ArenaManifest × List DirectorySyncSlot}
    (h : Recording start files slots count state) (hroot : outputRoot = render base)
    (hbase : ∀ name ∈ base, IsName name) (hlaid : Laid capacity base file)
    (hfile : files[index]? = some file) (hindex : index < 2 ^ 32)
    (hsize : file.finalPath.utf8ByteSize < 2 ^ 32) (hdepth : capacity ≤ 2 * (depth + 1))
    (hroom : count + depth < slots) :
    ∃ state', registerFileSetParentIntents present slots files outputRoot state (file, index) =
        .ok state' ∧ Recording start files slots (count + depth) state' := by
  obtain ⟨relative, hne, hplain, hfinal⟩ := hlaid.relative
  obtain ⟨directories, name, rfl⟩ := (List.eq_nil_or_concat' relative).resolve_left hne
  have hall : ∀ other ∈ base ++ directories ++ [name], IsName other := by
    intro other hother
    rw [List.append_assoc] at hother
    rcases List.mem_append.1 hother with hother | hother
    · exact hbase other hother
    · exact hplain other hother
  rw [← List.append_assoc] at hfinal
  -- a component takes two bytes, so that the path has at most `depth` directories
  have hdeep : directories.length ≤ depth := by
    have hbytes := byteLength_spell_ge hall
    have hfits := hlaid.final.2
    rw [hfinal, utf8ByteSize_render, if_neg (by simp)] at hfits
    simp only [List.length_append, List.length_singleton] at hbytes
    omega
  have hparent : (ofText file.finalPath).parent = some (absolute (base ++ directories)) := by
    rw [hfinal, ofText_render hall, parent_absolute_append]
  have hstrip : (absolute (base ++ directories)).stripPrefix (ofText outputRoot) =
      some (directories.map Component.normal) := by
    rw [hroot, ofText_render hbase, stripPrefix_absolute (List.prefix_append _ _), List.drop_left]
  have hnames : ∀ other ∈ base ++ directories, IsName other :=
    fun other hother => hall other (List.mem_append_left _ hother)
  obtain ⟨walk, hwalk, hrecording⟩ := @Recording.registerParents present start files slots count
    index file base directories name ⟨state.1, state.2, outputRoot.utf8ByteSize, true⟩ h hfile
    hindex hsize hnames hfinal (by rw [hroot]) (by omega)
  refine ⟨(walk.manifest, walk.syncSlots), ?_, hrecording.mono (by omega)⟩
  simp only [registerFileSetParentIntents, hparent, hstrip]
  exact bind_eq_ok.mpr ⟨walk, hwalk, rfl⟩

/-- The directories of a number of files. -/
theorem Recording.registerAll {capacity depth : ℕ} {base : List String} {outputRoot : String}
    {pairs : List (PreparedFile × ℕ)} {state : ArenaManifest × List DirectorySyncSlot}
    (h : Recording start files slots count state) (hroot : outputRoot = render base)
    (hbase : ∀ name ∈ base, IsName name) (hlaid : ∀ pair ∈ pairs, Laid capacity base pair.1)
    (hpairs : ∀ pair ∈ pairs, files[pair.2]? = some pair.1) (hindex : files.length ≤ 2 ^ 32)
    (hsize : ∀ pair ∈ pairs, pair.1.finalPath.utf8ByteSize < 2 ^ 32)
    (hdepth : capacity ≤ 2 * (depth + 1)) (hroom : count + pairs.length * depth < slots) :
    ∃ state', pairs.foldlM (registerFileSetParentIntents present slots files outputRoot) state =
        .ok state' ∧ Recording start files slots (count + pairs.length * depth) state' := by
  induction pairs generalizing count state with
  | nil =>
      rw [List.length_nil, Nat.zero_mul, Nat.add_zero]
      exact ⟨state, rfl, h⟩
  | cons pair pairs ih =>
      have hfile := hpairs pair List.mem_cons_self
      have hlt := (List.getElem?_eq_some_iff.1 hfile).1
      have hsum : count + (pairs.length + 1) * depth = count + depth + pairs.length * depth := by
        rw [Nat.succ_mul]
        omega
      rw [List.length_cons, hsum] at hroom ⊢
      obtain ⟨state₁, hfirst, hrecording⟩ := h.registerIntents hroot hbase
        (hlaid pair List.mem_cons_self) hfile (by omega) (hsize pair List.mem_cons_self) hdepth
        (by omega)
      obtain ⟨state', hrest, hdone⟩ := ih hrecording
        (fun other hother => hlaid other (List.mem_cons_of_mem _ hother))
        (fun other hother => hpairs other (List.mem_cons_of_mem _ hother))
        (fun other hother => hsize other (List.mem_cons_of_mem _ hother)) hroom
      refine ⟨state', ?_, hdone⟩
      rw [List.foldlM_cons]
      exact bind_eq_ok.mpr ⟨state₁, hfirst, hrest⟩

end Walk

/-- The directories of all files can be recorded, as there are slots for half
as many components as a path has bytes, for every file. -/
theorem exists_registerDirectories {present : Path → Bool} {capacity slots : ℕ}
    {files : List PreparedFile} {base : List String} {outputRoot : String}
    {kept : ArenaManifest} {start : TransactionManifest} (hsound : Sound kept start)
    (hlength : kept.directorySlots.length = slots) (hcount : kept.directoryCount = 0)
    (hroot : outputRoot = render base) (hbase : ∀ name ∈ base, IsName name)
    (hlaid : ∀ file ∈ files, Laid capacity base file) (hne : files ≠ [])
    (hindex : files.length ≤ 2 ^ 32)
    (hsize : ∀ file ∈ files, file.finalPath.utf8ByteSize < 2 ^ 32)
    (hslots : files.length * divCeil capacity 2 ≤ slots) :
    ∃ kept' syncSlots, registerDirectories present slots files outputRoot kept =
        .ok (kept', syncSlots) ∧
      kept'.directorySlots.length = slots ∧
      ∃ directories, Sound kept' { start with directories := directories } := by
  obtain ⟨first, rest, rfl⟩ := List.exists_cons_of_ne_nil hne
  obtain ⟨relative, hrelative, hplain, hfinal⟩ := (hlaid first List.mem_cons_self).relative
  have hfirst := hsize first List.mem_cons_self
  have hroom := (hlaid first List.mem_cons_self).final.2
  obtain ⟨tail, htail⟩ := exists_render_append base relative
  have hbytes := congrArg byteLength htail
  rw [byteLength_append, byteLength_toList, byteLength_toList, ← hfinal] at hbytes
  have hpos : 1 ≤ (render base).utf8ByteSize := by
    rw [utf8ByteSize_render]
    split
    · exact Nat.le_refl 1
    · next hcons =>
        have hlong := byteLength_spell_ge hbase
        have hmany := List.length_pos_of_ne_nil hcons
        omega
  -- the root takes one of the slots, the other directories of a file the rest of its share
  obtain ⟨depth, hdepth⟩ : ∃ depth, divCeil capacity 2 = depth + 1 := by
    refine Nat.exists_eq_succ_of_ne_zero ?_
    have hceil := le_divCeil_mul (n := capacity) (by decide : 0 < 2)
    omega
  have hhalf : capacity ≤ 2 * (depth + 1) := by
    have hceil := le_divCeil_mul (n := capacity) (by decide : 0 < 2)
    rw [hdepth] at hceil
    omega
  have hshare : (first :: rest).length * depth < slots := by
    rw [hdepth, Nat.mul_succ] at hslots
    have hmany : 0 < (first :: rest).length := by simp
    omega
  have hpath : pathPrefix first.finalPath outputRoot.utf8ByteSize = .ok (ofText outputRoot) := by
    rw [hfinal, hroot]
    exact pathPrefix_render base relative
  obtain ⟨syncSlots, hadd, hsynced, hsyncLe⟩ := @exists_addDirectorySync slots (first :: rest)
    first 0 outputRoot.utf8ByteSize _ [] rfl hpath (by decide) (by rw [hroot]; omega)
    (by rw [List.length_nil]; omega) (fun slot hslot => nomatch hslot)
  have hrecording : Recording start (first :: rest) slots 0 (kept, syncSlots) :=
    ⟨⟨start.directories, hsound⟩, hlength, hcount.le, hsynced, by simpa using hsyncLe⟩
  have hmem : ∀ pair ∈ (first :: rest).zipIdx, (first :: rest)[pair.2]? = some pair.1 :=
    fun pair hpair => List.mk_mem_zipIdx_iff_getElem?.1 hpair
  obtain ⟨⟨kept', syncSlots'⟩, hall, hdone⟩ := @Recording.registerAll present start (first :: rest)
    slots 0 capacity depth base outputRoot (first :: rest).zipIdx (kept, syncSlots) hrecording hroot
    hbase (fun pair hpair => hlaid pair.1 (List.mem_of_getElem? (hmem pair hpair))) hmem hindex
    (fun pair hpair => hsize pair.1 (List.mem_of_getElem? (hmem pair hpair))) hhalf
    (by rw [List.length_zipIdx, Nat.zero_add]; exact hshare)
  exact ⟨kept', syncSlots', bind_eq_ok.mpr ⟨syncSlots, hadd, hall⟩, hdone.length, hdone.sound⟩

end Lamb.Export
