import Lamb.Recovery.Effects

/-!
What a manifest that passed every check promises: each path it names lies
strictly inside one of the approved roots, with no link on the way.
-/

namespace Lamb.Recovery

open Lamb.Lib

variable {os : Os} {fs : FileSystem} {world : World} {root names : List String} {path : Path}
  {u : Unit}

/-! ### Path checks -/

theorem exists_names {parts : List Component} :
    (∀ part ∈ parts, part ≠ .curDir ∧ part ≠ .parentDir) ↔
      ∃ names : List String, parts = names.map .normal := by
  constructor
  · intro h
    induction parts with
    | nil => exact ⟨[], rfl⟩
    | cons part parts ih =>
        obtain ⟨names, rfl⟩ := ih fun part hin => h part (by simp [hin])
        cases part with
        | curDir => exact absurd rfl (h .curDir (by simp)).1
        | parentDir => exact absurd rfl (h .parentDir (by simp)).2
        | normal name => exact ⟨name :: names, rfl⟩
  · rintro ⟨names, rfl⟩ part hin
    obtain ⟨name, -, rfl⟩ := List.mem_map.1 hin
    simp

theorem validateLexicalPath_eq_ok :
    validateLexicalPath path = .ok u ↔ ∃ names, path = Path.absolute names := by
  obtain ⟨rooted, parts⟩ := path
  rw [validateLexicalPath, ensure_eq_ok, exists_names]
  simp [Path.absolute]

theorem validateContained_eq_ok : validateContained (Path.absolute root) path = .ok u ↔
    ∃ names, path = Path.absolute names ∧ root <+: names ∧ root ≠ names := by
  unfold validateContained
  rw [bind_eq_ok]
  constructor
  · rintro ⟨_, hlexical, hcontained⟩
    obtain ⟨names, rfl⟩ := validateLexicalPath_eq_ok.1 hlexical
    refine ⟨names, rfl, ?_⟩
    split at hcontained
    · cases hcontained
    · rename_i relative hrelative
      have hpre := Path.isPrefix_of_stripPrefix hrelative
      rw [Path.stripPrefix_absolute hpre] at hrelative
      cases hrelative
      refine ⟨hpre, ?_⟩
      rintro rfl
      simp [ensure] at hcontained
  · rintro ⟨names, rfl, hpre, hne⟩
    refine ⟨(), validateLexicalPath_eq_ok.2 ⟨names, rfl⟩, ?_⟩
    rw [Path.stripPrefix_absolute hpre]
    simp only [ensure_eq_ok]
    refine ⟨?_, exists_names.2 ⟨_, rfl⟩⟩
    obtain ⟨rest, rfl⟩ := hpre
    simpa using hne

theorem validateDirectChild_eq_ok : validateDirectChild (Path.absolute root) path = .ok u ↔
    ∃ name, path = Path.absolute (root ++ [name]) ∧
      validateComponent name "manifest filename" = .ok u := by
  unfold validateDirectChild
  rw [bind_eq_ok]
  constructor
  · rintro ⟨_, hcontained, hchild⟩
    obtain ⟨names, rfl, ⟨rest, rfl⟩, -⟩ := validateContained_eq_ok.1 hcontained
    rw [Path.stripPrefix_absolute (List.prefix_append _ _), List.drop_left] at hchild
    match rest with
    | [] => cases hchild
    | [name] => exact ⟨name, rfl, hchild⟩
    | _ :: _ :: _ => cases hchild
  · rintro ⟨name, rfl, hname⟩
    refine ⟨(), validateContained_eq_ok.2 ⟨_, rfl, List.prefix_append _ _, by simp⟩, ?_⟩
    rw [Path.stripPrefix_absolute (List.prefix_append _ _), List.drop_left]
    exact hname

theorem insertUniquePath_eq_ok {paths paths' : List Path} :
    insertUniquePath paths path = .ok paths' ↔ path ∉ paths ∧ paths' = path :: paths := by
  unfold insertUniquePath
  simp only [bind_eq_ok, ensure_eq_ok, Except.ok.injEq]
  constructor
  · rintro ⟨_, hnot, rfl⟩
    exact ⟨hnot, rfl⟩
  · rintro ⟨hnot, rfl⟩
    exact ⟨(), hnot, rfl⟩

/-! ### Links -/

theorem take_isPrefix_iff {names' : List String} :
    names' <+: names ↔ ∃ n ≤ names.length, names' = names.take n := by
  constructor
  · intro h
    exact ⟨names'.length, h.length_le, List.prefix_iff_eq_take.1 h⟩
  · rintro ⟨n, -, rfl⟩
    exact List.take_prefix n names

/-- The check looks at the prefixes in turn, so those before are known to be
no links when the next one is looked up. -/
theorem ends_rejectSymlinks {n count : ℕ} (hcount : n + count = names.length + 1)
    (hbefore : ∀ k < n, ∀ entry, world.fs.lookup (names.take k) = some entry →
      entry.isSymlink = false) :
    Attempt.Ends (rejectSymlinks os ((List.range' n count).map fun k =>
        Path.absolute (names.take k))) world
      (fun _ world' => world'.fs = world.fs ∧ LinkFree world.fs names)
      fun _ world' => world'.fs = world.fs := by
  induction count generalizing n world with
  | zero =>
      refine Attempt.Ends.pure ⟨rfl, ?_⟩
      intro names' hpre
      obtain ⟨k, hk, rfl⟩ := take_isPrefix_iff.1 hpre
      exact hbefore k (by omega)
  | succ count ih =>
      have habove : LinkFreeAbove world.fs (names.take n) := by
        intro names' hpre hne
        obtain ⟨k, hk, rfl⟩ := take_isPrefix_iff.1 (hpre.trans (List.take_prefix n names))
        refine hbefore k ?_
        by_contra hge
        have hle : n ≤ k := not_lt.1 hge
        refine hne (hpre.eq_of_length_le ?_)
        simp
        omega
      rw [List.range'_succ, List.map_cons]
      unfold rejectSymlinks
      refine ends_lookAt ?_ ?_ (fun _ _ => rfl)
      · -- nothing here, so nothing further down either
        intro hmissing
        have hnone := habove.lookup_of_notFound hmissing
        refine Attempt.Ends.pure ⟨rfl, ?_⟩
        intro names' hpre entry hentry
        obtain ⟨k, hk, rfl⟩ := take_isPrefix_iff.1 hpre
        by_cases hlt : k < n
        · exact hbefore k hlt entry hentry
        · have hpre' : names.take n <+: names.take k :=
            List.take_prefix_take_left (not_lt.1 hlt)
          by_cases heq : names.take n = names.take k
          · rw [← heq, hnone] at hentry
            cases hentry
          · obtain ⟨_, hdirectory⟩ := FileTree.isDirectory_of_isPrefix
              (by rw [hentry]; simp) hpre' heq
            rw [hnone] at hdirectory
            cases hdirectory
      · intro entry hstat
        refine .ite (fun _ => Attempt.Ends.fail rfl) fun hnot => ?_
        have hentry := habove.lookup_of_stat hstat
        refine @ih (world.tick world.fs) _ (by omega) ?_
        intro k hk
        rcases Nat.lt_succ_iff_lt_or_eq.1 hk with hlt | rfl
        · exact hbefore k hlt
        · intro entry' hentry'
          rw [World.tick_fs, hentry] at hentry'
          cases hentry'
          simpa using hnot

theorem prefixes_absolute (names : List String) : (Path.absolute names).prefixes =
    (List.range' 0 (names.length + 1)).map fun k => Path.absolute (names.take k) := by
  simp only [Path.prefixes, Path.absolute, List.length_map, if_true, ← List.range_eq_range']
  refine List.map_congr_left ?_
  intro k _
  rw [List.map_take]

theorem ends_rejectSymlinkPath : Attempt.Ends (rejectSymlinkPath os (Path.absolute names)) world
    (fun _ world' => world'.fs = world.fs ∧ LinkFree world.fs names)
    fun _ world' => world'.fs = world.fs := by
  unfold rejectSymlinkPath
  rw [prefixes_absolute]
  exact ends_rejectSymlinks (by omega) fun k hk => absurd hk (Nat.not_lt_zero k)

theorem readOnly_rejectSymlinkPath : ReadOnly (rejectSymlinkPath os path) := by
  unfold rejectSymlinkPath
  induction path.prefixes with
  | nil => exact .pure ()
  | cons path paths ih => exact .lookAt (.pure ()) fun _ => .ite (.fail _) ih

/-! ### Entries and directories -/

/-- A path strictly inside a root, reached without a link. -/
def Inside (fs : FileSystem) (root : List String) (path : Path) : Prop :=
  ∃ names, path = Path.absolute names ∧ root <+: names ∧ root ≠ names ∧ LinkFree fs names

structure ManifestEntrySlot.Approved (fs : FileSystem) (staging output : List String)
    (entry : ManifestEntrySlot) : Prop where
  staged : Inside fs staging entry.staged.1
  finalOf : Inside fs output entry.finalOf.1
  partialOf : ∀ path identity, entry.partialOf = some (path, identity) → Inside fs output path

structure Approved (fs : FileSystem) (expected : Strategy) (staging output : List String)
    (manifestPath : Path) (manifest : TransactionManifest) : Prop where
  stagingRoot : manifest.stagingRoot = Path.absolute staging
  stagingFree : LinkFree fs staging
  stagingIdentity : manifest.stagingRootIdentity ≠ none
  kind : manifest.renamesDirectory = decide (expected = .atomicDirectory)
  manifestName : manifestPath.fileName ≠ none
  manifestInside : expected = .fileSet →
    manifestPath = Path.absolute (staging ++ [recallManifestName])
  manifestFree : expected = .fileSet → LinkFree fs (staging ++ [recallManifestName])
  stagingInside : expected = .atomicDirectory → output <+: staging ∧ output ≠ staging
  entries : ∀ entry ∈ manifest.entries, entry.Approved fs staging output
  directories : ∀ slot ∈ manifest.directories, ∃ path,
    manifest.directoryPath slot = .ok path ∧ Inside fs output path
  phase : validatePhaseState manifest = .ok ()
  unique : manifest.ownedIdentities.Nodup

theorem Strategy.Admits.renamesDirectory {expected : Strategy} {manifest : TransactionManifest}
    (h : expected.Admits manifest.version manifest.kind) :
    manifest.renamesDirectory = decide (expected = .atomicDirectory) := by
  unfold TransactionManifest.renamesDirectory
  cases expected with
  | fileSet =>
      rcases h with ⟨-, hkind⟩ | ⟨-, hkind⟩
      · simp [hkind]
      · simp [hkind]
  | atomicDirectory =>
      rcases h with ⟨-, hkind⟩ | ⟨-, hkind⟩
      · simp [hkind]
      · simp [hkind]

theorem validateHeader_ok {manifest : TransactionManifest} {expected : Strategy}
    {stagingRoot outputRoot manifestPath : Path}
    (h : validateHeader os manifest expected stagingRoot outputRoot manifestPath = .ok u) :
    expected.Admits manifest.version manifest.kind ∧
      (∃ staging, stagingRoot = Path.absolute staging) ∧
      (∃ output, outputRoot = Path.absolute output) ∧
      manifest.stagingRoot = stagingRoot ∧
      manifest.stagingRootIdentity ≠ none ∧
      validateManifestPath manifest expected stagingRoot manifestPath = .ok u := by
  simp only [validateHeader, bind_eq_ok, ensure_eq_ok] at h
  obtain ⟨_, -, _, hadmits, _, hstaging, _, houtput, _, ⟨hroot, -⟩, _, hidentity, _, -, _, -, hpath⟩ := h
  refine ⟨hadmits, validateLexicalPath_eq_ok.1 hstaging, validateLexicalPath_eq_ok.1 houtput, hroot,
    ?_, hpath⟩
  exact Option.isSome_iff_ne_none.1 hidentity

/-- A partial file beside its final one is inside the same root. -/
theorem inside_of_adjacent {output final : List String} {partialPath : Path}
    (hfinal : output <+: final) (hne : output ≠ final)
    (hadjacent : validateAdjacent (Path.absolute final) partialPath = .ok u)
    (hhidden : validateHidden partialPath = .ok u) :
    ∃ name, partialPath = Path.absolute (final.dropLast ++ [name]) ∧
      output <+: final.dropLast := by
  have hnil : final ≠ [] := by
    rintro rfl
    exact hne (List.prefix_nil.1 hfinal)
  have hconcat := List.dropLast_append_getLast hnil
  have hparent : (Path.absolute final).parent = some (Path.absolute final.dropLast) := by
    conv_lhs => rw [← hconcat]
    exact Path.parent_absolute_append _ _
  have houtput : output <+: final.dropLast := by
    rw [← hconcat] at hfinal
    rcases List.prefix_concat_iff.1 hfinal with heq | hpre
    · exact absurd (heq.trans hconcat) hne
    · exact hpre
  unfold validateAdjacent at hadjacent
  rw [hparent] at hadjacent
  have hsibling := ensure_eq_ok.1 hadjacent
  unfold validateHidden at hhidden
  obtain ⟨rooted, parts⟩ := partialPath
  simp only [Path.parent] at hsibling
  split at hsibling
  · cases hsibling
  · simp only [Path.absolute, Option.some.injEq, Lib.Path.mk.injEq] at hsibling
    obtain ⟨rfl, hparts⟩ := hsibling
    split at hhidden
    · cases hhidden
    · rename_i name hname
      simp only [Path.fileName] at hname
      split at hname
      · rename_i name' hlast
        refine ⟨name', ?_, houtput⟩
        simp only [Path.absolute, List.map_append, List.map_cons, List.map_nil, ← hparts,
          Lib.Path.mk.injEq, true_and]
        exact (List.dropLast_append_getLast? _ hlast).symm
      · cases hname

/-- What passes the checks of one entry, links apart. -/
theorem validateEntry_ok {manifest : TransactionManifest} {expected : Strategy}
    {staging output : List String} {paths paths' : List Path} {entry : ManifestEntrySlot}
    (h : validateEntry manifest expected (Path.absolute staging) (Path.absolute output) paths
      entry = .ok paths') :
    (∃ names, entry.staged.1 = Path.absolute names ∧ staging <+: names ∧ staging ≠ names) ∧
      (∃ names, entry.finalOf.1 = Path.absolute names ∧ output <+: names ∧ output ≠ names) ∧
      ∀ path identity, entry.partialOf = some (path, identity) →
        ∃ names, path = Path.absolute names ∧ output <+: names ∧ output ≠ names := by
  simp only [validateEntry, bind_eq_ok] at h
  obtain ⟨_, hstaged, _, hfinal, _, -, paths'', hstrategy, -⟩ := h
  refine ⟨validateContained_eq_ok.1 hstaged, validateContained_eq_ok.1 hfinal, ?_⟩
  intro path identity hpiece
  obtain ⟨final, hfinalPath, hpre, hne⟩ := validateContained_eq_ok.1 hfinal
  unfold validateStrategy at hstrategy
  cases expected with
  | atomicDirectory =>
      simp only [bind_eq_ok, ensure_eq_ok] at hstrategy
      obtain ⟨_, hnone, -⟩ := hstrategy
      rw [hpiece] at hnone
      cases hnone
  | fileSet =>
      simp only [hpiece, bind_eq_ok] at hstrategy
      obtain ⟨_, hadjacent, _, hhidden, -⟩ := hstrategy
      rw [hfinalPath] at hadjacent
      obtain ⟨name, rfl, houtput⟩ := inside_of_adjacent hpre hne hadjacent hhidden
      refine ⟨_, rfl, houtput.trans (List.prefix_append _ _), ?_⟩
      rintro rfl
      have hlength := houtput.length_le
      simp only [List.length_append, List.length_dropLast, List.length_cons, List.length_nil] at hlength
      omega

theorem validateDirectory_ok {manifest : TransactionManifest} {output : List String}
    {previous : List Path} {slot : ManifestDirectorySlot}
    (h : validateDirectory manifest (Path.absolute output) previous slot = .ok path) :
    manifest.directoryPath slot = .ok path ∧ ∃ entry ∈ manifest.entries, ∃ names,
      path = Path.absolute names ∧ output <+: names ∧ output ≠ names ∧
        validateContained path entry.finalOf.1 = .ok () := by
  simp only [validateDirectory, bind_eq_ok] at h
  obtain ⟨path', hpath, h⟩ := h
  split at h
  · cases h
  · rename_i entry hentry
    simp only [bind_eq_ok, ensure_eq_ok, Except.ok.injEq] at h
    obtain ⟨_, hcontained, _, hfinal, _, -, _, -, _, -, _, -, rfl⟩ := h
    obtain ⟨names, rfl, hpre, hne⟩ := validateContained_eq_ok.1 hcontained
    exact ⟨hpath, entry, List.mem_of_getElem? hentry, names, rfl, hpre, hne, hfinal⟩

theorem validateDirectorySlots_ok {manifest : TransactionManifest} {output : List String}
    {slots : List ManifestDirectorySlot} {previous : List Path}
    (h : validateDirectorySlots manifest (Path.absolute output) slots previous = .ok u) :
    ∀ slot ∈ slots, ∃ previous path,
      validateDirectory manifest (Path.absolute output) previous slot = .ok path := by
  induction slots generalizing previous with
  | nil => simp
  | cons slot slots ih =>
      simp only [validateDirectorySlots, bind_eq_ok] at h
      obtain ⟨path, hpath, hrest⟩ := h
      intro slot' hin
      rcases List.mem_cons.1 hin with rfl | hin
      · exact ⟨previous, path, hpath⟩
      · exact ih hrest slot' hin

theorem readOnly_rejectPartialSymlink {entry : ManifestEntrySlot} :
    ReadOnly (rejectPartialSymlink os entry) := by
  unfold rejectPartialSymlink
  split
  · exact readOnly_rejectSymlinkPath
  · exact .pure ()

/-- The loop over the entries: each is checked, its links included. -/
theorem ends_validateEntries {manifest : TransactionManifest} {expected : Strategy}
    {staging output : List String} {entries : List ManifestEntrySlot} {paths : List Path} :
    Attempt.Ends (validateEntries os manifest expected (Path.absolute staging)
        (Path.absolute output) entries paths) world
      (fun _ world' => world'.fs = world.fs ∧
        ∀ entry ∈ entries, entry.Approved world.fs staging output)
      fun _ world' => world'.fs = world.fs := by
  induction entries generalizing paths world with
  | nil => exact Attempt.Ends.pure ⟨rfl, by simp⟩
  | cons entry entries ih =>
      refine .bindOfExcept (fun _ _ => rfl) ?_
      intro paths' hentry
      obtain ⟨⟨staged, hstaged, hstagedPre, hstagedNe⟩, ⟨final, hfinal, hfinalPre, hfinalNe⟩,
        hpiece⟩ := validateEntry_ok hentry
      rw [hstaged, hfinal]
      refine .bind ends_rejectSymlinkPath ?_
      rintro _ world' ⟨hfs, hstagedFree⟩
      rw [← hfs] at hstagedFree ⊢
      refine .bind (Q := fun _ world'' => world''.fs = world'.fs ∧
        ∀ path identity, entry.partialOf = some (path, identity) →
          Inside world'.fs output path) ?_ ?_
      · unfold rejectPartialSymlink
        cases hsome : entry.partialOf with
        | none => exact Attempt.Ends.pure ⟨rfl, by simp⟩
        | some slot =>
            obtain ⟨path, identity⟩ := slot
            obtain ⟨names, rfl, hpre, hne⟩ := hpiece path identity hsome
            refine Attempt.Ends.mono ends_rejectSymlinkPath ?_ fun _ _ h => h
            rintro _ world'' ⟨hfs', hfree⟩
            refine ⟨hfs', ?_⟩
            rintro path' identity' ⟨⟩
            exact ⟨names, rfl, hpre, hne, hfree⟩
      · rintro _ world'' ⟨hfs', hpieceFree⟩
        rw [← hfs'] at hstagedFree hpieceFree ⊢
        refine .bind ends_rejectSymlinkPath ?_
        rintro _ world₃ ⟨hfs'', hfinalFree⟩
        rw [← hfs''] at hstagedFree hpieceFree hfinalFree ⊢
        refine Attempt.Ends.mono ih ?_ fun _ _ h => h
        rintro _ world₄ ⟨hfs₄, hrest⟩
        refine ⟨hfs₄, ?_⟩
        intro entry' hin
        rcases List.mem_cons.1 hin with rfl | hin
        · exact
            { staged := ⟨staged, hstaged, hstagedPre, hstagedNe, hstagedFree⟩
              finalOf := ⟨final, hfinal, hfinalPre, hfinalNe, hfinalFree⟩
              partialOf := hpieceFree }
        · exact hrest entry' hin

/-! ### The whole check -/

theorem validateDirectories_ok {manifest : TransactionManifest} {expected : Strategy}
    {staging output : List String}
    (h : validateDirectories manifest expected (Path.absolute output) = .ok u)
    (hentries : ∀ entry ∈ manifest.entries, entry.Approved fs staging output) :
    ∀ slot ∈ manifest.directories, ∃ path,
      manifest.directoryPath slot = .ok path ∧ Inside fs output path := by
  unfold validateDirectories at h
  cases expected with
  | atomicDirectory =>
      rw [ensure_eq_ok] at h
      rw [h]
      simp
  | fileSet =>
      intro slot hslot
      obtain ⟨previous, path, hpath⟩ := validateDirectorySlots_ok h slot hslot
      obtain ⟨hdirectory, entry, hentry, names, rfl, hpre, hne, hcontained⟩ :=
        validateDirectory_ok hpath
      obtain ⟨final, hfinal, -, -, hfree⟩ := (hentries entry hentry).finalOf
      obtain ⟨final', hfinal', hbelow, -⟩ := validateContained_eq_ok.1 hcontained
      obtain rfl := Path.absolute_injective (hfinal.symm.trans hfinal')
      exact ⟨_, hdirectory, names, rfl, hpre, hne, hfree.of_isPrefix hbelow⟩

theorem validateManifestPath_ok {manifest : TransactionManifest} {expected : Strategy}
    {staging : List String} {manifestPath : Path}
    (h : validateManifestPath manifest expected (Path.absolute staging) manifestPath = .ok u) :
    manifestPath.fileName ≠ none ∧
      (expected = .fileSet → manifestPath = Path.absolute (staging ++ [recallManifestName])) := by
  unfold validateManifestPath at h
  cases expected with
  | fileSet =>
      rw [ensure_eq_ok, ← Path.absolute_append] at h
      rw [h, Path.fileName_absolute_append]
      exact ⟨by simp, fun _ => rfl⟩
  | atomicDirectory =>
      rw [ensure_eq_ok] at h
      rw [h]
      exact ⟨by simp, by simp⟩

theorem validateFinalDirectory_ok {manifest : TransactionManifest} {expected : Strategy}
    {staging output : List String} {manifestPath : Path} {paths : List Path}
    (hroot : manifest.stagingRoot = Path.absolute staging)
    (h : validateFinalDirectory manifest expected (Path.absolute output) manifestPath =
      .ok paths) (hexpected : expected = .atomicDirectory) :
    output <+: staging ∧ output ≠ staging := by
  subst hexpected
  simp only [validateFinalDirectory, bind_eq_ok] at h
  obtain ⟨_, -, _, -, h⟩ := h
  cases hfinal : manifest.finalDirectory with
  | none =>
      rw [hfinal] at h
      cases h
  | some directory =>
      rw [hfinal] at h
      simp only [bind_eq_ok] at h
      obtain ⟨_, hchild, -⟩ := h
      obtain ⟨name, hname, -⟩ := validateDirectChild_eq_ok.1 hchild
      obtain rfl := Path.absolute_injective (hroot.symm.trans hname)
      exact ⟨List.prefix_append _ _, by simp⟩

/-- What the check looks at stays as it is, and a manifest that passes is
approved. -/
theorem ends_validateManifest {manifest : TransactionManifest} {expected : Strategy}
    {stagingRoot outputRoot manifestPath : Path} :
    Attempt.Ends (validateManifest os manifest expected stagingRoot outputRoot manifestPath) world
      (fun _ world' => world'.fs = world.fs ∧ ∃ staging output,
        stagingRoot = Path.absolute staging ∧ outputRoot = Path.absolute output ∧
          Approved world.fs expected staging output manifestPath manifest)
      fun _ world' => world'.fs = world.fs := by
  refine .bindOfExcept (fun _ _ => rfl) ?_
  intro _ hheader
  obtain ⟨hadmits, ⟨staging, rfl⟩, ⟨output, rfl⟩, hroot, hidentity, hpath⟩ :=
    validateHeader_ok hheader
  obtain ⟨hname, hmanifest⟩ := validateManifestPath_ok hpath
  refine .bind ends_rejectSymlinkPath ?_
  rintro _ world₁ ⟨hfs₁, hstaging⟩
  rw [← hfs₁] at hstaging ⊢
  refine .bind ends_rejectSymlinkPath ?_
  rintro _ world₂ ⟨hfs₂, -⟩
  rw [← hfs₂] at hstaging ⊢
  refine .bind (Q := fun _ world' => world'.fs = world₂.fs ∧ (expected = .fileSet →
    LinkFree world₂.fs (staging ++ [recallManifestName]))) ?_ ?_
  · by_cases hexpected : expected = .fileSet
    · rw [hmanifest hexpected]
      exact Attempt.Ends.mono ends_rejectSymlinkPath (fun _ _ h => ⟨h.1, fun _ => h.2⟩)
        fun _ _ h => h
    · exact readOnly_rejectSymlinkPath.ends
        (fun _ _ _ hfs => ⟨hfs, fun heq => absurd heq hexpected⟩) fun _ _ hfs => hfs
  rintro _ world₃ ⟨hfs₃, hfree⟩
  rw [← hfs₃] at hstaging hfree ⊢
  refine .bindOfExcept (fun _ _ => rfl) ?_
  intro paths hpaths
  refine .bindOfExcept (fun _ _ => rfl) ?_
  intro _ hdirectories
  refine .bind ends_validateEntries ?_
  rintro _ world₄ ⟨hfs₄, hentries⟩
  rw [← hfs₄] at hstaging hfree hentries ⊢
  refine .bindOfExcept (fun _ _ => rfl) ?_
  intro _ hphase
  refine .ofExcept ?_ fun _ _ => rfl
  intro _ hunique
  refine ⟨rfl, staging, output, rfl, rfl, ?_⟩
  exact
    { stagingRoot := hroot
      stagingFree := hstaging
      stagingIdentity := hidentity
      kind := hadmits.renamesDirectory
      manifestName := hname
      manifestInside := hmanifest
      manifestFree := hfree
      stagingInside := validateFinalDirectory_ok hroot hpaths
      entries := hentries
      directories := validateDirectories_ok hdirectories hentries
      phase := hphase
      unique := ensure_eq_ok.1 hunique }

/-! ### The manifest that is read -/

/-- The file at a path holds the manifest and has the identity. -/
def ManifestAt (os : Os) (fs : FileSystem) (path : Path) (manifest : TransactionManifest)
    (identity : FileIdentity) : Prop :=
  stat os fs path = .ok (.file identity (.manifest manifest))

theorem readOnly_readManifestIdentity : ReadOnly (readManifestIdentity os path) := by
  refine .bind .query ?_
  rintro (kind | entry)
  · exact .pure _
  · exact .ite (.pure _) (.pure _)

theorem ends_openNoFollow {Q : Except IoErrorKind Entry → World → Prop}
    {E : LambError → World → Prop}
    (hok : ∀ entry, stat os world.fs path = .ok entry → Q (.ok entry) (world.tick world.fs))
    (herror : ∀ kind, Q (.error kind) (world.tick world.fs)) :
    Attempt.Ends (openNoFollow os path) world Q E := by
  refine ends_query (fun _ => herror _) ?_
  split
  · exact herror _
  · cases hstat : stat os world.fs path with
    | error kind => exact herror kind
    | ok entry => exact hok entry hstat

theorem ends_onOpenFile {Q : Unit → World → Prop} {E : LambError → World → Prop}
    (hok : Q () (world.tick world.fs)) (herror : ∀ kind, E (.io kind) (world.tick world.fs)) :
    Attempt.Ends (orFail (onOpenFile os)) world Q E :=
  ends_orFail (ends_query (fun _ => herror _) hok)

theorem ends_readWithIdentityDirectories :
    Attempt.Ends (readWithIdentityDirectories os path) world
      (fun result world' => world'.fs = world.fs ∧
        ManifestAt os world.fs path result.1 result.2)
      fun _ world' => world'.fs = world.fs := by
  refine .bind (Q := fun content world' => world'.fs = world.fs ∧
    ∃ identity, stat os world.fs path = .ok (.file identity content)) ?_ ?_
  · refine .bind (Q := fun entry world' => world'.fs = world.fs ∧
      stat os world.fs path = .ok entry) ?_ ?_
    · exact ends_orFail (ends_openNoFollow (fun entry hstat => ⟨rfl, hstat⟩) fun _ => rfl)
    · rintro entry world₁ ⟨hfs₁, hstat⟩
      refine .bind (Q := fun _ world' => world'.fs = world.fs)
        (ends_onOpenFile hfs₁ fun _ => hfs₁) ?_
      intro _ world₂ hfs₂
      cases entry with
      | directory identity => exact Attempt.Ends.fail hfs₂
      | symlink identity target => exact Attempt.Ends.fail hfs₂
      | file identity content =>
          refine .bind (Q := fun _ world' => world'.fs = world.fs)
            (ends_onOpenFile hfs₂ fun _ => hfs₂) ?_
          exact fun _ world₃ hfs₃ => Attempt.Ends.pure ⟨hfs₃, identity, hstat⟩
  · rintro content world₁ ⟨hfs₁, identity, hstat⟩
    refine .bind (Q := fun result world' => world'.fs = world.fs ∧
      ∀ identity', result = .ok identity' → identity' = identity) ?_ ?_
    · refine .bind (Q := fun result world' => world'.fs = world.fs ∧
        ∀ entry, result = .ok entry → entry.identity = identity) ?_ ?_
      · refine ends_query ?_ ?_
        · exact fun _ => ⟨hfs₁, fun _ hok => by cases hok⟩
        · refine ⟨hfs₁, ?_⟩
          rw [hfs₁, hstat]
          rintro _ ⟨⟩
          rfl
      · rintro (kind | entry) world₂ ⟨hfs₂, hentry⟩
        · exact Attempt.Ends.pure ⟨hfs₂, fun _ hok => by cases hok⟩
        · refine .ite ?_ ?_
          · exact fun _ => Attempt.Ends.pure ⟨hfs₂, fun _ hok => by cases hok⟩
          · intro _
            refine Attempt.Ends.pure ⟨hfs₂, ?_⟩
            rintro _ ⟨⟩
            exact hentry entry rfl
    · rintro (kind | identity') world₂ ⟨hfs₂, hidentity⟩
      · exact Attempt.Ends.fail hfs₂
      · obtain rfl := hidentity identity' rfl
        cases content with
        | data bytes => exact Attempt.Ends.fail hfs₂
        | manifest manifest => exact Attempt.Ends.pure ⟨hfs₂, hstat⟩

theorem ends_readValidated {expected : Strategy} {stagingRoot : TransactionManifest → Path}
    {outputRoot manifestPath : Path} :
    Attempt.Ends (readValidated os expected stagingRoot outputRoot manifestPath) world
      (fun result world' => world'.fs = world.fs ∧
        ManifestAt os world.fs manifestPath result.1 result.2 ∧ ∃ staging output,
          stagingRoot result.1 = Path.absolute staging ∧ outputRoot = Path.absolute output ∧
            Approved world.fs expected staging output manifestPath result.1)
      fun _ world' => world'.fs = world.fs := by
  refine .bind ends_readWithIdentityDirectories ?_
  rintro ⟨manifest, identity⟩ world₁ ⟨hfs₁, hmanifest⟩
  rw [← hfs₁] at hmanifest ⊢
  refine .bind ends_validateManifest ?_
  rintro _ world₂ ⟨hfs₂, happroved⟩
  exact Attempt.Ends.pure ⟨hfs₂, hmanifest, happroved⟩

end Lamb.Recovery
