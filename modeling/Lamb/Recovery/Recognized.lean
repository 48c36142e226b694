import Lamb.Export.Preview
import Lamb.Recovery.Effects
import Lamb.Recovery.Store

/-!
When a manifest that was just written is recognized. After a successful write
the file under the manifest's name holds the manifest. The short check then
reads its own three texts back, unless one of them was escaped: an escaped
string cannot be borrowed from the file, and the manifest is malformed.
-/

namespace Lamb.Recovery

open Lamb.Lib

variable {os : Os} {capacity : ℕ} {parent : Location} {manifestName tempName : String}
  {display manifestPath : Path} {manifest : TransactionManifest} {world world' : World}
  {current : Option FileIdentity} {tempIdentity : FileIdentity} {β : Type}

/-! ### After a write -/

/-- The file under a name of the directory. -/
def HoldsAt (fs : FileSystem) (parent : Location) (name : String) (identity : FileIdentity)
    (content : Content) : Prop :=
  fs.lookup (parent ++ [name]) = some (.file identity content)

theorem ReadOnly.openRegularAt (name : String) : ReadOnly (openRegularAt os parent name) := by
  refine .bind .query ?_
  intro result
  cases result with
  | error kind => exact .pure _
  | ok entry =>
      refine .bind .query ?_
      intro metadata
      cases metadata with
      | error kind => exact .pure _
      | ok _ => exact .ite (.pure _) (.pure _)

theorem ReadOnly.identityAt (name : String) : ReadOnly (identityAt os parent name) :=
  .bind (.orFail (.openRegularAt name)) fun _ => .bind (.orFail .query) fun _ => .pure _

/-- A step that only reads may be passed over. -/
theorem Ends.bindReadOnly {γ : Type} {f : Io β} {g : β → Io γ} {Q : γ → World → Prop}
    {E : LambError → World → Prop} (hf : ReadOnly f) (hfail : ∀ e world', E e world')
    (hg : ∀ b world', world'.fs = world.fs → Attempt.Ends (g b) world' Q E) :
    Attempt.Ends (f >>= g) world Q E := by
  refine .bind (Q := fun _ world' => world'.fs = world.fs) ?_ hg
  exact (Attempt.Ends.of_reached (hf world)).mono (fun _ _ h => h) fun e world' _ => hfail e world'

theorem ends_identityAt (name : String) :
    Attempt.Ends (identityAt os parent name) world
      (fun identity world' => world'.fs = world.fs ∧
        ∃ content, HoldsAt world.fs parent name identity content) fun _ _ => True := by
  refine .bind (Q := fun entry world' => world'.fs = world.fs ∧
    ∃ content, HoldsAt world.fs parent name entry.identity content) ?_ ?_
  · refine ends_orFail (.bind (Q := fun result world' => world'.fs = world.fs ∧
      ∀ entry, result = .ok entry → world.fs.lookup (parent ++ [name]) = some entry) ?_ ?_)
    · refine ends_query (fun _ => ⟨rfl, by simp⟩) ⟨rfl, ?_⟩
      intro entry hentry
      split at hentry
      · cases hentry
      · next found _ hfound =>
          cases hentry
          exact hfound
      · cases hentry
    · rintro (kind | entry) world₁ ⟨hfs, hfound⟩
      · exact trivial
      · refine Ends.bindReadOnly .query (fun _ _ => trivial) ?_
        rintro (kind | _) world₂ hfs'
        · exact trivial
        · refine .ite ?_ fun _ => trivial
          intro hfile
          refine ⟨hfs'.trans hfs, ?_⟩
          cases entry with
          | file identity content => exact ⟨content, hfound _ rfl⟩
          | directory identity => cases hfile
          | symlink identity target => cases hfile
  · rintro entry world₁ ⟨hfs, hfound⟩
    refine Ends.bindReadOnly (.orFail .query) (fun _ _ => trivial) ?_
    intro _ world₂ hfs'
    exact ⟨hfs'.trans hfs, hfound⟩

theorem ends_serializeBounded :
    Attempt.Ends (Attempt.ofExcept (serializeBounded capacity manifest) : Io ℕ) world
      (fun _ _ => manifest.serialize.byteLength ≤ capacity) fun _ _ => True := by
  refine Attempt.Ends.ofExcept ?_ fun _ _ => trivial
  intro length hlength
  unfold serializeBounded at hlength
  split at hlength
  · cases hlength
  · omega

/-- A manifest that is replaced stands under another name than the temporary
file, as that one is new. -/
theorem ends_createTemp :
    Attempt.Ends (createTemp os capacity parent manifestName tempName display manifest current)
      world
      (fun identity world' => manifest.serialize.byteLength ≤ capacity ∧
        HoldsAt world'.fs parent tempName identity (.data []) ∧
          (current.isSome → tempName ≠ manifestName)) fun _ _ => True := by
  refine .bindOfExcept (fun _ _ => trivial) fun _ _ => ?_
  refine .bindRequire (fun _ => trivial) fun _ => ?_
  refine Attempt.Ends.bind ends_serializeBounded ?_
  intro _ world₀ hfits
  refine .bind (Q := fun _ world' => current.isSome →
    world'.fs.lookup (parent ++ [manifestName]) ≠ none) ?_ ?_
  · cases current with
    | none =>
        refine Ends.bindReadOnly (.openRegularAt manifestName) (fun _ _ => trivial) ?_
        rintro (kind | entry) world₁ -
        · cases kind with
          | notFound => exact fun h => nomatch h
          | alreadyExists => exact trivial
          | invalidData => exact trivial
          | other => exact trivial
        · exact trivial
    | some expected =>
        refine .bind (ends_identityAt manifestName) ?_
        rintro identity world₁ ⟨hfs, content, hfound⟩
        refine .ite (fun _ => ?_) fun _ => trivial
        intro _
        rw [hfs, hfound]
        simp
  · intro _ world₁ hthere
    refine .bind (Q := fun identity world' =>
      HoldsAt world'.fs parent tempName identity (.data []) ∧
        (current.isSome → tempName ≠ manifestName)) ?_ ?_
    · unfold createNewAt createAt
      refine ends_orFail (ends_call (fun _ => trivial) ?_ fun _ _ => trivial)
      intro identity fs hcreate
      dsimp only at hcreate
      split at hcreate
      · next hfree =>
          cases hcreate
          refine ⟨?_, fun hsome heq => hthere hsome (heq ▸ hfree.2)⟩
          simp [HoldsAt]
      · split at hcreate
        · cases hcreate
        · cases hcreate
    · rintro identity world₂ ⟨hholds, hne⟩
      refine Ends.bindReadOnly (.orFail .query) (fun _ _ => trivial) ?_
      intro _ world₃ hfs
      exact ⟨hfits, by rwa [HoldsAt, hfs], hne⟩

theorem ends_unlinkIfIdentityAt {name other : String} {expected identity : FileIdentity}
    {content : Content} (h : HoldsAt world.fs parent other identity content)
    (hne : name ≠ other) :
    Attempt.Ends (unlinkIfIdentityAt os parent name expected) world
      (fun _ world' => HoldsAt world'.fs parent other identity content) fun _ _ => True := by
  refine Ends.bindReadOnly (.identityAt name) (fun _ _ => trivial) ?_
  intro found world₁ hfs
  refine .bindRequire (fun _ => trivial) fun _ => ?_
  refine ends_orFail (ends_call (fun _ => trivial) ?_ fun _ _ => trivial)
  intro _ fs hunlink
  unfold unlinkEntry at hunlink
  split at hunlink
  · cases hunlink
  · split at hunlink
    · cases hunlink
      next hdir =>
        have hlookup : FileTree.lookup (FileTree.update _ _ none _) (parent ++ [other]) = _ :=
          FileTree.lookup_update (FileTree.canUpdate_replace ‹_› hdir) (parent ++ [other])
        refine hlookup.trans ((if_neg (by simpa using Ne.symm hne)).trans ?_)
        rw [hfs]
        exact h
    · cases hunlink

theorem ends_installTemp {content : Content}
    (h : HoldsAt world.fs parent tempName tempIdentity content)
    (hne : current.isSome → tempName ≠ manifestName) :
    Attempt.Ends (installTemp os parent manifestName tempName manifest current) world
      (fun _ world' => HoldsAt world'.fs parent manifestName tempIdentity (.manifest manifest))
      fun _ _ => True := by
  refine .bind (Q := fun _ world' =>
    HoldsAt world'.fs parent tempName tempIdentity (.manifest manifest)) ?_ ?_
  · refine ends_orFail (ends_call (fun _ => trivial) ?_ fun _ _ => trivial)
    intro _ fs hwrite
    split at hwrite
    · next identity _ hfound =>
        cases hwrite
        have hidentity : identity = tempIdentity := by
          rw [h] at hfound
          cases hfound
          rfl
        simp [HoldsAt, hidentity]
    · cases hwrite
  · intro _ world₁ hwritten
    refine Ends.bindReadOnly (.orFail .query) (fun _ _ => trivial) fun _ world₂ hflush => ?_
    refine Ends.bindReadOnly (.orFail .query) (fun _ _ => trivial) fun _ world₃ hsync => ?_
    have hthere : HoldsAt world₃.fs parent tempName tempIdentity (.manifest manifest) := by
      rwa [HoldsAt, hsync, hflush]
    cases current with
    | none =>
        refine ends_orFail (ends_call (fun _ => trivial) ?_ fun _ _ => trivial)
        intro _ fs hrename
        split at hrename
        · cases hrename
        · next entry hsource =>
            have hentry : entry = .file tempIdentity (.manifest manifest) := by
              rw [hthere] at hsource
              cases hsource
              rfl
            subst hentry
            split at hrename
            · next hfree =>
                rw [dif_pos (by rfl)] at hrename
                cases hrename
                exact (FileTree.lookup_rename hsource rfl hfree _).trans (if_pos rfl)
            · cases hrename
    | some expected =>
        refine .bind (Q := fun _ world' =>
          HoldsAt world'.fs parent manifestName tempIdentity (.manifest manifest)) ?_ ?_
        · refine ends_orFail (ends_call (fun _ => trivial) ?_ fun _ _ => trivial)
          intro _ fs hexchange
          split at hexchange
          · next hfirst hsecond =>
              cases hexchange
              rw [hthere] at hfirst
              cases hfirst
              exact (FileTree.lookup_exchange hthere rfl hsecond rfl _).trans (if_pos rfl)
          · cases hexchange
          · cases hexchange
          · cases hexchange
        · intro _ world₄ hinstalled
          refine Ends.bindReadOnly (.identityAt tempName) (fun _ _ => trivial) ?_
          intro replaced world₅ hfs
          refine .ite (fun _ => ?_) fun _ => ?_
          · refine ends_unlinkIfIdentityAt ?_ (hne rfl)
            rwa [HoldsAt, hfs]
          · refine .bind (Q := fun _ _ => True) (.of_reached trivial) ?_
            rintro (error | _) world₆ -
            · exact trivial
            · exact trivial

/-- After a successful write the manifest stands in the file under its name. -/
theorem holdsAt_of_writePreparedAt {directorySync : Io Unit} {left : Option FileIdentity}
    (hsync : ReadOnly directorySync)
    (h : writePreparedAt os capacity parent manifestName tempName display manifest directorySync
      current world = (.ok (.ok (), left), world')) :
    manifest.serialize.byteLength ≤ capacity ∧
      ∃ identity, HoldsAt world'.fs parent manifestName identity (.manifest manifest) := by
  have hends : Attempt.Ends (writePreparedAt os capacity parent manifestName tempName display
      manifest directorySync current) world
      (fun result world' => result.1 = .ok () → manifest.serialize.byteLength ≤ capacity ∧
        ∃ identity, HoldsAt world'.fs parent manifestName identity (.manifest manifest))
      fun _ _ => True := by
    refine .bind (Q := fun created world' => ∀ identity, created = .ok identity →
      manifest.serialize.byteLength ≤ capacity ∧
        HoldsAt world'.fs parent tempName identity (.data []) ∧
          (current.isSome → tempName ≠ manifestName)) (.capture ?_) ?_
    · refine ends_createTemp.mono ?_ ?_
      · rintro identity world₁ hcreated _ ⟨⟩
        exact hcreated
      · exact fun _ _ _ _ heq => nomatch heq
    · rintro (error | identity) world₁ hcreated
      · exact fun heq => nomatch heq
      · obtain ⟨hfits, hholds, hne⟩ := hcreated identity rfl
        refine .bind (Q := fun installed world' => installed = .ok () →
          HoldsAt world'.fs parent manifestName identity (.manifest manifest)) (.capture ?_) ?_
        · refine (ends_installTemp hholds hne).mono ?_ ?_
          · exact fun _ _ hinstalled _ => hinstalled
          · exact fun _ _ _ heq => nomatch heq
        · rintro (error | _) world₂ hinstalled
          · refine .bind (Q := fun _ _ => True) (.of_reached trivial) ?_
            exact fun _ _ _ heq => nomatch heq
          · refine Ends.bindReadOnly hsync.capture (fun _ _ => trivial) ?_
            rintro (error | _) world₃ hfs
            · refine .bind (Q := fun _ _ => True) (.of_reached trivial) ?_
              exact fun _ _ _ heq => nomatch heq
            · intro _
              refine ⟨hfits, identity, ?_⟩
              rw [HoldsAt, hfs]
              exact hinstalled rfl
  unfold Attempt.Ends at hends
  rw [h] at hends
  exact hends rfl

/-! ### Reading it back -/

/-- Calls from this moment on answer as the file system is. -/
def World.Answers (os : Os) (world : World) : Prop :=
  ∀ clock, world.clock ≤ clock → os.fails clock world.fs = false

theorem World.Answers.tick (h : world.Answers os) : (world.tick world.fs).Answers os :=
  fun clock hclock => h clock (Nat.le_of_succ_le hclock)

theorem require_eq {p : Prop} [Decidable p] {e : LambError} (h : p) :
    (Attempt.require p e : Io Unit) world = (.ok (), world) := by
  rw [Attempt.require, if_pos h]
  rfl

theorem query_eq {read : FileSystem → Except IoErrorKind β} (h : world.Answers os) :
    query os read world = (.ok (read world.fs), world.tick world.fs) := by
  unfold query call
  rw [h _ le_rfl, if_neg Bool.false_ne_true]
  dsimp only
  cases read world.fs with
  | error kind => rfl
  | ok b => rfl

theorem orFail_query_eq {read : FileSystem → Except IoErrorKind β} {b : β}
    (h : world.Answers os) (hread : read world.fs = .ok b) :
    orFail (query os read) world = (.ok b, world.tick world.fs) := by
  unfold orFail
  simp only [Bind.bind, query_eq h, hread]
  rfl

section ReadBack

variable {identity : FileIdentity}
  (hanswers : world.Answers os)
  (hstat : stat os world.fs manifestPath = .ok (.file identity (.manifest manifest)))

include hanswers hstat

theorem readFileBounded_eq : ∃ world', readFileBounded os manifestPath world =
    (.ok (.manifest manifest), world') ∧ world'.fs = world.fs := by
  have hopen : orFail (openNoFollow os manifestPath) world =
      (.ok (.file identity (.manifest manifest)), world.tick world.fs) := by
    refine orFail_query_eq hanswers ?_
    rw [hstat]
  have hfstat : orFail (onOpenFile os) (world.tick world.fs) =
      (.ok (), (world.tick world.fs).tick world.fs) := orFail_query_eq hanswers.tick rfl
  have hread : orFail (onOpenFile os) ((world.tick world.fs).tick world.fs) =
      (.ok (), ((world.tick world.fs).tick world.fs).tick world.fs) :=
    orFail_query_eq hanswers.tick.tick rfl
  refine ⟨((world.tick world.fs).tick world.fs).tick world.fs, ?_, rfl⟩
  simp only [readFileBounded, Bind.bind, hopen, hfstat, hread]
  rfl

/-- The short check of a manifest that fits the buffer. -/
theorem readIdentityFields_eq (hfits : manifest.serialize.byteLength ≤ capacity) :
    (readIdentityFields os capacity manifestPath world).1 =
      match ExistingManifestCheck.deserialize manifest.serialize with
      | some check => .ok check
      | none => .error (.validation "malformed transaction manifest") := by
  obtain ⟨world', hread, -⟩ := readFileBounded_eq hanswers hstat
  have hpos : capacity ≠ 0 := by
    have := manifest.serialize.byteLength_pos
    omega
  have hlength : (Content.manifest manifest).byteLength ≤ capacity := hfits
  simp only [readIdentityFields, Bind.bind, require_eq hpos, hread, require_eq hlength]
  cases ExistingManifestCheck.deserialize manifest.serialize with
  | none => rfl
  | some check => rfl

theorem verifyMatches_isOk_iff (hfits : manifest.serialize.byteLength ≤ capacity)
    (hrange : manifest.InRange) :
    (verifyMatches os capacity manifestPath manifest world).1 = .ok () ↔
      manifest.Borrowable := by
  have hfields := readIdentityFields_eq hanswers hstat hfits
  rw [TransactionManifest.check_serialize hrange] at hfields
  by_cases hborrow : manifest.Borrowable
  · rw [if_pos hborrow] at hfields
    refine iff_of_true ?_ hborrow
    simp only [verifyMatches, Bind.bind]
    generalize readIdentityFields os capacity manifestPath world = result at hfields
    obtain ⟨fields, world'⟩ := result
    cases hfields
    simp [Attempt.require, Pure.pure]
  · rw [if_neg hborrow] at hfields
    refine iff_of_false ?_ hborrow
    rw [verifyMatches, Attempt.bind_of_error hfields]
    exact fun heq => nomatch heq

end ReadBack

/-- A manifest that was just written is recognized exactly if the short check
can borrow its texts. -/
theorem written_manifest_recognized_iff {directorySync : Io Unit} {left : Option FileIdentity}
    (hsync : ReadOnly directorySync) (hrange : manifest.InRange)
    (hwrite : writePreparedAt os capacity parent manifestName tempName display manifest
      directorySync current world = (.ok (.ok (), left), world'))
    (hpath : resolve os world'.fs manifestPath = .ok (parent ++ [manifestName]))
    (hanswers : world'.Answers os) :
    (∃ identity, (verifyManifestMatches os capacity manifestPath manifest world').1 =
        .ok identity) ↔
      Unescaped manifest.transactionId ∧ Unescaped manifest.stagingRootPath ∧
        Unescaped manifest.outputRoot := by
  obtain ⟨hfits, identity, hholds⟩ := holdsAt_of_writePreparedAt hsync hwrite
  have hstat : stat os world'.fs manifestPath = .ok (.file identity (.manifest manifest)) := by
    rw [stat, hpath]
    simp only [Except.bind, entryAt]
    rw [hholds]
  have hidentity : orFail (readManifestIdentity os manifestPath) world' =
      (.ok identity, world'.tick world'.fs) := by
    simp only [orFail, readManifestIdentity, symlinkMetadata, Bind.bind, query_eq hanswers, hstat]
    rfl
  have hmatches := verifyMatches_isOk_iff hanswers.tick (by simpa using hstat) hfits hrange
  rw [← TransactionManifest.Borrowable, ← hmatches]
  simp only [verifyManifestMatches, Bind.bind, hidentity]
  generalize verifyMatches os capacity manifestPath manifest (world'.tick world'.fs) = result
  obtain ⟨_ | _, world''⟩ := result
  · simp
  · simp [Pure.pure]

/-- A recall of one file into `output`, before anything is published. -/
def recallInto (output : String) : TransactionManifest where
  version := manifestVersion
  uid := 0
  kind := .fileSet
  phase := .prepared
  transactionId := "t"
  stagingRootPath := "/s/t"
  stagingRootIdentity := some ⟨0, 3⟩
  outputRoot := output
  entries :=
    [{ stagedPath := "/s/t/a"
       stagedIdentity := some ⟨0, 4⟩
       partialPath := output ++ "/.a.t.partial"
       finalPath := output ++ "/a" }]

theorem recallInto_inRange (output : String) : (recallInto output).InRange where
  version := by simp [recallInto, manifestVersion]
  uid := by simp [recallInto]
  identities := by
    intro identity hidentity
    simp [recallInto, TransactionManifest.identities] at hidentity
    rcases hidentity with rfl | rfl
    · decide
    · decide
  phase := fun _ h => nomatch h
  directories := fun _ h => nomatch h

/-- The staging directory of that recall, with its one file. -/
def stagedFileSystem : FileSystem :=
  FileTree.ofEntries
    [([], .directory ⟨0, 0⟩), (["s"], .directory ⟨0, 1⟩), (["s", "t"], .directory ⟨0, 3⟩),
      (["s", "t", "a"], .file ⟨0, 4⟩ (.data []))]
    (by decide +kernel)

/-- The first write of its manifest. -/
def writeRecall (output : String) : Except LambError (Result Unit × Option FileIdentity) × World :=
  writePreparedAt Os.upward 4096 ["s", "t"] "manifest.json" ".manifest.json.t.tmp"
    (Path.absolute ["s", "t", "manifest.json"]) (recallInto output) (pure ()) none
    ⟨stagedFileSystem, 0⟩

theorem written_manifest_recognized_plain :
    Unescaped "/out" ∧
      ∃ identity, (verifyManifestMatches Os.upward 4096 (Path.absolute ["s", "t", "manifest.json"])
        (recallInto "/out") (writeRecall "/out").2).1 = .ok identity := by
  have hwritten : writePreparedAt Os.upward 4096 ["s", "t"] "manifest.json"
      ".manifest.json.t.tmp" (Path.absolute ["s", "t", "manifest.json"]) (recallInto "/out")
      (pure ()) none ⟨stagedFileSystem, 0⟩ =
        (.ok (.ok (), some ⟨0, 9⟩), (writeRecall "/out").2) := by
    refine Prod.ext ?_ rfl
    decide +kernel
  refine ⟨by decide +kernel, ?_⟩
  refine (written_manifest_recognized_iff (.pure ()) (recallInto_inRange "/out") hwritten ?_
    (fun _ _ => rfl)).2 ?_
  · decide +kernel
  · decide +kernel

/-- A quotation mark in the output directory is enough. -/
theorem written_manifest_quoted_unrecognized :
    ¬∀ (os : Os) (capacity : ℕ) (parent : Location) (manifestName tempName : String)
      (display manifestPath : Path) (manifest : TransactionManifest) (directorySync : Io Unit)
      (current left : Option FileIdentity) (world world' : World),
      ReadOnly directorySync → manifest.InRange →
      Export.validateOutputDir manifest.outputRoot = .ok () →
      writePreparedAt os capacity parent manifestName tempName display manifest directorySync
        current world = (.ok (.ok (), left), world') →
      resolve os world'.fs manifestPath = .ok (parent ++ [manifestName]) →
      world'.Answers os →
      ∃ identity, (verifyManifestMatches os capacity manifestPath manifest world').1 =
        .ok identity := by
  intro h
  have hwritten : (writeRecall "/o\"x").1 = .ok (.ok (), some ⟨0, 9⟩) := by
    decide +kernel
  have hmalformed : (verifyManifestMatches Os.upward 4096
      (Path.absolute ["s", "t", "manifest.json"]) (recallInto "/o\"x")
      (writeRecall "/o\"x").2).1 = .error (.validation "malformed transaction manifest") := by
    decide +kernel
  obtain ⟨identity, hidentity⟩ := h Os.upward 4096 ["s", "t"] "manifest.json"
    ".manifest.json.t.tmp" (Path.absolute ["s", "t", "manifest.json"])
    (Path.absolute ["s", "t", "manifest.json"]) (recallInto "/o\"x") (pure ()) none
    (some ⟨0, 9⟩) ⟨stagedFileSystem, 0⟩ (writeRecall "/o\"x").2 (.pure ())
    (recallInto_inRange _) (by decide +kernel) (Prod.ext hwritten rfl) (by decide +kernel)
    (fun _ _ => rfl)
  rw [hmalformed] at hidentity
  cases hidentity

end Lamb.Recovery
