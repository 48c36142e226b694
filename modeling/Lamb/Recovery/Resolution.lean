import Lamb.Recovery.Owned

/-!
How a transaction is resolved, by any number of recoveries of which each may be cut
short. While the manifest stands the next recovery takes the transaction up again;
once it is gone, the transaction must have been resolved one way or the other.
-/

namespace Lamb.Recovery

open Lamb.Lib

variable {os : Os} {fs fs' : FileSystem} {world : World} {names : List String}
  {path manifestPath : Path} {manifest : TransactionManifest} {identity : FileIdentity}

/-! ### What is on disk -/

/-- Some file with the identity is at the path. -/
def HasFile (fs : FileSystem) (path : Path) (identity : FileIdentity) : Prop :=
  ∃ names content, path = Path.absolute names ∧ fs.lookup names = some (.file identity content)

def HasManifest (fs : FileSystem) (path : Path) (manifest : TransactionManifest)
    (identity : FileIdentity) : Prop :=
  ∃ names, path = Path.absolute names ∧
    fs.lookup names = some (.file identity (.manifest manifest))

/-- What was recorded for the path is not there. Where nothing was recorded,
nothing is there. -/
def Gone (fs : FileSystem) (path : Path) (recorded : Option FileIdentity) : Prop :=
  ∀ names found, path = Path.absolute names → fs.lookup names = some found →
    ∃ identity, recorded = some identity ∧ found.identity ≠ identity

theorem Gone.of_contains {recorded : Option FileIdentity} (h : Gone fs path recorded)
    (hcontains : fs.Contains fs') : Gone fs' path recorded :=
  fun names found hpath hfound => h names found hpath (hcontains.lookup hfound)

theorem Gone.of_none (h : Gone fs path none) (recorded : Option FileIdentity) :
    Gone fs path recorded := by
  intro names found hpath hfound
  obtain ⟨identity, hnone, -⟩ := h names found hpath hfound
  cases hnone

theorem gone_of_lookup {recorded : Option FileIdentity} (hnone : fs.lookup names = none) :
    Gone fs (Path.absolute names) recorded := by
  intro names' found hpath hfound
  obtain rfl := Path.absolute_injective hpath
  rw [hnone] at hfound
  cases hfound

theorem gone_of_ne {found : Entry} (hfound : fs.lookup names = some found)
    (hne : found.identity ≠ identity) : Gone fs (Path.absolute names) (some identity) := by
  intro names' found' hpath hfound'
  obtain rfl := Path.absolute_injective hpath
  rw [hfound] at hfound'
  cases hfound'
  exact ⟨identity, rfl, hne⟩

theorem hasFile_iff : HasFile fs (Path.absolute names) identity ↔ ∃ found,
    fs.lookup names = some found ∧ found.identity = identity ∧ found.isFile = true := by
  constructor
  · rintro ⟨names', content, hnames, hfound⟩
    obtain rfl := Path.absolute_injective hnames
    exact ⟨_, hfound, rfl, rfl⟩
  · rintro ⟨found, hfound, rfl, hfile⟩
    cases found with
    | file identity content => exact ⟨names, content, rfl, hfound⟩
    | directory identity => cases hfile
    | symlink identity target => cases hfile

theorem gone_none_iff : Gone fs (Path.absolute names) none ↔ fs.lookup names = none := by
  constructor
  · intro h
    by_contra hsome
    obtain ⟨found, hfound⟩ := Option.ne_none_iff_exists'.1 hsome
    obtain ⟨_, hnone, -⟩ := h names found rfl hfound
    cases hnone
  · exact gone_of_lookup

theorem not_hasFile_of_contains (h : ¬HasFile fs path identity) (hcontains : fs.Contains fs') :
    ¬HasFile fs' path identity := by
  rintro ⟨names, content, hpath, hfound⟩
  exact h ⟨names, content, hpath, hcontains.lookup hfound⟩

/-! ### Looking and removing -/

theorem ends_pathExists (h : LinkFreeAbove world.fs names) :
    Attempt.Ends (pathExists os (Path.absolute names)) world
      (fun exists_ world' => world'.fs = world.fs ∧
        (exists_ = true ↔ world.fs.lookup names ≠ none))
      fun _ world' => world'.fs = world.fs := by
  refine ends_lookAt ?_ ?_ (fun _ _ => rfl)
  · intro hmissing
    refine Attempt.Ends.pure ⟨rfl, ?_⟩
    rw [h.lookup_of_notFound hmissing]
    simp
  · intro found hstat
    refine Attempt.Ends.pure ⟨rfl, ?_⟩
    rw [h.lookup_of_stat hstat]
    simp

theorem ends_identityMatches (h : LinkFreeAbove world.fs names) {directory : Bool} :
    Attempt.Ends (identityMatches os (Path.absolute names) identity directory) world
      (fun matches_ world' => world'.fs = world.fs ∧ (matches_ = true ↔ ∃ found,
        world.fs.lookup names = some found ∧ found.identity = identity ∧
          (if directory then found.isDir else found.isFile) = true))
      fun _ world' => world'.fs = world.fs := by
  refine ends_lookAt ?_ ?_ (fun _ _ => rfl)
  · intro hmissing
    refine Attempt.Ends.pure ⟨rfl, ?_⟩
    rw [h.lookup_of_notFound hmissing]
    simp
  · intro found hstat
    refine Attempt.Ends.pure ⟨rfl, ?_⟩
    rw [h.lookup_of_stat hstat]
    simp [and_comm]

/-- A removal that reports nothing left has left nothing. -/
def Clears (remove : Os → Path → Io (Except IoErrorKind Unit)) : Prop :=
  ∀ os world names, LinkFreeAbove world.fs names →
    Attempt.Ends (remove os (Path.absolute names)) world
      (fun result world' => isGone result = true → world'.fs.lookup names = none)
      fun _ _ => True

theorem lookup_of_bind_notFound (h : LinkFreeAbove fs names)
    {remove : Location → Except IoErrorKind (Unit × FileSystem)}
    (hremove : remove names = .error .notFound → fs.lookup names = none)
    (hnot : (resolve os fs (Path.absolute names)).bind remove = .error .notFound) :
    fs.lookup names = none := by
  -- the call may miss the entry already on the way to it
  cases hresolve : resolve os fs (Path.absolute names) with
  | error kind =>
      rw [hresolve] at hnot
      obtain rfl : kind = .notFound := by simpa [Except.bind] using hnot
      have hstat : stat os fs (Path.absolute names) = .error .notFound := by
        rw [stat, hresolve]
        rfl
      exact h.lookup_of_notFound hstat
  | ok location =>
      rw [hresolve] at hnot
      obtain rfl := h.resolve_eq hresolve
      exact hremove hnot

theorem unlinkEntry_notFound (h : unlinkEntry fs names = .error .notFound) :
    fs.lookup names = none := by
  unfold unlinkEntry at h
  split at h
  · assumption
  · split at h
    · cases h
    · cases h

theorem removeDirEntry_notFound (h : removeDirEntry fs names = .error .notFound) :
    fs.lookup names = none := by
  unfold removeDirEntry at h
  split at h
  · assumption
  · split at h
    · cases h
    · cases h
  · cases h

theorem clears_removeFile : Clears removeFile := by
  intro os world names h
  refine ends_call (fun _ hgone => by cases hgone) ?_ ?_
  · intro _ fs' hok _
    obtain ⟨location, hresolve, hunlink⟩ := bind_eq_ok_except hok
    obtain rfl := h.resolve_eq hresolve
    obtain ⟨-, -, hlookup⟩ := unlinkEntry_ok hunlink
    rw [World.tick_fs, hlookup, if_pos rfl]
  · intro kind herror hgone
    obtain rfl : kind = .notFound := by simpa [isGone] using hgone
    exact lookup_of_bind_notFound h unlinkEntry_notFound herror

theorem clears_removeDir : Clears removeDir := by
  intro os world names h
  refine ends_call (fun _ hgone => by cases hgone) ?_ ?_
  · intro _ fs' hok _
    obtain ⟨location, hresolve, hremove⟩ := bind_eq_ok_except hok
    obtain rfl := h.resolve_eq hresolve
    rw [World.tick_fs, removeDirEntry_ok hremove, if_pos rfl]
  · intro kind herror hgone
    obtain rfl : kind = .notFound := by simpa [isGone] using hgone
    exact lookup_of_bind_notFound h removeDirEntry_notFound herror

theorem ends_removeOwned (h : LinkFreeAbove world.fs names) {rightKind : Entry → Bool}
    {remove : Os → Path → Io (Except IoErrorKind Unit)} (hremove : Clears remove)
    {recorded : Option FileIdentity} :
    Attempt.Ends (removeOwned os rightKind remove (Path.absolute names) recorded) world
      (fun clean world' => clean = true → Gone world'.fs (Path.absolute names) recorded)
      fun _ _ => True := by
  unfold removeOwned
  cases recorded with
  | none =>
      -- nothing was recorded, so only an empty place is clean
      refine .bind (Attempt.Ends.mono (ends_pathExists h) (fun _ _ hq => hq) fun _ _ _ => trivial)
        ?_
      rintro exists_ world' ⟨hfs, hexists⟩
      refine Attempt.Ends.pure ?_
      intro hclean
      refine gone_of_lookup ?_
      rw [hfs]
      by_contra hsome
      rw [hexists.2 hsome] at hclean
      cases hclean
  | some identity =>
      refine ends_lookAt ?_ ?_ (fun _ _ => trivial)
      · intro hmissing
        exact Attempt.Ends.pure fun _ => gone_of_lookup (h.lookup_of_notFound hmissing)
      · intro found hstat
        have hfound := h.lookup_of_stat hstat
        -- an entry of another identity is foreign, one of the wrong kind stays unclean
        refine .ite (fun hne => Attempt.Ends.pure fun _ => gone_of_ne hfound hne) fun _ => ?_
        refine .ite (fun _ => Attempt.Ends.pure fun hclean => by cases hclean) fun _ => ?_
        refine .bind (hremove os (world.tick world.fs) names h) ?_
        intro removed world' hremoved
        exact Attempt.Ends.pure fun hclean => gone_of_lookup (hremoved hclean)

theorem ends_cleanupFile (h : LinkFreeAbove world.fs names) {recorded : Option FileIdentity} :
    Attempt.Ends (cleanupFile os (Path.absolute names) recorded) world
      (fun clean world' => world.fs.Contains world'.fs ∧
        (clean = true → Gone world'.fs (Path.absolute names) recorded))
      fun _ _ => True :=
  Attempt.Ends.mono (Attempt.Ends.and removesOnly_cleanupFile
      (ends_removeOwned h clears_removeFile)) (fun _ _ hq => ⟨hq.1.contains, hq.2⟩)
    fun _ _ _ => trivial

theorem ends_removeDirectoryIfIdentity (h : LinkFreeAbove world.fs names)
    {recorded : Option FileIdentity} :
    Attempt.Ends (removeDirectoryIfIdentity os (Path.absolute names) recorded) world
      (fun clean world' => world.fs.Contains world'.fs ∧
        (clean = true → Gone world'.fs (Path.absolute names) recorded))
      fun _ world' => world.fs.Contains world'.fs :=
  Attempt.Ends.mono (Attempt.Ends.and removesOnly_removeDirectoryIfIdentity
      (ends_removeOwned h clears_removeDir)) (fun _ _ hq => ⟨hq.1.contains, hq.2⟩)
    fun _ _ hq => hq.1.contains

theorem ends_removeIfIdentity (h : LinkFreeAbove world.fs names) :
    Attempt.Ends (removeIfIdentity os (Path.absolute names) identity) world
      (fun _ world' => ¬HasFile world'.fs (Path.absolute names) identity) fun _ _ => True := by
  refine ends_lookAt ?_ ?_ (fun _ _ => trivial)
  · intro hmissing
    refine Attempt.Ends.pure ?_
    rw [hasFile_iff, World.tick_fs, h.lookup_of_notFound hmissing]
    simp
  · intro found hstat
    have hfound := h.lookup_of_stat hstat
    refine .ite (fun hne => Attempt.Ends.pure ?_) fun _ => ends_orFail ?_
    · rw [hasFile_iff, World.tick_fs, hfound]
      rintro ⟨_, ⟨⟩, hidentity, hfile⟩
      rcases hne with hne | hnot
      · exact hne hidentity
      · rw [hfile] at hnot
        cases hnot
    · refine Attempt.Ends.mono (clears_removeFile os (world.tick world.fs) names h) ?_
        fun _ _ h => h
      rintro (kind | _) world' hremoved
      · trivial
      · rw [hasFile_iff, hremoved rfl]
        simp

/-- What a later step alone decides, whatever the steps before it do. -/
theorem ends_bind_last {β γ : Type} {f : Io β} {g : β → Io γ} {Q : γ → World → Prop}
    (hg : ∀ b world, Attempt.Ends (g b) world Q fun _ _ => True) :
    Attempt.Ends (f >>= g) world Q fun _ _ => True := by
  refine .bind (Q := fun _ _ => True) ?_ fun b world' _ => hg b world'
  exact .of_reached (P := fun _ => True) trivial

/-! ### The manifest -/

theorem HasManifest.eq (h : HasManifest fs path manifest identity)
    {manifest' : TransactionManifest} {identity' : FileIdentity}
    (h' : ManifestAt os fs path manifest' identity') :
    manifest' = manifest ∧ identity' = identity := by
  obtain ⟨names, rfl, hfound⟩ := h
  rw [ManifestAt, stat_of_lookup hfound] at h'
  cases h'
  exact ⟨rfl, rfl⟩

theorem HasManifest.of_shrinks {allowed : Location → Entry → Prop}
    (h : HasManifest fs manifestPath manifest identity) (hshrinks : fs.Shrinks allowed fs')
    (hnot : ∀ names, manifestPath = Path.absolute names →
      ¬allowed names (.file identity (.manifest manifest))) :
    HasManifest fs' manifestPath manifest identity := by
  obtain ⟨names, hnames, hfound⟩ := h
  refine ⟨names, hnames, ?_⟩
  rw [hshrinks.lookup_of_not, hfound]
  intro found hfound'
  rw [hfound] at hfound'
  cases hfound'
  exact hnot names hnames

/-- The manifest is gone, and no link can lead its path elsewhere. -/
def NoManifest (fs : FileSystem) (path : Path) : Prop :=
  ∃ names, path = Path.absolute names ∧ Clear fs names ∧ fs.lookup names = none

theorem HasManifest.of_contains (h : HasManifest fs path manifest identity)
    (hcontains : fs.Contains fs') :
    HasManifest fs' path manifest identity ∨ NoManifest fs' path := by
  obtain ⟨names, hnames, hfound⟩ := h
  have hclear : Clear fs names := .of_lookup (by rw [hfound]; simp)
  rcases hcontains names with heq | ⟨hnone, -⟩
  · exact .inl ⟨names, hnames, heq.trans hfound⟩
  · exact .inr ⟨names, hnames, hclear.of_shrinks hcontains, hnone⟩

theorem NoManifest.not_manifestAt (h : NoManifest fs path) :
    ¬ManifestAt os fs path manifest identity := by
  obtain ⟨names, rfl, hclear, hnone⟩ := h
  intro hat
  rw [ManifestAt, hclear.stat_eq hnone] at hat
  cases hat

/-! ### Resolution -/

/-- A transaction with its manifest and the two ways in which it is resolved. What a
recovery reports stays so while only files go that are not the transaction's finals. -/
structure Resolution where
  manifestPath : Path
  manifest : TransactionManifest
  identity : FileIdentity
  inPlace : FileSystem → Prop
  undone : FileSystem → Prop
  reported : RecoveryOutcome → FileSystem → Prop
  reported_of_contains : ∀ outcome fs fs', fs.Contains fs' → (inPlace fs → inPlace fs') →
    reported outcome fs → reported outcome fs'

namespace Resolution

variable {resolution : Resolution} {result : Result RecoveryOutcome}

def Stands (resolution : Resolution) (fs : FileSystem) : Prop :=
  HasManifest fs resolution.manifestPath resolution.manifest resolution.identity

def Settled (resolution : Resolution) (fs : FileSystem) : Prop :=
  resolution.Stands fs ∨ resolution.inPlace fs ∨ resolution.undone fs

/-- The manifest stands as it was or is gone, and the transaction is not half
resolved. -/
structure Recoverable (resolution : Resolution) (fs : FileSystem) : Prop where
  stands : resolution.Stands fs ∨ NoManifest fs resolution.manifestPath
  settled : resolution.Settled fs

/-- What one recovery does, with its result. -/
structure Recovers (resolution : Resolution) (fs fs' : FileSystem)
    (result : Result RecoveryOutcome) : Prop where
  contains : fs.Contains fs'
  recoverable : resolution.Recoverable fs'
  inPlace : resolution.inPlace fs → resolution.inPlace fs'
  reported : ∀ outcome, result = .ok outcome → resolution.reported outcome fs'

theorem Stands.recoverable (h : resolution.Stands fs) : resolution.Recoverable fs :=
  ⟨.inl h, .inl h⟩

/-- A recovery that finds the manifest. -/
theorem Stands.recovers {allowed : Location → Entry → Prop} {recovery : Io RecoveryOutcome}
    (h : resolution.Stands world.fs) (hremoves : RemovesOnly allowed recovery world)
    (hends : Attempt.Ends recovery world
      (fun outcome world' => (resolution.inPlace world.fs → resolution.inPlace world'.fs) ∧
        resolution.Settled world'.fs ∧ resolution.reported outcome world'.fs)
      fun _ world' => (resolution.inPlace world.fs → resolution.inPlace world'.fs) ∧
        resolution.Settled world'.fs) :
    resolution.Recovers world.fs (recovery world).2.fs (recovery world).1 := by
  have hcontains := hremoves.reached.contains
  have hstands := HasManifest.of_contains h hcontains
  cases hresult : (recovery world).1 with
  | ok outcome =>
      obtain ⟨hinPlace, hsettled, hreported⟩ := hends.of_ok hresult
      refine ⟨hcontains, ⟨hstands, hsettled⟩, hinPlace, ?_⟩
      rintro _ ⟨⟩
      exact hreported
  | error e =>
      obtain ⟨hinPlace, hsettled⟩ := hends.of_error hresult
      exact ⟨hcontains, ⟨hstands, hsettled⟩, hinPlace, fun _ hok => by cases hok⟩

/-- A recovery that finds no manifest fails and changes nothing. -/
theorem Recoverable.recovers_nothing {recovery : Io RecoveryOutcome}
    (h : resolution.Recoverable world.fs)
    (hends : Attempt.Ends recovery world (fun _ _ => False) fun _ world' => world'.fs = world.fs) :
    resolution.Recovers world.fs (recovery world).2.fs (recovery world).1 := by
  cases hresult : (recovery world).1 with
  | ok outcome => exact (hends.of_ok hresult).elim
  | error e =>
      rw [hends.of_error hresult]
      exact ⟨.refl _, h, id, fun _ hok => by cases hok⟩

/-! ### One recovery after another -/

/-- Recoveries in turn, each on a system of its own. -/
def recoverAgain (recover : Os → Io RecoveryOutcome) (systems : List Os) (world : World) : World :=
  systems.foldl (fun world os => (recover os world).2) world

/-- What any number of recoveries do. -/
structure RecoversAgain (resolution : Resolution) (fs fs' : FileSystem) : Prop where
  contains : fs.Contains fs'
  recoverable : resolution.Recoverable fs'
  inPlace : resolution.inPlace fs → resolution.inPlace fs'

section Again

variable {recover : Os → Io RecoveryOutcome}
  (hrecover : ∀ os world, resolution.Recoverable world.fs →
    resolution.Recovers world.fs (recover os world).2.fs (recover os world).1)

include hrecover

theorem Recoverable.recoversAgain (systems : List Os) (h : resolution.Recoverable world.fs) :
    resolution.RecoversAgain world.fs (recoverAgain recover systems world).fs := by
  induction systems generalizing world with
  | nil => exact ⟨.refl _, h, id⟩
  | cons os systems ih =>
      have hfirst := hrecover os world h
      have hrest := ih hfirst.recoverable
      exact
        { contains := hfirst.contains.trans hrest.contains
          recoverable := hrest.recoverable
          inPlace := fun hinPlace => hrest.inPlace (hfirst.inPlace hinPlace) }

/-- What no recovery changes stays so over all of them. -/
theorem Recoverable.keeps_again {P : FileSystem → Prop} (h : resolution.Recoverable world.fs)
    (hkeeps : ∀ os world, resolution.Recoverable world.fs → P world.fs →
      P (recover os world).2.fs) (systems : List Os) (hP : P world.fs) :
    P (recoverAgain recover systems world).fs := by
  induction systems generalizing world with
  | nil => exact hP
  | cons os systems ih =>
      exact ih (hrecover os world h).recoverable (hkeeps os world h hP)

/-- However often a recovery is tried and wherever each try fails: the manifest
stands or the transaction is resolved, files in place stay there, and what one
recovery reported still holds after the later ones. -/
theorem Stands.all_or_nothing (earlier later : List Os) (os : Os)
    (h : resolution.Stands world.fs) :
    let before := recoverAgain recover earlier world
    let after := recoverAgain recover (earlier ++ os :: later) world
    resolution.Settled after.fs ∧
      (resolution.inPlace world.fs → resolution.inPlace after.fs) ∧
      ∀ outcome, (recover os before).1 = .ok outcome → resolution.reported outcome after.fs := by
  intro before after
  have hbefore : resolution.RecoversAgain world.fs before.fs :=
    h.recoverable.recoversAgain hrecover earlier
  -- the run is cut at the recovery whose report is asked about
  have hmiddle := hrecover os before hbefore.recoverable
  have hafter := hmiddle.recoverable.recoversAgain hrecover later
  have hrun : after = recoverAgain recover later (recover os before).2 := by
    simp [after, before, recoverAgain]
  rw [← hrun] at hafter
  refine ⟨hafter.recoverable.settled, ?_, ?_⟩
  · intro hinPlace
    exact hafter.inPlace (hmiddle.inPlace (hbefore.inPlace hinPlace))
  · intro outcome houtcome
    exact resolution.reported_of_contains outcome _ _ hafter.contains hafter.inPlace
      (hmiddle.reported outcome houtcome)

end Again

end Resolution

/-- A system that fails from the given call on. -/
def Os.failingFrom (clock : ℕ) : Os :=
  { Os.upward with fails := fun now _ => clock ≤ now }

end Lamb.Recovery
